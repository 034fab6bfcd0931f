namespace TextCharts.Html

-- The vocabulary that an element belongs to.
inductive Space
  | page
  | drawing
  | formula
  deriving DecidableEq, Repr

structure Element where
  space : Space := .page
  name : String
  attributes : List (String × String) := []
  deriving DecidableEq, Repr

structure Node where
  element : Element
  parent : Option Nat := none
  -- The last child comes first.
  children : List Nat := []

structure Tree where
  nodes : Array Node := #[]

namespace Tree

def element? (t : Tree) (id : Nat) : Option Element :=
  (t.nodes[id]?).map (·.element)

def parent? (t : Tree) (id : Nat) : Option Nat :=
  (t.nodes[id]?).bind (·.parent)

def children (t : Tree) (id : Nat) : List Nat :=
  match t.nodes[id]? with
  | some node => node.children.reverse
  | none => []

def update (t : Tree) (id : Nat) (f : Node → Node) : Tree where
  nodes := t.nodes.modify id f

-- A new element that has no place yet.
def make (t : Tree) (element : Element) : Tree × Nat :=
  ({ nodes := t.nodes.push { element } }, t.nodes.size)

def append (t : Tree) (parent child : Nat) : Tree :=
  (t.update parent fun n => { n with children := child :: n.children }).update child fun n =>
    { n with parent := some parent }

def insertAfter (item after : Nat) : List Nat → List Nat
  | [] => [item]
  | id :: rest => if id = after then id :: item :: rest else id :: insertAfter item after rest

-- Puts a child in front of another one.
def appendBefore (t : Tree) (sibling child : Nat) : Tree :=
  match t.parent? sibling with
  | none => t
  | some parent =>
    (t.update parent fun n => { n with children := insertAfter child sibling n.children }).update
      child fun n => { n with parent := some parent }

def detach (t : Tree) (child : Nat) : Tree :=
  match t.parent? child with
  | none => t
  | some parent =>
    (t.update parent fun n => { n with children := n.children.filter (· != child) }).update child
      fun n => { n with parent := none }

-- Moves all children of one element to another.
def moveChildren (t : Tree) (source target : Nat) : Tree :=
  (t.children source).foldl (fun t child => (t.detach child).append target child) t

-- Adds the attributes that an element does not have yet.
def addAttributes (t : Tree) (id : Nat) (attributes : List (String × String)) : Tree :=
  t.update id fun n =>
    let missing := attributes.filter fun a => !n.element.attributes.any (·.1 == a.1)
    { n with element := { n.element with attributes := n.element.attributes ++ missing } }

-- An element and all below it, parents before their children.
def below (t : Tree) : Nat → Nat → List Nat
  | 0, _ => []
  | fuel + 1, id => id :: (t.children id).flatMap (t.below fuel)

-- All elements in the order of their opening tags.
def elements (t : Tree) : List Element :=
  (t.below t.nodes.size 0).filterMap t.element?

end Tree
end TextCharts.Html
