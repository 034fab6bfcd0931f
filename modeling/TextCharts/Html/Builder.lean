import TextCharts.Html.Category
import TextCharts.Html.Doctype

namespace TextCharts.Html

inductive Mode
  | initial
  | beforeHtml
  | beforeHead
  | inHead
  | afterHead
  | inBody
  | text
  | inTable
  | inTableText
  | inCaption
  | inColumnGroup
  | inTableBody
  | inRow
  | inCell
  | inSelect
  | inSelectInTable
  | inTemplate
  | afterBody
  | inFrameset
  | afterFrameset
  | afterAfterBody
  | afterAfterFrameset
  deriving DecidableEq, Repr

-- A formatting element and its tag, or the border that formatting does not cross.
inductive Format
  | border
  | element (node : Nat) (tag : Tag)

-- What of a table's text has come so far.
inductive Pending
  | none
  | spaces
  | other
  deriving DecidableEq, Repr

structure Builder where
  tree : Tree := {}
  stack : List Nat := []
  formats : List Format := []
  mode : Mode := .initial
  -- The mode to go back to after text.
  suspended : Mode := .inBody
  templates : List Mode := []
  head : Option Nat := none
  form : Option Nat := none
  framesOk : Bool := true
  old : Bool := false
  -- Whether what may not stand in a table goes before it.
  fostering : Bool := false
  -- Whether a line feed now would be the first character of a text that keeps its lines.
  skipBreak : Bool := false
  pending : Pending := .none
  -- Whether all that follows is text.
  plain : Bool := false

namespace Builder

def goto (b : Builder) (mode : Mode) : Builder :=
  { b with mode }

def element? (b : Builder) (node : Nat) : Option Element :=
  b.tree.element? node

def test (b : Builder) (p : Element → Bool) (node : Nat) : Bool :=
  (b.element? node).any p

def isNamed (b : Builder) (names : List String) (node : Nat) : Bool :=
  b.test (·.isPage names) node

def current? (b : Builder) : Option Element :=
  b.stack.head?.bind b.element?

def currentIs (b : Builder) (names : List String) : Bool :=
  b.current?.any (·.isPage names)

def isForeign (b : Builder) : Bool :=
  b.current?.any (·.space != .page)

def hasOpen (b : Builder) (name : String) : Bool :=
  b.stack.any (b.isNamed [name])

def pop (b : Builder) : Builder :=
  { b with stack := b.stack.tail }

-- Whether a node is found before the end of a scope.
def inScopeIf (b : Builder) (scope : Element.Scope) (p : Nat → Bool) : Bool :=
  go b.stack
where
  go : List Nat → Bool
    | [] => false
    | node :: rest => p node || (!b.test (Element.endsScope scope) node && go rest)

def inScope (b : Builder) (scope : Element.Scope) (names : List String) : Bool :=
  b.inScopeIf scope (b.isNamed names)

-- Closes elements up to the first one with a name, and that one too.
def popUntil (b : Builder) (names : List String) : Builder :=
  { b with stack := (b.stack.dropWhile (!b.isNamed names ·)).tail }

-- Closes elements until the innermost has one of some names.
def popTo (b : Builder) (names : List String) : Builder :=
  { b with stack := b.stack.dropWhile (!b.isNamed names ·) }

def closeImplied (b : Builder) (names : List String) : Builder :=
  { b with stack := b.stack.dropWhile (b.isNamed names) }

def closeImpliedBut (b : Builder) (name : String) : Builder :=
  b.closeImplied (Element.optionalEnds.filter (· != name))

def removeOpen (b : Builder) (node : Nat) : Builder :=
  { b with stack := b.stack.erase node }

-- Where a new element goes.
inductive Place
  | under (parent : Nat)
  | beside (table fallback : Nat)

-- The innermost table or template, and what is open around it.
def fosterPlace (b : Builder) : List Nat → Place
  | [] => .under 0
  | node :: rest =>
    if b.isNamed ["template"] node then .under node
    else if b.isNamed ["table"] node then .beside node (rest.head?.getD 0)
    else b.fosterPlace rest

def place (b : Builder) (target : Nat) : Place :=
  if b.fostering && b.isNamed Element.tableParts target then b.fosterPlace b.stack
  else .under target

def insertAt (b : Builder) (place : Place) (node : Nat) : Builder :=
  match place with
  | .under parent => { b with tree := b.tree.append parent node }
  | .beside table fallback =>
    if (b.tree.parent? table).isSome then { b with tree := b.tree.appendBefore table node }
    else { b with tree := b.tree.append fallback node }

-- Makes an element where it belongs; it stays closed.
def insertClosed (b : Builder) (element : Element) : Builder × Nat :=
  let (tree, node) := b.tree.make element
  let b := { b with tree }
  match b.stack with
  | [] => (b, node)
  | target :: _ => (b.insertAt (b.place target) node, node)

-- Makes an element and opens it.
def insertOpen (b : Builder) (element : Element) : Builder × Nat :=
  let (b, node) := b.insertClosed element
  ({ b with stack := node :: b.stack }, node)

def elementOf (tag : Tag) : Element :=
  { name := tag.name, attributes := tag.attributes }

def openTag (b : Builder) (tag : Tag) : Builder :=
  (b.insertOpen (elementOf tag)).1

def openName (b : Builder) (name : String) : Builder :=
  (b.insertOpen { name }).1

def addTag (b : Builder) (tag : Tag) : Builder :=
  (b.insertClosed (elementOf tag)).1

-- The text of an element in which no tags count.
def openRaw (b : Builder) (tag : Tag) : Builder :=
  let b := b.openTag tag
  { b with suspended := b.mode, mode := .text }

def addBorder (b : Builder) : Builder :=
  { b with formats := .border :: b.formats }

-- The formats down to the last border.
def recentFormats : List Format → List (Nat × Tag)
  | .element node tag :: rest => (node, tag) :: recentFormats rest
  | _ => []

def clearFormats : List Format → List Format
  | [] => []
  | .border :: rest => rest
  | .element _ _ :: rest => clearFormats rest

def clearToBorder (b : Builder) : Builder :=
  { b with formats := clearFormats b.formats }

def isFormatOf (node : Nat) : Format → Bool
  | .element n _ => n == node
  | .border => false

def hasFormat (b : Builder) (node : Nat) : Bool :=
  b.formats.any (isFormatOf node)

def removeFormat (b : Builder) (node : Nat) : Builder :=
  { b with formats := b.formats.filter (!isFormatOf node ·) }

def replaceFormat (b : Builder) (node : Nat) (format : Format) : Builder :=
  { b with formats := b.formats.map fun f => if isFormatOf node f then format else f }

def formatTag? (b : Builder) (node : Nat) : Option Tag :=
  b.formats.findSome? fun
    | .element n tag => if n = node then some tag else none
    | .border => none

-- The formats that are no longer open, the last one first, and the others.
def staleFormats (b : Builder) : List Format → List Tag × List Format
  | .element node tag :: rest =>
    if b.stack.contains node then ([], .element node tag :: rest)
    else
      let (stale, kept) := b.staleFormats rest
      (tag :: stale, kept)
  | formats => ([], formats)

def openFormat (b : Builder) (tag : Tag) : Builder :=
  let (b, node) := b.insertOpen (elementOf tag)
  { b with formats := .element node tag :: b.formats }

-- Opens again what is no longer open.
def reopen (b : Builder) : Builder :=
  let (stale, kept) := b.staleFormats b.formats
  stale.reverse.foldl openFormat { b with formats := kept }

def sameTag (a b : Tag) : Bool :=
  a.name == b.name && a.attributes.length == b.attributes.length &&
    a.attributes.all b.attributes.contains

-- Opens a formatting element; of four equal ones the first is forgotten.
def openFormatting (b : Builder) (tag : Tag) : Builder :=
  let equal := (recentFormats b.formats).filter (sameTag tag ·.2)
  match equal.getLast? with
  | some (node, _) =>
    if 3 ≤ equal.length then (b.removeFormat node).openFormat tag else b.openFormat tag
  | none => b.openFormat tag

def closeParagraph (b : Builder) : Builder :=
  (b.closeImpliedBut "p").popUntil ["p"]

-- Closes a paragraph if there is one.
def endParagraph (b : Builder) : Builder :=
  if b.inScope .button ["p"] then b.closeParagraph else b

def noFrames (b : Builder) : Builder :=
  { b with framesOk := false }

def body? (b : Builder) : Option Nat :=
  match b.stack.reverse with
  | _ :: node :: _ => if b.isNamed ["body"] node then some node else none
  | _ => none

-- The mode that fits the open elements.
def fittingMode (b : Builder) : Mode :=
  go b.stack
where
  selectMode : List Nat → Mode
    | [] => .inSelect
    | node :: rest =>
      if b.isNamed ["template"] node then .inSelect
      else if b.isNamed ["table"] node then .inSelectInTable
      else selectMode rest
  go : List Nat → Mode
    | [] => .inBody
    | node :: rest =>
      match b.element? node with
      | none => go rest
      | some e =>
        if e.space != .page then go rest
        else match e.name with
          | "select" => selectMode rest
          | "td" | "th" => if rest.isEmpty then .inBody else .inCell
          | "tr" => .inRow
          | "tbody" | "thead" | "tfoot" => .inTableBody
          | "caption" => .inCaption
          | "colgroup" => .inColumnGroup
          | "table" => .inTable
          | "template" => b.templates.head?.getD .inBody
          | "head" => if rest.isEmpty then .inBody else .inHead
          | "body" => .inBody
          | "frameset" => .inFrameset
          | "html" => if b.head.isNone then .beforeHead else .afterHead
          | _ => go rest

def fit (b : Builder) : Builder :=
  b.goto b.fittingMode

end Builder
end TextCharts.Html
