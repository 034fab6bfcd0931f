import TextCharts.Html.Builder

namespace TextCharts.Html.Builder

-- Closes the innermost element of a name, if nothing special is open inside it.
def closeInBody (b : Builder) (name : String) : Builder :=
  go b.stack
where
  go : List Nat → Builder
    | [] => b
    | node :: rest =>
      if b.isNamed [name] node then { b with stack := rest }
      else if b.test Element.isSpecial node then b
      else go rest

-- Where the new entry of the formatting element goes.
inductive Bookmark
  | instead (node : Nat)
  | after (node : Nat)

-- The state of going down from the block to the formatting element: the node that moves, the
-- elements that stay open and how many have been seen.
structure Descent where
  builder : Builder
  last : Nat
  bookmark : Bookmark
  kept : List Nat := []
  count : Nat := 0

-- Makes one element between block and formatting element again, or forgets it.
def Descent.step (block : Nat) (d : Descent) (node : Nat) : Descent :=
  let count := d.count + 1
  match d.builder.formatTag? node with
  | none => { d with count }
  | some tag =>
    if 3 < count then { d with count, builder := d.builder.removeFormat node }
    else
      let (tree, copy) := d.builder.tree.make (elementOf tag)
      let b := { d.builder with tree }.replaceFormat node (.element copy tag)
      { builder := { b with tree := (b.tree.detach d.last).append copy d.last }
        last := copy
        bookmark := if d.last = block then .after copy else d.bookmark
        kept := d.kept ++ [copy]
        count }

-- Puts an entry where the bookmark says.
def putFormat (bookmark : Bookmark) (old : Nat) (entry : Format) (formats : List Format) :
    List Format :=
  match bookmark with
  | .instead node => formats.map fun f => if isFormatOf node f then entry else f
  | .after node =>
    (formats.flatMap fun f => if isFormatOf node f then [entry, f] else [f]).filter
      (!isFormatOf old ·)

-- Moves a formatting element into the block it reaches into.
def splitFormat (b : Builder) (node : Nat) (tag : Tag) (block : Nat) : Builder :=
  let inside := b.stack.takeWhile (· != block)
  let between := ((b.stack.dropWhile (· != block)).drop 1).takeWhile (· != node)
  let outside := (b.stack.dropWhile (· != node)).drop 1
  let start : Descent := { builder := b, last := block, bookmark := .instead node }
  let d := between.foldl (Descent.step block) start
  let b := { d.builder with tree := d.builder.tree.detach d.last }
  let b := b.insertAt (b.place (outside.head?.getD 0)) d.last
  let (tree, copy) := b.tree.make (elementOf tag)
  { b with
    tree := (tree.moveChildren block copy).append block copy
    formats := putFormat d.bookmark node (.element copy tag) b.formats
    stack := inside ++ copy :: block :: d.kept ++ outside }

-- One round of closing; `none` ends the rounds.
def closeRound (b : Builder) (name : String) : Builder × Bool :=
  match (recentFormats b.formats).find? (·.2.name == name) with
  | none => (b.closeInBody name, false)
  | some (node, tag) =>
    if !b.stack.contains node then (b.removeFormat node, false)
    else if !b.inScopeIf .default (· == node) then (b, false)
    else
      let above := b.stack.takeWhile (· != node)
      match above.reverse.find? (b.test Element.isSpecial) with
      | none =>
        (({ b with stack := (b.stack.dropWhile (· != node)).drop 1 } : Builder).removeFormat node,
          false)
      | some block => (b.splitFormat node tag block, true)

def closeRounds (name : String) : Nat → Builder → Builder
  | 0, b => b
  | rounds + 1, b =>
    match b.closeRound name with
    | (b, true) => closeRounds name rounds b
    | (b, false) => b

-- Closes a formatting element.
def closeFormatting (b : Builder) (name : String) : Builder :=
  match b.stack with
  | node :: _ =>
    if b.isNamed [name] node && !b.hasFormat node then b.pop else closeRounds name 8 b
  | [] => b

-- Closes a link that is still open before another one begins.
def endLink (b : Builder) : Builder :=
  match (recentFormats b.formats).find? fun (node, _) => b.isNamed ["a"] node with
  | none => b
  | some (node, _) => ((b.closeFormatting "a").removeFormat node).removeOpen node

end TextCharts.Html.Builder
