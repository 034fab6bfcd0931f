import TextCharts.Html.Foreign
import TextCharts.Html.Lexer

namespace TextCharts.Html

namespace Builder

-- Looks at a token until a rule is done with it.
def settle (token : Token) : Nat → Builder → Builder
  | 0, b => b
  | fuel + 1, b =>
    match if b.takesForeign token then b.inForeign token else b.byMode token with
    | .done b => b
    | .again b => settle token fuel b

-- Whether a token does nothing, wherever the page stands otherwise.
def isIdle (b : Builder) : Token → Bool
  | .char c => b.skipBreak && c == '\n'
  | .doctype _ => b.mode != .initial
  | _ => false

-- No token is looked at more often than there are open elements and modes.
def add (b : Builder) (token : Token) : Builder :=
  let idle := b.isIdle token
  let b := { b with skipBreak := false }
  if idle then b else settle token (2 * b.stack.length + 30) b

-- The text that is left, less what stands in an element without tags.
def skip (b : Builder) (text : List Char) : List Char :=
  if b.mode = .text then
    match b.current? with
    | some e =>
      if e.name = "script" then Lexer.skipScript .plain text else Lexer.skipRaw e.name text
    | none => text
  else text

-- Reads tokens to the end of a text.
def read : Nat → Builder → List Char → Builder
  | 0, b, _ => b
  | fuel + 1, b, text =>
    if b.plain then (text.map Lexer.charToken).foldl add b
    else match b.skip text with
      | [] => b
      | text =>
        let (tokens, rest) := Lexer.next b.isForeign text
        read fuel (tokens.foldl add b) rest

end Builder

-- The tree of a page; every page has a root.
def treeOf (text : String) : Tree :=
  let chars := Lexer.prepare text
  ((Builder.read (chars.length + 1) {} chars).add .finish).tree

def elements (text : String) : List Element :=
  (treeOf text).elements

end TextCharts.Html
