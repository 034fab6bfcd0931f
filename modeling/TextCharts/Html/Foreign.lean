import TextCharts.Html.Rules

namespace TextCharts.Html.Builder

-- Whether a token belongs to the drawing or the formula that is open.
def takesForeign (b : Builder) (token : Token) : Bool :=
  match b.current?, token with
  | none, _ => false
  | _, .finish => false
  | some e, token =>
    if e.space = .page then false
    else match token with
      | .openTag tag =>
        if e.isFormulaText && !(["mglyph", "malignmark"].contains tag.name) then false
        else if e.isDrawingPage then false
        else !(e.space = .formula && e.name = "annotation-xml" && tag.name = "svg")
      | .char _ => !(e.isFormulaText || e.isDrawingPage)
      | .nul => !(e.isFormulaText || e.isDrawingPage)
      | _ => true

-- Tags of pages that end drawings and formulas.
def breakouts : List String :=
  ["b", "big", "blockquote", "body", "br", "center", "code", "dd", "div", "dl", "dt", "em", "embed",
   "h1", "h2", "h3", "h4", "h5", "h6", "head", "hr", "i", "img", "li", "listing", "menu", "meta",
   "nobr", "ol", "p", "pre", "ruby", "s", "small", "span", "strong", "strike", "sub", "sup",
   "table", "tt", "u", "ul", "var"]

def breaksOut (tag : Tag) : Bool :=
  breakouts.contains tag.name || (tag.name = "font" &&
    ["color", "face", "size"].any fun name => (tag.attribute? name).isSome)

-- Closes elements up to a place for pages.
def leaveForeign (b : Builder) : Builder :=
  let isPlace (e : Element) : Bool := e.space = .page || e.isFormulaText || e.isDrawingPage
  { b with stack := b.stack.dropWhile (!b.test isPlace ·) }

-- Closes the innermost element of a name, or leaves the tag to the page around.
def closeForeign (b : Builder) (name : String) : Step :=
  go true b.stack
where
  go (first : Bool) : List Nat → Step
    | [] => .done b
    | node :: rest =>
      if rest.isEmpty then .done b
      else match b.element? node with
        | none => go false rest
        | some e =>
          if !first && e.space = .page then b.byMode (.closeTag name)
          else if e.name = name then .done { b with stack := rest }
          else go false rest

def inForeign (b : Builder) (token : Token) : Step :=
  match token with
  | .char c => .done (if isSpace c then b else b.noFrames)
  | .openTag tag =>
    if breaksOut tag then b.leaveForeign.byMode token
    else .done (b.openForeign ((b.current?.map (·.space)).getD .page) tag)
  | .closeTag name =>
    if name = "br" || name = "p" then b.leaveForeign.byMode token else b.closeForeign name
  | _ => .done b

end TextCharts.Html.Builder
