import TextCharts.Html.Tree

namespace TextCharts.Html.Element

def isPage (e : Element) (names : List String) : Bool :=
  e.space = .page && names.contains e.name

def headings : List String :=
  ["h1", "h2", "h3", "h4", "h5", "h6"]

-- A place for text in a formula.
def isFormulaText (e : Element) : Bool :=
  e.space = .formula && ["mi", "mo", "mn", "ms", "mtext"].contains e.name

-- A place for a page in a drawing.
def isDrawingPage (e : Element) : Bool :=
  e.space = .drawing && ["foreignobject", "desc", "title"].contains e.name

def isSpecial (e : Element) : Bool :=
  e.isPage
    ["address", "applet", "area", "article", "aside", "base", "basefont", "bgsound", "blockquote",
     "body", "br", "button", "caption", "center", "col", "colgroup", "dd", "details", "dir", "div",
     "dl", "dt", "embed", "fieldset", "figcaption", "figure", "footer", "form", "frame", "frameset",
     "h1", "h2", "h3", "h4", "h5", "h6", "head", "header", "hgroup", "hr", "html", "iframe", "img",
     "input", "isindex", "li", "link", "listing", "main", "marquee", "menu", "meta", "nav",
     "noembed", "noframes", "noscript", "object", "ol", "p", "param", "plaintext", "pre", "script",
     "section", "select", "source", "style", "summary", "table", "tbody", "td", "template",
     "textarea", "tfoot", "th", "thead", "title", "tr", "track", "ul", "wbr", "xmp"]

-- The end of the part of the open elements in which a closing tag looks for its element.
inductive Scope
  | default
  | list
  | button
  | table
  | select
  deriving DecidableEq, Repr

def endsDefaultScope (e : Element) : Bool :=
  e.isPage ["applet", "caption", "html", "table", "td", "th", "marquee", "object", "template"] ||
    e.isFormulaText || e.isDrawingPage

def endsScope (scope : Scope) (e : Element) : Bool :=
  match scope with
  | .default => e.endsDefaultScope
  | .list => e.endsDefaultScope || e.isPage ["ol", "ul"]
  | .button => e.endsDefaultScope || e.isPage ["button"]
  | .table => e.isPage ["html", "table", "template"]
  | .select => !e.isPage ["optgroup", "option"]

-- Elements whose closing tags may be left out.
def optionalEnds : List String :=
  ["dd", "dt", "li", "option", "optgroup", "p", "rb", "rp", "rt", "rtc"]

-- All of them, at the end of a template.
def allOptionalEnds : List String :=
  optionalEnds ++ ["caption", "colgroup", "tbody", "td", "tfoot", "th", "thead", "tr"]

def tableParts : List String :=
  ["table", "tbody", "tfoot", "thead", "tr"]

end TextCharts.Html.Element
