namespace TextCharts.Html

-- A name, and attributes of which no two share a name.
structure Tag where
  name : String
  attributes : List (String × String) := []
  selfClosing : Bool := false
  deriving DecidableEq, Repr

def Tag.attribute? (t : Tag) (name : String) : Option String :=
  t.attributes.lookup name

structure Doctype where
  name : Option String := none
  publicId : Option String := none
  systemId : Option String := none
  broken : Bool := false
  deriving DecidableEq, Repr

inductive Token
  | char (c : Char)
  -- A character that ends texts elsewhere and is mostly dropped.
  | nul
  | openTag (tag : Tag)
  | closeTag (name : String)
  | doctype (d : Doctype)
  | finish
  deriving DecidableEq, Repr

def isSpace (c : Char) : Bool :=
  c == ' ' || c == '\n' || c == '\t' || c == '\x0c' || c == '\r'

end TextCharts.Html
