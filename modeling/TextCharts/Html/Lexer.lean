import TextCharts.Html.Reference
import TextCharts.Html.Token

/-!
Cutting a page into tokens. All functions take the text that is left and return what is left then.
-/

namespace TextCharts.Html.Lexer

abbrev Rest :=
  List Char

-- Line breaks become line feeds, and a byte order mark in front does not count.
def normalize : List Char → List Char
  | '\r' :: '\n' :: rest => '\n' :: normalize rest
  | '\r' :: rest => '\n' :: normalize rest
  | c :: rest => c :: normalize rest
  | [] => []

def prepare (text : String) : List Char :=
  match text.toList with
  | '\ufeff' :: rest => normalize rest
  | chars => normalize chars

def isLetter (c : Char) : Bool :=
  c.isAlpha

-- Small letters, and a replacement for what may not stand in names.
def nameChar (c : Char) : Char :=
  if c = '\x00' then '\ufffd' else c.toLower

def nameOf (chars : List Char) : String :=
  .ofList (chars.map nameChar)

def valueOf (chars : List Char) : String :=
  .ofList (Reference.decodeValue (chars.map fun c => if c = '\x00' then '\ufffd' else c))

def endsTagName (c : Char) : Bool :=
  isSpace c || c == '/' || c == '>'

def endsAttributeName (c : Char) : Bool :=
  endsTagName c || c == '='

-- The name of an attribute; an equals sign may begin it.
def attributeName : List Char → String × Rest
  | '=' :: rest =>
    (nameOf ('=' :: rest.takeWhile (!endsAttributeName ·)), rest.dropWhile (!endsAttributeName ·))
  | text =>
    (nameOf (text.takeWhile (!endsAttributeName ·)), text.dropWhile (!endsAttributeName ·))

-- The text up to a quote; there has to be one.
def quoted? (quote : Char) (text : List Char) : Option (String × Rest) :=
  match text.dropWhile (· != quote) with
  | [] => none
  | _ :: rest => some (valueOf (text.takeWhile (· != quote)), rest)

def endsValue (c : Char) : Bool :=
  isSpace c || c == '>'

-- The value of an attribute after the equals sign, if there is one.
def attributeValue? (text : List Char) : Option (String × Rest) :=
  match text.dropWhile isSpace with
  | '=' :: rest =>
    match rest.dropWhile isSpace with
    | '"' :: rest => quoted? '"' rest
    | '\x27' :: rest => quoted? '\x27' rest
    | rest => some (valueOf (rest.takeWhile (!endsValue ·)), rest.dropWhile (!endsValue ·))
  | rest => some ("", rest)

-- Of two attributes of one name the first counts.
def addAttribute (attributes : List (String × String)) (name value : String) :
    List (String × String) :=
  if attributes.any (·.1 == name) then attributes else attributes ++ [(name, value)]

-- The attributes and the end of a tag; a tag that does not end is none.
def attributes? : Nat → List (String × String) → Rest →
    Option (List (String × String) × Bool × Rest)
  | 0, _, _ => none
  | fuel + 1, acc, text =>
    match text.dropWhile isSpace with
    | [] => none
    | '>' :: rest => some (acc, false, rest)
    | '/' :: '>' :: rest => some (acc, true, rest)
    | '/' :: rest => attributes? fuel acc rest
    | text =>
      let (name, rest) := attributeName text
      match attributeValue? rest with
      | none => none
      | some (value, rest) => attributes? fuel (addAttribute acc name value) rest

-- A tag from the first letter of its name on.
def tag? (text : List Char) : Option (Tag × Rest) :=
  let rest := text.dropWhile (!endsTagName ·)
  (attributes? (rest.length + 1) [] rest).map fun (attributes, selfClosing, rest) =>
    ({ name := nameOf (text.takeWhile (!endsTagName ·)), attributes, selfClosing }, rest)

-- The text after the first of some words.
def skipPast (words : List (List Char)) : List Char → Rest
  | [] => []
  | c :: rest =>
    match words.find? (·.isPrefixOf (c :: rest)) with
    | some word => (c :: rest).drop word.length
    | none => skipPast words rest

-- The text after a comment, from its opening marks on.
def skipComment : List Char → Rest
  | '>' :: rest => rest
  | '-' :: '>' :: rest => rest
  | text => skipPast [['-', '-', '>'], ['-', '-', '!', '>']] text

-- What is no comment by its marks ends with the next bracket.
def skipBogus (text : List Char) : Rest :=
  skipPast [['>']] text

def startsWith (word : String) (text : List Char) : Bool :=
  (text.take word.length).map Char.toLower == word.toList

-- A quoted identifier; one that does not end is broken.
def identifier (text : List Char) : Option (String × Bool × Rest) :=
  let read (quote : Char) (text : List Char) : String × Bool × Rest :=
    let isEnd (c : Char) : Bool := c == quote || c == '>'
    let value := String.ofList (text.takeWhile (!isEnd ·))
    match text.dropWhile (!isEnd ·) with
    | [] => (value, true, [])
    | c :: rest => if c = quote then (value, false, rest) else (value, true, c :: rest)
  match text with
  | '"' :: rest => some (read '"' rest)
  | '\x27' :: rest => some (read '\x27' rest)
  | _ => none

-- The second identifier, which may be missing after a first one.
def systemPart (d : Doctype) (required : Bool) (text : List Char) : Doctype × Rest :=
  match text.dropWhile isSpace with
  | [] => ({ d with broken := true }, [])
  | '>' :: rest => ({ d with broken := d.broken || required }, rest)
  | text =>
    match identifier text with
    | none => ({ d with broken := true }, skipBogus text)
    | some (value, broken, rest) =>
      match rest.dropWhile isSpace with
      | [] => ({ d with systemId := some value, broken := true }, [])
      | rest => ({ d with systemId := some value, broken }, skipBogus rest)

def publicPart (d : Doctype) (text : List Char) : Doctype × Rest :=
  match identifier (text.dropWhile isSpace) with
  | none => ({ d with broken := true }, skipBogus text)
  | some (value, true, rest) => ({ d with publicId := some value, broken := true }, skipBogus rest)
  | some (value, false, rest) => systemPart { d with publicId := some value } false rest

-- The type of a page, after its opening word.
def doctype (text : List Char) : Doctype × Rest :=
  match text.dropWhile isSpace with
  | [] => ({ broken := true }, [])
  | '>' :: rest => ({ broken := true }, rest)
  | text =>
    let isEnd (c : Char) : Bool := isSpace c || c == '>'
    let d : Doctype := { name := some (nameOf (text.takeWhile (!isEnd ·))) }
    match (text.dropWhile (!isEnd ·)).dropWhile isSpace with
    | [] => ({ d with broken := true }, [])
    | '>' :: rest => (d, rest)
    | rest =>
      if startsWith "public" rest then publicPart d (rest.drop 6)
      else if startsWith "system" rest then systemPart d true (rest.drop 6)
      else ({ d with broken := true }, skipBogus rest)

def charToken (c : Char) : Token :=
  if c = '\x00' then .nul else .char c

-- The text of a section in which no marks count.
def verbatim : List Char → List Token × Rest
  | [] => ([], [])
  | ']' :: ']' :: '>' :: rest => ([], rest)
  | c :: rest =>
    let (tokens, after) := verbatim rest
    (charToken c :: tokens, after)

-- What follows `<!`; sections of plain text only stand in drawings and formulas.
def declaration (foreign : Bool) (text : List Char) : List Token × Rest :=
  if startsWith "--" text then ([], skipComment (text.drop 2))
  else if startsWith "doctype" text then
    let (d, rest) := doctype (text.drop 7)
    ([.doctype d], rest)
  else if foreign && text.take 7 == "[CDATA[".toList then verbatim (text.drop 7)
  else ([], skipBogus text)

-- What follows `<`.
def markup (foreign : Bool) (text : List Char) : List Token × Rest :=
  match text with
  | '!' :: rest => declaration foreign rest
  | '?' :: rest => ([], skipBogus rest)
  | '/' :: '>' :: rest => ([], rest)
  | '/' :: c :: rest =>
    if isLetter c then
      match tag? (c :: rest) with
      | some (tag, rest) => ([.closeTag tag.name], rest)
      | none => ([], [])
    else ([], skipBogus (c :: rest))
  | ['/'] => ([.char '<', .char '/'], [])
  | c :: rest =>
    if isLetter c then
      match tag? (c :: rest) with
      | some (tag, rest) => ([.openTag tag], rest)
      | none => ([], [])
    else ([.char '<'], c :: rest)
  | [] => ([.char '<'], [])

-- The next tokens of a text that is not empty.
def next (foreign : Bool) : List Char → List Token × Rest
  | [] => ([], [])
  | '<' :: rest => markup foreign rest
  | '&' :: rest =>
    match Reference.read? false rest with
    | some (chars, rest) => (chars.map .char, rest)
    | none => ([.char '&'], rest)
  | c :: rest => ([charToken c], rest)

-- Whether a text begins with a closing tag of a name, up to the end of the name.
def closes (name : String) (text : List Char) : Bool :=
  match text with
  | '<' :: '/' :: rest =>
    startsWith name rest && match rest.drop name.length with
      | c :: _ => endsTagName c
      | [] => false
  | _ => false

-- The text from the closing tag of a raw element on.
def skipRaw (name : String) : List Char → Rest
  | [] => []
  | c :: rest => if closes name (c :: rest) then c :: rest else skipRaw name rest

-- How deep a script is in a comment that hides it.
inductive Depth
  | plain
  | escaped
  | double
  deriving DecidableEq, Repr

-- Whether a text begins with the word `script` as the whole name of a tag.
def namesScript (text : List Char) : Bool :=
  startsWith "script" text && match text.drop 6 with
    | c :: _ => endsTagName c
    | [] => false

-- The text from the closing tag of a script on. Inside a comment, a script in it hides a closing
-- tag.
def skipScript : Depth → List Char → Rest
  | _, [] => []
  | depth, c :: rest =>
    if depth != .double && closes "script" (c :: rest) then c :: rest
    else if depth = .plain && ['<', '!', '-', '-'].isPrefixOf (c :: rest) then
      -- The marks of the comment may already be those of its end.
      skipScript (if leaves (rest.drop 1) then .plain else .escaped) rest
    else if depth != .plain && ['-', '-', '>'].isPrefixOf (c :: rest) then skipScript .plain rest
    else if depth = .escaped && c = '<' && namesScript rest then skipScript .double rest
    else if depth = .double && c = '<' && rest.head? = some '/' && namesScript (rest.drop 1) then
      skipScript .escaped rest
    else skipScript depth rest
where
  -- Whether two hyphens and a bracket, or more hyphens, come now.
  leaves (text : List Char) : Bool :=
    (text.dropWhile (· == '-')).head? == some '>'

end TextCharts.Html.Lexer
