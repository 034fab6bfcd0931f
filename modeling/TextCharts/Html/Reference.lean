import TextCharts.Html.Names
import TextCharts.Text.Digit
import TextCharts.Text.Split

namespace TextCharts.Html.Reference

-- A name and the characters it stands for.
def readEntry (entry : List Char) : List Char × List Char :=
  let name := entry.takeWhile (· != '=')
  let codes := Text.splitOn ',' (entry.drop (name.length + 1))
  (name, codes.filterMap fun code => (Text.naturalIn? 16 code).map Char.ofNat)

def named : List (List Char × List Char) :=
  entries.flatMap fun line => (Text.splitOn ' ' line.toList).map readEntry

-- The longest name at the front of a text.
def longest? (text : List Char) : Option (List Char × List Char) :=
  named.foldl (fun best entry =>
    if entry.1.isPrefixOf text then
      match best with
      | some (name, _) => if name.length < entry.1.length then some entry else best
      | none => some entry
    else best) none

-- The code points that are read as those of another table.
def remapped : List (Nat × Nat) :=
  [(0x00, 0xfffd), (0x80, 0x20ac), (0x82, 0x201a), (0x83, 0x0192), (0x84, 0x201e), (0x85, 0x2026),
   (0x86, 0x2020), (0x87, 0x2021), (0x88, 0x02c6), (0x89, 0x2030), (0x8a, 0x0160), (0x8b, 0x2039),
   (0x8c, 0x0152), (0x8e, 0x017d), (0x91, 0x2018), (0x92, 0x2019), (0x93, 0x201c), (0x94, 0x201d),
   (0x95, 0x2022), (0x96, 0x2013), (0x97, 0x2014), (0x98, 0x02dc), (0x99, 0x2122), (0x9a, 0x0161),
   (0x9b, 0x203a), (0x9c, 0x0153), (0x9e, 0x017e), (0x9f, 0x0178)]

def ofCode (n : Nat) : Char :=
  if 0x10ffff < n || (0xd800 ≤ n && n ≤ 0xdfff) then '\ufffd'
  else .ofNat ((remapped.lookup n).getD n)

-- A number in a base, and the text after it and its semicolon.
def numeric? (base : Nat) (text : List Char) : Option (List Char × List Char) :=
  let isDigit (c : Char) : Bool := (Text.digitIn? base c).isSome
  let digits := text.takeWhile isDigit
  match digits, Text.naturalIn? base digits with
  | [], _ => none
  | _, none => none
  | _, some n =>
    match text.dropWhile isDigit with
    | ';' :: rest => some ([ofCode n], rest)
    | rest => some ([ofCode n], rest)

-- In an attribute, a name without a semicolon is left alone before a letter, a digit or an equals
-- sign.
def isKept (inAttribute : Bool) (name rest : List Char) : Bool :=
  inAttribute && name.getLast? != some ';' && match rest with
    | c :: _ => c == '=' || c.isAlphanum
    | [] => false

-- The characters of a reference, after its ampersand, and the text after it.
def read? (inAttribute : Bool) (text : List Char) : Option (List Char × List Char) :=
  match text with
  | '#' :: 'x' :: rest => numeric? 16 rest
  | '#' :: 'X' :: rest => numeric? 16 rest
  | '#' :: rest => numeric? 10 rest
  | _ =>
    match longest? text with
    | none => none
    | some (name, chars) =>
      let rest := text.drop name.length
      if isKept inAttribute name rest then none else some (chars, rest)

-- Replaces all references; `fuel` is at least the length of the text.
def decodeWith : Nat → List Char → List Char
  | 0, text => text
  | _ + 1, [] => []
  | fuel + 1, '&' :: rest =>
    match read? true rest with
    | some (chars, rest) => chars ++ decodeWith fuel rest
    | none => '&' :: decodeWith fuel rest
  | fuel + 1, c :: rest => c :: decodeWith fuel rest

-- The value of an attribute.
def decodeValue (text : List Char) : List Char :=
  decodeWith text.length text

end TextCharts.Html.Reference
