import TextCharts.Json.Number
import TextCharts.Text.Digit

namespace TextCharts.Json

def isGap (c : Char) : Bool :=
  c == ' ' || c == '\n' || c == '\t' || c == '\r'

def dropGap (text : List Char) : List Char :=
  text.dropWhile isGap

def shortEscape? : Char → Option Char
  | '"' => some '"'
  | '\\' => some '\\'
  | '/' => some '/'
  | 'b' => some '\x08'
  | 'f' => some '\x0c'
  | 'n' => some '\n'
  | 'r' => some '\r'
  | 't' => some '\t'
  | _ => none

-- The rest of a string after its opening quote. Escaped surrogates come in pairs.
def readText? : List Char → List Char → Option (String × List Char)
  | acc, '"' :: rest => some (.ofList acc.reverse, rest)
  | acc, '\\' :: 'u' :: a :: b :: c :: d :: rest =>
    match Text.naturalIn? 16 [a, b, c, d] with
    | none => none
    | some n =>
      if n < 0xd800 || 0xe000 ≤ n then readText? (.ofNat n :: acc) rest
      else if n < 0xdc00 then
        match rest with
        | '\\' :: 'u' :: a :: b :: c :: d :: rest =>
          match Text.naturalIn? 16 [a, b, c, d] with
          | none => none
          | some low =>
            if 0xdc00 ≤ low && low < 0xe000 then
              readText? (.ofNat ((n - 0xd800) * 0x400 + (low - 0xdc00) + 0x10000) :: acc) rest
            else none
        | _ => none
      else none
  | acc, '\\' :: c :: rest =>
    match shortEscape? c with
    | some e => readText? (e :: acc) rest
    | none => none
  | acc, c :: rest => if c.toNat < 0x20 then none else readText? (c :: acc) rest
  | _, [] => none

-- Removes a word from the front of a text.
def dropWord? (word text : List Char) : Option (List Char) :=
  if word.isPrefixOf text then some (text.drop word.length) else none

mutual

-- Reads a value that begins with the next character; `room` containers may still open.
def readValue? : Nat → Nat → List Char → Option (Json × List Char)
  | 0, _, _ => none
  | fuel + 1, room, text =>
    match text with
    | 'n' :: rest => (dropWord? ['u', 'l', 'l'] rest).map (.null, ·)
    | 't' :: rest => (dropWord? ['r', 'u', 'e'] rest).map (.bool true, ·)
    | 'f' :: rest => (dropWord? ['a', 'l', 's', 'e'] rest).map (.bool false, ·)
    | '"' :: rest => (readText? [] rest).map fun (s, rest) => (.string s, rest)
    | '[' :: rest =>
      if room = 0 then none
      else match dropGap rest with
        | ']' :: rest => some (.array [], rest)
        | rest => readItems? fuel (room - 1) [] rest
    | '\x7b' :: rest =>
      if room = 0 then none
      else match dropGap rest with
        | '\x7d' :: rest => some (.object [], rest)
        | rest => readEntries? fuel (room - 1) [] rest
    | _ => (Number.read? text).map fun (n, rest) => (.number n, rest)

def readItems? : Nat → Nat → List Json → List Char → Option (Json × List Char)
  | 0, _, _, _ => none
  | fuel + 1, room, items, text =>
    match readValue? fuel room text with
    | none => none
    | some (item, rest) =>
      match dropGap rest with
      | ',' :: rest => readItems? fuel room (item :: items) (dropGap rest)
      | ']' :: rest => some (.array (item :: items).reverse, rest)
      | _ => none

def readEntries? : Nat → Nat → Entries → List Char → Option (Json × List Char)
  | 0, _, _, _ => none
  | fuel + 1, room, entries, text =>
    match text with
    | '"' :: rest =>
      match readText? [] rest with
      | none => none
      | some (key, rest) =>
        match dropGap rest with
        | ':' :: rest =>
          match readValue? fuel room (dropGap rest) with
          | none => none
          | some (value, rest) =>
            match dropGap rest with
            | ',' :: rest => readEntries? fuel room (entries.put key value) (dropGap rest)
            | '\x7d' :: rest => some (.object (entries.put key value), rest)
            | _ => none
        | _ => none
    | _ => none

end

def nestingLimit : Nat :=
  127

-- Reads one value that takes the whole text.
def read? (text : String) : Option Json :=
  let chars := dropGap text.toList
  match readValue? (2 * chars.length + 2) nestingLimit chars with
  | some (value, rest) => if dropGap rest = [] then some value else none
  | none => none

end TextCharts.Json
