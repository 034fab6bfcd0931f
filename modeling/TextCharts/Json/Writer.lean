import TextCharts.Decimal.Layout
import TextCharts.Json.Basic
import TextCharts.Text.Quoted

namespace TextCharts.Json

def escape (c : Char) : List Char :=
  match c with
  | '"' => ['\\', '"']
  | '\\' => ['\\', '\\']
  | '\n' => ['\\', 'n']
  | '\r' => ['\\', 'r']
  | '\t' => ['\\', 't']
  | '\x08' => ['\\', 'b']
  | '\x0c' => ['\\', 'f']
  | c =>
    if c.toNat < 0x20 then
      ['\\', 'u', '0', '0', Nat.digitChar (c.toNat / 16), Nat.digitChar (c.toNat % 16)]
    else [c]

def quote (s : String) : String :=
  .ofList ('"' :: s.toList.flatMap escape ++ ['"'])

def Number.write : Number → String
  | .integer n => toString n
  | .double x => (Decimal.compact? x).getD "null"

mutual

-- The value on one line, without blanks.
def write : Json → String
  | .null => "null"
  | .bool b => if b then "true" else "false"
  | .number n => n.write
  | .string s => quote s
  | .array items => "[" ++ ",".intercalate (writeItems items) ++ "]"
  | .object entries => "\x7b" ++ ",".intercalate (writeEntries entries) ++ "\x7d"

def writeItems : List Json → List String
  | [] => []
  | item :: rest => item.write :: writeItems rest

def writeEntries : List (String × Json) → List String
  | [] => []
  | (key, value) :: rest => (quote key ++ ":" ++ value.write) :: writeEntries rest

end

-- A line break and the indentation of a depth.
def breakLine (depth : Nat) : String :=
  .ofList ('\n' :: .replicate (2 * depth) ' ')

-- Parts between brackets, each on a line of its own.
def enclose (opening closing : String) (depth : Nat) : List String → String
  | [] => opening ++ closing
  | parts =>
    opening ++ breakLine (depth + 1) ++ ("," ++ breakLine (depth + 1)).intercalate parts ++
      breakLine depth ++ closing

mutual

-- The value with one item or entry a line, for a place at the given depth.
def pretty (depth : Nat) : Json → String
  | .array items => enclose "[" "]" depth (prettyItems (depth + 1) items)
  | .object entries => enclose "\x7b" "\x7d" depth (prettyEntries (depth + 1) entries)
  | value => value.write

def prettyItems (depth : Nat) : List Json → List String
  | [] => []
  | item :: rest => item.pretty depth :: prettyItems depth rest

def prettyEntries (depth : Nat) : List (String × Json) → List String
  | [] => []
  | (key, value) :: rest => (quote key ++ ": " ++ value.pretty depth) :: prettyEntries depth rest

end
end TextCharts.Json
