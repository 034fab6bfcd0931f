import TextCharts.Text.Printable

namespace TextCharts.Text

-- The lower-case digits of a number in base sixteen.
def hexadecimal (n : Nat) : String :=
  .ofList (Nat.toDigits 16 n)

-- One character between quotes. A backslash announces the six characters with a short form; other
-- characters that would not show, or that would attach to their left neighbour, stand as a code
-- point.
def quoteChar (c : Char) : String :=
  match c with
  | '\x00' => "\\0"
  | '\t' => "\\t"
  | '\n' => "\\n"
  | '\r' => "\\r"
  | '"' => "\\\""
  | '\\' => "\\\\"
  | c => if isPrintable c then c.toString else "\\u\x7b" ++ hexadecimal c.toNat ++ "\x7d"

def quoted (s : String) : String :=
  "\"" ++ String.join (s.toList.map quoteChar) ++ "\""

-- A listing of quoted texts in square brackets.
def quotedList (items : List String) : String :=
  "[" ++ ", ".intercalate (items.map quoted) ++ "]"

end TextCharts.Text
