import TextCharts.Text.Blank
import TextCharts.Text.Digit

namespace TextCharts

inductive Color
  -- One of the terminal's own colours.
  | basic (code : Nat)
  | rgb (red green blue : Nat)
  deriving DecidableEq, Repr

inductive ColorError
  | badHexDigit (name : String)
  | unknown (name : String)
  deriving DecidableEq, Repr

def ColorError.message : ColorError → String
  | badHexDigit name => "invalid hex colour digit in `" ++ name ++ "`"
  | unknown name => "unknown colour `" ++ name ++ "` (use a name or #RRGGBB)"

namespace Color

def orange : Color :=
  .rgb 210 135 10

def isAscii (c : Char) : Bool :=
  c.toNat < 128

-- `#` and three pairs of digits, each perhaps a plus sign and one digit.
def ofHex (name : String) : Except ColorError Color :=
  match Text.trim name.toList with
  | ['#', a, b, c, d, e, f] =>
    if [a, b, c, d, e, f].all isAscii then
      match Text.signedIn? 16 [a, b], Text.signedIn? 16 [c, d], Text.signedIn? 16 [e, f] with
      | some red, some green, some blue => .ok (.rgb red green blue)
      | _, _, _ => .error (.badHexDigit name)
    else .error (.unknown name)
  | _ => .error (.unknown name)

def named? : String → Option Color
  | "black" => some (.basic 30)
  | "red" => some (.basic 31)
  | "green" => some (.basic 32)
  | "yellow" => some (.basic 33)
  | "blue" => some (.basic 34)
  | "magenta" => some (.basic 35)
  | "cyan" => some (.basic 36)
  | "white" => some (.basic 37)
  | "orange" => some orange
  | "industrial" => some orange
  | _ => none

def ofName (name : String) : Except ColorError Color :=
  match named? (Text.lowerAscii (Text.strip name)) with
  | some color => .ok color
  | none => ofHex name

-- The sequence that switches a colour on.
def escape : Color → String
  | .basic code => "\x1b[" ++ toString code ++ "m"
  | .rgb red green blue => s!"\x1b[38;2;{red};{green};{blue}m"

-- The sequence that switches colours off.
def reset : String :=
  "\x1b[0m"

-- A text in a colour, or as it is.
def paint (color : Option Color) (text : String) : String :=
  match color with
  | none => text
  | some color => color.escape ++ text ++ reset

end Color
end TextCharts
