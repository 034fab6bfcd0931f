import TextCharts.Text.Blank
import TextCharts.Text.Digit

namespace TextCharts

def nan : Float :=
  0.0 / 0.0

def infinity : Float :=
  1.0 / 0.0

namespace Numeric

-- A number below `2 ^ 64` in the digits of a base, perhaps after a plus sign.
def word? (base : Nat) (text : List Char) : Option Nat :=
  (Text.signedIn? base text).filter (· < Nat.pow 2 64)

-- The base that the first two characters announce.
def base? : List Char → Option (Nat × List Char)
  | '0' :: 'x' :: rest => some (16, rest)
  | '0' :: 'X' :: rest => some (16, rest)
  | '0' :: 'o' :: rest => some (8, rest)
  | '0' :: 'O' :: rest => some (8, rest)
  | '0' :: 'b' :: rest => some (2, rest)
  | '0' :: 'B' :: rest => some (2, rest)
  | _ => none

-- A sign, and the text after it.
def sign : List Char → Bool × List Char
  | '-' :: rest => (true, rest)
  | '+' :: rest => (false, rest)
  | text => (false, text)

def value (digits : List Char) : Nat :=
  digits.foldl (fun n c => n * 10 + (c.toNat - '0'.toNat)) 0

-- The exponent at the end of a decimal number; no letter means none.
def exponent? : List Char → Option Int
  | [] => some 0
  | c :: rest =>
    if c == 'e' || c == 'E' then
      let (negative, digits) := sign rest
      if !digits.isEmpty && digits.all Char.isDigit then
        some (if negative then -(value digits : Int) else value digits)
      else none
    else none

-- Digits on one side of the point at least, and perhaps an exponent; the nearest double.
def decimal? (text : List Char) : Option Float :=
  let (negative, text) := sign text
  let whole := text.takeWhile Char.isDigit
  let rest := text.dropWhile Char.isDigit
  let (fraction, rest) := match rest with
    | '.' :: rest => (rest.takeWhile Char.isDigit, rest.dropWhile Char.isDigit)
    | rest => ([], rest)
  if whole.isEmpty && fraction.isEmpty then none
  else do
    let exponent := (← exponent? rest) - fraction.length
    let magnitude := Float.ofScientific (value (whole ++ fraction)) (exponent < 0) exponent.natAbs
    return if negative then -magnitude else magnitude

-- The number in a cell.
def parse (raw : String) : Float :=
  match Text.trim raw.toList with
  | [] => 0.0
  | text =>
    if text = "Infinity".toList || text = "+Infinity".toList then infinity
    else if text = "-Infinity".toList then -infinity
    else match base? text with
      | some (base, digits) =>
        match word? base digits with
        | some n => .ofScientific n false 0
        | none => nan
      | none => (decimal? text).getD nan

end Numeric
end TextCharts
