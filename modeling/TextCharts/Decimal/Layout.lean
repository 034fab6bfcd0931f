import TextCharts.Decimal.Shortest

/-!
Written forms of doubles. `plain` writes the shortest digits without an exponent, however long the
text gets; `compact` always shows a point or an exponent; `fixed` writes a given number of places.
-/

namespace TextCharts.Decimal

def digitsOf (n : Nat) : List Char :=
  Nat.toDigits 10 n

def zeros (n : Nat) : List Char :=
  .replicate n '0'

-- The position of the decimal point, counted from before the first digit.
def Numeral.point (n : Numeral) : Int :=
  (digitsOf n.coefficient).length + n.exponent

-- The digits with their point, zeros filling every gap.
def Numeral.positional (n : Numeral) : List Char :=
  let digits := digitsOf n.coefficient
  if 0 ≤ n.exponent then digits ++ zeros n.exponent.toNat
  else if 0 < n.point then
    digits.take n.point.toNat ++ '.' :: digits.drop n.point.toNat
  else '0' :: '.' :: zeros (-n.point).toNat ++ digits

-- One digit before the point and a signed exponent.
def Numeral.scientific (n : Numeral) : List Char :=
  let exponent := n.point - 1
  let sign := if exponent < 0 then '-' else '+'
  let mantissa := match digitsOf n.coefficient with
    | d :: [] => [d]
    | d :: rest => d :: '.' :: rest
    | [] => []
  mantissa ++ 'e' :: sign :: digitsOf exponent.natAbs

def signed (negative : Bool) (text : List Char) : String :=
  .ofList (if negative then '-' :: text else text)

def infinity (negative : Bool) : String :=
  if negative then "-inf" else "inf"

def plain (x : Float) : String :=
  match Parts.ofDouble x with
  | .nan => "NaN"
  | .infinite negative => infinity negative
  | .finite negative m e => signed negative (shortest .up m e).positional

-- Positional from `1e-5` up to sixteen digits before the point.
def Numeral.compact (n : Numeral) : List Char :=
  if -5 < n.point && n.point ≤ 16 then
    if 0 ≤ n.exponent then n.positional ++ ['.', '0'] else n.positional
  else n.scientific

-- Only a finite double has a compact form.
def compact? (x : Float) : Option String :=
  match Parts.ofDouble x with
  | .nan => none
  | .infinite _ => none
  | .finite negative m e => some (signed negative (shortest .even m e).compact)

-- Tens and units of `n` parts, `10 ^ places` of which make one.
def places (count n : Nat) : List Char :=
  let digits := digitsOf n
  let padded := zeros (count + 1 - digits.length) ++ digits
  let whole := padded.length - count
  if count = 0 then padded else padded.take whole ++ '.' :: padded.drop whole

-- Rounds the exact value, a tie to the even neighbour, and keeps the sign of zero.
def fixed (count : Nat) (x : Float) : String :=
  match Parts.ofDouble x with
  | .nan => "NaN"
  | .infinite negative => infinity negative
  | .finite negative m e =>
    let scaled := m * Nat.pow 10 count * Nat.pow 2 e.toNat
    signed negative (places count (roundDiv .even scaled (Nat.pow 2 (-e).toNat)))

end TextCharts.Decimal
