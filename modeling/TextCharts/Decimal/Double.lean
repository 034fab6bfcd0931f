/-!
Doubles taken apart. A finite double is a sign, a significand `m` and a binary exponent `e`, and
stands for `m * 2 ^ e`.
-/

namespace TextCharts.Decimal

inductive Parts
  | nan
  | infinite (negative : Bool)
  | finite (negative : Bool) (significand : Nat) (exponent : Int)
  deriving DecidableEq, Repr

def Parts.ofBits (bits : Nat) : Parts :=
  let negative := bits / Nat.pow 2 63 % 2 == 1
  let biased : Nat := bits / Nat.pow 2 52 % Nat.pow 2 11
  let fraction := bits % Nat.pow 2 52
  if biased = 2047 then
    if fraction = 0 then .infinite negative else .nan
  else if biased = 0 then .finite negative fraction (-1074)
  else .finite negative (Nat.pow 2 52 + fraction) ((biased : Int) - 1075)

def Parts.ofDouble (x : Float) : Parts :=
  .ofBits x.toBits.toNat

-- How to decide between two neighbours at the same distance.
inductive Tie
  | up
  | even
  deriving DecidableEq, Repr

-- The natural number nearest to `num / den`.
def roundDiv (tie : Tie) (num den : Nat) : Nat :=
  let low := num / den
  let rest := 2 * (num % den)
  if rest < den then low
  else if den < rest then low + 1
  else match tie with
    | .up => low + 1
    | .even => if low % 2 = 0 then low else low + 1

end TextCharts.Decimal
