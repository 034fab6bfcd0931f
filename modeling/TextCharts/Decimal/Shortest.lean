import TextCharts.Decimal.Double

/-!
The shortest decimal numeral of a double. The reals that round to a double form an interval around
it, closed if its significand is even. Among the decimal grids `10 ^ k` the coarsest one with a
point in that interval is taken, and on it the point nearest to the double.
-/

namespace TextCharts.Decimal

-- Stands for `coefficient * 10 ^ exponent`.
structure Numeral where
  coefficient : Nat
  exponent : Int
  deriving DecidableEq, Repr

-- The double and the ends of its interval in quarters of `2 ^ e`. Below a power of two the gap to the
-- next smaller double is half as wide.
structure Interval where
  low : Nat
  mid : Nat
  high : Nat
  closed : Bool
  deriving DecidableEq, Repr

namespace Interval

def ofDouble (m : Nat) (e : Int) : Interval where
  low := if m = Nat.pow 2 52 && e != -1074 then 4 * m - 1 else 4 * m - 2
  mid := 4 * m
  high := 4 * m + 2
  closed := m % 2 == 0

def scale (i : Interval) (n : Nat) : Interval where
  low := i.low * n
  mid := i.mid * n
  high := i.high * n
  closed := i.closed

def holds (i : Interval) (n : Nat) : Bool :=
  if i.closed then i.low ≤ n && n ≤ i.high else i.low < n && n < i.high

-- The multiple of `unit` in the interval that is nearest to its middle, as a quotient.
def nearest? (tie : Tie) (i : Interval) (unit : Nat) : Option Nat :=
  let below := i.mid / unit
  match i.holds (below * unit), i.holds ((below + 1) * unit) with
  | true, true => some (roundDiv tie i.mid unit)
  | true, false => some below
  | false, true => some (below + 1)
  | false, false => none

-- Tries the grids `10 ^ k`, `10 ^ (k - 1)` and so on, for an interval in units of `2 ^ e`.
def search (tie : Tie) (i : Interval) (e : Int) : Nat → Int → Option Numeral
  | 0, _ => none
  | fuel + 1, k =>
    let factor := Nat.pow 2 e.toNat * Nat.pow 10 (-k).toNat
    match nearest? tie (i.scale factor) (Nat.pow 2 (-e).toNat * Nat.pow 10 k.toNat) with
    | some n => some ⟨n, k⟩
    | none => search tie i e fuel (k - 1)

end Interval

-- Of the double `m * 2 ^ e`; it starts above the leading digit and needs at most 17 digits.
def shortest (tie : Tie) (m : Nat) (e : Int) : Numeral :=
  if m = 0 then ⟨0, 0⟩
  else
    let top := (m.log2 + e + 2) * 30103 / 100000 + 1
    (Interval.search tie (.ofDouble m e) (e - 2) 21 top).getD ⟨0, 0⟩

end TextCharts.Decimal
