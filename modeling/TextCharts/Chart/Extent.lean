import TextCharts.Decimal.Layout

namespace TextCharts

structure Extent where
  low : Float
  high : Float

namespace Extent

-- Of two equal numbers the one before stays.
def add (e : Extent) (x : Float) : Extent where
  low := if x < e.low then x else e.low
  high := if e.high < x then x else e.high

def ofValues? (values : List Float) : Option Extent :=
  match values.filter Float.isFinite with
  | [] => none
  | x :: rest => some (rest.foldl add ⟨x, x⟩)

-- The gap between one and the next double.
def epsilon : Float :=
  .ofScientific 2220446049250313 true 31

def isNarrow (e : Extent) : Bool :=
  (e.high - e.low).abs < epsilon

-- The extent of a vertical axis, which has to have a height.
def ofValues (values : List Float) : Extent :=
  match ofValues? values with
  | none => ⟨0, 1⟩
  | some e => if e.isNarrow then ⟨e.low - 0.5, e.high + 0.5⟩ else e

-- The width of the wider of the two labels.
def labelWidth (places : Nat) (e : Extent) : Nat :=
  max (Decimal.fixed places e.low).length (Decimal.fixed places e.high).length

end Extent
end TextCharts
