import TextCharts.Chart.Settings

namespace TextCharts.Chart

-- The rows from `top` down to `bottom`; none if `bottom` is above `top`.
structure Step where
  top : Nat
  bottom : Nat
  deriving DecidableEq, Repr

inductive Fill
  -- Neighbours are joined.
  | line
  -- Filled from each value down to the axis.
  | area
  deriving DecidableEq, Repr

-- Rounds to the nearest whole number, a half upwards; what is no number counts as zero.
def nearest (x : Float) : Nat :=
  let whole := x.toUInt64
  if 0.5 ≤ x - whole.toFloat then whole.toNat + 1 else whole.toNat

-- Limits a ratio to what the axis shows.
def clamp (x : Float) : Float :=
  if x < 0 then 0 else if 1 < x then 1 else x

def lastRow (c : Chart) : Nat :=
  c.height * dotsDown - 1

-- The row of a value.
def row (c : Chart) (y : Float) : Nat :=
  let ratio := clamp ((y - c.range.low) / (c.range.high - c.range.low))
  c.lastRow - nearest (ratio * Float.ofScientific c.lastRow false 0)

-- The rows of an extent; a greater value has a smaller row.
def step (c : Chart) (fill : Fill) (e : Extent) : Step where
  top := c.row e.high
  bottom := match fill with
    | .line => c.row e.low
    | .area => c.lastRow

-- Lengthens a step so that it touches the rows of the one before.
def Step.reach (before s : Step) : Step where
  top := if before.bottom < s.top then before.bottom + 1 else s.top
  bottom := if s.bottom < before.top then before.top - 1 else s.bottom

-- Joins every step to the last one before it, as that was before it was joined itself.
def join : Option Step → List (Option Step) → List (Option Step)
  | _, [] => []
  | before, none :: rest => none :: join before rest
  | none, some s :: rest => some s :: join (some s) rest
  | some before, some s :: rest => some (before.reach s) :: join (some s) rest

-- The steps of a chart; there has to be one.
def trace (c : Chart) (fill : Fill) (extents : List (Option Extent)) :
    Except DrawError (List (Option Step)) :=
  if extents.all Option.isNone then .error .emptyData
  else
    let steps := extents.map (Option.map (c.step fill))
    .ok (match fill with
      | .line => join none steps
      | .area => steps)

end TextCharts.Chart
