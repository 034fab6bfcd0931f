import TextCharts.Chart.Trace

/-!
Steps as braille characters. A character has two half-columns of four dots each. What a step covers
of one half-column is a run of neighbouring dots, of which there are ten, or nothing.
-/

namespace TextCharts.Chart

inductive Side
  | left
  | right
  deriving DecidableEq, Repr

-- The bits of the dots `low` to `high` of a half-column, counted from the top.
def mask : Side → Nat → Nat → Nat
  | .left, 0, 3 => 0x47
  | .left, 0, 2 => 0x07
  | .left, 1, 3 => 0x46
  | .left, 0, 1 => 0x03
  | .left, 1, 2 => 0x06
  | .left, 2, 3 => 0x44
  | .left, 0, 0 => 0x01
  | .left, 1, 1 => 0x02
  | .left, 2, 2 => 0x04
  | .left, 3, 3 => 0x40
  | .right, 0, 3 => 0xb8
  | .right, 0, 2 => 0x38
  | .right, 1, 3 => 0xb0
  | .right, 0, 1 => 0x18
  | .right, 1, 2 => 0x30
  | .right, 2, 3 => 0xa0
  | .right, 0, 0 => 0x08
  | .right, 1, 1 => 0x10
  | .right, 2, 2 => 0x20
  | .right, 3, 3 => 0x80
  | _, _, _ => 0

-- What a step covers of the half-column whose highest dot is in row `top`.
def Step.mask (side : Side) (top : Nat) (s : Step) : Nat :=
  let bottom := top + dotsDown - 1
  if top ≤ s.bottom && s.top ≤ bottom then
    Chart.mask side (max s.top top - top) (min s.bottom bottom - top)
  else 0

-- The bits of a half-column, none where there is no step.
def halfMask (side : Side) (top : Nat) : Option Step → Nat
  | none => 0
  | some s => s.mask side top

-- The steps two by two, as many pairs as there are columns.
def columns : Nat → List (Option Step) → List (Option Step × Option Step)
  | 0, _ => []
  | n + 1, [] => (none, none) :: columns n []
  | n + 1, [left] => (left, none) :: columns n []
  | n + 1, left :: right :: rest => (left, right) :: columns n rest

-- The character of a column in a row.
def glyph (row : Nat) (column : Option Step × Option Step) : Char :=
  let top := row * dotsDown
  .ofNat (0x2800 + (halfMask .left top column.1 ||| halfMask .right top column.2))

-- The rows of a graph, from the top.
def encode (steps : List (Option Step)) (width height : Nat) : List String :=
  let columns := columns width steps
  (List.range height).map fun row => .ofList (columns.map (glyph row))

end TextCharts.Chart
