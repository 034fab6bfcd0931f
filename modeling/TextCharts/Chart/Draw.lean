import TextCharts.Chart.Bins
import TextCharts.Chart.Braille
import TextCharts.Chart.Frame
import TextCharts.Render.Options
import TextCharts.Table.Basic

namespace TextCharts

namespace Chart

-- The column that the options name, or the first number column.
def series (table : Table) (options : Options) : Except DrawError (Nat × Column) :=
  match options.text? "series" with
  | some name =>
    match (table.columnIndex? name).bind fun i => table.columns[i]?.map (i, ·) with
    | some (i, column) =>
      if column.kind = .number then .ok (i, column) else .error (.unknownSeries name)
    | none => .error (.unknownSeries name)
  | none =>
    match (table.firstOf? .number).bind fun i => table.columns[i]?.map (i, ·) with
    | some found => .ok found
    | none => .error .noNumericColumn

-- The colour that the options name, if colours are used at all; orange if they name none.
def colorOf (style : Style) (options : Options) : Except DrawError (Option Color) :=
  if !style.color then .ok none
  else match options.text? "color" with
    | none => .ok (some .orange)
    | some name =>
      match Color.ofName name with
      | .ok color => .ok (some color)
      | .error e => .error (.color e)

-- The chart that the options ask for, for a series of values and a terminal of some width.
def ofOptions (style : Style) (options : Options) (name : String) (values : List Float)
    (terminal : Nat) : Except DrawError Chart := do
  let bounds := Extent.ofValues values
  let low := (← options.number? "yMin").getD bounds.low
  let high := (← options.number? "yMax").getD bounds.high
  let range : Extent := ⟨low, high⟩
  let width := (← options.natural? "width").getD
    (widthFor terminal values.length (range.labelWidth labelPlaces))
  let height := (← options.natural? "height").getD defaultHeight
  let color ← colorOf style options
  Draft.build {
    width, height, range, color
    title := (options.text? "title").getD name
    subtitle := options.text? "subtitle" }

-- The chart of a series, as text.
def plot (c : Chart) (fill : Fill) (values : List Float) : Except DrawError String := do
  let steps ← c.trace fill (bin values (c.width * dotsAcross))
  return c.frame (encode steps c.width c.height)

def draw (fill : Fill) (style : Style) (table : Table) (options : Options)
    (terminal : Nat) : Except DrawError String := do
  let (index, column) ← series table options
  let values := table.numbers index
  if !values.any Float.isFinite then throw .emptyData
  let chart ← ofOptions style options column.name values terminal
  chart.plot fill values

end Chart
end TextCharts
