import TextCharts.Render.Options
import TextCharts.Table.Basic
import TextCharts.Text.Line

namespace TextCharts.Grid

-- The number of a column's cells, and its name, are at most this wide.
def width (column : Nat) (rows : List (List String)) : Nat :=
  (rows.map fun row => (row[column]?.getD "").length).foldl max 0

def widths (header : List String) (rows : List (List String)) : List Nat :=
  (List.range header.length).map fun column => width column (header :: rows)

def rule (left middle right : String) (widths : List Nat) : String :=
  left ++ middle.intercalate (widths.map fun w => Text.rule (w + 2)) ++ right

def align (right : Bool) (width : Nat) (text : String) : String :=
  if right then Text.alignRight width text else Text.alignLeft width text

-- A row of boxes, with a width and a side for each.
def line : List Nat → List Bool → List String → String
  | w :: widths, right :: sides, cell :: cells =>
    " " ++ align right w cell ++ " │" ++ line widths sides cells
  | _, _, _ => ""

-- The grid of a header and rows of cells.
def lines (header : List String) (sides : List Bool) (rows : List (List String)) : List String :=
  let widths := widths header rows
  rule "┌" "┬" "┐" widths ::
    ("│" ++ line widths (header.map fun _ => false) header) ::
    rule "├" "┼" "┤" widths ::
    rows.map (fun row => "│" ++ line widths sides row) ++
    [rule "└" "┴" "┘" widths]

def shownRows (table : Table) (maxRows : Option Nat) : List (List String) :=
  let rows := match maxRows with
    | some n => table.rows.take n
    | none => table.rows
  rows.map (·.map Cell.shown)

def titleLines (style : Style) (title : Option String) : List String :=
  match title with
  | none => []
  | some text => [Color.paint (if style.color then some .orange else none) text]

-- Tells how many rows are left out.
def restLines (total shown : Nat) : List String :=
  if shown < total then [s!"… {total - shown} more rows"] else []

def draw (style : Style) (table : Table) (options : Options) : Except DrawError String := do
  if table.columns.isEmpty then throw .emptyData
  let rows := shownRows table (← options.natural? "maxRows")
  return Text.unlines (titleLines style (options.text? "title") ++
    lines (table.columns.map (·.name)) (table.columns.map (·.kind == .number)) rows ++
    restLines table.rows.length rows.length)

end TextCharts.Grid
