import TextCharts.Delimited.Scan
import TextCharts.Table.Cell

namespace TextCharts

structure Table where
  columns : List Column := []
  rows : List (List Cell) := []

namespace Table

-- One cell a column; fields beyond the last column are left out.
def readRow : List Column → List String → List Cell
  | [], _ => []
  | column :: columns, [] => .missing column.kind :: readRow columns []
  | column :: columns, raw :: row => .ofRaw column.kind raw :: readRow columns row

def ofRows : List (List String) → Table
  | [] => {}
  | header :: rows =>
    let columns := header.map Column.ofHeader
    { columns, rows := rows.map (readRow columns) }

-- The header is always needed, whatever the dialect says.
def parse (d : Dialect) (text : String) : Table :=
  ofRows (Dialect.parse { d with stripHeader := false } text)

def width (t : Table) : Nat :=
  t.columns.length

-- The position of a column; of several with one name, the last.
def columnIndex? (t : Table) (name : String) : Option Nat :=
  (t.columns.reverse.findIdx? (·.name == name)).map (t.width - 1 - ·)

def firstOf? (t : Table) (kind : ColumnKind) : Option Nat :=
  t.columns.findIdx? (·.kind == kind)

-- What is no number in the column counts as not a number.
def numbers (t : Table) (index : Nat) : List Float :=
  t.rows.map fun row => (row[index]?.bind Cell.toDouble?).getD nan

def toJson (t : Table) : Json :=
  .object [
    ("columns", .array (t.columns.map fun c =>
      .object [("name", .string c.name), ("type", .string c.kind.name)])),
    ("rows", .array (t.rows.map fun row => .array (row.map Cell.toJson)))]

end Table
end TextCharts
