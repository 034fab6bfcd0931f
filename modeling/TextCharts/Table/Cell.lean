import TextCharts.Decimal.Layout
import TextCharts.Json.Basic
import TextCharts.Table.Number

namespace TextCharts

inductive ColumnKind
  | string
  | number
  | boolean
  deriving DecidableEq, Repr

namespace ColumnKind

def name : ColumnKind → String
  | string => "string"
  | number => "number"
  | boolean => "boolean"

def ofName? : String → Option ColumnKind
  | "string" => some string
  | "number" => some number
  | "boolean" => some boolean
  | _ => none

@[simp]
theorem ofName?_name (k : ColumnKind) : ofName? k.name = some k := by
  cases k <;> rfl

-- The kind that a header asks for; a text by default.
def ofToken (token : String) : ColumnKind :=
  (ofName? token).getD string

end ColumnKind

structure Column where
  name : String
  kind : ColumnKind
  deriving DecidableEq, Repr

-- A name, or a name and a kind with a colon between them; the first colon counts.
def Column.ofHeader (cell : String) : Column :=
  let chars := cell.toList
  match chars.dropWhile (· != ':') with
  | [] => ⟨cell, .string⟩
  | _ :: token => ⟨.ofList (chars.takeWhile (· != ':')), .ofToken (.ofList (Text.trim token))⟩

inductive Cell
  | string (s : String)
  | number (x : Float)
  | boolean (b : Bool)

-- Whether a cell means yes, as every text does but four, of which case is ignored.
def isAffirmative (raw : String) : Bool :=
  !(["false", "no", "0", ""].contains (Text.lowerAscii raw))

namespace Cell

def ofRaw : ColumnKind → String → Cell
  | .string, raw => .string raw
  | .number, raw => .number (Numeric.parse raw)
  | .boolean, raw => .boolean (isAffirmative raw)

-- Fills a row that is too short.
def missing : ColumnKind → Cell
  | .string => .string ""
  | .number => .number nan
  | .boolean => .boolean false

def toDouble? : Cell → Option Float
  | .number x => some x
  | _ => none

def shown : Cell → String
  | .string s => s
  | .number x => Decimal.plain x
  | .boolean b => if b then "true" else "false"

def toJson : Cell → Json
  | .string s => .string s
  | .number x => .number (.double x)
  | .boolean b => .bool b

end Cell
end TextCharts
