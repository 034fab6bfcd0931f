import Mathlib.Order.Bounds.Basic
import TextCharts.Proofs.Config.Routes
import TextCharts.Proofs.Table.Columns

namespace TextCharts

def Cell.kind : Cell → ColumnKind
  | string _  => .string
  | number _  => .number
  | boolean _ => .boolean

@[simp]
theorem Cell.kind_ofRaw (kind : ColumnKind) (raw : String) : (ofRaw kind raw).kind = kind := by
  cases kind <;> rfl

@[simp]
theorem Cell.kind_missing (kind : ColumnKind) : (missing kind).kind = kind := by
  cases kind <;> rfl

theorem Cell.kind_eq_number_iff {cell : Cell} : cell.kind = .number ↔ ∃ x, cell = .number x := by
  cases cell <;> simp [kind]

namespace Table

def cell? (table : Table) (i j : Nat) : Option Cell :=
  table.rows[i]?.bind (·[j]?)

-- What the rows below a header become.
structure Reads (header : List String) (rows : List (List String)) (table : Table) : Prop where
  columns : table.columns = header.map Column.ofHeader
  height  : table.rows.length = rows.length
  width   : ∀ row ∈ table.rows, row.length = table.columns.length
  given   : ∀ i j row raw column, rows[i]? = some row → row[j]? = some raw →
    table.columns[j]? = some column → table.cell? i j = some (.ofRaw column.kind raw)
  missing : ∀ i j row column, rows[i]? = some row → row[j]? = none →
    table.columns[j]? = some column → table.cell? i j = some (.missing column.kind)

structure Typed (table : Table) : Prop where
  kinds   : ∀ i j cell, table.cell? i j = some cell →
    ∃ column, table.columns[j]? = some column ∧ cell.kind = column.kind
  numbers : ∀ j column, table.columns[j]? = some column → column.kind = .number →
    table.rows.map (·[j]?) = (table.numbers j).map fun x => some (.number x)
  index   : ∀ name i, table.columnIndex? name = some i ↔
    IsGreatest {i | ∃ column, table.columns[i]? = some column ∧ column.name = name} i

variable {table : Table} {columns : List Column} {header row : List String}
  {rows : List (List String)} {name : String} {i j : Nat} {cell : Cell}

theorem readRow_getElem? : (readRow columns row)[j]? = columns[j]?.map fun column =>
    row[j]?.elim (.missing column.kind) (.ofRaw column.kind) := by
  induction columns generalizing row j with
  | nil                    => simp [readRow]
  | cons column columns hi => cases row <;> cases j <;> simp [readRow, hi]

theorem cell?_ofRows : (ofRows (header :: rows)).cell? i j = rows[i]?.bind fun row =>
    (header.map Column.ofHeader)[j]?.map fun column =>
      row[j]?.elim (.missing column.kind) (.ofRaw column.kind) := by
  rw [cell?, ofRows, List.getElem?_map, Option.bind_map]
  exact congrArg _ (funext fun _ => readRow_getElem?)

theorem ofRows_reads : Reads header rows (ofRows (header :: rows)) where
  columns := rfl
  height  := List.length_map _
  width   := fun _ => length_of_mem_ofRows
  given   := by
    intro i j row raw column place found named
    have named : (header.map Column.ofHeader)[j]? = some column := named
    rw [cell?_ofRows, place, Option.bind_some, named, found]
    rfl
  missing := by
    intro i j row column place absent named
    have named : (header.map Column.ofHeader)[j]? = some column := named
    rw [cell?_ofRows, place, Option.bind_some, named, absent]
    rfl

theorem kind_of_cell?_ofRows (h : (ofRows (header :: rows)).cell? i j = some cell) :
    ∃ column, (ofRows (header :: rows)).columns[j]? = some column ∧ cell.kind = column.kind := by
  rw [cell?_ofRows] at h
  obtain ⟨row, -, h⟩ := Option.bind_eq_some_iff.mp h
  obtain ⟨column, named, h⟩ := Option.map_eq_some_iff.mp h
  refine ⟨column, named, ?_⟩
  rw [← h]
  cases row[j]? <;> simp

theorem columnIndex?_lt (h : table.columnIndex? name = some i) : i < table.width := by
  obtain ⟨j, found, rfl⟩ := Option.map_eq_some_iff.mp h
  have := (List.findIdx?_eq_some_iff_getElem.mp found).1
  rw [List.length_reverse] at this
  rw [width]
  omega

theorem columnIndex?_eq_some_iff_isGreatest : table.columnIndex? name = some i ↔
    IsGreatest {i | ∃ column, table.columns[i]? = some column ∧ column.name = name} i := by
  constructor
  case mp =>
    intro h
    have place := List.getElem?_eq_getElem (columnIndex?_lt h)
    have last := columnIndex?_eq_some_iff.mp (by rw [h, Option.bind_some, place]; rfl)
    refine ⟨⟨_, last.place, last.named⟩, fun later ⟨column, place, named⟩ => ?_⟩
    exact Nat.le_of_not_lt fun lt => last.last later column lt place named
  case mpr =>
    intro ⟨⟨column, place, named⟩, greatest⟩
    have last : table.LastNamed name i column := {
      place, named
      last := fun later column' lt place' named' =>
        Nat.not_le_of_lt lt (greatest ⟨column', place', named'⟩) }
    obtain ⟨i', found, h⟩ := Option.bind_eq_some_iff.mp (columnIndex?_eq_some_iff.mpr last)
    obtain ⟨_, _, same⟩ := Option.map_eq_some_iff.mp h
    rw [found, ← (Prod.mk.inj same).1]

-- Wherever every cell has the kind of its column, a column of numbers has numbers only.
theorem map_numbers_eq {column : Column}
    (kinds : ∀ i j cell, table.cell? i j = some cell →
      ∃ column, table.columns[j]? = some column ∧ cell.kind = column.kind)
    (width : ∀ row ∈ table.rows, row.length = table.columns.length)
    (place : table.columns[j]? = some column) (number : column.kind = .number) :
    table.rows.map (·[j]?) = (table.numbers j).map fun x => some (.number x) := by
  rw [numbers, List.map_map]
  refine List.map_congr_left fun row mem => ?_
  have lt : j < row.length := width row mem ▸ (List.getElem?_eq_some_iff.mp place).1
  obtain ⟨i, hi⟩ := List.mem_iff_getElem?.mp mem
  have found : table.cell? i j = some row[j] := by
    rw [cell?, hi, Option.bind_some, List.getElem?_eq_getElem lt]
  obtain ⟨column', place', kind⟩ := kinds i j row[j] found
  cases place.symm.trans place'
  obtain ⟨x, hx⟩ := Cell.kind_eq_number_iff.mp (kind.trans number)
  simp [List.getElem?_eq_getElem lt, hx, Cell.toDouble?]

theorem ofRows_typed : Typed (ofRows (header :: rows)) where
  kinds _ _ _ h            := kind_of_cell?_ofRows h
  numbers _ _ place number :=
    map_numbers_eq (fun _ _ _ => kind_of_cell?_ofRows) ofRows_reads.width place number
  index _ _                := columnIndex?_eq_some_iff_isGreatest

end Table

open CommandLine

-- The header of a table of cells is never stripped.
theorem CommandLine.ParseArguments.keeps_header {a : ParseArguments} {d : Dialect}
    (cells : a.raw = false) (built : a.dialect = .ok d) : d.stripHeader = false := by
  have strip := (((Dialect.Draft.built a.settings).made d).mp built).stripHeader
  simpa [Dialect.ofSettings_settings, cells] using strip

theorem CommandLine.ParseArguments.run_cells {a : ParseArguments} {s : Surroundings}
    {d : Dialect} {text : String} (cells : a.raw = false) (read : a.text s = .ok text)
    (built : a.dialect = .ok d) :
    a.run s = { text := (Table.parse d text).toJson.pretty 0 ++ "\n" } := by
  have same : { d with stripHeader := false } = d := by
    rw [← keeps_header cells built]
  rw [Table.parse, same]
  simp [run, read, built, toJson, cells, Except.mapError, bind, Except.bind, pure, Except.pure,
    Printed.ofResult]

namespace Table

-- The table of a text and what is printed for it, by a command for cells whose dialect is the same
-- but for the header.
structure Faithful (d : Dialect) (text : String) : Prop where
  rows    : ∃ header rows, Dialect.parse { d with stripHeader := false } text = header :: rows ∧
    Reads header rows (parse d text)
  typed   : Typed (parse d text)
  header  : ∀ strip, parse { d with stripHeader := strip } text = parse d text
  printed : ∀ (s : Surroundings) words logLevel (a : ParseArguments) d',
    Arguments.ofWords words = .ok ⟨logLevel, .parse a⟩ →
    LogFilter.check (logLevel.getD "") = .ok () → a.raw = false → a.text s = .ok text →
    a.dialect = .ok d' → { d' with stripHeader := d.stripHeader } = d →
    run s words = { output := (parse d text).toJson.pretty 0 ++ "\n" }

theorem parse_faithful (d : Dialect) (text : String) : Faithful d text := by
  have ⟨header, rows, h⟩ := List.exists_cons_of_ne_nil
    (@Dialect.parse_ne_nil { d with stripHeader := false } rfl text)
  have table : parse d text = ofRows (header :: rows) := congrArg ofRows h
  exact {
    rows    := ⟨header, rows, h, table ▸ ofRows_reads⟩
    typed   := table ▸ ofRows_typed
    header  := fun _ => rfl
    printed := by
      intro s words logLevel a d' read good cells given built same
      have same : parse d' text = parse d text := by rw [← same]; rfl
      simp only [run, read, Arguments.run, good, Command.run, a.run_cells cells given built, same]
      rfl }

end Table
end TextCharts
