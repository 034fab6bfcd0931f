import TextCharts.Table.Basic

namespace TextCharts.Table

-- Of the columns of a name, the one that comes last.
structure LastNamed (table : Table) (name : String) (index : Nat) (column : Column) : Prop where
  place : table.columns[index]? = some column
  named : column.name = name
  last  : ∀ later column', index < later → table.columns[later]? = some column' →
    column'.name ≠ name

-- Of the columns of a kind, the one that comes first.
structure FirstOf (table : Table) (kind : ColumnKind) (index : Nat) (column : Column) : Prop where
  place : table.columns[index]? = some column
  fits  : column.kind = kind
  first : ∀ earlier column', earlier < index → table.columns[earlier]? = some column' →
    column'.kind ≠ kind

-- A cell of a column holds a number.
def Holds (table : Table) (index : Nat) (x : Float) : Prop :=
  ∃ row ∈ table.rows, row[index]? = some (.number x)

variable {table : Table} {name : String} {kind : ColumnKind} {index : Nat} {column : Column}

theorem findIdx?_eq_some_iff {α : Type} {items : List α} {p : α → Bool} :
    items.findIdx? p = some index ↔ (∃ a, items[index]? = some a ∧ p a) ∧
      ∀ earlier a, earlier < index → items[earlier]? = some a → p a = false := by
  simp only [List.findIdx?_eq_some_iff_getElem, List.getElem?_eq_some_iff]
  constructor
  case mp =>
    intro ⟨h, found, first⟩
    refine ⟨⟨_, ⟨h, rfl⟩, found⟩, fun earlier a lt ⟨_, ha⟩ => ?_⟩
    simpa [ha] using first earlier lt
  case mpr =>
    intro ⟨⟨a, ⟨h, ha⟩, found⟩, first⟩
    refine ⟨h, ha ▸ found, fun earlier lt => ?_⟩
    simp [first earlier _ lt ⟨by omega, rfl⟩]

theorem firstOf?_eq_some_iff :
    ((table.firstOf? kind).bind fun i => table.columns[i]?.map (i, ·)) = some (index, column) ↔
      table.FirstOf kind index column := by
  simp only [firstOf?, Option.bind_eq_some_iff, Option.map_eq_some_iff, findIdx?_eq_some_iff,
    Prod.mk.injEq, beq_iff_eq, beq_eq_false_iff_ne]
  constructor
  case mp =>
    intro ⟨i, ⟨⟨a, ha, fits⟩, first⟩, c, place, hi, hc⟩
    subst hi hc
    cases place.symm.trans ha
    exact ⟨place, fits, first⟩
  case mpr =>
    intro ⟨place, fits, first⟩
    exact ⟨index, ⟨⟨column, place, fits⟩, first⟩, column, place, rfl, rfl⟩

theorem firstOf?_eq_none_iff :
    ((table.firstOf? kind).bind fun i => table.columns[i]?.map (i, ·)) = none ↔
      ∀ column ∈ table.columns, column.kind ≠ kind := by
  constructor
  case mp =>
    intro none column mem fits
    cases h : table.columns.findIdx? (·.kind == kind) with
    | none   =>
      have := List.findIdx?_eq_none_iff.mp h column mem
      simp [fits] at this
    | some i =>
      have ⟨⟨a, ha, _⟩, _⟩ := findIdx?_eq_some_iff.mp h
      simp [firstOf?, h, ha] at none
  case mpr =>
    intro none
    refine Option.eq_none_iff_forall_ne_some.mpr fun (index, column) found => ?_
    have first := firstOf?_eq_some_iff.mp found
    exact none column (List.mem_of_getElem? first.place) first.fits

theorem lt_width (place : table.columns[index]? = some column) : index < table.width :=
  (List.getElem?_eq_some_iff.mp place).1

-- The columns from the last one on.
theorem reverse_getElem?_eq_some_iff : table.columns.reverse[index]? = some column ↔
    index < table.width ∧ table.columns[table.width - 1 - index]? = some column := by
  rw [width]
  by_cases h : index < table.columns.length
  case pos => simp only [List.getElem?_reverse h, h, true_and]
  case neg => simp [h]

theorem columnIndex?_eq_some_iff :
    ((table.columnIndex? name).bind fun i => table.columns[i]?.map (i, ·)) = some (index, column) ↔
      table.LastNamed name index column := by
  simp only [columnIndex?, Option.bind_eq_some_iff, Option.map_eq_some_iff, findIdx?_eq_some_iff,
    reverse_getElem?_eq_some_iff, Prod.mk.injEq, beq_iff_eq, beq_eq_false_iff_ne]
  constructor
  case mp =>
    intro ⟨i, ⟨j, ⟨⟨a, ⟨lt, ha⟩, named⟩, last⟩, hj⟩, c, place, hi, hc⟩
    subst hi hc hj
    cases place.symm.trans ha
    refine ⟨place, named, fun later column' after place' => ?_⟩
    have lt' := lt_width place'
    refine last (table.width - 1 - later) column' (by omega) ⟨by omega, ?_⟩
    rwa [Nat.sub_sub_self (by omega)]
  case mpr =>
    intro ⟨place, named, last⟩
    have lt := lt_width place
    have same : table.width - 1 - (table.width - 1 - index) = index := Nat.sub_sub_self (by omega)
    refine ⟨index, ⟨_, ⟨⟨column, ⟨?_, same.symm ▸ place⟩, named⟩, ?_⟩, same⟩, column, place, rfl,
      rfl⟩
    · omega
    · exact fun earlier column' before ⟨_, place'⟩ => last _ column' (by omega) place'

theorem toDouble?_eq_some_iff {cell : Cell} {x : Float} :
    cell.toDouble? = some x ↔ cell = .number x := by
  cases cell <;> simp [Cell.toDouble?]

-- What does not hold a number counts as one that is not finite.
theorem exists_finite_iff :
    (∃ v ∈ table.numbers index, v.isFinite) ↔ ∃ x, table.Holds index x ∧ x.isFinite := by
  have blank : ¬nan.isFinite := by decide +kernel
  simp only [numbers, Holds, List.mem_map]
  constructor
  case mp =>
    intro ⟨v, ⟨row, mem, hv⟩, finite⟩
    cases h : row[index]?.bind Cell.toDouble? with
    | none   => simp [← hv, h, blank] at finite
    | some x =>
      obtain ⟨cell, place, hx⟩ := Option.bind_eq_some_iff.mp h
      rw [toDouble?_eq_some_iff.mp hx] at place
      refine ⟨x, ⟨row, mem, place⟩, ?_⟩
      simpa [← hv, h] using finite
  case mpr =>
    intro ⟨x, ⟨row, mem, place⟩, finite⟩
    exact ⟨x, ⟨row, mem, by simp [place, Cell.toDouble?]⟩, finite⟩

theorem length_readRow (columns : List Column) (row : List String) :
    (readRow columns row).length = columns.length := by
  induction columns generalizing row with
  | nil               => rfl
  | cons _ columns hi => cases row <;> simp [readRow, hi]

-- Every row has one cell for every column.
theorem length_of_mem_ofRows {raws : List (List String)} {row : List Cell}
    (mem : row ∈ (ofRows raws).rows) : row.length = (ofRows raws).columns.length := by
  cases raws with
  | nil            => cases mem
  | cons header _ =>
    obtain ⟨raw, -, rfl⟩ := List.mem_map.mp mem
    exact length_readRow _ raw

end TextCharts.Table
