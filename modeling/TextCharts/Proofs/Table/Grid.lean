import Mathlib.Algebra.GroupWithZero.Nat
import Mathlib.Data.List.Forall2
import Mathlib.Order.Bounds.Basic
import TextCharts.Grid
import TextCharts.Proofs.Page.Config
import TextCharts.Proofs.Render.Options
import TextCharts.Proofs.Table.Columns
import TextCharts.Proofs.Text.Lines

namespace TextCharts.Grid

open Text (HasLines IsLine blanks unlines)

variable {sides : List Bool} {header row : List String} {rows : List (List String)}
variable {column w : Nat} {right : Bool} {cell : String}

-- The greatest length of the texts of a column.
theorem width_isGreatest (some : rows ≠ []) (wide : ∀ row ∈ rows, column < row.length) :
    IsGreatest (String.length '' {text | ∃ row ∈ rows, row[column]? = Option.some text})
      (width column rows) := by
  let lengths := rows.map fun row => (row[column]?.getD "").length
  have ⟨m, max⟩ : ∃ m, lengths.max? = Option.some m := by
    refine Option.ne_none_iff_exists'.mp fun none => some ?_
    simpa [lengths] using none
  have ⟨mem, le⟩ := List.max?_eq_some_iff.mp max
  have width : width column rows = m := by
    rw [Grid.width, List.foldl_max, max]
    exact Nat.zero_max m
  rw [width]
  constructor
  case left  =>
    obtain ⟨row, here, rfl⟩ := List.mem_map.mp mem
    refine ⟨row[column]?.getD "", ⟨row, here, ?_⟩, rfl⟩
    rw [List.getElem?_eq_getElem (wide row here), Option.getD_some]
  case right =>
    rintro _ ⟨text, ⟨row, mem, place⟩, rfl⟩
    have le := le _ (List.mem_map_of_mem mem)
    rwa [place] at le

section

variable {widths : List Nat} {cells : List String}

theorem rule_cons_cons (left middle right : String) (w w' : Nat) (rest : List Nat) :
    rule left middle right (w :: w' :: rest) =
      left ++ Text.rule (w + 2) ++ rule middle middle right (w' :: rest) := by
  simp [rule, String.append_assoc]

theorem isLine_rule {left middle right : String} (hl : IsLine 1 left) (hm : IsLine 1 middle)
    (hr : IsLine 1 right) (some : widths ≠ []) :
    IsLine (1 + (widths.map (· + 3)).sum) (rule left middle right widths) := by
  induction widths generalizing left with
  | nil              => contradiction
  | cons w widths hi =>
    have box := hl.append (Text.isLine_rule (w + 2))
    cases widths with
    | nil          =>
      have width : 1 + (w + 2) + 1 = 1 + (w + 3 + 0) := by omega
      exact width ▸ box.append hr
    | cons w' rest =>
      have parts := box.append (hi hm (by simp))
      rw [rule_cons_cons, List.map_cons, List.sum_cons]
      have width : 1 + (w + 2) + (1 + ((w' :: rest).map (· + 3)).sum) =
          1 + (w + 3 + ((w' :: rest).map (· + 3)).sum) := by omega
      exact width ▸ parts

-- Every box of a row has room for its text.
def Fits : List Nat → List String → Prop :=
  List.Forall₂ fun w cell => cell.length ≤ w

theorem isLine_box (right : Bool) (fit : cell.length ≤ w) (whole : '\n' ∉ cell.toList) :
    IsLine (w + 3) (" " ++ align right w cell ++ " │") := by
  have blank : IsLine 1 " " := ⟨rfl, by decide⟩
  have border : IsLine 2 " │" := ⟨rfl, by decide⟩
  have field : IsLine w (align right w cell) := by
    cases right
    · exact Text.isLine_alignLeft fit whole
    · exact Text.isLine_alignRight fit whole
  have width : 1 + w + 2 = w + 3 := by omega
  exact width ▸ (blank.append field).append border

theorem line_isLine (fits : Fits widths cells) (sided : sides.length = widths.length)
    (whole : ∀ cell ∈ cells, '\n' ∉ cell.toList) :
    IsLine (widths.map (· + 3)).sum (line widths sides cells) := by
  induction fits generalizing sides with
  | nil              => exact ⟨rfl, by simp [line]⟩
  | cons fit fits hi =>
    obtain ⟨right, sides, rfl⟩ := List.exists_cons_of_length_eq_add_one sided
    have ⟨h, whole⟩ := List.forall_mem_cons.mp whole
    exact (isLine_box right fit h).append (hi (by simpa using sided) whole)

-- A line feed in a text is one in its line.
theorem feed_mem_line (fits : Fits widths cells) (sided : sides.length = widths.length)
    (mem : cell ∈ cells) (feed : '\n' ∈ cell.toList) : '\n' ∈ (line widths sides cells).toList := by
  induction fits generalizing sides with
  | nil              => contradiction
  | cons fit fits hi =>
    obtain ⟨right, sides, rfl⟩ := List.exists_cons_of_length_eq_add_one sided
    simp only [line, String.toList_append, List.mem_append]
    cases List.mem_cons.mp mem with
    | inl here  =>
      refine .inl (.inl (.inr ?_))
      cases right <;> simp [align, Text.alignLeft, Text.alignRight, ← here, feed]
    | inr later => exact .inr (hi (by simpa using sided) later)

-- Where the texts of a column begin in every line.
def fieldStart (widths : List Nat) (column : Nat) : Nat :=
  2 + ((widths.take column).map (· + 3)).sum

-- What stands in a line where the texts of a column do.
def field (widths : List Nat) (column : Nat) (line : String) : String :=
  .ofList ((line.toList.drop (fieldStart widths column)).take (widths[column]?.getD 0))

-- A text at one end of its field and nothing else in it.
inductive Aligned (width : Nat) (text : String) : Bool → String → Prop
  | left {n : Nat} (fills : text.length + n = width) : Aligned width text false (text ++ blanks n)
  | right {n : Nat} (fills : n + text.length = width) : Aligned width text true (blanks n ++ text)

theorem align_aligned (right : Bool) (fit : cell.length ≤ w) :
    Aligned w cell right (align right w cell) := by
  cases right
  · exact .left (Nat.add_sub_cancel' fit)
  · exact .right (Nat.sub_add_cancel fit)

theorem Aligned.length {text : String} (aligned : Aligned w cell right text) : text.length = w := by
  cases aligned with
  | left fills  => simpa using fills
  | right fills => simpa using fills

theorem length_box (right : Bool) (fit : cell.length ≤ w) :
    (" " ++ align right w cell ++ " │").length = w + 3 := by
  have blank : " ".length = 1 := rfl
  have border : " │".length = 2 := rfl
  rw [String.length_append, String.length_append, (align_aligned right fit).length, blank, border]
  omega

theorem line_field (fits : Fits widths cells) (room : widths[column]? = some w)
    (side : sides[column]? = some right) (place : cells[column]? = some cell) :
    ((line widths sides cells).toList.drop (1 + ((widths.take column).map (· + 3)).sum)).take w =
      (align right w cell).toList := by
  induction fits generalizing sides column with
  | nil                        => simp at room
  | @cons w' cell' _ _ fit _ hi =>
    cases sides with
    | nil                => simp at side
    | cons right' sides =>
      cases column with
      | zero        =>
        simp only [List.getElem?_cons_zero, Option.some.injEq] at room side place
        subst room side place
        have length : (align right' w' cell').toList.length = w' :=
          (align_aligned right' fit).length
        simp [line, List.take_left' length]
      | succ column =>
        simp only [List.getElem?_cons_succ] at room side place
        have length : (" " ++ align right' w' cell' ++ " │").toList.length = w' + 3 :=
          length_box right' fit
        rw [List.take_succ_cons, List.map_cons, List.sum_cons, Nat.add_left_comm, line,
          String.toList_append, ← length, List.drop_length_add_append]
        exact hi room side place

theorem field_line (fits : Fits widths cells) (room : widths[column]? = some w)
    (side : sides[column]? = some right) (place : cells[column]? = some cell) :
    field widths column ("│" ++ line widths sides cells) = align right w cell := by
  have start : fieldStart widths column = 1 + ((widths.take column).map (· + 3)).sum + 1 := by
    rw [fieldStart]
    omega
  have border : "│".toList = ['│'] := rfl
  rw [field, room, start, String.toList_append, border, List.singleton_append, List.drop_succ_cons,
    Option.getD_some, line_field fits room side place, String.ofList_toList]

-- What stands in a field is the text that belongs there, with blanks.
theorem line_aligned (fits : Fits widths cells) (room : widths[column]? = some w)
    (side : sides[column]? = some right) (place : cells[column]? = some cell) :
    Aligned w cell right (field widths column ("│" ++ line widths sides cells)) := by
  have ⟨lt, hw⟩ := List.getElem?_eq_some_iff.mp room
  have ⟨lt', hc⟩ := List.getElem?_eq_some_iff.mp place
  have fit := fits.get lt lt'
  simp only [List.get_eq_getElem, hw, hc] at fit
  rw [field_line fits room side place]
  exact align_aligned right fit

end

@[simp]
theorem length_widths : (widths header rows).length = header.length := by
  simp [widths]

-- What a grid is made of: the names of at least one column, a side for each of them, and rows with
-- a text for each.
structure Shape (header : List String) (sides : List Bool) (rows : List (List String)) : Prop where
  named : header ≠ []
  sided : sides.length = header.length
  rect  : ∀ row ∈ rows, row.length = header.length

-- No text of a grid breaks its line.
def Whole (header : List String) (rows : List (List String)) : Prop :=
  ∀ row ∈ header :: rows, ∀ cell ∈ row, '\n' ∉ cell.toList

theorem Shape.isGreatest (shape : Shape header sides rows) (lt : column < header.length) :
    IsGreatest (String.length '' {text | ∃ row ∈ header :: rows, row[column]? = some text})
      (width column (header :: rows)) :=
  width_isGreatest (List.cons_ne_nil header rows)
    (List.forall_mem_cons.mpr ⟨lt, fun row mem => (shape.rect row mem).symm ▸ lt⟩)

theorem Shape.fits (shape : Shape header sides rows) (mem : row ∈ header :: rows) :
    Fits (widths header rows) row := by
  have length : row.length = header.length := by
    cases List.mem_cons.mp mem with
    | inl here  => rw [here]
    | inr later => exact shape.rect row later
  refine List.forall₂_iff_get.mpr ⟨by simp [length], fun column _ lt => ?_⟩
  have greatest := shape.isGreatest (length ▸ lt)
  simpa [widths] using greatest.2 ⟨row[column], ⟨row, mem, List.getElem?_eq_getElem lt⟩, rfl⟩

theorem length_lines : (lines header sides rows).length = rows.length + 4 := by
  simp [lines]

theorem Shape.isLine (shape : Shape header sides rows) (whole : Whole header rows) :
    ∀ line ∈ lines header sides rows,
      IsLine (1 + ((widths header rows).map (· + 3)).sum) line := by
  have border : IsLine 1 "│" := ⟨rfl, by decide⟩
  have some : widths header rows ≠ [] := by
    rw [← List.length_pos_iff, length_widths]
    exact List.length_pos_iff.mpr shape.named
  simp only [lines, List.forall_mem_append, List.forall_mem_cons, List.forall_mem_map]
  refine ⟨⟨?top, ?names, ?middle, ?cells⟩, ?bottom, by simp⟩
  case top    => exact isLine_rule ⟨rfl, by decide⟩ ⟨rfl, by decide⟩ ⟨rfl, by decide⟩ some
  case middle => exact isLine_rule ⟨rfl, by decide⟩ ⟨rfl, by decide⟩ ⟨rfl, by decide⟩ some
  case bottom => exact isLine_rule ⟨rfl, by decide⟩ ⟨rfl, by decide⟩ ⟨rfl, by decide⟩ some
  case names  =>
    have mem : header ∈ header :: rows := List.mem_cons_self
    exact border.append (line_isLine (shape.fits mem) (by simp) (whole _ mem))
  case cells  =>
    intro row mem
    have mem : row ∈ header :: rows := List.mem_cons_of_mem _ mem
    exact border.append (line_isLine (shape.fits mem) (by simp [shape.sided]) (whole _ mem))

theorem lines_names : (lines header sides rows)[1]? =
    some ("│" ++ line (widths header rows) (header.map fun _ => false) header) :=
  rfl

-- Three lines stand before the cells.
theorem lines_cells {index : Nat} (place : rows[index]? = some row) :
    (lines header sides rows)[index + 3]? = some ("│" ++ line (widths header rows) sides row) := by
  have lt : index < rows.length := (List.getElem?_eq_some_iff.mp place).1
  simp only [lines, List.cons_append, List.getElem?_cons_succ]
  rw [List.getElem?_append_left (by simpa using lt), List.getElem?_map, place]
  rfl

theorem Shape.exists_feed (shape : Shape header sides rows) (broken : ¬Whole header rows) :
    ∃ line ∈ lines header sides rows, '\n' ∈ line.toList := by
  have framed {text : String} (feed : '\n' ∈ text.toList) : '\n' ∈ ("│" ++ text).toList := by
    simp [feed]
  simp only [Whole, not_forall, not_not] at broken
  obtain ⟨row, mem, cell, here, feed⟩ := broken
  cases List.mem_cons.mp mem with
  | inl names =>
    subst names
    exact ⟨_, List.mem_of_getElem? lines_names, framed
      (feed_mem_line (shape.fits mem) (by simp) here feed)⟩
  | inr cells =>
    have ⟨index, place⟩ := List.mem_iff_getElem?.mp cells
    exact ⟨_, List.mem_of_getElem? (lines_cells place), framed
      (feed_mem_line (shape.fits mem) (by simp [shape.sided]) here feed)⟩

-- A grid has the lines that it should have, all of them equally long, unless a text breaks its
-- line.
theorem Shape.hasLines_iff (shape : Shape header sides rows) :
    (∃ ls, HasLines (unlines (lines header sides rows)) ls ∧ ls.length = rows.length + 4 ∧
      ∀ line ∈ ls, line.length = 1 + ((widths header rows).map (· + 3)).sum) ↔
        Whole header rows := by
  constructor
  case mp  =>
    intro ⟨ls, has, count, _⟩
    by_contra broken
    have more := Text.length_lt_count (shape.exists_feed broken)
    rw [length_lines, ← has.length_eq, count] at more
    exact more.ne rfl
  case mpr =>
    intro whole
    have isLine := shape.isLine whole
    exact ⟨_, Text.hasLines_of_isLine isLine, length_lines,
      fun line mem => (isLine line mem).length⟩

-- A text in a column of a table: its name or one of the cells that are shown.
inductive Stands (table : Table) (shown column : Nat) : String → Prop
  | name {c : Column} (place : table.columns[column]? = some c) : Stands table shown column c.name
  | cell {row : List Cell} {c : Cell} (mem : row ∈ table.rows.take shown)
      (place : row[column]? = some c) : Stands table shown column c.shown

def Unbroken (table : Table) (shown : Nat) : Prop :=
  ∀ column text, Stands table shown column text → '\n' ∉ text.toList

-- The lines of a grid, with the texts of a table in their fields.
structure Holds (table : Table) (shown : Nat) (widths : List Nat) (lines : List String) : Prop where
  names : ∃ line, lines[1]? = some line ∧
    ∀ j column w, table.columns[j]? = some column → widths[j]? = some w →
      Aligned w column.name false (field widths j line)
  cells : ∀ index row, index < shown → table.rows[index]? = some row →
    row.length = table.columns.length ∧ ∃ line, lines[index + 3]? = some line ∧
      ∀ j column cell w, table.columns[j]? = some column → row[j]? = some cell →
        widths[j]? = some w →
          Aligned w cell.shown (column.kind == .number) (field widths j line)

-- A grid of the first rows of a table. Its lines are equally long and as many as they should be
-- exactly if no text breaks its line.
structure Tabulates (table : Table) (shown : Nat) (widths : List Nat) (grid : String) : Prop where
  columns : widths.length = table.columns.length
  widest  : ∀ column w, widths[column]? = some w →
    IsGreatest (String.length '' {text | Stands table shown column text}) w
  lines   : (∃ lines, HasLines grid lines ∧ lines.length = shown + 4 ∧
    ∀ line ∈ lines, line.length = 1 + (widths.map (· + 3)).sum) ↔ Unbroken table shown
  holds   : Unbroken table shown → ∃ lines, HasLines grid lines ∧ Holds table shown widths lines

section

variable {table : Table} {shown : Nat} {text : String}

def names (table : Table) : List String :=
  table.columns.map (·.name)

def cells (table : Table) (shown : Nat) : List (List String) :=
  (table.rows.take shown).map (·.map Cell.shown)

def numeric (table : Table) : List Bool :=
  table.columns.map (·.kind == .number)

theorem stands_iff : Stands table shown column text ↔
    ∃ row ∈ names table :: cells table shown, row[column]? = some text := by
  constructor
  case mp  =>
    intro stands
    cases stands with
    | name place     => exact ⟨_, List.mem_cons_self, by simp [names, place]⟩
    | cell mem place =>
      exact ⟨_, List.mem_cons_of_mem _ (List.mem_map_of_mem mem), by simp [place]⟩
  case mpr =>
    intro ⟨row, mem, place⟩
    cases List.mem_cons.mp mem with
    | inl here  =>
      subst here
      simp only [names, List.getElem?_map, Option.map_eq_some_iff] at place
      obtain ⟨c, place, rfl⟩ := place
      exact .name place
    | inr later =>
      obtain ⟨row, here, rfl⟩ := List.mem_map.mp later
      simp only [List.getElem?_map, Option.map_eq_some_iff] at place
      obtain ⟨c, place, rfl⟩ := place
      exact .cell here place

theorem whole_iff : Whole (names table) (cells table shown) ↔ Unbroken table shown := by
  constructor
  case mp  =>
    intro whole column text stands
    have ⟨row, mem, place⟩ := stands_iff.mp stands
    exact whole row mem text (List.mem_of_getElem? place)
  case mpr =>
    intro whole row mem text here
    have ⟨column, place⟩ := List.mem_iff_getElem?.mp here
    exact whole column text (stands_iff.mpr ⟨row, mem, place⟩)

theorem shape (named : table.columns ≠ [])
    (rect : ∀ row ∈ table.rows, row.length = table.columns.length) (shown : Nat) :
    Shape (names table) (numeric table) (cells table shown) where
  named := by simpa [names] using named
  sided := by simp [numeric, names]
  rect  := by
    intro row mem
    obtain ⟨row, here, rfl⟩ := List.mem_map.mp mem
    simpa [names] using rect row (List.mem_of_mem_take here)

theorem holds (named : table.columns ≠ [])
    (rect : ∀ row ∈ table.rows, row.length = table.columns.length) :
    Holds table shown (widths (names table) (cells table shown))
      (lines (names table) (numeric table) (cells table shown)) where
  names := by
    refine ⟨_, lines_names, fun j column w place room => ?_⟩
    have fits := (shape named rect shown).fits List.mem_cons_self
    have name : (names table)[j]? = some column.name := by simp [names, place]
    exact line_aligned fits room (by rw [List.getElem?_map, name]; rfl) name
  cells := by
    intro index row lt here
    have place : (cells table shown)[index]? = some (row.map Cell.shown) := by
      simp [cells, lt, here]
    have fits := (shape named rect shown).fits
      (List.mem_cons_of_mem _ (List.mem_of_getElem? place))
    refine ⟨rect row (List.mem_of_getElem? here), _, lines_cells place, ?_⟩
    intro j column cell w column_place cell_place room
    exact line_aligned fits room (by simp [numeric, column_place]) (by simp [cell_place])

theorem tabulates (named : table.columns ≠ [])
    (rect : ∀ row ∈ table.rows, row.length = table.columns.length)
    (le : shown ≤ table.rows.length) :
    Tabulates table shown (widths (names table) (cells table shown))
      (unlines (lines (names table) (numeric table) (cells table shown))) := by
  have shape := shape named rect shown
  refine ⟨by simp [names], ?widest, ?lines, ?holds⟩
  case widest =>
    intro column w room
    have ⟨lt, width⟩ := List.getElem?_eq_some_iff.mp room
    have greatest := shape.isGreatest (by simpa using lt)
    simp only [← stands_iff] at greatest
    rw [← width]
    simpa [widths] using greatest
  case lines  =>
    have count : (cells table shown).length = shown := by simpa [cells] using le
    rw [← whole_iff, ← shape.hasLines_iff, count]
  case holds  =>
    intro whole
    have isLine := shape.isLine (whole_iff.mpr whole)
    exact ⟨_, Text.hasLines_of_isLine isLine, holds named rect⟩

end

-- What stands above a grid: a title, if there is one.
inductive Heading (options : Options) : String → Prop
  | title {text : String} (given : options.get? "title" = some (.string text)) :
      Heading options (text ++ "\n")
  | none (absent : ∀ text, options.get? "title" ≠ some (.string text)) : Heading options ""

-- What stands below it: how many rows are left out, if any are.
inductive Remainder (rows shown : Nat) : String → Prop
  | some (more : shown < rows) :
      Remainder rows shown ("… " ++ toString (rows - shown) ++ " more rows\n")
  | none (all : rows ≤ shown) : Remainder rows shown ""

def shown (table : Table) (limit : Option Nat) : Nat :=
  min table.rows.length (limit.getD table.rows.length)

section

variable {table : Table} {options : Options} {limit : Option Nat}

theorem shownRows_eq : shownRows table limit = cells table (shown table limit) := by
  cases limit with
  | none   => simp [shownRows, cells, shown]
  | some n =>
    have take : table.rows.take n = table.rows.take (shown table (some n)) := by
      rw [List.take_eq_take_iff, shown, Option.getD_some]
      omega
    rw [cells, ← take]
    rfl

theorem draw_eq (named : table.columns ≠ []) (read : options.natural? "maxRows" = .ok limit) :
    draw ⟨false⟩ table options = .ok (unlines (titleLines ⟨false⟩ (options.text? "title") ++
      lines (names table) (numeric table) (cells table (shown table limit)) ++
        restLines table.rows.length (cells table (shown table limit)).length)) := by
  have isEmpty : table.columns.isEmpty = false := by simpa using named
  simp only [draw, isEmpty, read, shownRows_eq]
  rfl

theorem heading_titleLines (options : Options) :
    Heading options (unlines (titleLines ⟨false⟩ (options.text? "title"))) := by
  cases given : options.text? "title" with
  | none      =>
    refine .none fun text present => ?_
    cases given.symm.trans (Target.Config.text?_eq_some_iff.mpr present)
  | some text =>
    have line : unlines (titleLines ⟨false⟩ (.some text)) = text ++ "\n" := by
      simp [titleLines, unlines, Color.paint]
    exact line ▸ .title (Target.Config.text?_eq_some_iff.mp given)

theorem remainder_restLines (rows shown : Nat) :
    Remainder rows shown (unlines (restLines rows shown)) := by
  simp only [restLines]
  split
  case isTrue more =>
    have line : unlines [s!"… {rows - shown} more rows"] =
        "… " ++ toString (rows - shown) ++ " more rows\n" := by
      simp [unlines, String.append_assoc]
      rfl
    exact line ▸ .some more
  case isFalse all => exact .none (Nat.le_of_not_lt all)

-- A table is drawn as a grid, with a title above it and the number of further rows below it.
theorem draw_tabulates {raws : List (List String)} (named : (Table.ofRows raws).columns ≠ [])
    (asks : Options.Asks Options.IsNatural (options.get? "maxRows") limit) :
    ∃ heading widths grid remainder,
      draw ⟨false⟩ (.ofRows raws) options = .ok (heading ++ grid ++ remainder) ∧
        Heading options heading ∧
          Tabulates (.ofRows raws) (shown (.ofRows raws) limit) widths grid ∧
            Remainder (Table.ofRows raws).rows.length (shown (.ofRows raws) limit) remainder := by
  have rect : ∀ row ∈ (Table.ofRows raws).rows, row.length = (Table.ofRows raws).columns.length :=
    fun _ mem => Table.length_of_mem_ofRows mem
  have le : shown (.ofRows raws) limit ≤ (Table.ofRows raws).rows.length := Nat.min_le_left _ _
  have read : options.natural? "maxRows" = .ok limit :=
    Options.reads_natural.read?_eq_ok_iff.mpr asks
  refine ⟨_, _, _, _, ?drawn, heading_titleLines options, tabulates named rect le,
    remainder_restLines _ _⟩
  case drawn =>
    have count : (cells (.ofRows raws) (shown (.ofRows raws) limit)).length =
        shown (.ofRows raws) limit := by simpa [cells] using le
    rw [draw_eq named read, Text.unlines_append, Text.unlines_append, count]

end

-- Two rows, of which one is shown.
def parts : List (List String) :=
  [["name", "qty:number"], ["bolt", "12"], ["nut", "3"]]

def partsOptions : Options :=
  [("maxRows", .number (.integer 1)), ("title", .string "Parts")]

theorem parts_tabulated : (Table.ofRows parts).columns ≠ [] ∧
    Options.Asks Options.IsNatural (partsOptions.get? "maxRows") (some 1) ∧
      ∃ heading widths grid remainder,
        draw ⟨false⟩ (.ofRows parts) partsOptions = .ok (heading ++ grid ++ remainder) ∧
          Heading partsOptions heading ∧ Tabulates (.ofRows parts) 1 widths grid ∧
            Remainder 2 1 remainder := by
  have named : (Table.ofRows parts).columns ≠ [] := List.cons_ne_nil _ _
  have asks : Options.Asks Options.IsNatural (partsOptions.get? "maxRows") (some 1) :=
    .value (.natural 1)
  exact ⟨named, asks, draw_tabulates named asks⟩

end TextCharts.Grid
