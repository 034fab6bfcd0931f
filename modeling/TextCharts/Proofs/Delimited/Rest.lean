import Mathlib.Data.List.Basic
import TextCharts.Delimited.Scan

namespace TextCharts

-- Rows of fields of which there is always a first. It is the one that grows.
@[ext]
structure Pieces (α : Type) where
  field : List α
  row : List (List α)
  rows : List (List (List α))

namespace Pieces

variable {α β : Type} {p : Pieces α}

def empty : Pieces α :=
  ⟨[], [], []⟩

def push (a : α) (p : Pieces α) : Pieces α :=
  { p with field := a :: p.field }

def newField (p : Pieces α) : Pieces α :=
  ⟨[], p.field :: p.row, p.rows⟩

def newRow (p : Pieces α) : Pieces α :=
  ⟨[], [], (p.field :: p.row) :: p.rows⟩

def toRows (p : Pieces α) : List (List (List α)) :=
  (p.field :: p.row) :: p.rows

def map (f : List α → List β) (p : Pieces α) : Pieces β :=
  ⟨f p.field, p.row.map f, p.rows.map (·.map f)⟩

theorem toRows_map {f : List α → List β} : (p.map f).toRows = p.toRows.map (·.map f) :=
  rfl

theorem toRows_ne_nil : p.toRows ≠ [] :=
  List.cons_ne_nil _ _

-- No row is without a field.
def Filled (p : Pieces α) : Prop :=
  ∀ row ∈ p.rows, row ≠ []

theorem filled_empty : (empty : Pieces α).Filled := by
  simp [Filled, empty]

theorem filled_push {a : α} : (p.push a).Filled ↔ p.Filled :=
  .rfl

theorem filled_newField : p.newField.Filled ↔ p.Filled :=
  .rfl

theorem filled_newRow : p.newRow.Filled ↔ p.Filled := by
  simp [Filled, newRow]

theorem Filled.toRows (h : p.Filled) {row : List (List α)} (hr : row ∈ p.toRows) : row ≠ [] := by
  cases List.mem_cons.mp hr with
  | inl hr => simp [hr]
  | inr hr => exact h row hr

theorem map_newField {f : List α → List β} (h : f [] = []) :
    p.newField.map f = (p.map f).newField := by
  simp [map, newField, h]

theorem map_newRow {f : List α → List β} (h : f [] = []) : p.newRow.map f = (p.map f).newRow := by
  simp [map, newRow, h]

theorem map_push {f : List α → List β} {a : α} {b : β} (h : f (a :: p.field) = b :: f p.field) :
    (p.push a).map f = (p.map f).push b := by
  simp [map, push, h]

theorem map_push_eq {f : List α → List β} {a : α} (h : f (a :: p.field) = f p.field) :
    (p.push a).map f = p.map f := by
  simp [map, push, h]

end Pieces

namespace Dialect

variable {d : Dialect}

-- What parts two rows.
def separator (d : Dialect) : List Char :=
  d.recordChars.1 :: d.recordChars.2.toList

theorem separator_eq (pos : 0 < d.recordSeparator.length) (le : d.recordSeparator.length ≤ 2) :
    d.separator = d.recordSeparator.toList := by
  rw [← String.length_toList] at pos le
  simp only [separator, recordChars]
  split
  case h_1 h => simp [h] at pos
  case h_2 first rest h =>
    cases rest with
    | nil         => simp [h]
    | cons c rest =>
      have : rest = [] := by simpa [h] using le
      simp [h, this]

-- What becomes of a field as it is closed.
def closed (d : Dialect) (field : List Char) : String :=
  .ofList (if d.trimFields then Text.trim field else field)

def rest (d : Dialect) : List Char → Scan.Place → Pieces Char
  | [], place => if place = .afterFirst then Pieces.empty.push d.recordChars.1 else .empty
  | c :: text, place =>
    let outside : Pieces Char :=
      if c = d.quoteChar then d.rest text .inside
      else if c = d.fieldSeparator then (d.rest text .outside).newField
      else if c = d.recordChars.1 then
        if d.recordChars.2 = none then (d.rest text .outside).newRow else d.rest text .afterFirst
      else (d.rest text .outside).push c
    match place with
    | .outside => outside
    | .inside =>
      if c = d.quoteChar then d.rest text .afterQuote else (d.rest text .inside).push c
    | .afterQuote => if c = d.quoteChar then (d.rest text .inside).push c else outside
    | .afterFirst =>
      if some c = d.recordChars.2 then (d.rest text .outside).newRow
      else outside.push d.recordChars.1

section

variable {c : Char} {text : List Char} {place : Scan.Place}

theorem rest_nil : d.rest [] place =
    if place = .afterFirst then Pieces.empty.push d.recordChars.1 else .empty :=
  rfl

theorem rest_outside : d.rest (c :: text) .outside =
    if c = d.quoteChar then d.rest text .inside
    else if c = d.fieldSeparator then (d.rest text .outside).newField
    else if c = d.recordChars.1 then
      if d.recordChars.2 = none then (d.rest text .outside).newRow else d.rest text .afterFirst
    else (d.rest text .outside).push c :=
  rfl

theorem rest_inside : d.rest (c :: text) .inside =
    if c = d.quoteChar then d.rest text .afterQuote else (d.rest text .inside).push c :=
  rfl

theorem rest_afterQuote : d.rest (c :: text) .afterQuote =
    if c = d.quoteChar then (d.rest text .inside).push c else d.rest (c :: text) .outside :=
  rfl

theorem rest_afterFirst : d.rest (c :: text) .afterFirst =
    if some c = d.recordChars.2 then (d.rest text .outside).newRow
    else (d.rest (c :: text) .outside).push d.recordChars.1 :=
  rfl

end

end Dialect

namespace Scan

variable {d : Dialect} {s : Scan} {p : Pieces Char} {c : Char} {place : Place} {text : List Char}

-- The rows of a scan whose text goes on in pieces.
def followedBy (d : Dialect) (s : Scan) (p : Pieces Char) : List (List String) :=
  s.rows.reverse ++
    (s.row.reverse ++ d.closed (s.field.reverse ++ p.field) :: p.row.map d.closed) ::
      p.rows.map (·.map d.closed)

-- Reading moves a character from the rest of a text to what has been read, and leaves the rows of
-- both together as they are. This is what carries the induction over a text.
theorem push_followedBy : (s.push c).followedBy d p = s.followedBy d (p.push c) := by
  simp [followedBy, push, Pieces.push]

theorem closeField_followedBy : (s.closeField d).followedBy d p = s.followedBy d p.newField := by
  simp [followedBy, closeField, Pieces.newField, Dialect.closed]

theorem closeRow_followedBy : (s.closeRow d).followedBy d p = s.followedBy d p.newRow := by
  simp [followedBy, closeRow, closeField, Pieces.newRow, Dialect.closed]

theorem goto_followedBy : (s.goto place).followedBy d p = s.followedBy d p :=
  rfl

theorem readOutside_followedBy (h : s.place = .outside) :
    (s.readOutside d c).followedBy d (d.rest text (s.readOutside d c).place) =
      s.followedBy d (d.rest (c :: text) .outside) := by
  have hfield : (s.closeField d).place = .outside := h
  have hrow : (s.closeRow d).place = .outside := h
  have hpush : (s.push c).place = .outside := h
  simp only [readOutside, Dialect.rest_outside]
  split
  case isTrue => rfl
  case isFalse =>
    split
    case isTrue => rw [closeField_followedBy, hfield]
    case isFalse =>
      split
      case isTrue =>
        split
        case isTrue  => rw [closeRow_followedBy, hrow]
        case isFalse => rfl
      case isFalse => rw [push_followedBy, hpush]

theorem step_followedBy :
    (step d s c).followedBy d (d.rest text (step d s c).place) =
      s.followedBy d (d.rest (c :: text) s.place) := by
  cases h : s.place
  case outside => simpa only [step, h] using readOutside_followedBy h
  case inside =>
    have hpush : (s.push c).place = .inside := h
    simp only [step, h, Dialect.rest_inside]
    split
    case isTrue  => rfl
    case isFalse => rw [push_followedBy, hpush]
  case afterQuote =>
    simp only [step, h, Dialect.rest_afterQuote]
    split
    case isTrue  => rw [goto_followedBy, push_followedBy]; rfl
    case isFalse => rw [readOutside_followedBy rfl, goto_followedBy]
  case afterFirst =>
    simp only [step, h, Dialect.rest_afterFirst]
    split
    case isTrue  => rw [goto_followedBy, closeRow_followedBy]; rfl
    case isFalse => rw [readOutside_followedBy rfl, goto_followedBy, push_followedBy]

theorem finish_followedBy : s.finish d = s.followedBy d (d.rest [] s.place) := by
  simp only [finish, Dialect.rest_nil]
  split <;> simp [followedBy, push, closeRow, closeField, Pieces.push, Pieces.empty, Dialect.closed]

theorem finish_foldl : (text.foldl (step d) s).finish d = s.followedBy d (d.rest text s.place) := by
  induction text generalizing s with
  | nil            => exact finish_followedBy
  | cons c text hi => rw [List.foldl_cons, hi, step_followedBy]

end Scan

namespace Dialect

variable {d : Dialect} {c : Char} {text : List Char}

theorem scan_eq : d.scan text = (d.rest text .outside).toRows.map (·.map d.closed) :=
  Scan.finish_foldl

theorem rest_filled {place : Scan.Place} : (d.rest text place).Filled := by
  induction text generalizing place with
  | nil            =>
    rw [rest_nil]
    split <;> simp [Pieces.filled_push, Pieces.filled_empty]
  | cons c text hi =>
    have outside : (d.rest (c :: text) .outside).Filled := by
      rw [rest_outside]
      split_ifs <;> simp [Pieces.filled_push, Pieces.filled_newField, Pieces.filled_newRow, hi]
    cases place
    case outside => exact outside
    case inside =>
      rw [rest_inside]
      split <;> simp [Pieces.filled_push, hi]
    case afterQuote =>
      rw [rest_afterQuote]
      split <;> simp [Pieces.filled_push, hi, outside]
    case afterFirst =>
      rw [rest_afterFirst]
      split <;> simp [Pieces.filled_push, Pieces.filled_newRow, hi, outside]

theorem rest_quote : d.rest (d.quoteChar :: text) .outside = d.rest text .inside := by
  simp [rest_outside]

theorem rest_fieldSeparator (hq : d.fieldSeparator ≠ d.quoteChar) :
    d.rest (d.fieldSeparator :: text) .outside = (d.rest text .outside).newField := by
  simp [rest_outside, hq]

theorem rest_separator (hq : d.recordChars.1 ≠ d.quoteChar)
    (hf : d.recordChars.1 ≠ d.fieldSeparator) :
    d.rest (d.separator ++ text) .outside = (d.rest text .outside).newRow := by
  cases h : d.recordChars.2 <;> simp [rest_outside, rest_afterFirst, separator, h, hq, hf]

theorem foldl_separator (hq : d.recordChars.1 ≠ d.quoteChar)
    (hf : d.recordChars.1 ≠ d.fieldSeparator) {s : Scan} (outside : s.place = .outside) :
    d.separator.foldl (Scan.step d) s = s.closeRow d := by
  cases h : d.recordChars.2 <;>
    simp [separator, Scan.step, outside, Scan.readOutside, hq, hf, h, Scan.goto, Scan.closeRow,
      Scan.closeField]

-- The first of two characters that part rows is data unless the second follows.
theorem rest_data (hq : c ≠ d.quoteChar) (hf : c ≠ d.fieldSeparator)
    (hs : ¬d.separator <+: c :: text) :
    d.rest (c :: text) .outside = (d.rest text .outside).push c := by
  by_cases hc : c = d.recordChars.1
  case neg => simp [rest_outside, hq, hf, hc]
  case pos =>
    subst hc
    cases h : d.recordChars.2 with
    | none        => simp [separator, h] at hs
    | some second =>
      cases text with
      | nil            => simp [rest_outside, rest_nil, h, hq, hf]
      | cons c' text =>
        have hc' : c' ≠ second := by simpa [separator, h, eq_comm] using hs
        simp [rest_outside, rest_afterFirst, h, hq, hf, hc']

theorem rest_inside_data (hq : c ≠ d.quoteChar) :
    d.rest (c :: text) .inside = (d.rest text .inside).push c := by
  simp [rest_inside, hq]

theorem rest_inside_pair :
    d.rest (d.quoteChar :: d.quoteChar :: text) .inside =
      (d.rest text .inside).push d.quoteChar := by
  simp [rest_inside, rest_afterQuote]

theorem rest_inside_quote (hq : text.head? ≠ some d.quoteChar) :
    d.rest (d.quoteChar :: text) .inside = d.rest text .outside := by
  cases text with
  | nil         => simp [rest_inside, rest_nil]
  | cons c text =>
    have hq : c ≠ d.quoteChar := by simpa using hq
    simp [rest_inside, rest_afterQuote, hq]

-- The last row is shorter than the first.
def EndsShort (rows : List (List String)) : Prop :=
  (rows.getLastD []).length < (rows.headD []).length

instance {rows : List (List String)} : Decidable (EndsShort rows) :=
  inferInstanceAs (Decidable (_ < _))

theorem EndsShort.dropLast_ne_nil {rows : List (List String)} (h : EndsShort rows) :
    rows.dropLast ≠ [] := by
  match rows with
  | [] | [_]    => simp [EndsShort] at h
  | _ :: _ :: _ => simp

theorem EndsShort.dropLast_ne {rows : List (List String)} (h : EndsShort rows) :
    rows.dropLast ≠ rows := by
  intro hd
  have hne := List.length_pos_iff.mpr h.dropLast_ne_nil
  have hlen := congrArg List.length hd
  rw [List.length_dropLast] at hlen hne
  omega

theorem dropShortLast_eq {rows : List (List String)} :
    dropShortLast rows = if EndsShort rows then rows.dropLast else rows := by
  unfold dropShortLast EndsShort
  cases rows with
  | nil           => rfl
  | cons row rows => simp [List.getLast?_cons]

theorem parse_eq (hh : d.stripHeader = false) {text : String} :
    d.parse text =
      if EndsShort (d.scan text.toList) then (d.scan text.toList).dropLast
      else d.scan text.toList := by
  simp [parse, hh, dropShortLast_eq]

theorem scan_ne_nil : d.scan text ≠ [] := by
  simp [scan_eq, Pieces.toRows_ne_nil]

theorem ne_nil_of_mem_scan {row : List String} (h : row ∈ d.scan text) : row ≠ [] := by
  have ⟨fields, hf, hr⟩ := List.mem_map.mp (scan_eq ▸ h)
  simp [← hr, rest_filled.toRows hf]

theorem parse_ne_nil (hh : d.stripHeader = false) {text : String} : d.parse text ≠ [] := by
  rw [parse_eq hh]
  split
  case isTrue h  => exact h.dropLast_ne_nil
  case isFalse h => exact scan_ne_nil

theorem ne_nil_of_mem_parse (hh : d.stripHeader = false) {text : String} {row : List String}
    (h : row ∈ d.parse text) : row ≠ [] := by
  rw [parse_eq hh] at h
  split at h
  case isTrue  => exact ne_nil_of_mem_scan (List.dropLast_subset _ h)
  case isFalse => exact ne_nil_of_mem_scan h

end Dialect
end TextCharts
