import TextCharts.Proofs.Delimited.Rest
import TextCharts.Proofs.Text.Trim

namespace TextCharts.Dialect

variable {d : Dialect} {strip trim : Bool}

def withFlags (d : Dialect) (strip trim : Bool) : Dialect :=
  { d with stripHeader := strip, trimFields := trim }

-- All rows of a text, as they are cut out of it.
def records (d : Dialect) (text : String) : List (List String) :=
  (d.withFlags false false).scan text.toList

def trimmed (trim : Bool) (rows : List (List String)) : List (List String) :=
  if trim then rows.map (·.map Text.strip) else rows

def settled (strip trim : Bool) (rows : List (List String)) : List (List String) :=
  let left := if strip then (trimmed trim rows).tail else trimmed trim rows
  if EndsShort left then left.dropLast else left

-- A scan goes through the same places whatever the flags are.
theorem rest_withFlags {text : List Char} {place : Scan.Place} :
    (d.withFlags strip trim).rest text place = d.rest text place := by
  induction text generalizing place with
  | nil            => rfl
  | cons c text hi =>
    have outside : (d.withFlags strip trim).rest (c :: text) .outside =
        d.rest (c :: text) .outside := by
      rw [rest_outside, hi, hi, hi, rest_outside]
      rfl
    cases place
    case outside    => exact outside
    case inside     => rw [rest_inside, hi, hi, rest_inside]; rfl
    case afterQuote => rw [rest_afterQuote, hi, outside, rest_afterQuote]; rfl
    case afterFirst => rw [rest_afterFirst, hi, outside, rest_afterFirst]; rfl

theorem closed_withFlags : (d.withFlags strip trim).closed =
    (if trim then Text.strip else id) ∘ (d.withFlags false false).closed := by
  funext field
  cases trim <;> simp [closed, withFlags, Text.strip]

theorem scan_withFlags {text : String} :
    (d.withFlags strip trim).scan text.toList = trimmed trim (d.records text) := by
  rw [records, scan_eq, scan_eq, rest_withFlags, rest_withFlags, closed_withFlags, trimmed]
  cases trim <;> simp [Function.comp_def]

theorem settled_eq {rows : List (List String)} : settled strip trim rows =
    dropShortLast (if strip then (trimmed trim rows).tail else trimmed trim rows) :=
  dropShortLast_eq.symm

theorem parse_withFlags {text : String} :
    (d.withFlags strip trim).parse text = settled strip trim (d.records text) := by
  rw [parse, scan_withFlags, settled_eq, ← List.drop_one]
  rfl

-- The first two rows, if there are two, are equally wide.
def Level (rows : List (List String)) : Prop :=
  ∀ first second, rows[0]? = some first → rows[1]? = some second → first.length = second.length

section

variable {rows rows' : List (List String)}

theorem map_length_trimmed : (trimmed trim rows).map List.length = rows.map List.length := by
  cases trim <;> simp [trimmed, Function.comp_def]

theorem Level.trimmed (level : Level rows) : Level (trimmed trim rows) := by
  cases trim with
  | false => exact level
  | true  =>
    intro first second h₀ h₁
    simp only [Dialect.trimmed, if_true, List.getElem?_map, Option.map_eq_some_iff] at h₀ h₁
    obtain ⟨first', h₀, rfl⟩ := h₀
    obtain ⟨second', h₁, rfl⟩ := h₁
    simpa using level first' second' h₀ h₁

theorem endsShort_iff :
    EndsShort rows ↔ (rows.map List.length).getLastD 0 < (rows.map List.length).headD 0 := by
  have head : (rows.map List.length).headD 0 = (rows.headD []).length := by
    cases rows <;> rfl
  have last : (rows.map List.length).getLastD 0 = (rows.getLastD []).length := by
    rw [List.getLastD_eq_getLast?, List.getLastD_eq_getLast?, List.getLast?_map]
    exact Option.getD_map List.length [] _
  rw [EndsShort, head, last]

-- Only the widths of the rows decide whether the last one is dropped.
theorem map_length_dropShortLast (widths : rows.map List.length = rows'.map List.length) :
    (dropShortLast rows).map List.length = (dropShortLast rows').map List.length := by
  simp only [dropShortLast_eq, endsShort_iff, widths]
  split
  case isTrue  => rw [List.map_dropLast, widths, List.map_dropLast]
  case isFalse => exact widths

-- A row that is as wide as the first can take its place.
theorem dropShortLast_tail (level : Level rows) :
    dropShortLast rows.tail = (dropShortLast rows).tail := by
  match rows with
  | []                      => rfl
  | [row]                   => simp [dropShortLast]
  | first :: second :: rows =>
    have width : first.length = second.length := level first second rfl rfl
    simp only [dropShortLast_eq, EndsShort, List.tail_cons, List.headD_cons, width,
      List.getLastD_cons]
    split <;> simp

end

-- What the two flags do to the rows of a text.
structure Flagged (d : Dialect) (text : String) : Prop where
  parse  : ∀ strip trim, (d.withFlags strip trim).parse text = settled strip trim (d.records text)
  blanks : ∀ s : String, Text.Trims s.toList (Text.strip s).toList
  widths : ∀ strip, ((d.withFlags strip true).parse text).map List.length =
    ((d.withFlags strip false).parse text).map List.length
  header : Level (d.records text) → ∀ trim,
    (d.withFlags true trim).parse text = ((d.withFlags false trim).parse text).tail

theorem parse_flagged (d : Dialect) (text : String) : d.Flagged text where
  parse _ _    := parse_withFlags
  blanks s     := by simpa [Text.strip] using Text.trim_trims s.toList
  widths strip := by
    rw [parse_withFlags, parse_withFlags, settled_eq, settled_eq]
    refine map_length_dropShortLast ?_
    cases strip
    case false => simp only [Bool.false_eq_true, if_false, map_length_trimmed]
    case true  => simp only [if_true, List.map_tail, map_length_trimmed]
  header level trim := by
    rw [parse_withFlags, parse_withFlags, settled_eq, settled_eq]
    exact dropShortLast_tail level.trimmed

-- A last row may be short for the row below the header, but not for the header.
example : parse { stripHeader := true } "h\r\na,b\r\nc" = [["a", "b"]] ∧
    (parse {} "h\r\na,b\r\nc").tail = [["a", "b"], ["c"]] := by
  decide +kernel

end TextCharts.Dialect
