import Mathlib.Algebra.Ring.Parity
import Mathlib.Data.List.Induction
import TextCharts.Proofs.Delimited.Rest

namespace TextCharts

namespace Scan

variable {d : Dialect} {s : Scan} {c : Char} {place : Place} {text : List Char}

@[simp]
theorem goto_place : (s.goto place).place = place :=
  rfl

@[simp]
theorem push_place : (s.push c).place = s.place :=
  rfl

@[simp]
theorem closeField_place : (s.closeField d).place = s.place :=
  rfl

@[simp]
theorem closeRow_place : (s.closeRow d).place = s.place :=
  rfl

-- Where a scan stands after a character depends on where it stood before, but not on what it has
-- read.
def Place.outsideNext (d : Dialect) (c : Char) : Place :=
  if c = d.quoteChar then .inside
  else if c = d.fieldSeparator then .outside
  else if c = d.recordChars.1 ∧ d.recordChars.2 ≠ none then .afterFirst
  else .outside

def Place.next (d : Dialect) (c : Char) : Place → Place
  | outside    => outsideNext d c
  | inside     => if c = d.quoteChar then afterQuote else inside
  | afterQuote => if c = d.quoteChar then inside else outsideNext d c
  | afterFirst => if some c = d.recordChars.2 then outside else outsideNext d c

theorem readOutside_place (outside : s.place = .outside) :
    (s.readOutside d c).place = Place.outsideNext d c := by
  simp only [readOutside, Place.outsideNext]
  split_ifs <;> simp_all

theorem step_place : (step d s c).place = s.place.next d c := by
  cases h : s.place <;> simp only [step, h, Place.next]
  case outside    => exact readOutside_place h
  case inside     => split <;> simp [h]
  case afterQuote =>
    split
    · rfl
    · exact readOutside_place rfl
  case afterFirst =>
    split
    · rfl
    · exact readOutside_place rfl

theorem Place.outsideNext_inside_iff : outsideNext d c = inside ↔ c = d.quoteChar := by
  simp only [outsideNext]
  split_ifs <;> simp_all

theorem Place.eq_of_outsideNext_afterFirst (h : outsideNext d c = afterFirst) :
    c = d.recordChars.1 := by
  simp only [outsideNext] at h
  split_ifs at h
  simp_all

-- A quote leads into quotes or out of them, and nothing else does. Where it may be the first of two
-- it counts as leading out, and the second as leading in again.
theorem Place.next_inside_iff (hs : d.quoteChar ∉ d.separator) :
    place.next d c = inside ↔ ¬(c = d.quoteChar ↔ place = inside) := by
  cases place <;> simp only [next]
  case outside    => simp [outsideNext_inside_iff]
  case inside     => split <;> simp_all
  case afterQuote => split <;> simp_all [outsideNext_inside_iff]
  case afterFirst =>
    have hq : some d.quoteChar ≠ d.recordChars.2 := fun h => hs (by simp [Dialect.separator, ← h])
    split
    case isTrue hc  =>
      have hc : c ≠ d.quoteChar := fun h => hq (h ▸ hc)
      simp [hc]
    case isFalse hc => simp [outsideNext_inside_iff]

theorem Place.eq_of_next_afterFirst (h : place.next d c = afterFirst) : c = d.recordChars.1 := by
  cases place <;> simp only [next] at h
  case outside    => exact eq_of_outsideNext_afterFirst h
  case inside     => split at h <;> contradiction
  case afterQuote =>
    split at h
    · contradiction
    · exact eq_of_outsideNext_afterFirst h
  case afterFirst =>
    split at h
    · contradiction
    · exact eq_of_outsideNext_afterFirst h

theorem foldl_concat_place : ((text ++ [c]).foldl (step d) s).place =
    (text.foldl (step d) s).place.next d c := by
  rw [List.foldl_append, List.foldl_cons, List.foldl_nil, step_place]

theorem foldl_inside_iff (hs : d.quoteChar ∉ d.separator) :
    (text.foldl (step d) {}).place = .inside ↔ ¬Even (text.count d.quoteChar) := by
  induction text using List.reverseRecOn with
  | nil                        => simp
  | append_singleton text c hi =>
    rw [foldl_concat_place, Place.next_inside_iff hs, hi]
    by_cases hc : c = d.quoteChar <;> simp [hc, Nat.even_add_one]

theorem getLast?_of_afterFirst (h : (text.foldl (step d) {}).place = .afterFirst) :
    text.getLast? = some d.recordChars.1 := by
  cases text using List.reverseRecOn with
  | nil                       => simp at h
  | append_singleton text c _ =>
    rw [foldl_concat_place] at h
    rw [List.getLast?_concat, Place.eq_of_next_afterFirst h]

-- Gives up waiting for a second character.
def leave (d : Dialect) (s : Scan) : Scan :=
  (if s.place = .afterFirst then s.push d.recordChars.1 else s).goto .outside

theorem leave_finish : (s.leave d).finish d = s.finish d := by
  simp only [finish, leave]
  split <;> rfl

-- Outside quotes nothing is waited for but a second quote and the second character of a separator.
theorem step_leave (hq : c ≠ d.quoteChar) (unquoted : s.place ≠ .inside)
    (unpaired : s.place = .afterFirst → some c ≠ d.recordChars.2) :
    step d (s.leave d) c = step d s c := by
  cases h : s.place
  case outside    =>
    have stay : s.leave d = s := by
      rw [leave, if_neg (by simp [h]), ← h]
      rfl
    rw [stay]
  case inside     => contradiction
  case afterQuote => simp [step, leave, h, hq]
  case afterFirst => simp [step, leave, h, unpaired h]

theorem closeRow_finish (outside : s.place = .outside) :
    (s.closeRow d).finish d = s.finish d ++ [[""]] := by
  cases ht : d.trimFields <;> simp [finish, closeRow, closeField, outside, ht]

end Scan

namespace Dialect

variable {d : Dialect} {text : List Char}

section

variable (hs : d.quoteChar ∉ d.separator) (hf : d.fieldSeparator ≠ d.recordChars.1)

include hs hf

theorem finish_separator {s : Scan} (unquoted : s.place ≠ .inside)
    (apart : d.recordChars.2 = some d.recordChars.1 → s.place ≠ .afterFirst) :
    (d.separator.foldl (Scan.step d) s).finish d = s.finish d ++ [[""]] := by
  have hq : d.recordChars.1 ≠ d.quoteChar := fun h => hs (by simp [separator, h])
  have left : Scan.step d (s.leave d) d.recordChars.1 = Scan.step d s d.recordChars.1 :=
    Scan.step_leave hq unquoted fun waiting paired => apart paired.symm waiting
  have parted : d.separator.foldl (Scan.step d) (s.leave d) = (s.leave d).closeRow d :=
    foldl_separator hq hf.symm rfl
  rw [separator, List.foldl_cons] at parted ⊢
  rw [← left, parted, Scan.closeRow_finish rfl, Scan.leave_finish]

theorem scan_append_separator (even : Even (text.count d.quoteChar))
    (apart : d.recordChars.2 = some d.recordChars.1 → text.getLast? ≠ some d.recordChars.1) :
    d.scan (text ++ d.separator) = d.scan text ++ [[""]] := by
  rw [scan, List.foldl_append, scan]
  refine finish_separator hs hf ?unquoted ?apart
  case unquoted => exact mt (Scan.foldl_inside_iff hs).mp (not_not.mpr even)
  case apart    => exact fun paired => mt Scan.getLast?_of_afterFirst (apart paired)

end

theorem endsShort_append_blank {rows : List (List String)} {first : List String}
    (head : rows.head? = some first) : EndsShort (rows ++ [[""]]) ↔ 1 < first.length := by
  simp [EndsShort, List.headD_eq_head?_getD, List.getLastD_eq_getLast?, head]

-- A separator at the end of a text leaves the rows as they are, unless they have one field: then
-- there is one more of them. What it consists of is the record separator of any dialect that was
-- accepted.
theorem parse_append_separator (hs : d.quoteChar ∉ d.separator)
    (hf : d.fieldSeparator ≠ d.recordChars.1) (hh : d.stripHeader = false) {text : String}
    (even : Even (text.toList.count d.quoteChar))
    (apart : d.recordChars.2 = some d.recordChars.1 →
      text.toList.getLast? ≠ some d.recordChars.1)
    (wide : ¬EndsShort (d.scan text.toList)) {first : List String}
    (head : (d.scan text.toList).head? = some first) :
    (1 < first.length → d.parse (text ++ .ofList d.separator) = d.parse text) ∧
    (first.length = 1 → d.parse (text ++ .ofList d.separator) = d.parse text ++ [[""]]) ∧
    (d.recordSeparator.length = 1 ∨ d.recordSeparator.length = 2 →
      .ofList d.separator = d.recordSeparator) := by
  have scan : d.scan (text ++ .ofList d.separator).toList = d.scan text.toList ++ [[""]] := by
    rw [String.toList_append, String.toList_ofList, scan_append_separator hs hf even apart]
  rw [parse_eq hh, parse_eq hh, scan, if_neg wide]
  refine ⟨fun many => ?_, fun one => ?_, fun accepted => ?_⟩
  · rw [if_pos ((endsShort_append_blank head).mpr many), List.dropLast_concat]
  · rw [if_neg ((endsShort_append_blank head).not.mpr (by omega))]
  · rw [separator_eq (by omega) (by omega), String.ofList_toList]

-- A quote that has been closed, and after it the first of two characters that part rows.
def loose : String :=
  "a,\"b\"\r"

theorem loose_append_separator :
    '"' ∉ separator {} ∧ ',' ≠ (recordChars {}).1 ∧ Even (loose.toList.count '"') ∧
    ((recordChars {}).2 = some (recordChars {}).1 → loose.toList.getLast? ≠ some '\r') ∧
    ¬EndsShort (scan {} loose.toList) ∧ (scan {} loose.toList).head? = some ["a", "b\r"] ∧
    parse {} (loose ++ "\r\n") = [["a", "b\r"]] := by
  have hs : '"' ∉ separator {} := by decide
  have hf : ',' ≠ (recordChars {}).1 := by decide
  have even : Even (loose.toList.count '"') := by decide
  have apart : (recordChars {}).2 = some (recordChars {}).1 →
      loose.toList.getLast? ≠ some '\r' := by decide
  have rows : scan {} loose.toList = [["a", "b\r"]] := by decide +kernel
  have wide : ¬EndsShort (scan {} loose.toList) := by rw [rows]; decide
  have head : (scan {} loose.toList).head? = some ["a", "b\r"] := by rw [rows]; rfl
  have same := (parse_append_separator (d := {}) hs hf rfl even apart wide head).1 (by decide)
  refine ⟨hs, hf, even, apart, wide, head, same.trans ?_⟩
  decide +kernel

end Dialect
end TextCharts
