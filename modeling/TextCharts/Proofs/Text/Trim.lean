import Mathlib.Data.List.DropRight
import TextCharts.Text.Blank

namespace TextCharts.Text

structure Trims (text left : List Char) : Prop where
  parts : ∃ before after, text = before ++ left ++ after ∧
    (∀ c ∈ before, isBlank c) ∧ ∀ c ∈ after, isBlank c
  first : ∀ c, left.head? = some c → ¬isBlank c
  last  : ∀ c, left.getLast? = some c → ¬isBlank c

theorem trim_eq (s : List Char) : trim s = (s.dropWhile isBlank).rdropWhile isBlank :=
  rfl

theorem trim_trims (s : List Char) : Trims s (trim s) where
  parts := by
    refine ⟨s.takeWhile isBlank, (s.dropWhile isBlank).rtakeWhile isBlank, ?_, ?_, ?_⟩
    · rw [trim_eq, List.append_assoc, List.rdropWhile_append_rtakeWhile,
        List.takeWhile_append_dropWhile]
    · exact fun _ mem => List.mem_takeWhile_imp mem
    · exact fun _ mem => List.mem_rtakeWhile_imp mem
  first := by
    intro c h
    rw [trim_eq] at h
    -- What is dropped on the right leaves the first character as it is.
    have ⟨after, split⟩ := List.rdropWhile_prefix isBlank (l := s.dropWhile isBlank)
    have head := List.head?_dropWhile_not isBlank s
    rw [← split, List.head?_append, h] at head
    simpa using head
  last  := by
    intro c h
    rw [trim_eq] at h
    have ne : (s.dropWhile isBlank).rdropWhile isBlank ≠ [] := by
      rintro none
      simp [none] at h
    have last := List.rdropWhile_last_not isBlank _ ne
    rwa [List.getLast_eq_iff_getLast?_eq_some ne |>.mpr h] at last

theorem trim_of_solid {text : List Char} (solid : ∀ c ∈ text, ¬isBlank c) : trim text = text := by
  rw [trim_eq, List.dropWhile_eq_self_iff.mpr fun _ => solid _ (List.getElem_mem _),
    List.rdropWhile_eq_self_iff]
  exact fun nonempty => solid _ (List.getLast_mem nonempty)

end TextCharts.Text
