import Mathlib.Data.List.Forall2
import TextCharts.Color
import TextCharts.Text.Line

namespace TextCharts.Color

-- The text after an escape sequence, which goes from an escape and a bracket to the next `m`.
def afterSequence? : List Char → Option (List Char)
  | '\x1b' :: '[' :: rest =>
    match rest.dropWhile (· != 'm') with
    | []         => none
    | _ :: after => some after
  | _ => none

theorem afterSequence?_length_lt {text after : List Char} (h : afterSequence? text = some after) :
    after.length < text.length := by
  simp only [afterSequence?] at h
  split at h
  case h_1 rest =>
    split at h
    case h_1       => contradiction
    case h_2 found =>
      have := (List.dropWhile_suffix (· != 'm') (l := rest)).length_le
      rw [found] at this
      cases h
      simp only [List.length_cons] at this ⊢
      omega
  case h_2 => contradiction

-- Deletes all escape sequences.
def uncolored (text : List Char) : List Char :=
  match _h : afterSequence? text with
  | some after => uncolored after
  | none =>
    match text with
    | []        => []
    | c :: rest => c :: uncolored rest
termination_by text.length
decreasing_by
  · exact afterSequence?_length_lt _h
  · exact Nat.lt_succ_self _

variable {color : Option Color} {text rest : List Char} {s s' t t' : String}

theorem uncolored_nil : uncolored [] = [] := by
  rw [uncolored]
  rfl

theorem uncolored_of_after {after : List Char} (h : afterSequence? text = some after) :
    uncolored text = uncolored after := by
  rw [uncolored]
  split <;> simp_all

theorem uncolored_cons {c : Char} (h : c ≠ '\x1b') :
    uncolored (c :: rest) = c :: uncolored rest := by
  have none : afterSequence? (c :: rest) = none := by simp [afterSequence?, h]
  rw [uncolored]
  split <;> simp_all

-- A text without escapes stays as it is, whatever follows it.
theorem uncolored_append (plain : '\x1b' ∉ text) :
    uncolored (text ++ rest) = text ++ uncolored rest := by
  induction text with
  | nil            => rfl
  | cons c text hi =>
    have ⟨hc, plain⟩ := List.ne_and_not_mem_of_not_mem_cons plain
    rw [List.cons_append, uncolored_cons hc.symm, hi plain, List.cons_append]

def IsSequence (text : List Char) : Prop :=
  ∃ parameters, 'm' ∉ parameters ∧ text = '\x1b' :: '[' :: (parameters ++ ['m'])

theorem IsSequence.uncolored_append (sequence : IsSequence text) :
    uncolored (text ++ rest) = uncolored rest := by
  obtain ⟨parameters, hm, rfl⟩ := sequence
  have after : afterSequence? ('\x1b' :: '[' :: (parameters ++ ['m']) ++ rest) = some rest := by
    have skip : ∀ c ∈ parameters, (c != 'm') = true := fun c mem =>
      bne_iff_ne.mpr fun hc => hm (hc ▸ mem)
    simp [afterSequence?, List.dropWhile_append_of_pos skip]
  exact uncolored_of_after after

theorem not_mem_toDigits (n : Nat) : 'm' ∉ Nat.toDigits 10 n := by
  intro mem
  have := Nat.isDigit_of_mem_toDigits (by decide) (by decide) mem
  contradiction

theorem escape_isSequence (color : Color) : IsSequence color.escape.toList := by
  cases color with
  | basic code         => exact ⟨Nat.toDigits 10 code, not_mem_toDigits code, by simp [escape]⟩
  | rgb red green blue =>
    let parameters := "38;2;" ++ toString red ++ ";" ++ toString green ++ ";" ++ toString blue
    have same (s : String) : toString s = s := rfl
    have shown : (rgb red green blue).escape = "\x1b[" ++ parameters ++ "m" := by
      simp [escape, parameters, same, ← String.toList_inj]
    refine ⟨parameters.toList, ?_, by simp [shown]⟩
    simp [parameters, not_mem_toDigits]

theorem reset_isSequence : IsSequence reset.toList :=
  ⟨['0'], by decide, rfl⟩

-- The one text is left of the other one without its escape sequences, whatever follows the two.
def Decorates (s t : String) : Prop :=
  '\x1b' ∉ t.toList → ∀ rest, uncolored (s.toList ++ rest) = t.toList ++ uncolored rest

theorem Decorates.refl (t : String) : Decorates t t :=
  fun plain _ => uncolored_append plain

theorem Decorates.append (h : Decorates s t) (h' : Decorates s' t') :
    Decorates (s ++ s') (t ++ t') := by
  intro plain rest
  rw [String.toList_append, List.mem_append, not_or] at plain
  simp only [String.toList_append, List.append_assoc, h plain.1, h' plain.2]

theorem decorates_paint (color : Option Color) (t : String) : Decorates (paint color t) t := by
  cases color with
  | none       => exact .refl t
  | some color =>
    intro plain rest
    simp only [paint, String.toList_append, List.append_assoc,
      (escape_isSequence color).uncolored_append, uncolored_append plain,
      reset_isSequence.uncolored_append]

theorem Decorates.unlines {lines lines' : List String} (h : List.Forall₂ Decorates lines lines') :
    Decorates (Text.unlines lines) (Text.unlines lines') := by
  induction h with
  | nil          => exact .refl _
  | cons h _ hi  =>
    simp only [Text.unlines, List.map_cons, String.join_cons]
    exact (h.append (.refl _)).append hi

theorem Decorates.uncolored_eq (h : Decorates s t) (plain : '\x1b' ∉ t.toList) :
    uncolored s.toList = t.toList := by
  simpa [uncolored_nil] using h plain []

end TextCharts.Color
