import TextCharts.Proofs.Decimal.Positional
import TextCharts.Proofs.Table.Radix
import TextCharts.Proofs.Text.Trim
import TextCharts.Table.Cell

namespace TextCharts

open Decimal (Parts Spells magnitude signed shortest)
open Double (HasParts Equals)
open Float.Model (UnpackedFloat)

variable {text whole fraction : List Char} {q : ℚ} {negative : Bool} {m : ℕ} {e : ℤ} {x : Float}

-- The characters of a finite number.
def isPrinted (c : Char) : Bool :=
  c.isDigit || c == '.' || c == '-'

theorem not_isBlank_of_isPrinted {c : Char} (h : isPrinted c) : ¬Text.isBlank c := by
  unfold isPrinted at h
  rw [Bool.or_eq_true, Bool.or_eq_true, beq_iff_eq, beq_iff_eq, Char.isDigit_iff_toNat] at h
  rcases h with (digit | rfl) | rfl
  · simp only [Char.reduceToNat] at digit
    simp only [Text.isBlank, Bool.or_eq_true, Bool.and_eq_true, decide_eq_true_eq, beq_iff_eq]
    omega
  · decide
  · decide

theorem Decimal.Spells.isPrinted (h : Spells text whole fraction q) : ∀ c ∈ text, isPrinted c := by
  have digit {c : Char} (mem : c ∈ whole ++ fraction) : TextCharts.isPrinted c := by
    rw [TextCharts.isPrinted, h.digits c mem]
    rfl
  intro c mem
  rw [h.eq, List.mem_append] at mem
  rcases mem with mem | mem
  · exact digit (List.mem_append_left _ mem)
  · split at mem
    · contradiction
    · rcases List.mem_cons.mp mem with rfl | mem
      · rfl
      · exact digit (List.mem_append_right _ mem)

theorem Decimal.Spells.sign_eq (h : Spells text whole fraction q) :
    Numeric.sign (if negative then '-' :: text else text) = (negative, text) := by
  cases negative with
  | true  => rfl
  | false =>
    obtain ⟨d, rest, rfl⟩ := List.exists_cons_of_ne_nil h.nonempty
    have digit := h.digits d List.mem_cons_self
    rw [h.eq, List.cons_append]
    unfold Numeric.sign
    split
    case h_1 eq => cases eq; contradiction
    case h_2 eq => cases eq; contradiction
    case h_3    => rfl

namespace Numeric

-- Nothing is printed that stands for more than its digits.
theorem parse_printed {raw : String} (nonempty : raw ≠ "")
    (printed : ∀ c ∈ raw.toList, isPrinted c) : parse raw = (decimal? raw.toList).getD nan := by
  have trimmed : Text.trim raw.toList = raw.toList :=
    Text.trim_of_solid fun c mem => not_isBlank_of_isPrinted (printed c mem)
  have other : ∀ word ∈ words, Text.trim raw.toList ≠ word.toList := by
    intro word mem same
    have letters : ∀ word ∈ words, word = "" ∨ ¬word.toList.all isPrinted := by decide
    rw [trimmed] at same
    rcases letters word mem with rfl | letter
    · exact nonempty (String.toList_injective same)
    · exact letter (List.all_eq_true.mpr (same ▸ printed))
  have unmarked : base? raw.toList = none := by
    refine Option.eq_none_iff_forall_ne_some.mpr fun announced found => ?_
    have ⟨mark, mem, eq⟩ := base?_eq_some_iff.mp (found : _ = some (announced.1, announced.2))
    have letters : ∀ entry ∈ marks, ¬entry.1.toList.all isPrinted := by decide
    refine letters _ mem (List.all_eq_true.mpr fun c mem => printed c ?_)
    exact eq ▸ List.mem_append_left _ mem
  rw [parse_eq other, trimmed, unmarked, Option.elim_none]

theorem parse_signed (h : Spells text whole fraction q) : parse (signed negative text) =
    if negative then -magnitude whole fraction else magnitude whole fraction := by
  have chars : (signed negative text).toList = if negative then '-' :: text else text :=
    String.toList_ofList
  have some : text ≠ [] := by
    rw [h.eq]
    exact List.append_ne_nil_of_left_ne_nil h.nonempty _
  have nonempty : signed negative text ≠ "" := by
    intro none
    rw [none] at chars
    cases negative with
    | true  => contradiction
    | false => exact some chars.symm
  have printed : ∀ c ∈ (signed negative text).toList, isPrinted c := by
    rw [chars]
    split
    · exact List.forall_mem_cons.mpr ⟨rfl, h.isPrinted⟩
    · exact h.isPrinted
  rw [parse_printed nonempty printed, chars, h.decimal?_eq h.sign_eq, Option.getD_some]

end Numeric

theorem parse_of_nonzero (has : HasParts x negative m e) (nonzero : m ≠ 0) :
    Numeric.parse (signed negative (shortest .up m e).positional) = x := by
  have ⟨whole, fraction, spells⟩ := Decimal.positional_spells (shortest .up m e)
  have rounds := Decimal.shortest_rounds .up has
  have positive : (0 : ℚ) < m * 2 ^ e := Double.magnitude_pos (Nat.pos_of_ne_zero nonzero)
  have small : |Double.rounded (shortest .up m e).value| < Double.limit := by
    rw [rounds, abs_of_pos positive]
    exact Double.magnitude_lt_limit has.few has.high
  have equals := spells.returns.equals_rounded small
  rw [rounds] at equals
  have read : Equals (if negative then -magnitude whole fraction else magnitude whole fraction)
      (if negative then -(m * 2 ^ e) else m * 2 ^ e) := by
    cases negative with
    | true  => exact equals.neg
    | false => exact equals
  rw [Numeric.parse_signed spells]
  refine Double.eq_of_value read.finite has.finite ?_ (read.value.trans has.value.symm)
  rw [read.value]
  split
  · exact neg_ne_zero.mpr positive.ne'
  · exact positive.ne'

-- Zero keeps its sign, which its value does not show.
theorem parse_of_zero (h : Parts.ofDouble x = .finite negative 0 e) :
    Numeric.parse (signed negative (shortest .up 0 e).positional) = x := by
  rw [Double.ofDouble_eq] at h
  cases unpacked : x.toModel.unpack with
  | notANumber       => rw [unpacked] at h; cases h
  | infinity s       => rw [unpacked] at h; cases h
  | finite s m e pos =>
    rw [unpacked] at h
    cases h
    contradiction
  | zero s =>
    rw [unpacked] at h
    cases h
    refine Double.eq_of_unpack ?_
    rw [unpacked]
    cases s <;> rfl

theorem isInf_of_isFinite (h : x.isFinite) : x.isInf = false := by
  have finite : x.toModel.unpack.isFinite := h
  change x.toModel.unpack.isInf = false
  cases unpacked : x.toModel.unpack <;> rw [unpacked] at finite <;> first | rfl | contradiction

-- The text of a double is read as that double, unless it is infinite.
theorem parse_plain (x : Float) :
    Numeric.parse (Decimal.plain x) = if x.isInf then nan else x := by
  by_cases finite : x.isFinite
  case pos =>
    have ⟨negative, m, e, parts⟩ := Double.exists_hasParts finite
    rw [isInf_of_isFinite finite, if_neg nofun, Decimal.plain, parts]
    rcases Nat.eq_zero_or_pos m with rfl | pos
    · exact parse_of_zero parts
    · exact parse_of_nonzero (Double.hasParts_of_ofDouble parts) pos.ne'
  case neg =>
    have parts := Double.ofDouble_eq x
    cases unpacked : x.toModel.unpack with
    | zero s           => exact absurd (congrArg UnpackedFloat.isFinite unpacked) finite
    | finite s m e pos => exact absurd (congrArg UnpackedFloat.isFinite unpacked) finite
    | notANumber =>
      have bounded : x.isInf = false := congrArg UnpackedFloat.isInf unpacked
      rw [bounded, if_neg nofun, Decimal.plain, parts, unpacked]
      exact Double.eq_of_not_isNumber (not_not.mpr rfl) (not_not.mpr unpacked)
    | infinity s =>
      have infinite : x.isInf = true := congrArg UnpackedFloat.isInf unpacked
      rw [infinite, if_pos rfl, Decimal.plain, parts, unpacked]
      cases s <;> rfl

namespace Cell

def isInfinite : Cell → Bool
  | number x => x.isInf
  | _        => false

theorem isAffirmative_shown (b : Bool) : isAffirmative (if b then "true" else "false") = b := by
  cases b <;> decide

-- The same cell comes back: a zero has its sign, and what is no number stays none.
theorem ofRaw_shown (kind : ColumnKind) (raw : String) :
    ofRaw kind (ofRaw kind raw).shown =
      if (ofRaw kind raw).isInfinite then .number nan else ofRaw kind raw := by
  cases kind with
  | string  => rfl
  | number  =>
    change number (Numeric.parse (Decimal.plain (Numeric.parse raw))) = _
    rw [parse_plain]
    change _ = if (Numeric.parse raw).isInf then _ else number (Numeric.parse raw)
    split <;> rfl
  | boolean => exact congrArg boolean (isAffirmative_shown (isAffirmative raw))

theorem infinity_lost : ofRaw .number "Infinity" = .number infinity ∧
    (ofRaw .number "Infinity").shown = "inf" ∧
      ofRaw .number (ofRaw .number "Infinity").shown = .number nan ∧
      ofRaw .number (ofRaw .number "Infinity").shown ≠ ofRaw .number "Infinity" := by
  refine ⟨rfl, rfl, rfl, fun same => ?_⟩
  exact absurd (congrArg Float.isNaN (number.inj same)) (by decide +kernel)

end Cell
end TextCharts
