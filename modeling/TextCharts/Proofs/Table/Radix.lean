import TextCharts.Proofs.Double.Nearest
import TextCharts.Proofs.Double.Scientific
import TextCharts.Proofs.Text.Digit
import TextCharts.Table.Number

namespace TextCharts.Numeric

open Double (Nearest Equals rounded limit)
open Text (Writes WritesSigned)

variable {base n : ℕ} {text rest : List Char} {raw : String} {x : Float}

def marks : List (String × ℕ) :=
  [("0x", 16), ("0X", 16), ("0o", 8), ("0O", 8), ("0b", 2), ("0B", 2)]

-- A text that begins with the mark of a base, and what stands after the mark.
def Announces (text : List Char) (base : ℕ) (rest : List Char) : Prop :=
  ∃ mark, (mark, base) ∈ marks ∧ text = mark.toList ++ rest

-- Digits of the base are their number, however many they are, and all else is no number.
structure ReadsLiteral (base : ℕ) (rest : List Char) (x : Float) : Prop where
  number : ∀ n, Writes base rest n → Nearest x n
  fault  : (∀ n, ¬Writes base rest n) → x = nan

-- What is taken for a number.
def Accepts (base : ℕ) (rest : List Char) (n : ℕ) : Prop :=
  n < 2 ^ 64 ∧ WritesSigned base rest n

theorem base?_eq_some_iff : base? text = some (base, rest) ↔ Announces text base rest := by
  constructor
  case mp =>
    intro found
    unfold base? at found
    split at found <;> cases found
    · exact ⟨"0x", by decide, rfl⟩
    · exact ⟨"0X", by decide, rfl⟩
    · exact ⟨"0o", by decide, rfl⟩
    · exact ⟨"0O", by decide, rfl⟩
    · exact ⟨"0b", by decide, rfl⟩
    · exact ⟨"0B", by decide, rfl⟩
  case mpr =>
    rintro ⟨mark, mem, rfl⟩
    simp only [marks, List.mem_cons, Prod.mk.injEq, List.not_mem_nil, or_false] at mem
    rcases mem with ⟨rfl, rfl⟩ | ⟨rfl, rfl⟩ | ⟨rfl, rfl⟩ | ⟨rfl, rfl⟩ | ⟨rfl, rfl⟩ | ⟨rfl, rfl⟩ <;>
      rfl

theorem Announces.base_le (h : Announces text base rest) : base ≤ 36 := by
  have ⟨mark, mem, _⟩ := h
  have small : ∀ entry ∈ marks, entry.2 ≤ 36 := by decide
  exact small _ mem

theorem Announces.head (h : Announces text base rest) : ∃ tail, text = '0' :: tail := by
  obtain ⟨mark, mem, rfl⟩ := h
  have zero : ∀ entry ∈ marks, entry.1.toList.head? = some '0' := by decide
  have ⟨tail, eq⟩ := List.head?_eq_some_iff.mp (zero _ mem)
  exact ⟨tail ++ rest, by rw [eq, List.cons_append]⟩

theorem word?_eq_some_iff (h : base ≤ 36) : word? base rest = some n ↔ Accepts base rest n := by
  have power : Nat.pow 2 64 = 2 ^ 64 := rfl
  rw [word?, Option.filter_eq_some_iff, Text.signedIn?_eq_some_iff h, decide_eq_true_eq, power,
    and_comm]
  rfl

-- The texts that are read as a whole.
def words : List String :=
  ["", "Infinity", "+Infinity", "-Infinity"]

theorem parse_eq (other : ∀ word ∈ words, Text.trim raw.toList ≠ word.toList) :
    parse raw = (base? (Text.trim raw.toList)).elim ((decimal? (Text.trim raw.toList)).getD nan)
      fun announced =>
        ((word? announced.1 announced.2).map (Float.ofScientific · false 0)).getD nan := by
  have plain : ¬(decide (Text.trim raw.toList = "Infinity".toList) ||
      decide (Text.trim raw.toList = "+Infinity".toList)) = true := by
    rw [Bool.or_eq_true, decide_eq_true_eq, decide_eq_true_eq]
    exact not_or.mpr ⟨other _ (by decide), other _ (by decide)⟩
  rw [parse]
  split
  case h_1 empty => exact absurd empty (other "" (by decide))
  case h_2 =>
    rw [if_neg plain, if_neg (other "-Infinity" (by decide))]
    rcases base? (Text.trim raw.toList) with _ | ⟨base, digits⟩
    case none => rfl
    case some =>
      dsimp only [Option.elim_some]
      cases word? base digits <;> rfl

theorem parse_of_announces (h : Announces (Text.trim raw.toList) base rest) :
    parse raw = ((word? base rest).map (Float.ofScientific · false 0)).getD nan := by
  have ⟨tail, head⟩ := h.head
  have first : ∀ word ∈ words, word.toList.head? ≠ some '0' := by decide
  rw [parse_eq fun word mem same => first word mem (by rw [← same, head, List.head?_cons]),
    base?_eq_some_iff.mpr h, Option.elim_some]

theorem nearest_ofScientific (few : n < 2 ^ 64) : Nearest (Float.ofScientific n false 0) n := by
  have returns := Double.ofScientific_returns n false 0
  rw [Double.exponent, if_neg nofun, Nat.cast_zero, zpow_zero, mul_one] at returns
  have grid : Double.OnGrid (2 ^ 64) := ⟨1, 64, by norm_num, by norm_num, by norm_num⟩
  have small : |rounded n| < limit := by
    rw [abs_of_nonneg (Double.rounded_nonneg (Nat.cast_nonneg n))]
    calc rounded n
      _ ≤ rounded (2 ^ 64) := Double.rounded_mono (by exact_mod_cast few.le)
      _ = 2 ^ (64 : ℤ)     := grid.rounded_eq
      _ < limit            := zpow_lt_zpow_right₀ (by norm_num) (by norm_num)
  exact (returns.equals_rounded small).nearest

theorem not_nearest_nan {q : ℚ} : ¬Nearest nan q :=
  fun nearest => absurd nearest.finite (by decide +kernel)

theorem Accepts.nearest (h : Announces (Text.trim raw.toList) base rest)
    (accepts : Accepts base rest n) : Nearest (parse raw) n := by
  have word := (word?_eq_some_iff h.base_le).mpr accepts
  rw [parse_of_announces h, word, Option.map_some, Option.getD_some]
  exact nearest_ofScientific accepts.1

theorem parse_of_refused (h : Announces (Text.trim raw.toList) base rest)
    (refused : ∀ n, ¬Accepts base rest n) : parse raw = nan := by
  have word : word? base rest = none := by
    refine Option.eq_none_iff_forall_ne_some.mpr fun n found => ?_
    exact refused n ((word?_eq_some_iff h.base_le).mp found)
  rw [parse_of_announces h, word, Option.map_none, Option.getD_none]

-- The integers of 64 bits are read as the double nearest to them. The numerals that are not read
-- as they should be are those of larger integers, and those with a plus sign after the mark.
theorem announced_parse (h : Announces (Text.trim raw.toList) base rest) :
    (∀ n, Accepts base rest n → Nearest (parse raw) n) ∧
      ((∀ n, ¬Accepts base rest n) → parse raw = nan) ∧
      (ReadsLiteral base rest (parse raw) ↔ (∀ n, Writes base rest n → n < 2 ^ 64) ∧
        ∀ digits n, rest = '+' :: digits → Writes base digits n → 2 ^ 64 ≤ n) := by
  refine ⟨fun n => Accepts.nearest h, parse_of_refused h, ?_⟩
  constructor
  case mp =>
    intro reads
    constructor
    case left =>
      intro n writes
      by_contra large
      have refused : ∀ m, ¬Accepts base rest m := by
        rintro m ⟨few, same | ⟨digits, rfl, _⟩⟩
        · exact large (same.unique h.base_le writes ▸ few)
        · exact Text.not_writes_plus writes
      exact not_nearest_nan (parse_of_refused h refused ▸ reads.number n writes)
    case right =>
      rintro digits n rfl writes
      by_contra few
      have nearest := Accepts.nearest h ⟨not_le.mp few, .inr ⟨digits, rfl, writes⟩⟩
      exact not_nearest_nan (reads.fault (fun _ => Text.not_writes_plus) ▸ nearest)
  case mpr =>
    intro ⟨few, many⟩
    refine ⟨fun n writes => Accepts.nearest h ⟨few n writes, .inl writes⟩, fun none => ?_⟩
    refine parse_of_refused h ?_
    rintro n ⟨lt, writes | ⟨digits, eq, writes⟩⟩
    · exact none n writes
    · exact absurd lt (not_lt.mpr (many digits n eq writes))

theorem hex_literal : Announces (Text.trim " 0xFf ".toList) 16 "Ff".toList ∧
    Nearest (parse " 0xFf ") 255 := by
  have announces : Announces (Text.trim " 0xFf ".toList) 16 "Ff".toList :=
    ⟨"0x", by decide, by decide⟩
  have writes : Writes 16 "Ff".toList 255 :=
    ⟨by decide, [15, 15], .cons ⟨by decide, by decide⟩ (.cons ⟨by decide, by decide⟩ .nil),
      by decide⟩
  exact ⟨announces, (announced_parse announces).1 255 ⟨by decide, .inl writes⟩⟩

-- A numeral with a plus sign is read, and one of 65 bits is not.
theorem hex_misread : Announces (Text.trim "0x+1F".toList) 16 "+1F".toList ∧
    ¬ReadsLiteral 16 "+1F".toList (parse "0x+1F") ∧
      Announces (Text.trim "0x10000000000000000".toList) 16 "10000000000000000".toList ∧
      ¬ReadsLiteral 16 "10000000000000000".toList (parse "0x10000000000000000") := by
  refine ⟨⟨"0x", by decide, by decide⟩, ?plus, ⟨"0x", by decide, by decide⟩, ?large⟩
  case plus =>
    intro reads
    have none := reads.fault fun _ => Text.not_writes_plus
    exact absurd (congrArg Float.isNaN none) (by decide +kernel)
  case large =>
    intro reads
    have writes : Writes 16 "10000000000000000".toList (2 ^ 64) :=
      (Text.naturalIn?_eq_some_iff (by decide) (by decide)).mp (by decide +kernel)
    exact absurd (reads.number _ writes).finite (by decide +kernel)

end TextCharts.Numeric
