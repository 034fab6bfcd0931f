import Mathlib.Data.List.Forall2
import Mathlib.Data.List.Nodup
import Mathlib.Data.Nat.Digits.Lemmas
import TextCharts.Text.Digit

namespace TextCharts.Text

def alphabet : List Char :=
  "0123456789abcdefghijklmnopqrstuvwxyz".toList

variable {base n v w : ℕ} {c d : Char} {text : List Char}

-- A digit, in either case, and its place in the alphabet.
structure StandsFor (base : ℕ) (c : Char) (v : ℕ) : Prop where
  lt    : v < base
  place : alphabet[v]? = some c.toLower

-- A text of digits, one at least, and their number.
structure Writes (base : ℕ) (text : List Char) (n : ℕ) : Prop where
  nonempty : text ≠ []
  digits   : ∃ values, List.Forall₂ (StandsFor base) text values ∧
    Nat.ofDigits base values.reverse = n

-- A plus sign may stand before the digits.
def WritesSigned (base : ℕ) (text : List Char) (n : ℕ) : Prop :=
  Writes base text n ∨ ∃ digits, text = '+' :: digits ∧ Writes base digits n

theorem alphabet_nodup : alphabet.Nodup := by
  decide +kernel

theorem digitIn?_ascii : ∀ n < 128,
    digitIn? 36 (.ofNat n) = alphabet.findIdx? (· == (Char.ofNat n).toLower) := by
  decide +kernel

theorem ascii_of_mem_alphabet : ∀ c ∈ alphabet, c.toNat < 128 := by
  have all : alphabet.all (·.toNat < 128) := by decide
  exact fun c mem => decide_eq_true_eq.mp (List.all_eq_true.mp all c mem)

-- A character by its number; the numbers of the letters are looked up.
theorem digitIn?_eq (base : ℕ) (c : Char) : digitIn? base c =
    if 48 ≤ c.toNat ∧ c.toNat ≤ 57 then if c.toNat - 48 < base then some (c.toNat - 48) else none
    else if 97 ≤ c.toNat ∧ c.toNat ≤ 122 then
      if c.toNat - 97 + 10 < base then some (c.toNat - 97 + 10) else none
    else if 65 ≤ c.toNat ∧ c.toNat ≤ 90 then
      if c.toNat - 65 + 10 < base then some (c.toNat - 65 + 10) else none
    else none := by
  have le (c d : Char) : c ≤ d ↔ c.toNat ≤ d.toNat := Iff.rfl
  simp only [digitIn?, Char.isDigit_iff_toNat, le, Bool.and_eq_true, decide_eq_true_eq,
    Char.reduceToNat]
  split_ifs <;> first | rfl | omega

theorem digitIn?_eq_some_iff_lt (h : base ≤ 36) :
    digitIn? base c = some v ↔ v < base ∧ digitIn? 36 c = some v := by
  rw [digitIn?_eq, digitIn?_eq]
  split_ifs <;> simp <;> omega

theorem digitIn?_of_large (h : 128 ≤ c.toNat) : digitIn? 36 c = none := by
  rw [digitIn?_eq]
  split_ifs <;> first | rfl | omega

theorem toLower_of_large (h : 128 ≤ c.toNat) : c.toLower = c := by
  refine dif_neg fun upper => ?_
  have : c.toNat ≤ 90 := upper.2
  omega

theorem findIdx?_alphabet :
    alphabet.findIdx? (· == d) = some v ↔ alphabet[v]? = some d := by
  rw [List.findIdx?_eq_some_iff_getElem, List.getElem?_eq_some_iff]
  constructor
  case mp  => exact fun ⟨lt, found, _⟩ => ⟨lt, beq_iff_eq.mp found⟩
  case mpr =>
    intro ⟨lt, found⟩
    refine ⟨lt, beq_iff_eq.mpr found, fun j before same => ?_⟩
    have twice : alphabet[j] = alphabet[v] := (beq_iff_eq.mp same).trans found.symm
    exact before.ne ((alphabet_nodup.getElem_inj_iff).mp twice)

theorem digitIn?_eq_some_iff (h : base ≤ 36) : digitIn? base c = some v ↔ StandsFor base c v := by
  rw [digitIn?_eq_some_iff_lt h]
  have place : digitIn? 36 c = some v ↔ alphabet[v]? = some c.toLower := by
    rcases lt_or_ge c.toNat 128 with ascii | large
    case inl =>
      have found := digitIn?_ascii c.toNat ascii
      rw [Char.ofNat_toNat] at found
      rw [found, findIdx?_alphabet]
    case inr =>
      rw [digitIn?_of_large large, toLower_of_large large]
      refine iff_of_false nofun fun found => ?_
      have := ascii_of_mem_alphabet c (List.mem_of_getElem? found)
      omega
  exact ⟨fun ⟨lt, found⟩ => ⟨lt, place.mp found⟩, fun ⟨lt, found⟩ => ⟨lt, place.mpr found⟩⟩

theorem foldlM_eq_some_iff (h : base ≤ 36) (text : List Char) (start : ℕ) :
    text.foldlM (fun n c => (digitIn? base c).map (n * base + ·)) start = some n ↔
      ∃ values, List.Forall₂ (StandsFor base) text values ∧
        Nat.ofDigits base values.reverse + base ^ text.length * start = n := by
  induction text generalizing start with
  | nil            => simp
  | cons c text hi =>
    rw [List.foldlM_cons, Option.bind_eq_bind, Option.bind_eq_some_iff]
    constructor
    case mp =>
      intro ⟨next, digit, rest⟩
      obtain ⟨v, hv, rfl⟩ := Option.map_eq_some_iff.mp digit
      obtain ⟨values, all, rfl⟩ := (hi _).mp rest
      refine ⟨v :: values, .cons ((digitIn?_eq_some_iff h).mp hv) all, ?_⟩
      rw [List.reverse_cons, Nat.ofDigits_append, List.length_reverse, ← all.length_eq,
        Nat.ofDigits_singleton, List.length_cons]
      ring
    case mpr =>
      rintro ⟨_, all, rfl⟩
      cases all with
      | cons hv all =>
        rename_i v values
        refine ⟨start * base + v,
          Option.map_eq_some_iff.mpr ⟨v, (digitIn?_eq_some_iff h).mpr hv, rfl⟩,
          (hi _).mpr ⟨values, all, ?_⟩⟩
        rw [List.reverse_cons, Nat.ofDigits_append, List.length_reverse, ← all.length_eq,
          Nat.ofDigits_singleton, List.length_cons]
        ring

theorem naturalIn?_eq_some_iff (h : base ≤ 36) (nonempty : text ≠ []) :
    naturalIn? base text = some n ↔ Writes base text n := by
  have folded := foldlM_eq_some_iff (n := n) h text 0
  rw [mul_zero] at folded
  exact folded.trans ⟨fun digits => ⟨nonempty, digits⟩, fun writes => writes.digits⟩

theorem Writes.unique {m : ℕ} (h : base ≤ 36) (hm : Writes base text m) (hn : Writes base text n) :
    m = n := by
  have read := (naturalIn?_eq_some_iff h hm.nonempty).mpr hm
  exact Option.some_inj.mp (read.symm.trans ((naturalIn?_eq_some_iff h hn.nonempty).mpr hn))

theorem not_standsFor_plus : ¬StandsFor base '+' v :=
  fun stands => absurd (List.mem_of_getElem? stands.place : '+' ∈ alphabet) (by decide +kernel)

theorem not_mem_plus {values : List ℕ} (h : List.Forall₂ (StandsFor base) text values) :
    '+' ∉ text := by
  induction h with
  | nil             => exact List.not_mem_nil
  | cons stands _ hi =>
    rintro (_ | ⟨_, mem⟩)
    · exact not_standsFor_plus stands
    · exact hi mem

theorem Writes.not_mem_plus (h : Writes base text n) : '+' ∉ text :=
  have ⟨_, all, _⟩ := h.digits
  Text.not_mem_plus all

theorem not_writes_plus {digits : List Char} : ¬Writes base ('+' :: digits) n :=
  fun writes => writes.not_mem_plus List.mem_cons_self

theorem WritesSigned.unsigned (h : WritesSigned base text n) (plain : '+' ∉ text) :
    Writes base text n := by
  rcases h with writes | ⟨digits, rfl, _⟩
  · exact writes
  · exact absurd List.mem_cons_self plain

theorem signedIn?_eq_some_iff (h : base ≤ 36) :
    signedIn? base text = some n ↔ WritesSigned base text n := by
  have empty : ¬Writes base [] n := fun writes => writes.nonempty rfl
  unfold WritesSigned
  fun_cases signedIn? base text
  case case1 => simp [empty]
  case case2 => simp [not_writes_plus, empty]
  case case3 digits some => simp [not_writes_plus, naturalIn?_eq_some_iff h some]
  case case4 nonempty _ unsigned =>
    rw [naturalIn?_eq_some_iff h nonempty]
    exact ⟨.inl, fun | .inl writes => writes | .inr ⟨_, eq, _⟩ => absurd eq (unsigned _)⟩

end TextCharts.Text
