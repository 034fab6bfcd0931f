import TextCharts.Proofs.Double.Arithmetic
import TextCharts.Proofs.Double.Parts

namespace TextCharts.Double

open Decimal (Parts)

variable {q r : ℚ} {x : Float} {negative : Bool} {m k : ℕ} {e i : ℤ}

-- The finite double at the least distance; of two at the same distance, the one that is even.
structure Nearest (x : Float) (q : ℚ) : Prop where
  finite  : x.isFinite
  closest : ∀ y : Float, y.isFinite → |value x - q| ≤ |value y - q|
  even    : ∀ y : Float, y.isFinite → value y ≠ value x → |value y - q| = |value x - q| →
    ∃ negative m e, Parts.ofDouble x = .finite negative m e ∧ Even m

theorem nearestEven_apart {x : ℚ} {k : ℤ} (other : k ≠ nearestEven x) : 1 / 2 ≤ |k - x| := by
  have near := (nearestEven_spec x).1
  have apart : (1 : ℚ) ≤ |(k : ℚ) - nearestEven x| := by
    have : 1 ≤ |k - nearestEven x| := Int.one_le_abs (sub_ne_zero.mpr other)
    exact_mod_cast this
  have := abs_sub_le (k : ℚ) x (nearestEven x)
  rw [abs_sub_comm x] at this
  linarith

theorem nearestEven_closest (x : ℚ) (k : ℤ) : |nearestEven x - x| ≤ |k - x| := by
  by_cases same : k = nearestEven x
  case pos => rw [same]
  case neg => exact (nearestEven_spec x).1.trans (nearestEven_apart same)

theorem abs_mul_unit_sub (k : ℤ) (q : ℚ) :
    |k * 2 ^ quantum q - q| = |k - q / 2 ^ quantum q| * 2 ^ quantum q := by
  have pos := unit_pos (quantum q)
  rw [← abs_of_pos pos, ← abs_mul, abs_of_pos pos, sub_mul, div_mul_cancel₀ _ pos.ne']

-- Doubles that are no multiples of the quantum are too small to be near.
theorem OnGrid.multiple_or_far (grid : OnGrid r) (nonzero : q ≠ 0) :
    (∃ k : ℤ, r = k * 2 ^ quantum q) ∨ |rounded q - q| < |r - q| := by
  have ⟨k, hk⟩ := grid.exists_multiple
  by_cases fine : quantum q ≤ quantum r
  case pos =>
    have ⟨j, hj⟩ := exists_multiple_of_le k fine
    exact .inl ⟨j, hk.trans hj⟩
  case neg =>
    have unit := unit_pos (quantum q)
    have large := quantum_le_abs nonzero ((le_quantum r).trans_lt (not_le.mp fine))
    have small : |r| < 2 ^ (52 : ℤ) * 2 ^ quantum q := by
      refine (abs_lt_quantum r).trans_le ?_
      rw [← zpow_add₀ (by norm_num), ← zpow_add₀ (by norm_num)]
      exact zpow_le_zpow_right₀ (by norm_num) (by omega)
    -- The least number with the quantum stands between the two.
    have between : ∃ j : ℤ, |j * 2 ^ quantum q - q| = |q| - 2 ^ (52 : ℤ) * 2 ^ quantum q := by
      rw [zpow_ofNat] at large ⊢
      rcases le_total 0 q with nonneg | nonpos
      · rw [abs_of_nonneg nonneg] at large ⊢
        refine ⟨2 ^ 52, ?_⟩
        rw [Int.cast_pow, Int.cast_ofNat, abs_sub_comm, abs_of_nonneg (by linarith)]
      · rw [abs_of_nonpos nonpos] at large ⊢
        refine ⟨-2 ^ 52, ?_⟩
        rw [Int.cast_neg, Int.cast_pow, Int.cast_ofNat, abs_of_nonneg (by linarith)]
        ring
    have ⟨j, hj⟩ := between
    refine .inr ?_
    calc |rounded q - q|
      _ ≤ |j * 2 ^ quantum q - q|                := by
        rw [rounded, abs_mul_unit_sub, abs_mul_unit_sub]
        exact mul_le_mul_of_nonneg_right (nearestEven_closest _ j) unit.le
      _ = |q| - 2 ^ (52 : ℤ) * 2 ^ quantum q     := hj
      _ < |q| - |r|                              := by linarith
      _ ≤ |r - q|                                := by
        rw [abs_sub_comm]
        exact abs_sub_abs_le_abs_sub q r

theorem OnGrid.closest (grid : OnGrid r) : |rounded q - q| ≤ |r - q| := by
  by_cases zero : q = 0
  case pos => simp [zero, rounded_zero]
  case neg =>
    rcases grid.multiple_or_far zero with ⟨k, rfl⟩ | far
    case inr => exact far.le
    case inl =>
      rw [rounded, abs_mul_unit_sub, abs_mul_unit_sub]
      exact mul_le_mul_of_nonneg_right (nearestEven_closest _ k) (unit_pos _).le

theorem OnGrid.even_of_tie (grid : OnGrid r) (other : r ≠ rounded q)
    (tie : |r - q| = |rounded q - q|) : Even (nearestEven (q / 2 ^ quantum q)) := by
  have nonzero : q ≠ 0 := by
    rintro rfl
    rw [rounded_zero, sub_zero, sub_zero, abs_zero] at tie
    exact other ((abs_eq_zero.mp tie).trans rounded_zero.symm)
  rcases grid.multiple_or_far nonzero with ⟨k, rfl⟩ | far
  case inr => exact absurd tie far.ne'
  case inl =>
    have ⟨near, even⟩ := nearestEven_spec (q / 2 ^ quantum q)
    have apart : k ≠ nearestEven (q / 2 ^ quantum q) := fun same => other (by rw [rounded, same])
    rw [rounded, abs_mul_unit_sub, abs_mul_unit_sub] at tie
    have tie := mul_right_cancel₀ (unit_pos _).ne' tie
    exact even (le_antisymm near (tie ▸ nearestEven_apart apart))

theorem HasParts.abs_value (has : HasParts x negative m e) : |Double.value x| = m * 2 ^ e := by
  have nonneg : 0 ≤ (m : ℚ) * 2 ^ e := mul_nonneg (Nat.cast_nonneg m) (unit_pos e).le
  rw [has.value]
  split
  · rw [abs_neg, abs_of_nonneg nonneg]
  · exact abs_of_nonneg nonneg

theorem natCast_multiple {t : ℤ} (m : ℕ) (h : t ≤ e) :
    (m : ℚ) * 2 ^ e = (m * 2 ^ (e - t).toNat : ℕ) * 2 ^ t := by
  have shift : ((e - t).toNat : ℤ) + t = e := by omega
  rw [Nat.cast_mul, Nat.cast_pow, Nat.cast_ofNat, mul_assoc, ← zpow_natCast,
    ← zpow_add₀ (by norm_num), shift]

-- A number that is even in one way of writing it is even among the doubles.
theorem HasParts.even_significand (has : HasParts x negative m e) (few : k ≤ 2 ^ 53)
    (low : -1074 ≤ i) (same : (m : ℚ) * 2 ^ e = k * 2 ^ i) (even : Even k) : Even m := by
  rcases lt_trichotomy e i with coarse | rfl | fine
  case inl =>
    have eq : (m : ℚ) = (k * 2 ^ (i - e).toNat : ℕ) :=
      mul_right_cancel₀ (unit_pos e).ne' (same.trans (natCast_multiple k coarse.le))
    rw [Nat.cast_inj.mp eq]
    exact even.mul_right _
  case inr.inl => exact Nat.cast_inj.mp (mul_right_cancel₀ (unit_pos e).ne' same) ▸ even
  case inr.inr =>
    have eq : ((m * 2 ^ (e - i).toNat : ℕ) : ℚ) = k :=
      mul_right_cancel₀ (unit_pos i).ne' ((natCast_multiple m fine.le).symm.trans same)
    have eq : m * 2 ^ (e - i).toNat = k := Nat.cast_inj.mp eq
    have full : 2 ^ 52 ≤ m := has.full.resolve_right (by omega)
    -- Only the least full significand can be doubled.
    have double : m * 2 ≤ m * 2 ^ (e - i).toNat :=
      Nat.mul_le_mul_left m (Nat.le_self_pow (by omega) 2)
    have least : m = 2 ^ 52 := by omega
    exact least ▸ ⟨2 ^ 51, by norm_num⟩

theorem abs_nearestEven_le (q : ℚ) : |nearestEven (q / 2 ^ quantum q)| ≤ 2 ^ 53 := by
  have lt := abs_lt_quantum q
  have abs : |q / 2 ^ quantum q| = |q| / 2 ^ quantum q := by
    rw [abs_div, abs_of_pos (unit_pos _)]
  rw [← div_lt_iff₀ (unit_pos _), ← abs] at lt
  have ⟨low, high⟩ := abs_le.mp lt.le
  have below := nearestEven_mono (x := (-2 ^ 53 : ℤ)) (by exact_mod_cast low)
  have above := nearestEven_mono (y := (2 ^ 53 : ℤ)) (by exact_mod_cast high)
  rw [nearestEven_intCast] at below above
  exact abs_le.mpr ⟨below, above⟩

theorem Equals.nearest (h : Equals x (rounded q)) : Nearest x q := by
  refine ⟨h.finite, fun y _ => h.value ▸ (onGrid_value y).closest, fun y _ other tie => ?_⟩
  rw [h.value] at other tie
  have even := (onGrid_value y).even_of_tie other tie
  obtain ⟨negative, m, e, parts⟩ := exists_hasParts h.finite
  have has := hasParts_of_ofDouble parts
  let k := (nearestEven (q / 2 ^ quantum q)).natAbs
  refine ⟨negative, m, e, parts, has.even_significand (k := k) ?few (le_quantum q) ?same ?even⟩
  case few =>
    have := abs_nearestEven_le q
    rw [Int.abs_eq_natAbs] at this
    exact_mod_cast this
  case same =>
    rw [← has.abs_value, h.value, rounded, abs_mul, abs_of_pos (unit_pos _), Nat.cast_natAbs,
      Int.cast_abs]
  case even => exact Int.natAbs_even.mpr even

end TextCharts.Double
