import TextCharts.Chart.Trace
import TextCharts.Proofs.Double.Arithmetic

namespace TextCharts

namespace Double

open Float.Model (Format UnpackedFloat totalExponent)
open Float.Model.UnpackedFloat (Sign decreaseExponent roundToInt)

variable {x : Float} {q : ℚ} {n : ℕ}

theorem onGrid_natCast (lt : n < 2 ^ 53) : OnGrid n :=
  ⟨n, 0, by rw [abs_of_nonneg (Int.natCast_nonneg n)]; exact_mod_cast lt, by norm_num, by norm_num⟩

theorem abs_natCast_lt_limit (lt : n < 2 ^ 53) : |(n : ℚ)| < limit := by
  have below := magnitude_lt_limit (e := 0) lt (by norm_num)
  rwa [zpow_zero, mul_one, ← abs_of_nonneg (Nat.cast_nonneg (α := ℚ) n)] at below

theorem equals_toFloat {n : UInt64} (lt : n.toNat < 2 ^ 53) : Equals n.toFloat n.toNat := by
  have normalized := normalize_represents n.toNat 0 .positive
  rw [zpow_zero, mul_one, Int.cast_natCast] at normalized
  exact normalized.returns.equals (onGrid_natCast lt) (abs_natCast_lt_limit lt)

theorem equals_ofScientific (lt : n < 2 ^ 53) : Equals (Float.ofScientific n false 0) n := by
  have small : n.toUInt64.toNat = n := Nat.mod_eq_of_lt (lt.trans (by norm_num))
  have one : Float.exactlyRepresentablePowersOfTen[0] = (1 : UInt64).toFloat := by decide +kernel
  have eq : Float.ofScientific n false 0 = n.toUInt64.toFloat * (1 : UInt64).toFloat :=
    (dif_pos ⟨lt, by norm_num⟩).trans (congrArg (n.toUInt64.toFloat * ·) one)
  have whole := equals_toFloat (small.symm ▸ lt)
  have unit : Equals (1 : UInt64).toFloat (1 : ℕ) := equals_toFloat (by decide)
  have product := mul_returns whole.finite unit.finite
  rw [whole.value, unit.value, small, Nat.cast_one, mul_one, ← eq] at product
  exact product.equals (onGrid_natCast lt) (abs_natCast_lt_limit lt)

theorem equals_zero : Equals 0 0 :=
  equals_ofScientific (n := 0) (by norm_num)

theorem equals_one : Equals 1 1 :=
  equals_ofScientific (n := 1) (by norm_num)

theorem equals_half : Equals 0.5 (1 / 2) := by
  have eq : (0.5 : Float) = (1 : UInt64).toFloat / (2 : UInt64).toFloat := by decide +kernel
  have one : Equals (1 : UInt64).toFloat (1 : ℕ) := equals_toFloat (by decide)
  have two : Equals (2 : UInt64).toFloat (2 : ℕ) := equals_toFloat (by decide)
  have grid : OnGrid (1 / 2) := ⟨1, -1, by norm_num, by norm_num, by norm_num⟩
  have small : |(1 / 2 : ℚ)| < limit := lt_trans (by norm_num) one_lt_limit
  have half := div_returns one.finite two.finite (by rw [two.value]; norm_num)
  rw [one.value, two.value, Nat.cast_one, Nat.cast_ofNat, ← eq] at half
  exact half.equals grid small

theorem roundToInt_eq (s : Sign) (m : ℕ) (e : ℤ) :
    roundToInt s m e = s.apply ⌊(m : ℚ) * 2 ^ e⌋ := by
  generalize lowered : decreaseExponent m e 0 = p
  have value : (p.1 : ℚ) * 2 ^ p.2 = m * 2 ^ e := lowered ▸ decreaseExponent_value m e 0
  have nonpos : p.2 ≤ 0 := by
    have : p.2 = e - ((e - 0).toNat : ℤ) := lowered ▸ rfl
    omega
  have shifted := (reads_exact p.1).shift (0 - p.2).toNat
  have quotient : (p.1 : ℚ) / 2 ^ (0 - p.2).toNat = m * 2 ^ e := by
    rw [← value, div_eq_mul_inv, ← zpow_natCast, ← zpow_neg]
    congr 2
    omega
  rw [quotient] at shifted
  have floor : ⌊(m : ℚ) * 2 ^ e⌋ = (_ : ℕ) :=
    Int.floor_eq_iff.mpr (by exact_mod_cast shifted.bounds)
  rw [roundToInt, lowered, floor]
  rfl

-- Conversion cuts off what is behind the point.
theorem toNat_toUInt64 (finite : x.isFinite) (nonneg : 0 ≤ value x) (lt : value x < 2 ^ 53) :
    x.toUInt64.toNat = ⌊value x⌋₊ := by
  have clamped {k : ℕ} (lt : k < 2 ^ 53) : (UInt64.ofNatClamp k).toNat = k := by
    have below : k < UInt64.size := lt.trans (by decide)
    rw [UInt64.ofNatClamp, dif_pos below]
    rfl
  have below : ⌊value x⌋₊ < 2 ^ 53 := (Nat.floor_lt nonneg).mpr (by exact_mod_cast lt)
  have unclamped : x.toUInt64 = UInt64.ofNatClamp
      (x.toModel.unpack.toInt 0 (UInt64.size - 1)).toNat := rfl
  have whole : (x.toModel.unpack.toInt 0 (UInt64.size - 1)).toNat = ⌊value x⌋₊ := by
    rw [value] at nonneg lt ⊢
    have finite : x.toModel.unpack.isFinite := finite
    cases h : x.toModel.unpack with
    | notANumber =>
      rw [h] at finite
      exact absurd finite Bool.false_ne_true
    | infinity s =>
      rw [h] at finite
      exact absurd finite Bool.false_ne_true
    | zero s     => exact Nat.floor_zero.symm
    | finite s m e pos =>
      rw [h] at nonneg
      cases s with
      | negative => exact absurd nonneg (not_le.mpr amount_negative)
      | positive =>
        change (roundToInt .positive m e).toNat = ⌊(m : ℚ) * 2 ^ e⌋₊
        rw [roundToInt_eq]
        rfl
  rw [unclamped, whole, clamped below]

theorem toUInt64_of_not_isNumber (h : ¬IsNumber x) : x.toUInt64 = 0 := by
  have h : x.toModel.unpack = .notANumber := not_not.mp h
  change UnpackedFloat.toUInt64 x.toModel.unpack = 0
  rw [h]
  rfl

-- What stands behind the point of a double is a double.
theorem OnGrid.fract (grid : OnGrid q) (nonneg : 0 ≤ q) : OnGrid (Int.fract q) := by
  obtain ⟨m, e, lt, le, rfl⟩ := grid
  rcases le_or_gt 0 e with whole | small
  case inl =>
    have eq : (m : ℚ) * 2 ^ e = (m * 2 ^ e.toNat : ℤ) := by
      rw [← Int.toNat_of_nonneg whole]
      push_cast
      rfl
    rw [eq, Int.fract_intCast]
    exact onGrid_zero
  case inr =>
    obtain ⟨n, rfl⟩ : ∃ n : ℕ, m = n := Int.eq_ofNat_of_zero_le (by
      have := nonneg_of_mul_nonneg_left nonneg (unit_pos e)
      exact_mod_cast this)
    have eq (k : ℕ) : (k : ℚ) * 2 ^ e = k / (2 ^ (-e).toNat : ℕ) := by
      rw [Nat.cast_pow, Nat.cast_ofNat, ← zpow_natCast, Int.toNat_of_nonneg (by omega), zpow_neg,
        div_inv_eq_mul]
    have small : |((n % 2 ^ (-e).toNat : ℕ) : ℤ)| < 2 ^ 53 := by
      rw [abs_of_nonneg (Int.natCast_nonneg _)] at lt ⊢
      exact lt_of_le_of_lt (by exact_mod_cast Nat.mod_le ..) lt
    refine ⟨(n % 2 ^ (-e).toNat : ℕ), e, small, le, ?_⟩
    rw [Int.cast_natCast, Int.cast_natCast, eq, eq, Int.fract_div_natCast_eq_div_natCast_mod]

theorem abs_fract_lt_limit (q : ℚ) : |Int.fract q| < limit := by
  rw [abs_of_nonneg (Int.fract_nonneg q)]
  exact (Int.fract_lt_one q).trans one_lt_limit

end Double

namespace Chart

open Double

variable {x : Float}

-- A half is rounded upwards.
theorem nearest_eq (finite : x.isFinite) (nonneg : 0 ≤ value x) (lt : value x < 2 ^ 53) :
    nearest x = ⌊value x + 1 / 2⌋₊ := by
  have cut : x.toUInt64.toNat = ⌊value x⌋₊ := toNat_toUInt64 finite nonneg lt
  have small : ⌊value x⌋₊ < 2 ^ 53 := (Nat.floor_lt nonneg).mpr (by exact_mod_cast lt)
  have whole : Equals x.toUInt64.toFloat ⌊value x⌋₊ := cut ▸ equals_toFloat (cut ▸ small)
  have floor : ((⌊value x⌋₊ : ℕ) : ℚ) = ⌊value x⌋ := natCast_floor_eq_intCast_floor nonneg
  have rest : Equals (x - x.toUInt64.toFloat) (Int.fract (value x)) := by
    have difference := sub_returns finite whole.finite
    rw [whole.value, floor, Int.self_sub_floor] at difference
    exact difference.equals ((onGrid_value x).fract nonneg) (abs_fract_lt_limit _)
  have split : (⌊value x⌋₊ : ℚ) + Int.fract (value x) = value x := by
    rw [floor, Int.floor_add_fract]
  have below := Int.fract_lt_one (value x)
  have above := Int.fract_nonneg (value x)
  have up : 0.5 ≤ x - x.toUInt64.toFloat ↔ 1 / 2 ≤ Int.fract (value x) := by
    rw [le_iff_value equals_half.number rest.number, equals_half.value, rest.value]
  rw [nearest, cut]
  symm
  split_ifs with half
  case pos =>
    rw [up] at half
    refine (Nat.floor_eq_iff (by linarith)).mpr ⟨?_, ?_⟩ <;> push_cast <;> linarith
  case neg =>
    rw [up, not_le] at half
    refine (Nat.floor_eq_iff (by linarith)).mpr ⟨?_, ?_⟩ <;> linarith

-- What is no number is rounded to zero.
theorem nearest_of_not_isNumber (h : ¬IsNumber x) : nearest x = 0 := by
  have whole : x.toUInt64 = 0 := toUInt64_of_not_isNumber h
  have down : ¬0.5 ≤ x - x.toUInt64.toFloat := not_le_of_not_isNumber (.inr (not_isNumber_sub h))
  rw [nearest, if_neg down, whole]
  rfl

end Chart
end TextCharts
