import TextCharts.Proofs.Double.Half

namespace TextCharts.Double

open Float.Model (Format UnpackedFloat)
open Float.Model.UnpackedFloat (Sign)

variable {q : ℚ} {m n : ℕ} {e : ℤ}

theorem onGrid_limit : OnGrid limit :=
  ⟨1, 1024, by norm_num, by norm_num, by norm_num [limit]⟩

theorem returns_infinity (large : limit ≤ q) :
    Returns (.ofModel (.pack (.infinity .positive))) q := by
  refine ⟨unpack_pack_isNumber trivial nofun, ?_⟩
  have above : limit ≤ rounded q := onGrid_limit.rounded_eq.symm.trans_le (rounded_mono large)
  rw [saturate_of_limit_le above]
  rfl

-- What is at most half the least number is rounded to zero.
theorem rounded_of_tiny (nonneg : 0 ≤ q) (tiny : q ≤ 2 ^ (-1075 : ℤ)) : rounded q = 0 := by
  have half : (2 : ℚ) ^ (-1075 : ℤ) = 2 ^ (-1074 : ℤ) / 2 := by
    rw [eq_div_iff (by norm_num), ← zpow_add_one₀ (by norm_num)]
    rfl
  have unit : (2 : ℚ) ^ (-1074 : ℤ) ≤ 2 ^ quantum q :=
    zpow_le_zpow_right₀ (by norm_num) (le_quantum q)
  refine rounded_of_near (k := 0) (by simp) ?_ fun _ => Even.zero
  rw [zero_sub, abs_neg, abs_of_nonneg nonneg]
  linarith

theorem returns_zero (nonneg : 0 ≤ q) (tiny : q ≤ 2 ^ (-1075 : ℤ)) :
    Returns (.ofModel (.pack (.zero .positive))) q := by
  refine Represents.returns ?_
  rw [rounded_of_tiny nonneg tiny]
  exact represents_zero _

theorem two_zpow_le_ten_zpow (nonneg : 0 ≤ e) : (2 : ℚ) ^ e ≤ 10 ^ e := by
  obtain ⟨n, rfl⟩ := Int.eq_ofNat_of_zero_le nonneg
  rw [zpow_natCast, zpow_natCast]
  exact pow_le_pow_left₀ (by norm_num) (by norm_num) n

theorem ten_zpow_le_two_zpow (nonpos : e ≤ 0) : (10 : ℚ) ^ e ≤ 2 ^ e := by
  have le := two_zpow_le_ten_zpow (neg_nonneg.mpr nonpos)
  rw [zpow_neg, zpow_neg] at le
  exact (inv_le_inv₀ (unit_pos e) (zpow_pos (by norm_num) e)).mp le

theorem limit_le_scientific (pos : 0 < m) (large : 2 ^ 11 < e) : limit ≤ m * 10 ^ e :=
  calc limit
    _ ≤ 2 ^ e      := zpow_le_zpow_right₀ (by norm_num) (by omega)
    _ ≤ 10 ^ e     := two_zpow_le_ten_zpow (by omega)
    _ ≤ m * 10 ^ e := le_mul_of_one_le_left (zpow_pos (by norm_num) e).le (by exact_mod_cast pos)

theorem scientific_le_tiny (small : e < -(2 ^ 11 + m.log2 : ℤ)) :
    (m : ℚ) * 10 ^ e ≤ 2 ^ (-1075 : ℤ) := by
  have few : (m : ℚ) ≤ 2 ^ (m.log2 + 1 : ℤ) := by exact_mod_cast Nat.lt_log2_self.le
  calc (m : ℚ) * 10 ^ e
    _ ≤ 2 ^ (m.log2 + 1 : ℤ) * 2 ^ e :=
      mul_le_mul few (ten_zpow_le_two_zpow (by omega)) (zpow_pos (by norm_num) e).le
        (unit_pos _).le
    _ = 2 ^ (m.log2 + 1 + e) := (zpow_add₀ (by norm_num) ..).symm
    _ ≤ 2 ^ (-1075 : ℤ)      := zpow_le_zpow_right₀ (by norm_num) (by omega)

theorem cast_power (nonneg : 0 ≤ e) : ((10 ^ e.toNat : ℕ) : ℚ) = 10 ^ e := by
  rw [Nat.cast_pow, Nat.cast_ofNat, ← zpow_natCast, Int.toNat_of_nonneg nonneg]

theorem long_product_represents (nonneg : 0 ≤ e) (pos : 0 < m <<< 53) (pos' : 0 < 10 ^ e.toNat) :
    Represents (UnpackedFloat.mul Format.binary64 (.finite .positive (m <<< 53) (-53) pos)
      (.finite .positive (10 ^ e.toNat) 0 pos')) (rounded (m * 10 ^ e)) := by
  have shifted : m <<< 53 = m * 2 ^ 53 := Nat.shiftLeft_eq ..
  have positive : 0 < m := Nat.pos_of_mul_pos_right (shifted ▸ pos)
  have full : 2 ^ 52 ≤ m <<< 53 :=
    calc 2 ^ 52
      _ ≤ 2 ^ 53     := Nat.pow_le_pow_right (by norm_num) (by norm_num)
      _ ≤ m * 2 ^ 53 := Nat.le_mul_of_pos_left _ positive
      _ = m <<< 53   := shifted.symm
  have ready : Ready (m <<< 53 * 10 ^ e.toNat) (-53 + 0) :=
    .inl (full.trans (Nat.le_mul_of_pos_right _ pos'))
  have eq : amount (.finite .positive (m <<< 53) (-53) pos) *
      amount (.finite .positive (10 ^ e.toNat) 0 pos') = m * 10 ^ e := by
    change ((m <<< 53 : ℕ) : ℚ) * 2 ^ (-53 : ℤ) * ((10 ^ e.toNat : ℕ) * 2 ^ (0 : ℤ)) = _
    have unit : (2 : ℚ) ^ 53 * 2 ^ (-53 : ℤ) = 1 := by norm_num
    rw [cast_power nonneg, shifted, Nat.cast_mul, Nat.cast_pow, Nat.cast_ofNat,
      mul_assoc (m : ℚ), unit, zpow_zero, mul_one, mul_one]
  exact eq ▸ mul_finite_represents ready

theorem long_quotient_represents (nonpos : e ≤ 0) (pos : 0 < m) (pos' : 0 < 10 ^ (-e).toNat) :
    Represents (UnpackedFloat.div Format.binary64 (.finite .positive m 0 pos)
      (.finite .positive (10 ^ (-e).toNat) 0 pos')) (rounded (m * 10 ^ e)) := by
  have eq : amount (.finite .positive m 0 pos) /
      amount (.finite .positive (10 ^ (-e).toNat) 0 pos') = m * 10 ^ e := by
    change (m : ℚ) * 2 ^ (0 : ℤ) / ((10 ^ (-e).toNat : ℕ) * 2 ^ (0 : ℤ)) = _
    rw [cast_power (neg_nonneg.mpr nonpos), zpow_zero, mul_one, mul_one, zpow_neg, div_inv_eq_mul]
  exact eq ▸ div_finite_represents

theorem onGrid_power (few : n < 22) : OnGrid (10 ^ (n + 1)) := by
  refine ⟨5 ^ (n + 1), n + 1, ?_, by omega, ?_⟩
  · rw [abs_of_pos (by positivity)]
    calc (5 : ℤ) ^ (n + 1)
      _ ≤ 5 ^ 22 := pow_le_pow_right₀ (by norm_num) (by omega)
      _ < 2 ^ 53 := by norm_num
  · rw [← Nat.cast_succ, zpow_natCast]
    push_cast
    rw [← mul_pow]
    norm_num

theorem abs_power_lt_limit (few : n < 22) : |(10 : ℚ) ^ (n + 1)| < limit := by
  rw [abs_of_pos (by positivity)]
  calc (10 : ℚ) ^ (n + 1)
    _ ≤ 10 ^ 22         := pow_le_pow_right₀ (by norm_num) (by omega)
    _ < 2 ^ (100 : ℤ)   := by norm_num
    _ < limit           := zpow_lt_zpow_right₀ (by norm_num) (by norm_num)

-- The exact powers of ten follow from one another.
theorem equals_power {x : Float} (h : Float.exactlyRepresentablePowersOfTen[n]? = some x) :
    Equals x (10 ^ n) := by
  have first : Float.exactlyRepresentablePowersOfTen[0]? = some (1 : UInt64).toFloat := by
    decide +kernel
  have next : ∀ n < 22, Float.exactlyRepresentablePowersOfTen[n + 1]? =
      Float.exactlyRepresentablePowersOfTen[n]?.map (· * (10 : UInt64).toFloat) := by
    decide +kernel
  induction n generalizing x with
  | zero =>
    cases first.symm.trans h
    exact_mod_cast equals_toFloat (n := 1) (by decide)
  | succ n hi =>
    have few : n < 22 := by
      have := (Array.getElem?_eq_some_iff.mp h).1
      have : Float.exactlyRepresentablePowersOfTen.size = 23 := rfl
      omega
    obtain ⟨y, hy, rfl⟩ := Option.map_eq_some_iff.mp ((next n few).symm.trans h)
    have power := hi hy
    have ten : Equals (10 : UInt64).toFloat (10 : ℕ) := equals_toFloat (by decide)
    have product := mul_returns power.finite ten.finite
    rw [power.value, ten.value, Nat.cast_ofNat, ← pow_succ] at product
    exact product.equals (onGrid_power few) (abs_power_lt_limit few)

-- The power of ten that a numeral is multiplied by.
def exponent (down : Bool) (n : ℕ) : ℤ :=
  if down then -n else n

theorem short_returns {down : Bool} (few : m < 2 ^ 53) (h : n ≤ 22) :
    Returns (Float.ofScientific m down n) (m * 10 ^ exponent down n) := by
  have size : n < Float.exactlyRepresentablePowersOfTen.size := Nat.lt_succ_of_le h
  have power := equals_power (Array.getElem?_eq_getElem size)
  have small : m.toUInt64.toNat = m := Nat.mod_eq_of_lt (few.trans (by norm_num))
  have whole := equals_toFloat (small.symm ▸ few)
  have short : Float.ofScientific m down n =
      if down then m.toUInt64.toFloat / Float.exactlyRepresentablePowersOfTen[n]
      else m.toUInt64.toFloat * Float.exactlyRepresentablePowersOfTen[n] :=
    dif_pos ⟨few, h⟩
  rw [short]
  cases down
  case false =>
    have product := mul_returns whole.finite power.finite
    rw [whole.value, power.value, small] at product
    change Returns _ (m * 10 ^ (n : ℤ))
    rwa [zpow_natCast]
  case true =>
    have quotient := div_returns whole.finite power.finite (by rw [power.value]; positivity)
    rw [whole.value, power.value, small] at quotient
    change Returns _ (m * 10 ^ (-n : ℤ))
    rwa [zpow_neg, zpow_natCast, ← div_eq_mul_inv]

theorem long_returns (m : ℕ) (e : ℤ) :
    Returns (.ofModel (Float.Model.ofScientific m e)) (m * 10 ^ e) := by
  have eq : Float.Model.ofScientific m e =
      .pack (UnpackedFloat.ofScientific Format.binary64 m e) := rfl
  have exits : Format.binary64.exponentBits = 11 := rfl
  rw [eq, UnpackedFloat.ofScientific, exits]
  by_cases zero : m = 0
  case pos =>
    rw [dif_pos zero, zero, Nat.cast_zero, zero_mul]
    exact returns_zero le_rfl (unit_pos _).le
  case neg =>
    have pos : 0 < m := Nat.pos_of_ne_zero zero
    rw [dif_neg zero]
    by_cases large : e > 2 ^ 11
    case pos =>
      rw [if_pos large]
      exact returns_infinity (limit_le_scientific pos large)
    case neg =>
      rw [if_neg large]
      by_cases small : e < -(2 ^ 11 + m.log2 : ℤ)
      case pos =>
        rw [if_pos small]
        have nonneg : 0 ≤ (m : ℚ) * 10 ^ e :=
          mul_nonneg (Nat.cast_nonneg m) (zpow_pos (by norm_num) e).le
        exact returns_zero nonneg (scientific_le_tiny small)
      case neg =>
        rw [if_neg small]
        by_cases up : 0 ≤ e
        case pos =>
          rw [if_pos up]
          exact (long_product_represents up _ _).returns
        case neg =>
          rw [if_neg up]
          exact (long_quotient_represents (not_le.mp up).le pos _).returns

theorem ofScientific_returns (m : ℕ) (down : Bool) (n : ℕ) :
    Returns (Float.ofScientific m down n) (m * 10 ^ exponent down n) := by
  by_cases short : m < 2 ^ 53 ∧ n ≤ 22
  case pos => exact short_returns short.1 short.2
  case neg =>
    have long : Float.ofScientific m down n = .ofModel (Float.Model.ofScientific m
        (if down then Int.negOfNat n else Int.ofNat n)) := dif_neg short
    have same : (if down then Int.negOfNat n else Int.ofNat n) = exponent down n := by
      cases down with
      | false => rfl
      | true  => exact Int.negOfNat_eq
    rw [long, same]
    exact long_returns m _

end TextCharts.Double
