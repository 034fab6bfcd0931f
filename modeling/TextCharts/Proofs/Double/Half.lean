import TextCharts.Proofs.Double.Whole

namespace TextCharts.Double

variable {q : ℚ} {k n e : ℤ}

-- What is a double and is not changed by one half.
def Stiff (q : ℚ) : Prop :=
  ∃ n : ℤ, 2 ^ 51 < |n| ∧ q = 2 * n

theorem Stiff.neg (stiff : Stiff q) : Stiff (-q) := by
  obtain ⟨n, large, rfl⟩ := stiff
  exact ⟨-n, by rwa [abs_neg], by push_cast; ring⟩

theorem OnGrid.le_rounded_add (grid : OnGrid q) : q ≤ rounded (q + 1 / 2) :=
  grid.rounded_eq.symm.trans_le (rounded_mono (by linarith))

theorem OnGrid.rounded_sub_le (grid : OnGrid q) : rounded (q - 1 / 2) ≤ q :=
  (rounded_mono (by linarith)).trans_eq grid.rounded_eq

theorem quantum_of_large (large : 2 ^ (52 + e) ≤ |q|) : e ≤ quantum q := by
  have lt : (2 : ℚ) ^ (52 + e) < 2 ^ (53 + quantum q) := by
    rw [zpow_add₀ (by norm_num) 53]
    exact large.trans_lt (abs_lt_quantum q)
  have := (zpow_lt_zpow_iff_right₀ (by norm_num)).mp lt
  omega

theorem OnGrid.exists_whole (grid : OnGrid q) (large : 2 ^ (52 + e) ≤ |q|) :
    ∃ k : ℤ, q = k * 2 ^ e := by
  have ⟨k, hk⟩ := grid.exists_multiple
  have ⟨j, hj⟩ := exists_multiple_of_le k (quantum_of_large large)
  exact ⟨j, hk.trans hj⟩

theorem OnGrid.stiff_of_large (grid : OnGrid q) (large : 2 ^ 53 ≤ |q|) : Stiff q := by
  have ⟨n, hn⟩ := grid.exists_whole (e := 1) (by exact_mod_cast large)
  rw [zpow_one, mul_comm] at hn
  have large : (2 ^ 51 : ℚ) < (|n| : ℤ) := by
    rw [hn, abs_mul, abs_two] at large
    rw [Int.cast_abs]
    linarith
  exact ⟨n, by exact_mod_cast large, hn⟩

theorem rounded_of_near {x : ℚ} (eq : q = k * 2 ^ quantum x) (near : |q - x| ≤ 2 ^ quantum x / 2)
    (tie : |q - x| = 2 ^ quantum x / 2 → Even k) : rounded x = q := by
  have pos := unit_pos (quantum x)
  have distance : |k - x / 2 ^ quantum x| = |q - x| / 2 ^ quantum x := by
    rw [← abs_of_pos pos, ← abs_div, abs_of_pos pos, eq, sub_div, mul_div_cancel_right₀ _ pos.ne']
  have nearest : nearestEven (x / 2 ^ quantum x) = k := by
    apply eq_nearestEven
    case near =>
      rw [distance, div_le_iff₀ pos]
      linarith
    case tie =>
      intro half
      rw [distance, div_eq_iff pos.ne'] at half
      exact tie (by linarith)
  rw [rounded, nearest]
  exact eq.symm

-- No power of two is passed by half a step from a whole number.
theorem quantum_le_of_half {x : ℚ} (large : 2 ^ 52 + 1 ≤ |n|) (half : |(n : ℚ) - x| = 1 / 2) :
    0 ≤ quantum x ∧ quantum x ≤ quantum n := by
  have size : (2 : ℚ) ^ 52 + 1 ≤ |(n : ℚ)| := by exact_mod_cast large
  have close : |(n : ℚ)| - |x| ≤ 1 / 2 := half ▸ abs_sub_abs_le_abs_sub _ x
  have far : |x| - |(n : ℚ)| ≤ 1 / 2 := half ▸ abs_sub_comm x (n : ℚ) ▸ abs_sub_abs_le_abs_sub x _
  have nonneg : 0 ≤ quantum x := quantum_of_large (by
    have : (2 : ℚ) ^ (52 + 0 : ℤ) = 2 ^ 52 := by norm_num
    linarith)
  refine ⟨nonneg, ?_⟩
  by_contra lt
  have power : (2 : ℚ) ^ (52 + quantum x) = (2 ^ (52 + quantum x).toNat : ℤ) := by
    push_cast
    rw [← zpow_natCast, Int.toNat_of_nonneg (by omega)]
  have nonzero : x ≠ 0 := abs_pos.mp (by linarith)
  have above : (2 : ℚ) ^ (52 + quantum x) ≤ |x| := by
    rw [zpow_add₀ (by norm_num)]
    exact quantum_le_abs nonzero (by omega)
  have below : |(n : ℚ)| < 2 ^ (52 + quantum x) := by
    refine (abs_lt_quantum n).trans_le ?_
    rw [← zpow_add₀ (by norm_num)]
    exact zpow_le_zpow_right₀ (by norm_num) (by omega)
  -- Whole numbers are at least one apart.
  have apart : |(n : ℚ)| + 1 ≤ 2 ^ (52 + quantum x) := by
    rw [power] at below ⊢
    have : |n| < 2 ^ (52 + quantum x).toNat := by exact_mod_cast below
    exact_mod_cast this
  linarith

-- Half a step from an even number leads at most to the middle between two doubles.
theorem Stiff.rounded_eq {x : ℚ} (stiff : Stiff q) (grid : OnGrid q) (half : |q - x| = 1 / 2) :
    rounded x = q := by
  obtain ⟨n, large, even⟩ := stiff
  have whole : q = (2 * n : ℤ) := by exact_mod_cast even
  have ⟨nonneg, le⟩ : 0 ≤ quantum x ∧ quantum x ≤ quantum q := by
    rw [whole] at half ⊢
    exact quantum_le_of_half (by rw [abs_mul, abs_two]; omega) half
  obtain ⟨j, hj⟩ := grid.exists_multiple
  obtain ⟨k, hk⟩ := exists_multiple_of_le j le
  rw [← hj] at hk
  have unit : (1 : ℚ) ≤ 2 ^ quantum x := one_le_zpow₀ (by norm_num) nonneg
  refine rounded_of_near hk (by linarith) fun tie => ?_
  have least : (2 : ℚ) ^ quantum x = 1 := by linarith
  rw [least, mul_one, whole] at hk
  have : 2 * n = k := by exact_mod_cast hk
  exact this ▸ even_two_mul n

-- There is a half that is less, but not by more than one half.
theorem rounded_sub_lt_of_small (nonneg : 0 ≤ q) (small : q ≤ 2 ^ 52) :
    rounded (q - 1 / 2) < q := by
  have above : 2 * q ≤ ⌈2 * q⌉ := Int.le_ceil _
  have below : (⌈2 * q⌉ : ℚ) < 2 * q + 1 := Int.ceil_lt_add_one _
  have few : |⌈2 * q⌉ - 1| < 2 ^ 53 := by
    have high : ⌈2 * q⌉ ≤ 2 ^ 53 := Int.ceil_le.mpr (by push_cast; linarith)
    have low : 0 ≤ ⌈2 * q⌉ := Int.ceil_nonneg (by linarith)
    exact abs_lt.mpr ⟨by omega, by omega⟩
  have half : OnGrid ((⌈2 * q⌉ - 1 : ℤ) * 2 ^ (-1 : ℤ)) := ⟨_, _, few, by norm_num, rfl⟩
  have unit : (2 : ℚ) ^ (-1 : ℤ) = 1 / 2 := by norm_num
  rw [unit] at half
  push_cast at half
  calc rounded (q - 1 / 2)
    _ ≤ rounded ((⌈2 * q⌉ - 1) * (1 / 2)) := rounded_mono (by linarith)
    _ = (⌈2 * q⌉ - 1) * (1 / 2)           := half.rounded_eq
    _ < q                                 := by linarith

-- In the middle between two whole numbers, the even one counts.
theorem rounded_sub_half_of_odd (odd : Odd n) (low : 2 ^ 52 < n) (high : n < 2 ^ 53) :
    rounded (n - 1 / 2) = n - 1 := by
  have low : (2 : ℚ) ^ 52 + 1 ≤ n := by exact_mod_cast low
  have high : (n : ℚ) < 2 ^ 53 := by exact_mod_cast high
  have abs : |(n : ℚ) - 1 / 2| = n - 1 / 2 := abs_of_nonneg (by linarith)
  have unit : quantum ((n : ℚ) - 1 / 2) = 0 := by
    apply quantum_eq
    case nonzero => exact abs_pos.mp (by linarith)
    case le      => norm_num
    case lt      =>
      have power : (2 : ℚ) ^ (53 : ℤ) = 2 ^ 53 := by norm_num
      rw [zpow_zero, mul_one, abs, power]
      linarith
    case least   =>
      have power : (2 : ℚ) ^ (52 : ℤ) = 2 ^ 52 := by norm_num
      rw [zpow_zero, mul_one, abs, power]
      exact .inr (by linarith)
  have distance : |(n : ℚ) - 1 - (n - 1 / 2)| = 1 / 2 := by
    rw [show (n : ℚ) - 1 - (n - 1 / 2) = -(1 / 2) by ring, abs_neg, abs_of_pos (by norm_num)]
  apply rounded_of_near (k := n - 1)
  case eq   => rw [unit, zpow_zero, mul_one, Int.cast_sub, Int.cast_one]
  case near => rw [unit, distance, zpow_zero]
  case tie  => exact fun _ => odd.sub_odd odd_one

theorem OnGrid.rounded_sub_lt (grid : OnGrid q) (nonneg : 0 ≤ q) (loose : ¬Stiff q) :
    rounded (q - 1 / 2) < q := by
  rcases le_or_gt q (2 ^ 52) with small | large
  case inl => exact rounded_sub_lt_of_small nonneg small
  case inr =>
    have abs : |q| = q := abs_of_nonneg nonneg
    obtain ⟨k, hk⟩ := grid.exists_whole (e := 0) (by rw [abs]; exact_mod_cast large.le)
    rw [zpow_zero, mul_one] at hk
    have low : 2 ^ 52 < k := by exact_mod_cast hk ▸ large
    have high : k < 2 ^ 53 := by
      by_contra many
      have many : (2 : ℚ) ^ 53 ≤ k := by exact_mod_cast not_lt.mp many
      exact loose (grid.stiff_of_large (by rwa [abs, hk]))
    have odd : Odd k := by
      by_contra even
      obtain ⟨n, hn⟩ := Int.not_odd_iff_even.mp even
      have double : q = 2 * n := by rw [hk, hn]; push_cast; ring
      exact loose ⟨n, by rw [abs_of_nonneg (by omega)]; omega, double⟩
    rw [hk, rounded_sub_half_of_odd odd low high]
    linarith

theorem OnGrid.rounded_lt (grid : OnGrid q) (loose : ¬Stiff q) :
    rounded (q - 1 / 2) < rounded (q + 1 / 2) := by
  rcases le_total 0 q with nonneg | nonpos
  case inl => exact (grid.rounded_sub_lt nonneg loose).trans_le grid.le_rounded_add
  case inr =>
    have loose' : ¬Stiff (-q) := fun stiff => loose (neg_neg q ▸ stiff.neg)
    have lt := grid.neg.rounded_sub_lt (neg_nonneg.mpr nonpos) loose'
    rw [show -q - 1 / 2 = -(q + 1 / 2) by ring, rounded_neg] at lt
    exact grid.rounded_sub_le.trans_lt (neg_lt_neg_iff.mp lt)

-- Half a step does not lead to infinity.
theorem OnGrid.abs_rounded_lt {x : ℚ} (grid : OnGrid q) (small : |q| < limit)
    (half : |q - x| = 1 / 2) : |rounded x| < limit := by
  by_cases stiff : Stiff q
  case pos => rwa [stiff.rounded_eq grid half]
  case neg =>
    have few : |q| < 2 ^ 53 := by
      by_contra many
      exact stiff (grid.stiff_of_large (not_lt.mp many))
    have near : |x| ≤ 2 ^ 54 := by
      have := abs_sub_abs_le_abs_sub x q
      rw [abs_sub_comm, half] at this
      linarith
    have power : OnGrid (2 ^ 54) := ⟨1, 54, by norm_num, by norm_num, by norm_num⟩
    have ⟨low, high⟩ := abs_le.mp near
    have below : -2 ^ 54 ≤ rounded x := power.neg.rounded_eq.symm.trans_le (rounded_mono low)
    have above : rounded x ≤ 2 ^ 54 := (rounded_mono high).trans_eq power.rounded_eq
    have large : (2 : ℚ) ^ 54 < limit := by
      rw [limit, ← zpow_natCast]
      exact zpow_lt_zpow_right₀ (by norm_num) (by norm_num)
    exact (abs_le.mpr ⟨below, above⟩).trans_lt large

section

variable {x : Float}

theorem equals_sub_half (hx : x.isFinite) : Equals (x - 0.5) (rounded (value x - 1 / 2)) := by
  have difference := sub_returns hx equals_half.finite
  rw [equals_half.value] at difference
  refine difference.equals_rounded ((onGrid_value x).abs_rounded_lt ?small ?half)
  case small => exact abs_value_lt hx
  case half  => rw [sub_sub_cancel, abs_of_pos (by norm_num)]

theorem equals_add_half (hx : x.isFinite) : Equals (x + 0.5) (rounded (value x + 1 / 2)) := by
  have sum := add_returns hx equals_half.finite
  rw [equals_half.value] at sum
  refine sum.equals_rounded ((onGrid_value x).abs_rounded_lt ?small ?half)
  case small => exact abs_value_lt hx
  case half  => rw [sub_add_cancel_left, abs_neg, abs_of_pos (by norm_num)]

end

end TextCharts.Double
