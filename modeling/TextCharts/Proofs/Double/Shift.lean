import TextCharts.Proofs.Double.Value

namespace TextCharts.Double

open Float.Model (Format UnpackedFloat totalExponent)
open Float.Model.UnpackedFloat (Accuracy ExtendedMantissa Sign accuracyOfFraction roundWithAccuracy
  shiftToExponent shiftToTargetExponent)

variable {em : ExtendedMantissa} {x : ℚ} {m n k : ℕ} {e t : ℤ} {s : Sign} {acc : Accuracy}

-- The round bit is worth one half.
def known (em : ExtendedMantissa) : ℚ :=
  em.mantissa + if em.roundBit then 1 / 2 else 0

-- What is not known is less than one half, and the sticky bit tells if it is anything at all.
structure Reads (em : ExtendedMantissa) (x : ℚ) : Prop where
  low    : known em ≤ x
  high   : x < known em + 1 / 2
  sticky : em.stickyBit ↔ known em < x

theorem reads_exact (m : ℕ) : Reads (.ofMantissaAndAccuracy m .exact) m := by
  have eq : known (.ofMantissaAndAccuracy m .exact) = m := add_zero _
  exact ⟨eq.le, by linarith, iff_of_false Bool.false_ne_true eq.not_lt⟩

theorem reads_fraction (lt : k < n) :
    Reads (.ofMantissaAndAccuracy m (accuracyOfFraction k n)) (m + k / n) := by
  have pos : (0 : ℚ) < n := by exact_mod_cast Nat.zero_lt_of_lt lt
  have below : (k : ℚ) / n < 1 := (div_lt_one pos).mpr (by exact_mod_cast lt)
  by_cases zero : k = 0
  case pos =>
    have exact : accuracyOfFraction k n = .exact := if_pos zero
    rw [exact, zero, Nat.cast_zero, zero_div, add_zero]
    exact reads_exact m
  case neg =>
    have above : 0 < (k : ℚ) / n := div_pos (by exact_mod_cast Nat.pos_of_ne_zero zero) pos
    have inexact : accuracyOfFraction k n = .inexact (compare (2 * k) n) := if_neg zero
    rw [inexact]
    rcases lt_trichotomy (2 * k) n with h | h | h
    · have half : (k : ℚ) / n < 1 / 2 := by
        rw [div_lt_iff₀ pos]
        have : (2 : ℚ) * k < n := by exact_mod_cast h
        linarith
      have eq : known (.ofMantissaAndAccuracy m (.inexact .lt)) = m := add_zero _
      rw [compare_lt_iff_lt.mpr h]
      exact ⟨by linarith, by linarith, iff_of_true rfl (by linarith)⟩
    · have half : (k : ℚ) / n = 1 / 2 := by
        rw [div_eq_iff pos.ne']
        have : (2 : ℚ) * k = n := by exact_mod_cast h
        linarith
      have eq : known (.ofMantissaAndAccuracy m (.inexact .eq)) = m + 1 / 2 := rfl
      rw [compare_eq_iff_eq.mpr h]
      exact ⟨by linarith, by linarith, iff_of_false Bool.false_ne_true (by linarith)⟩
    · have half : 1 / 2 < (k : ℚ) / n := by
        rw [lt_div_iff₀ pos]
        have : (n : ℚ) < 2 * k := by exact_mod_cast h
        linarith
      have eq : known (.ofMantissaAndAccuracy m (.inexact .gt)) = m + 1 / 2 := rfl
      rw [compare_gt_iff_gt.mpr h]
      exact ⟨by linarith, by linarith, iff_of_true rfl (by linarith)⟩

theorem known_shiftRightOne (em : ExtendedMantissa) : known em.shiftRightOne = em.mantissa / 2 := by
  have split : (em.mantissa : ℚ) = 2 * ↑(em.mantissa / 2) + ↑(em.mantissa % 2) := by
    exact_mod_cast (Nat.div_add_mod _ _).symm
  have shifted : known em.shiftRightOne =
      ↑(em.mantissa / 2) + if em.mantissa % 2 != 0 then 1 / 2 else 0 := rfl
  rcases Nat.mod_two_eq_zero_or_one em.mantissa with h | h
  all_goals
    rw [h] at split shifted
    rw [shifted, split]
    norm_num
  ring

theorem Reads.shiftRightOne (reads : Reads em x) : Reads em.shiftRightOne (x / 2) := by
  obtain ⟨low, high, sticky⟩ := reads
  have shifted : em.shiftRightOne.stickyBit = (em.roundBit || em.stickyBit) := rfl
  rw [known] at low high sticky
  constructor
  all_goals rw [known_shiftRightOne]
  case low => split at low <;> linarith
  case high => split at high <;> linarith
  case sticky =>
    rw [shifted]
    cases h : em.roundBit with
    | true =>
      rw [h, if_pos rfl] at low
      exact iff_of_true rfl (by linarith)
    | false =>
      rw [h, if_neg Bool.false_ne_true, add_zero] at sticky
      rw [Bool.false_or, sticky]
      exact ⟨fun lt => by linarith, fun lt => by linarith⟩

theorem Reads.shift (reads : Reads em x) (n : ℕ) : Reads (em >>> n) (x / 2 ^ n) := by
  induction n with
  | zero =>
    rw [pow_zero, div_one]
    exact reads
  | succ n hi =>
    have step := hi.shiftRightOne
    rwa [div_div, ← pow_succ] at step

theorem Reads.bounds (reads : Reads em x) : em.mantissa ≤ x ∧ x < em.mantissa + 1 := by
  obtain ⟨low, high, _⟩ := reads
  rw [known] at low high
  constructor
  case left  => split at low <;> linarith
  case right => split at high <;> linarith

-- The two bits decide between the two nearest.
theorem Reads.rounded (reads : Reads em x) : nearestEven x = em.roundedMantissa := by
  obtain ⟨low, high, sticky⟩ := reads
  obtain ⟨m, round, rest⟩ := em
  rw [known] at low high sticky
  cases round <;> cases rest
  case false.false =>
    simp only [Bool.false_eq_true, if_false, false_iff, add_zero, not_lt] at low sticky
    have eq : x = (m : ℤ) := le_antisymm sticky low
    rw [eq]
    exact nearestEven_intCast m
  case false.true =>
    simp only [Bool.false_eq_true, if_false, true_iff, add_zero] at high sticky
    have near : |((m : ℤ) : ℚ) - x| < 1 / 2 := abs_lt.mpr (by push_cast; constructor <;> linarith)
    exact eq_nearestEven near.le fun tie => absurd tie near.ne
  case true.false =>
    simp only [if_true, Bool.false_eq_true, false_iff, not_lt] at low sticky
    have eq : x = m + 1 / 2 := le_antisymm sticky low
    have even : (m + m % 2) % 2 = 0 := by omega
    refine eq_nearestEven ?near fun _ => (Int.even_coe_nat _).mpr (Nat.even_iff.mpr even)
    change |((m + m % 2 : ℕ) : ℤ) - x| ≤ 1 / 2
    rw [eq]
    rcases Nat.mod_two_eq_zero_or_one m with h | h <;> rw [h] <;> push_cast
    · exact abs_le.mpr ⟨by linarith, by linarith⟩
    · exact abs_le.mpr ⟨by linarith, by linarith⟩
  case true.true =>
    simp only [if_true, true_iff] at high sticky
    have near : |((m + 1 : ℕ) : ℤ) - x| < 1 / 2 :=
      abs_lt.mpr (by push_cast; constructor <;> linarith)
    exact eq_nearestEven near.le fun tie => absurd tie near.ne

theorem ofMantissaAndAccuracy_mantissa (m : ℕ) (acc : Accuracy) :
    (ExtendedMantissa.ofMantissaAndAccuracy m acc).mantissa = m := by
  cases acc with
  | exact         => rfl
  | inexact order => cases order <;> rfl

theorem targetExponent_eq (m : ℕ) (e : ℤ) :
    Format.binary64.targetExponent (totalExponent m e) = max (m.log2 + 1 + e - 53) (-1074) :=
  rfl

-- The significand has bits enough, or the exponent is so small that the quantum cannot be smaller.
def Ready (m : ℕ) (e : ℤ) : Prop :=
  2 ^ 52 ≤ m ∨ e ≤ -1074

theorem Ready.le (ready : Ready m e) :
    e ≤ Format.binary64.targetExponent (totalExponent m e) := by
  rw [targetExponent_eq]
  cases ready with
  | inl full  =>
    have : 52 ≤ m.log2 := (Nat.le_log2 (Nat.pos_iff_ne_zero.mp (by omega))).mpr full
    omega
  | inr least => omega

theorem quantum_eq_target (ready : Ready m e) (low : m ≤ x) (high : x < m + 1) (pos : 0 < x) :
    quantum (x * 2 ^ e) = Format.binary64.targetExponent (totalExponent m e) := by
  have abs : |x * 2 ^ e| = x * 2 ^ e := abs_of_pos (mul_pos pos (unit_pos e))
  have above : (m : ℚ) + 1 ≤ 2 ^ (m.log2 + 1 : ℤ) := by exact_mod_cast Nat.lt_log2_self
  apply quantum_eq (mul_pos pos (unit_pos e)).ne'
  case lt =>
    rw [abs, targetExponent_eq, ← zpow_add₀ (by norm_num)]
    calc x * 2 ^ e
      _ < 2 ^ (m.log2 + 1 : ℤ) * 2 ^ e := mul_lt_mul_of_pos_right (high.trans_le above) (unit_pos e)
      _ = 2 ^ (m.log2 + 1 + e)         := (zpow_add₀ (by norm_num) ..).symm
      _ ≤ _                            := zpow_le_zpow_right₀ (by norm_num) (by omega)
  case le => exact le_max_right _ _
  case least =>
    rw [abs, targetExponent_eq]
    rcases max_choice (m.log2 + 1 + e - 53) (-1074) with h | h <;> rw [h]
    case inr => exact .inl rfl
    case inl =>
      by_cases zero : m = 0
      case pos =>
        have := ready.resolve_left (by omega)
        rw [zero, Nat.log2_zero] at h
        omega
      case neg =>
        have below : (2 : ℚ) ^ (m.log2 : ℤ) ≤ m := by exact_mod_cast Nat.log2_self_le zero
        refine .inr ?_
        calc (2 : ℚ) ^ (52 : ℤ) * 2 ^ (m.log2 + 1 + e - 53)
          _ = 2 ^ (m.log2 : ℤ) * 2 ^ e := by
            rw [← zpow_add₀ (by norm_num), ← zpow_add₀ (by norm_num)]
            congr 1
            omega
          _ ≤ x * 2 ^ e := mul_le_mul_of_nonneg_right (below.trans low) (unit_pos e).le

-- Rounding up can carry into one bit too many, which is zero and drops off.
def carry (s : Sign) (m : ℕ) (e : ℤ) : UnpackedFloat :=
  let shifted := shiftToTargetExponent Format.binary64 m e .exact
  if h : shifted.1.mantissa = 0 then .zero s
  else .finite s shifted.1.mantissa shifted.2 (Nat.pos_of_ne_zero h)

theorem roundWithAccuracy_eq (s : Sign) (m : ℕ) (e : ℤ) (acc : Accuracy) :
    roundWithAccuracy Format.binary64 s m e acc =
      carry s (shiftToTargetExponent Format.binary64 m e acc).1.roundedMantissa
        (shiftToTargetExponent Format.binary64 m e acc).2 :=
  rfl

theorem carry_eq {shifted : ExtendedMantissa × ℤ}
    (eq : shiftToTargetExponent Format.binary64 m e .exact = shifted) :
    carry s m e = if h : shifted.1.mantissa = 0 then .zero s
      else .finite s shifted.1.mantissa shifted.2 (Nat.pos_of_ne_zero h) := by
  cases eq
  rfl

-- What an operation has to return for its result to be this number, before it is packed.
structure Represents (u : UnpackedFloat) (q : ℚ) : Prop where
  normal : Normal u
  number : u ≠ .notANumber
  amount : amount u = q

theorem represents_zero (s : Sign) : Represents (.zero s) 0 :=
  ⟨trivial, nofun, rfl⟩

theorem signed_zero (s : Sign) : signed s 0 = 0 := by
  cases s with
  | positive => rfl
  | negative => exact neg_zero

theorem carry_represents (le : -1074 ≤ e) (few : m ≤ 2 ^ 53) (full : 2 ^ 52 ≤ m ∨ e = -1074) :
    Represents (carry s m e) (signed s (m * 2 ^ e)) := by
  rcases few.lt_or_eq with lt | rfl
  case inl =>
    have log : m.log2 < 53 := by
      by_cases zero : m = 0
      case pos => exact zero ▸ Nat.log2_zero.trans_lt (by norm_num)
      case neg => exact (Nat.log2_lt zero).mpr lt
    have stay : (Format.binary64.targetExponent (totalExponent m e) - e).toNat = 0 := by
      rw [targetExponent_eq]
      omega
    have eq : shiftToTargetExponent Format.binary64 m e .exact = (⟨m, false, false⟩, e) := by
      rw [shiftToTargetExponent, shiftToExponent, stay, Nat.cast_zero, add_zero]
      rfl
    rw [carry_eq eq]
    by_cases zero : m = 0
    case pos =>
      rw [dif_pos zero, zero, Nat.cast_zero, zero_mul, signed_zero]
      exact represents_zero s
    case neg =>
      rw [dif_neg zero]
      exact ⟨⟨lt, le, full⟩, nofun, rfl⟩
  case inr =>
    have log : (2 ^ 53).log2 = 53 := Nat.log2_two_pow
    have one : (Format.binary64.targetExponent (totalExponent (2 ^ 53) e) - e).toNat = 1 := by
      rw [targetExponent_eq, log]
      omega
    have eq : shiftToTargetExponent Format.binary64 (2 ^ 53) e .exact =
        (⟨2 ^ 52, false, false⟩, e + 1) := by
      rw [shiftToTargetExponent, shiftToExponent, one]
      rfl
    rw [carry_eq eq, dif_neg (by norm_num)]
    refine ⟨⟨by norm_num, by omega, .inl le_rfl⟩, nofun, ?_⟩
    rw [amount_finite, zpow_add_one₀ (by norm_num)]
    push_cast
    ring_nf

theorem roundWithAccuracy_eq_carry (reads : Reads (.ofMantissaAndAccuracy m acc) x)
    (ready : Ready m e) : ∃ k : ℕ,
      nearestEven (x * 2 ^ e / 2 ^ Format.binary64.targetExponent (totalExponent m e)) = k ∧
      roundWithAccuracy Format.binary64 s m e acc =
        carry s k (Format.binary64.targetExponent (totalExponent m e)) := by
  let target := Format.binary64.targetExponent (totalExponent m e)
  have shift : e + (target - e).toNat = target := by
    have := ready.le
    omega
  have power : (2 : ℚ) ^ e * 2 ^ (target - e).toNat = 2 ^ target := by
    rw [← zpow_natCast, ← zpow_add₀ (by norm_num), shift]
  have quotient : x * 2 ^ e / 2 ^ target = x / 2 ^ (target - e).toNat := by
    rw [← power]
    field_simp
  let em := ExtendedMantissa.ofMantissaAndAccuracy m acc >>> (target - e).toNat
  have shifted : Reads em (x / 2 ^ (target - e).toNat) := reads.shift _
  refine ⟨em.roundedMantissa, quotient ▸ shifted.rounded, ?_⟩
  rw [roundWithAccuracy_eq, shiftToTargetExponent, shiftToExponent, shift]

theorem roundWithAccuracy_represents (reads : Reads (.ofMantissaAndAccuracy m acc) x)
    (ready : Ready m e) :
    Represents (roundWithAccuracy Format.binary64 s m e acc) (signed s (rounded (x * 2 ^ e))) := by
  have bounds : m ≤ x ∧ x < m + 1 := ofMantissaAndAccuracy_mantissa m acc ▸ reads.bounds
  obtain ⟨k, significand, eq⟩ := roundWithAccuracy_eq_carry (s := s) reads ready
  rw [eq]
  by_cases zero : x = 0
  case pos =>
    have none : k = 0 := by
      rw [zero, zero_mul, zero_div] at significand
      exact_mod_cast significand.symm.trans (nearestEven_intCast 0)
    have empty : m = 0 := by
      have : (m : ℚ) ≤ 0 := zero ▸ bounds.1
      exact Nat.le_zero.mp (by exact_mod_cast this)
    have least : Format.binary64.targetExponent (totalExponent m e) = -1074 := by
      have eq := targetExponent_eq m e
      have := ready.resolve_left (by omega)
      rw [empty, Nat.log2_zero] at eq
      rw [empty]
      omega
    have carried := carry_represents (s := s) least.ge (Nat.zero_le _) (.inr least)
    rw [Nat.cast_zero, zero_mul] at carried
    rwa [zero, zero_mul, rounded_zero, none]
  case neg =>
    have pos : 0 < x := lt_of_le_of_ne ((Nat.cast_nonneg m).trans bounds.1) (Ne.symm zero)
    have unit : quantum (x * 2 ^ e) = Format.binary64.targetExponent (totalExponent m e) :=
      quantum_eq_target ready bounds.1 bounds.2 pos
    have positive : 0 < x * 2 ^ e := mul_pos pos (unit_pos e)
    rw [← unit] at significand ⊢
    have few : k ≤ 2 ^ 53 := by
      exact_mod_cast significand ▸ significand_le positive.le
    have full : 2 ^ 52 ≤ k ∨ quantum (x * 2 ^ e) = -1074 := by
      rcases (le_quantum (x * 2 ^ e)).lt_or_eq with large | least
      case inl => exact .inl (by exact_mod_cast significand ▸ le_significand positive large)
      case inr => exact .inr least.symm
    have carried := carry_represents (s := s) (le_quantum _) few full
    rwa [rounded, significand]

end TextCharts.Double
