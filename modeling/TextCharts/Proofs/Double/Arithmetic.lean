import TextCharts.Proofs.Double.Shift

namespace TextCharts.Double

open Float.Model (Format UnpackedFloat totalExponent)
open Float.Model.UnpackedFloat (Sign accuracyOfFraction decreaseExponent divCore)

variable {u a b : UnpackedFloat} {q : ℚ} {m n k : ℕ} {e t i : ℤ} {s : Sign}

theorem signed_apply (s : Sign) (m : ℤ) (q : ℚ) : (s.apply m : ℤ) * q = signed s (m * q) := by
  cases s with
  | positive => rfl
  | negative =>
    change ((-m : ℤ) : ℚ) * q = -(m * q)
    push_cast
    ring

theorem rounded_signed (s : Sign) (q : ℚ) : rounded (signed s q) = signed s (rounded q) := by
  cases s with
  | positive => rfl
  | negative => exact rounded_neg q

-- Lowering the exponent changes no number.
theorem decreaseExponent_value (m : ℕ) (e t : ℤ) :
    ((decreaseExponent m e t).1 : ℚ) * 2 ^ (decreaseExponent m e t).2 = m * 2 ^ e := by
  have split : (e - t).toNat + (e - (e - t).toNat) = e := by omega
  change ((m <<< (e - t).toNat : ℕ) : ℚ) * 2 ^ (e - (e - t).toNat) = m * 2 ^ e
  rw [Nat.shiftLeft_eq]
  push_cast
  rw [mul_assoc, ← zpow_natCast, ← zpow_add₀ (by norm_num), split]

theorem decreaseExponent_snd (h : t ≤ e) : (decreaseExponent m e t).2 = t := by
  change e - ((e - t).toNat : ℤ) = t
  omega

theorem decreaseExponent_ready (pos : 0 < m) :
    Ready (decreaseExponent m e (Format.binary64.targetExponent (totalExponent m e))).1
      (decreaseExponent m e (Format.binary64.targetExponent (totalExponent m e))).2 := by
  have target := targetExponent_eq m e
  generalize Format.binary64.targetExponent (totalExponent m e) = t at target
  change 2 ^ 52 ≤ m <<< (e - t).toNat ∨ e - ((e - t).toNat : ℤ) ≤ -1074
  by_cases least : t = -1074
  case pos => exact .inr (by omega)
  case neg =>
    refine .inl ?_
    calc 2 ^ 52
      _ ≤ 2 ^ (m.log2 + (e - t).toNat) := Nat.pow_le_pow_right (by norm_num) (by omega)
      _ = 2 ^ m.log2 * 2 ^ (e - t).toNat := Nat.pow_add ..
      _ ≤ m * 2 ^ (e - t).toNat := Nat.mul_le_mul_right _ (Nat.log2_self_le pos.ne')
      _ = m <<< (e - t).toNat := (Nat.shiftLeft_eq ..).symm

theorem round_represents (pos : 0 < m) :
    Represents (UnpackedFloat.round Format.binary64 s m e) (rounded (signed s (m * 2 ^ e))) := by
  rw [rounded_signed, ← decreaseExponent_value m e]
  exact roundWithAccuracy_represents (reads_exact _) (decreaseExponent_ready pos)

theorem normalize_represents (k : ℤ) (e : ℤ) (s : Sign) :
    Represents (UnpackedFloat.normalize Format.binary64 k e s) (rounded (k * 2 ^ e)) := by
  have magnitude {k : ℤ} (pos : 0 < k) : ((k.toNat : ℕ) : ℚ) = k := by
    exact_mod_cast Int.toNat_of_nonneg pos.le
  rcases lt_trichotomy k 0 with h | h | h
  · have rounds := round_represents (s := .negative) (e := e) (show 0 < (-k).toNat by omega)
    rw [UnpackedFloat.normalize, compare_lt_iff_lt.mpr h]
    rw [magnitude (neg_pos.mpr h)] at rounds
    change Represents _ (rounded (-((-k : ℤ) * 2 ^ e))) at rounds
    rwa [Int.cast_neg, neg_mul, neg_neg] at rounds
  · rw [UnpackedFloat.normalize, h, compare_eq_iff_eq.mpr rfl, Int.cast_zero, zero_mul,
      rounded_zero]
    exact represents_zero s
  · have rounds := round_represents (s := .positive) (e := e) (show 0 < k.toNat by omega)
    rw [UnpackedFloat.normalize, compare_gt_iff_gt.mpr h]
    rwa [magnitude h] at rounds

theorem signed_neg (s : Sign) (q : ℚ) : signed (-s) q = -signed s q := by
  cases s with
  | positive => rfl
  | negative => exact (neg_neg q).symm

theorem represents_finite (normal : Normal (.finite s m e pos)) :
    Represents (.finite s m e pos) (rounded (amount (.finite s m e pos))) :=
  ⟨normal, nofun, (onGrid_amount normal).rounded_eq.symm⟩

theorem amount_decreaseExponent (h : t ≤ e) :
    (s.apply (decreaseExponent m e t).1 : ℤ) * (2 : ℚ) ^ t = signed s (m * 2 ^ e) := by
  have eq := decreaseExponent_value m e t
  rw [decreaseExponent_snd h] at eq
  rw [signed_apply, ← eq]
  rfl

theorem sub_represents (ha : Normal a) (hb : Normal b) (fa : a.isFinite) (fb : b.isFinite) :
    Represents (UnpackedFloat.sub Format.binary64 a b) (rounded (amount a - amount b)) := by
  cases a with
  | notANumber => contradiction
  | infinity s => contradiction
  | zero s =>
    cases b with
    | notANumber => contradiction
    | infinity t => contradiction
    | zero t =>
      have zero : rounded (amount (.zero s) - amount (.zero t)) = 0 :=
        (congrArg rounded (sub_zero _)).trans rounded_zero
      rw [zero]
      cases s <;> cases t <;> exact represents_zero _
    | finite t n i pos =>
      have eq : amount (.zero s) - amount (.finite t n i pos) = amount (.finite (-t) n i pos) := by
        rw [amount_zero, amount_finite, amount_finite, signed_neg, zero_sub]
      rw [eq]
      exact represents_finite hb
  | finite s m e pos =>
    cases b with
    | notANumber => contradiction
    | infinity t => contradiction
    | zero t =>
      have eq : amount (.finite s m e pos) - amount (.zero t) = amount (.finite s m e pos) :=
        sub_zero _
      rw [eq]
      exact represents_finite ha
    | finite t n i pos' =>
      have eq : ((s.apply (decreaseExponent m e (min e i)).1 -
          t.apply (decreaseExponent n i (min e i)).1 : ℤ) : ℚ) * 2 ^ min e i =
            signed s (m * 2 ^ e) - signed t (n * 2 ^ i) := by
        rw [Int.cast_sub, sub_mul, amount_decreaseExponent (min_le_left e i),
          amount_decreaseExponent (min_le_right e i)]
      rw [amount_finite, amount_finite, ← eq]
      exact normalize_represents _ _ _

theorem add_eq_sub (a b : UnpackedFloat) :
    UnpackedFloat.add Format.binary64 a b = UnpackedFloat.sub Format.binary64 a b.neg := by
  cases a <;> cases b
  case infinity.infinity s t => cases s <;> cases t <;> rfl
  case zero.zero s t         => cases s <;> cases t <;> rfl
  case zero.finite s t _ _ _ => cases t <;> rfl
  case infinity.finite => rfl
  case finite.infinity s _ _ _ t => cases t <;> rfl
  case zero.infinity s t => cases t <;> rfl
  case finite.finite s m e _ t n i _ =>
    cases t
    case positive =>
      change UnpackedFloat.normalize _ (_ + _) _ _ = UnpackedFloat.normalize _ (_ - -_) _ _
      rw [sub_neg_eq_add]
      rfl
    case negative => rfl
  all_goals rfl

theorem signed_mul (s t : Sign) (p q : ℚ) : signed s p * signed t q = signed (s * t) (p * q) := by
  cases s <;> cases t
  case positive.positive => rfl
  case positive.negative => exact mul_neg ..
  case negative.positive => exact neg_mul ..
  case negative.negative => exact neg_mul_neg ..

theorem signed_div (s t : Sign) (p q : ℚ) : signed s p / signed t q = signed (s / t) (p / q) := by
  cases s <;> cases t
  case positive.positive => rfl
  case positive.negative => exact div_neg ..
  case negative.positive => exact neg_div ..
  case negative.negative => exact neg_div_neg_eq ..

theorem mul_finite_represents {t : Sign} {pos : 0 < m} {pos' : 0 < n}
    (ready : Ready (m * n) (e + i)) :
    Represents (UnpackedFloat.mul Format.binary64 (.finite s m e pos) (.finite t n i pos'))
      (rounded (amount (.finite s m e pos) * amount (.finite t n i pos'))) := by
  have eq : amount (.finite s m e pos) * amount (.finite t n i pos') =
      signed (s * t) ((m * n : ℕ) * 2 ^ (e + i)) := by
    rw [amount_finite, amount_finite, signed_mul, mul_mul_mul_comm, zpow_add₀ (by norm_num),
      Nat.cast_mul]
  rw [eq, rounded_signed]
  exact roundWithAccuracy_represents (reads_exact _) ready

theorem mul_represents (ha : Normal a) (hb : Normal b) (fa : a.isFinite) (fb : b.isFinite) :
    Represents (UnpackedFloat.mul Format.binary64 a b) (rounded (amount a * amount b)) := by
  cases a with
  | notANumber => contradiction
  | infinity s => contradiction
  | zero s =>
    have zero : rounded (amount (.zero s) * amount b) = 0 :=
      (congrArg rounded (zero_mul _)).trans rounded_zero
    rw [zero]
    cases b with
    | notANumber        => contradiction
    | infinity t        => contradiction
    | zero t            => exact represents_zero _
    | finite t n i pos  => exact represents_zero _
  | finite s m e pos =>
    cases b with
    | notANumber => contradiction
    | infinity t => contradiction
    | zero t =>
      have zero : rounded (amount (.finite s m e pos) * amount (.zero t)) = 0 :=
        (congrArg rounded (mul_zero _)).trans rounded_zero
      rw [zero]
      exact represents_zero _
    | finite t n i pos' =>
      obtain ⟨_, _, full⟩ := ha
      obtain ⟨_, _, full'⟩ := hb
      apply mul_finite_represents
      rcases full with full | least
      case inl => exact .inl (full.trans (Nat.le_mul_of_pos_right m pos'))
      case inr =>
        rcases full' with full | least'
        case inl => exact .inl (full.trans (Nat.le_mul_of_pos_left n pos))
        case inr => exact .inr (by omega)

-- The first number is made so large that the quotient has bits enough.
theorem divCore_ready (pos : 0 < m) (pos' : 0 < n) :
    Ready (divCore Format.binary64 m e n i).1 (divCore Format.binary64 m e n i).2.1 := by
  have target : Format.binary64.targetExponent (totalExponent m e - totalExponent n i) =
      max (m.log2 + 1 + e - (n.log2 + 1 + i) - 53) (-1074) := rfl
  generalize eq : min (e - i) (Format.binary64.targetExponent
    (totalExponent m e - totalExponent n i)) = t
  have core : (divCore Format.binary64 m e n i).1 = m <<< (e - i - t).toNat / n :=
    eq ▸ rfl
  have exponent : (divCore Format.binary64 m e n i).2.1 = t := eq
  rw [core, exponent]
  by_cases least : t ≤ -1074
  case pos => exact .inr least
  case neg =>
    refine .inl ((Nat.le_div_iff_mul_le pos').mpr ?_)
    calc 2 ^ 52 * n
      _ ≤ 2 ^ 52 * 2 ^ (n.log2 + 1)       := Nat.mul_le_mul_left _ Nat.lt_log2_self.le
      _ = 2 ^ (53 + n.log2)               := by rw [← Nat.pow_add]; congr 1; omega
      _ ≤ 2 ^ (m.log2 + (e - i - t).toNat) := Nat.pow_le_pow_right (by norm_num) (by omega)
      _ = 2 ^ m.log2 * 2 ^ (e - i - t).toNat := Nat.pow_add ..
      _ ≤ m * 2 ^ (e - i - t).toNat       := Nat.mul_le_mul_right _ (Nat.log2_self_le pos.ne')
      _ = m <<< (e - i - t).toNat         := (Nat.shiftLeft_eq ..).symm

theorem divCore_reads (m : ℕ) (e i : ℤ) (pos' : 0 < n) :
    ∃ x : ℚ, x * 2 ^ (divCore Format.binary64 m e n i).2.1 = m * 2 ^ e / (n * 2 ^ i) ∧
      Reads (.ofMantissaAndAccuracy (divCore Format.binary64 m e n i).1
        (divCore Format.binary64 m e n i).2.2) x := by
  generalize eq : min (e - i) (Format.binary64.targetExponent
    (totalExponent m e - totalExponent n i)) = t
  have core : divCore Format.binary64 m e n i = (m <<< (e - i - t).toNat / n, t,
    accuracyOfFraction (m <<< (e - i - t).toNat % n) n) := eq ▸ rfl
  rw [core]
  refine ⟨_, ?_, reads_fraction (Nat.mod_lt _ pos')⟩
  have le : t ≤ e - i := eq ▸ min_le_left ..
  have nonzero : (n : ℚ) ≠ 0 := by exact_mod_cast pos'.ne'
  generalize shifted : m <<< (e - i - t).toNat = k
  have split : (k : ℚ) = n * ↑(k / n) + ↑(k % n) := by exact_mod_cast (Nat.div_add_mod k n).symm
  have whole : (k : ℚ) * 2 ^ t = m * 2 ^ (e - i) := by
    rw [← shifted, Nat.shiftLeft_eq, Nat.cast_mul, Nat.cast_pow, mul_assoc, Nat.cast_ofNat,
      ← zpow_natCast, ← zpow_add₀ (by norm_num)]
    congr 2
    omega
  calc (↑(k / n) + ↑(k % n) / (n : ℚ)) * 2 ^ t
    _ = k * 2 ^ t / n             := by rw [split]; field_simp
    _ = m * 2 ^ e / (n * 2 ^ i)   := by rw [whole, zpow_sub₀ (by norm_num)]; field_simp

theorem div_finite_represents {t : Sign} {pos : 0 < m} {pos' : 0 < n} :
    Represents (UnpackedFloat.div Format.binary64 (.finite s m e pos) (.finite t n i pos'))
      (rounded (amount (.finite s m e pos) / amount (.finite t n i pos'))) := by
  have ⟨x, eq, reads⟩ := divCore_reads m e i pos'
  rw [amount_finite, amount_finite, signed_div, ← eq, rounded_signed]
  exact roundWithAccuracy_represents reads (divCore_ready pos pos')

theorem div_represents (fa : a.isFinite) (fb : b.isFinite) (nonzero : amount b ≠ 0) :
    Represents (UnpackedFloat.div Format.binary64 a b) (rounded (amount a / amount b)) := by
  cases b with
  | notANumber => contradiction
  | infinity t => contradiction
  | zero t => exact absurd rfl nonzero
  | finite t n i pos' =>
    cases a with
    | notANumber => contradiction
    | infinity s => contradiction
    | zero s =>
      have zero : rounded (amount (.zero s) / amount (.finite t n i pos')) = 0 :=
        (congrArg rounded (zero_div _)).trans rounded_zero
      rw [zero]
      exact represents_zero _
    | finite s m e pos => exact div_finite_represents

section

variable {x y : Float}

-- An operation whose exact result is this number returns this double.
structure Returns (x : Float) (q : ℚ) : Prop where
  number : IsNumber x
  value  : value x = saturate (rounded q)

-- A double that stands for this number itself.
structure Equals (x : Float) (q : ℚ) : Prop where
  finite : x.isFinite
  value  : value x = q

theorem Equals.number (h : Equals x q) : IsNumber x :=
  isNumber_of_isFinite h.finite

theorem Represents.returns (h : Represents u (rounded q)) : Returns (.ofModel (.pack u)) q :=
  ⟨unpack_pack_isNumber h.normal h.number, h.amount ▸ amount_unpack_pack h.normal⟩

theorem Returns.equals_rounded (h : Returns x q) (small : |rounded q| < limit) :
    Equals x (rounded q) := by
  have exact : Double.value x = rounded q := by
    rw [h.value, saturate_of_abs_le small.le]
  exact ⟨(isFinite_iff_value h.number).mpr (exact ▸ small), exact⟩

-- Nothing is lost of a result that is a double.
theorem Returns.equals (h : Returns x q) (grid : OnGrid q) (small : |q| < limit) : Equals x q := by
  have exact := grid.rounded_eq
  exact exact ▸ h.equals_rounded (exact.symm ▸ small)

theorem Returns.equals_zero (h : Returns x 0) : Equals x 0 :=
  h.equals onGrid_zero (abs_zero.trans_lt limit_pos)

theorem sub_returns (hx : x.isFinite) (hy : y.isFinite) : Returns (x - y) (value x - value y) :=
  (sub_represents (unpack_normal _) (unpack_normal _) hx hy).returns

theorem equals_sub_self (hx : x.isFinite) (hy : y.isFinite) (same : value x = value y) :
    Equals (x - y) 0 := by
  have difference := sub_returns hx hy
  rw [same, sub_self] at difference
  exact difference.equals_zero

theorem Normal.neg (normal : Normal u) : Normal u.neg := by
  cases u <;> exact normal

theorem amount_neg (u : UnpackedFloat) : amount u.neg = -amount u := by
  cases u with
  | finite s m e pos => exact signed_neg ..
  | infinity s       => exact signed_neg ..
  | zero s           => exact neg_zero.symm
  | notANumber       => exact neg_zero.symm

theorem Small.neg (small : Small u) : Small u.neg := by
  cases u <;> exact small

theorem unpack_neg (x : Float) : (-x).toModel.unpack = x.toModel.unpack.neg :=
  unpack_pack (unpack_normal _).neg (unpack_small _).neg

theorem isFinite_neg (finite : u.isFinite) : u.neg.isFinite := by
  cases u <;> first | rfl | contradiction

theorem Equals.neg (h : Equals x q) : Equals (-x) (-q) := by
  have finite : (-x).toModel.unpack.isFinite := unpack_neg x ▸ isFinite_neg h.finite
  refine ⟨finite, ?_⟩
  rw [Double.value, unpack_neg, amount_neg, ← h.value]
  rfl

theorem add_returns (hx : x.isFinite) (hy : y.isFinite) : Returns (x + y) (value x + value y) := by
  have sub := sub_represents (unpack_normal x.toModel) (unpack_normal y.toModel).neg hx
    (isFinite_neg hy)
  rw [← add_eq_sub, amount_neg, sub_neg_eq_add] at sub
  exact sub.returns

theorem mul_returns (hx : x.isFinite) (hy : y.isFinite) : Returns (x * y) (value x * value y) :=
  (mul_represents (unpack_normal _) (unpack_normal _) hx hy).returns

theorem div_returns (hx : x.isFinite) (hy : y.isFinite) (nonzero : value y ≠ 0) :
    Returns (x / y) (value x / value y) :=
  (div_represents hx hy nonzero).returns

theorem not_isNumber_pack (h : u = .notANumber) : ¬IsNumber (.ofModel (.pack u)) := by
  rw [h]
  exact not_not.mpr rfl

theorem not_isNumber_sub (h : ¬IsNumber x) : ¬IsNumber (x - y) := by
  refine not_isNumber_pack ?_
  rw [not_not.mp h]
  cases y.toModel.unpack <;> rfl

theorem not_isNumber_mul (h : ¬IsNumber x) : ¬IsNumber (x * y) := by
  refine not_isNumber_pack ?_
  rw [not_not.mp h]
  cases y.toModel.unpack <;> rfl

end

end TextCharts.Double
