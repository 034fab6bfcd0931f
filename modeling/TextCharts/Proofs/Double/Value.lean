import Mathlib.Algebra.Order.Group.MinMax
import TextCharts.Proofs.Chart.Extent
import TextCharts.Proofs.Double.Rounding

namespace TextCharts.Double

open Float.Model (Format UnpackedFloat)
open Float.Model.UnpackedFloat (Sign packComponents unpackExponent unpackMantissa unpackSign)

-- The first power of two that is too large for a double.
def limit : ℚ :=
  2 ^ (1024 : ℤ)

def signed : Sign → ℚ → ℚ
  | .positive, q => q
  | .negative, q => -q

-- What is no number has no place among the numbers; zero stands for it.
def amount : UnpackedFloat → ℚ
  | .finite s m e _ => signed s (m * 2 ^ e)
  | .infinity s     => signed s limit
  | .zero _         => 0
  | .notANumber     => 0

theorem amount_finite (s : Sign) (m : ℕ) (e : ℤ) (pos : 0 < m) :
    amount (.finite s m e pos) = signed s (m * 2 ^ e) :=
  rfl

theorem amount_infinity (s : Sign) : amount (.infinity s) = signed s limit :=
  rfl

theorem amount_zero (s : Sign) : amount (.zero s) = 0 :=
  rfl

def value (x : Float) : ℚ :=
  amount x.toModel.unpack

-- Of a number there is one significand and exponent, if the significand has all its bits or the
-- exponent is the least one.
def Normal : UnpackedFloat → Prop
  | .finite _ m e _ => m < 2 ^ 53 ∧ -1074 ≤ e ∧ (2 ^ 52 ≤ m ∨ e = -1074)
  | _               => True

-- The exponent is not too large for a double.
def Small : UnpackedFloat → Prop
  | .finite _ _ e _ => e ≤ 971
  | _               => True

theorem implicit_toNat (v : BitVec 52) : (1#1 ++ v).toNat = 2 ^ 52 + v.toNat := by
  rw [BitVec.toNat_append, ← Nat.shiftLeft_add_eq_or_of_lt v.isLt]
  rfl

-- The double with these fields.
def assemble (s : Sign) (exponent : BitVec 11) (fraction : BitVec 52) : UnpackedFloat :=
  if exponent = -1#11 then if fraction = 0#52 then .infinity s else .notANumber
  else if exponent = 0#11 then
    if h : fraction = 0#52 then .zero s
    else .finite s fraction.toNat (exponent.toNat - (1023 + 52 : ℤ) + 1)
      (Nat.pos_of_ne_zero fun zero => h (BitVec.eq_of_toNat_eq zero))
  else .finite s (1#1 ++ fraction).toNat (exponent.toNat - (1023 + 52 : ℤ))
    (by rw [implicit_toNat]; omega)

theorem unpack_eq (bits : BitVec 64) : Float.Model.UnpackedFloat.unpack Format.binary64 bits =
    assemble (Sign.ofBitVec (@unpackSign Format.binary64 bits))
      (@unpackExponent Format.binary64 bits) (@unpackMantissa Format.binary64 bits) :=
  rfl

variable {f : Float.Model} {s : Sign} {m : ℕ} {e : ℤ} {pos : 0 < m} {u : UnpackedFloat}

theorem of_assemble_eq_finite {sign : Sign} {exponent : BitVec 11} {fraction : BitVec 52}
    (h : assemble sign exponent fraction = .finite s m e pos) :
    m < 2 ^ 53 ∧ -1074 ≤ e ∧ e ≤ 971 ∧ (2 ^ 52 ≤ m ∨ e = -1074) := by
  have low : fraction.toNat < 2 ^ 52 := fraction.isLt
  have high : exponent.toNat < 2 ^ 11 := exponent.isLt
  rw [assemble] at h
  by_cases largest : exponent = -1#11
  case pos =>
    rw [if_pos largest] at h
    by_cases none : fraction = 0#52
    case pos =>
      rw [if_pos none] at h
      cases h
    case neg =>
      rw [if_neg none] at h
      cases h
  case neg =>
    have below : exponent.toNat ≠ 2047 := fun eq => largest (BitVec.eq_of_toNat_eq eq)
    rw [if_neg largest] at h
    by_cases least : exponent = 0#11
    case pos =>
      have zero : exponent.toNat = 0 := congrArg BitVec.toNat least
      rw [if_pos least] at h
      by_cases none : fraction = 0#52
      case pos =>
        rw [dif_pos none] at h
        cases h
      case neg =>
        rw [dif_neg none] at h
        cases h
        omega
    case neg =>
      have nonzero : exponent.toNat ≠ 0 := fun eq => least (BitVec.eq_of_toNat_eq eq)
      rw [if_neg least] at h
      cases h
      rw [implicit_toNat]
      omega

theorem of_unpack_eq_finite (h : f.unpack = .finite s m e pos) :
    m < 2 ^ 53 ∧ -1074 ≤ e ∧ e ≤ 971 ∧ (2 ^ 52 ≤ m ∨ e = -1074) :=
  of_assemble_eq_finite ((unpack_eq f.toBits.toBitVec).symm.trans h)

theorem unpack_normal (f : Float.Model) : Normal f.unpack := by
  cases h : f.unpack with
  | finite s m e pos =>
    have ⟨lt, le, _, full⟩ := of_unpack_eq_finite h
    exact ⟨lt, le, full⟩
  | _ => trivial

theorem unpack_small (f : Float.Model) : Small f.unpack := by
  cases h : f.unpack with
  | finite s m e pos =>
    have ⟨_, _, le, _⟩ := of_unpack_eq_finite h
    exact le
  | _ => trivial

theorem unpackSign_packComponents (s : Sign) (exponent : BitVec 11) (fraction : BitVec 52) :
    Sign.ofBitVec (unpackSign (packComponents Format.binary64 s exponent fraction)) = s := by
  have sign : unpackSign (packComponents Format.binary64 s exponent fraction) = s.toBitVec := by
    change (s.toBitVec ++ exponent ++ fraction).extractLsb' 63 1 = s.toBitVec
    rw [BitVec.extractLsb'_append_eq_of_le (by decide),
      BitVec.extractLsb'_append_eq_of_le (by decide)]
    cases s <;> rfl
  rw [sign]
  cases s <;> rfl

theorem unpack_components (s : Sign) (exponent : BitVec 11) (fraction : BitVec 52) :
    Float.Model.UnpackedFloat.unpack Format.binary64
      (packComponents Format.binary64 s exponent fraction) = assemble s exponent fraction := by
  rw [unpack_eq, unpackSign_packComponents,
    Float.Model.UnpackedFloat.unpackExponent_packComponents,
    Float.Model.UnpackedFloat.unpackMantissa_packComponents]

theorem pack_finite (small : e ≤ 971) :
    Float.Model.UnpackedFloat.pack Format.binary64 (.finite s m e pos) =
      packComponents Format.binary64 s
        (if m.log2 = 52 then BitVec.ofNat 11 (e + 1023 + 52).toNat else 0#11)
        (BitVec.ofNat 52 m) := by
  have fits : ¬2 ^ 11 ≤ (e + 1023 + 52).toNat + 1 := by omega
  change (if 2 ^ 11 ≤ (e + 1023 + 52).toNat + 1 then _ else if m.log2 + 1 = 53 then _ else _) = _
  rw [if_neg fits]
  by_cases full : m.log2 = 52
  case pos =>
    rw [if_pos full, if_pos (by omega)]
    rfl
  case neg =>
    rw [if_neg full, if_neg (by omega)]

theorem pack_large (large : 971 < e) :
    Float.Model.UnpackedFloat.pack Format.binary64 (.finite s m e pos) =
      Float.Model.UnpackedFloat.packedInfinity Format.binary64 s := by
  have large : 2 ^ 11 ≤ (e + 1023 + 52).toNat + 1 := by omega
  change (if 2 ^ 11 ≤ (e + 1023 + 52).toNat + 1 then _ else _) = _
  exact if_pos large

theorem finite_congr {n : ℕ} {i : ℤ} {pos' : 0 < n} (hm : m = n) (he : e = i) :
    UnpackedFloat.finite s m e pos = .finite s n i pos' := by
  cases hm
  cases he
  rfl

theorem assemble_full (lt : m < 2 ^ 53) (full : 2 ^ 52 ≤ m) (le : -1074 ≤ e) (small : e ≤ 971) :
    assemble s (BitVec.ofNat 11 (e + 1023 + 52).toNat) (BitVec.ofNat 52 m) = .finite s m e pos := by
  have exponent : (BitVec.ofNat 11 (e + 1023 + 52).toNat).toNat = (e + 1023 + 52).toNat := by
    rw [BitVec.toNat_ofNat]
    omega
  have largest : BitVec.ofNat 11 (e + 1023 + 52).toNat ≠ -1#11 := by
    intro eq
    have : (e + 1023 + 52).toNat = 2047 := exponent ▸ congrArg BitVec.toNat eq
    omega
  have nonzero : BitVec.ofNat 11 (e + 1023 + 52).toNat ≠ 0#11 := by
    intro eq
    have : (e + 1023 + 52).toNat = 0 := exponent ▸ congrArg BitVec.toNat eq
    omega
  have significand : (1#1 ++ BitVec.ofNat 52 m).toNat = m := by
    rw [implicit_toNat, BitVec.toNat_ofNat]
    omega
  rw [assemble, if_neg largest, if_neg nonzero]
  exact finite_congr significand (by omega)

theorem assemble_low (lt : m < 2 ^ 52) :
    assemble s 0#11 (BitVec.ofNat 52 m) = .finite s m (-1074) pos := by
  have significand : (BitVec.ofNat 52 m).toNat = m := by
    rw [BitVec.toNat_ofNat]
    omega
  have nonzero : BitVec.ofNat 52 m ≠ 0#52 := by
    intro eq
    have : m = 0 := significand ▸ congrArg BitVec.toNat eq
    omega
  rw [assemble, if_neg (by decide), if_pos rfl, dif_neg nonzero]
  exact finite_congr significand rfl

theorem unpack_pack (normal : Normal u) (small : Small u) : (Float.Model.pack u).unpack = u := by
  cases u with
  | infinity s => cases s <;> rfl
  | zero s     => cases s <;> rfl
  | notANumber => rfl
  | finite s m e pos =>
    obtain ⟨lt, le, least⟩ := normal
    change e ≤ 971 at small
    change Float.Model.UnpackedFloat.unpack Format.binary64
      (Float.Model.UnpackedFloat.pack Format.binary64 (.finite s m e pos)) = _
    rw [pack_finite small, unpack_components]
    by_cases full : 2 ^ 52 ≤ m
    case pos =>
      rw [if_pos ((Nat.log2_eq_iff pos.ne').mpr ⟨full, lt⟩), assemble_full lt full le small]
    case neg =>
      have log : m.log2 ≠ 52 := fun log => full (log ▸ Nat.log2_self_le pos.ne')
      obtain rfl := least.resolve_left full
      rw [if_neg log, assemble_low (Nat.lt_of_not_le full)]

theorem unpack_pack_large (large : 971 < e) :
    (Float.Model.pack (.finite s m e pos)).unpack = .infinity s := by
  change Float.Model.UnpackedFloat.unpack Format.binary64
    (Float.Model.UnpackedFloat.pack Format.binary64 (.finite s m e pos)) = _
  rw [pack_large large]
  cases s <;> rfl

-- What is too large for a double is taken for an infinity.
def saturate (q : ℚ) : ℚ :=
  max (-limit) (min q limit)

theorem limit_pos : 0 < limit :=
  unit_pos _

theorem one_lt_limit : 1 < limit :=
  one_lt_zpow₀ (by norm_num) (by norm_num)

theorem saturate_mono {q r : ℚ} (h : q ≤ r) : saturate q ≤ saturate r :=
  max_le_max_left _ (min_le_min_right _ h)

theorem saturate_of_abs_le {q : ℚ} (h : |q| ≤ limit) : saturate q = q := by
  have ⟨low, high⟩ := abs_le.mp h
  rw [saturate, min_eq_left high, max_eq_right low]

theorem saturate_of_limit_le {q : ℚ} (h : limit ≤ q) : saturate q = limit := by
  rw [saturate, min_eq_right h, max_eq_right ((neg_nonpos.mpr limit_pos.le).trans limit_pos.le)]

theorem saturate_neg (q : ℚ) : saturate (-q) = -saturate q := by
  have le : -limit ≤ limit := (neg_nonpos.mpr limit_pos.le).trans limit_pos.le
  calc saturate (-q)
    _ = min (max (-limit) (-q)) (max (-limit) limit) := max_min_distrib_left ..
    _ = min (-min limit q) (- -limit)                := by
      rw [max_neg_neg, max_eq_right le, neg_neg]
    _ = -max (min limit q) (-limit)                  := min_neg_neg ..
    _ = -saturate q                                  := by rw [saturate, max_comm, min_comm]

theorem saturate_signed (s : Sign) (q : ℚ) : saturate (signed s q) = signed s (saturate q) := by
  cases s with
  | positive => rfl
  | negative => exact saturate_neg q

theorem abs_signed (s : Sign) (q : ℚ) : |signed s q| = |q| := by
  cases s with
  | positive => rfl
  | negative => exact abs_neg q

theorem magnitude_lt_limit (lt : m < 2 ^ 53) (small : e ≤ 971) : (m : ℚ) * 2 ^ e < limit := by
  have significand : (m : ℚ) < 2 ^ (53 : ℤ) := by exact_mod_cast lt
  calc (m : ℚ) * 2 ^ e
    _ < 2 ^ (53 : ℤ) * 2 ^ e       := mul_lt_mul_of_pos_right significand (unit_pos e)
    _ ≤ 2 ^ (53 : ℤ) * 2 ^ (971 : ℤ) :=
      mul_le_mul_of_nonneg_left (zpow_le_zpow_right₀ (by norm_num) small) (unit_pos _).le
    _ = limit                      := by rw [← zpow_add₀ (by norm_num), limit]; rfl

theorem limit_le_magnitude (full : 2 ^ 52 ≤ m) (large : 971 < e) : limit ≤ (m : ℚ) * 2 ^ e := by
  have significand : (2 : ℚ) ^ (52 : ℤ) ≤ m := by exact_mod_cast full
  calc limit
    _ = 2 ^ (52 : ℤ) * 2 ^ (972 : ℤ) := by rw [← zpow_add₀ (by norm_num), limit]; rfl
    _ ≤ 2 ^ (52 : ℤ) * 2 ^ e       :=
      mul_le_mul_of_nonneg_left (zpow_le_zpow_right₀ (by norm_num) large) (unit_pos _).le
    _ ≤ m * 2 ^ e                  := mul_le_mul_of_nonneg_right significand (unit_pos e).le

theorem magnitude_pos (pos : 0 < m) : 0 < (m : ℚ) * 2 ^ e :=
  mul_pos (by exact_mod_cast pos) (unit_pos e)

theorem abs_amount_le (small : Small u) (normal : Normal u) : |amount u| ≤ limit := by
  cases u with
  | finite s m e pos =>
    rw [amount_finite, abs_signed, abs_of_pos (magnitude_pos pos)]
    exact (magnitude_lt_limit normal.1 small).le
  | infinity s => rw [amount_infinity, abs_signed, abs_of_pos limit_pos]
  | zero s     => exact abs_zero.trans_le limit_pos.le
  | notANumber => exact abs_zero.trans_le limit_pos.le

theorem onGrid_zero : OnGrid 0 :=
  ⟨0, 0, by norm_num, by norm_num, by norm_num⟩

theorem onGrid_signed (s : Sign) {q : ℚ} (grid : OnGrid q) : OnGrid (signed s q) := by
  cases s with
  | positive => exact grid
  | negative => exact grid.neg

theorem onGrid_amount (normal : Normal u) : OnGrid (amount u) := by
  cases u with
  | notANumber => exact onGrid_zero
  | zero s     => exact onGrid_zero
  | infinity s =>
    exact onGrid_signed s ⟨1, 1024, by norm_num, by norm_num, by norm_num [limit]⟩
  | finite s m e pos =>
    have few : |(m : ℤ)| < 2 ^ 53 := by
      rw [abs_of_nonneg (Int.natCast_nonneg m)]
      exact_mod_cast normal.1
    exact onGrid_signed s ⟨m, e, few, normal.2.1, by norm_cast⟩

-- Packing keeps a number, up to the limit.
theorem amount_unpack_pack (normal : Normal u) :
    amount (Float.Model.pack u).unpack = saturate (amount u) := by
  by_cases small : Small u
  case pos => rw [unpack_pack normal small, saturate_of_abs_le (abs_amount_le small normal)]
  case neg =>
    cases u with
    | finite s m e pos =>
      have large : 971 < e := Int.not_le.mp small
      have full : 2 ^ 52 ≤ m := normal.2.2.resolve_right (by omega)
      rw [unpack_pack_large large, amount_infinity, amount_finite, saturate_signed,
        saturate_of_limit_le (limit_le_magnitude full large)]
    | _ => exact absurd trivial small

theorem unpack_pack_isNumber (normal : Normal u) (number : u ≠ .notANumber) :
    (Float.Model.pack u).unpack ≠ .notANumber := by
  by_cases small : Small u
  case pos => rwa [unpack_pack normal small]
  case neg =>
    cases u with
    | finite s m e pos =>
      rw [unpack_pack_large (Int.not_le.mp small)]
      exact nofun
    | _ => exact absurd trivial small

section

variable {a b : UnpackedFloat} {n : ℕ} {i : ℤ}

-- Of two normal numbers the one with the greater exponent is greater.
theorem magnitude_lt_of_exponent_lt (hm : m < 2 ^ 53) (hn : 2 ^ 52 ≤ n) (lt : e < i) :
    (m : ℚ) * 2 ^ e < n * 2 ^ i := by
  have high : (m : ℚ) < 2 ^ (53 : ℤ) := by exact_mod_cast hm
  have low : (2 : ℚ) ^ (52 : ℤ) ≤ n := by exact_mod_cast hn
  calc (m : ℚ) * 2 ^ e
    _ < 2 ^ (53 : ℤ) * 2 ^ e       := mul_lt_mul_of_pos_right high (unit_pos e)
    _ = 2 ^ (52 : ℤ) * 2 ^ (e + 1) := by
      rw [← zpow_add₀ (by norm_num), ← zpow_add₀ (by norm_num)]
      congr 1
      omega
    _ ≤ 2 ^ (52 : ℤ) * 2 ^ i       :=
      mul_le_mul_of_nonneg_left (zpow_le_zpow_right₀ (by norm_num) lt) (unit_pos _).le
    _ ≤ n * 2 ^ i                  := mul_le_mul_of_nonneg_right low (unit_pos i).le

theorem compare_magnitude {s s' : Sign} {pos : 0 < m} {pos' : 0 < n}
    (ha : Normal (.finite s m e pos)) (hb : Normal (.finite s' n i pos')) :
    (compare e i).then (compare m n) = compare ((m : ℚ) * 2 ^ e) ((n : ℚ) * 2 ^ i) := by
  obtain ⟨hm, he, least⟩ := ha
  obtain ⟨hn, hi, least'⟩ := hb
  rcases lt_trichotomy e i with lt | rfl | gt
  · have full : 2 ^ 52 ≤ n := least'.resolve_right (by omega)
    rw [compare_lt_iff_lt.mpr lt, compare_lt_iff_lt.mpr (magnitude_lt_of_exponent_lt hm full lt)]
    rfl
  · have same : compare m n = compare ((m : ℚ) * 2 ^ e) ((n : ℚ) * 2 ^ e) := by
      rcases lt_trichotomy m n with lt | rfl | gt
      · have lt' : (m : ℚ) < n := by exact_mod_cast lt
        rw [compare_lt_iff_lt.mpr lt,
          compare_lt_iff_lt.mpr (mul_lt_mul_of_pos_right lt' (unit_pos e))]
      · rw [compare_eq_iff_eq.mpr rfl, compare_eq_iff_eq.mpr rfl]
      · have gt' : (n : ℚ) < m := by exact_mod_cast gt
        rw [compare_gt_iff_gt.mpr gt,
          compare_gt_iff_gt.mpr (mul_lt_mul_of_pos_right gt' (unit_pos e))]
    rw [compare_eq_iff_eq.mpr rfl, ← same]
    rfl
  · have full : 2 ^ 52 ≤ m := least.resolve_right (by omega)
    rw [compare_gt_iff_gt.mpr gt, compare_gt_iff_gt.mpr (magnitude_lt_of_exponent_lt hn full gt)]
    rfl

theorem amount_positive : 0 < amount (.finite .positive m e pos) :=
  magnitude_pos pos

theorem amount_negative : amount (.finite .negative m e pos) < 0 :=
  neg_neg_of_pos (magnitude_pos pos)

theorem abs_amount_lt (normal : Normal u) (small : Small u) (finite : u.isFinite) :
    |amount u| < limit := by
  cases u with
  | finite s m e pos =>
    rw [amount_finite, abs_signed, abs_of_pos (magnitude_pos pos)]
    exact magnitude_lt_limit normal.1 small
  | zero s     => exact abs_zero.trans_lt limit_pos
  | infinity s => contradiction
  | notANumber => contradiction

section

variable {p q : ℚ}

theorem some_lt_eq (h : p < q) : some .lt = some (compare p q) :=
  congrArg some (compare_lt_iff_lt.mpr h).symm

theorem some_gt_eq (h : q < p) : some .gt = some (compare p q) :=
  congrArg some (compare_gt_iff_gt.mpr h).symm

theorem some_eq_eq (q : ℚ) : some .eq = some (compare q q) :=
  congrArg some (compare_eq_iff_eq.mpr rfl).symm

end

theorem compare_finite {s t : Sign} {pos : 0 < m} {pos' : 0 < n}
    (ha : Normal (.finite s m e pos)) (hb : Normal (.finite t n i pos')) :
    (UnpackedFloat.finite s m e pos).compare (.finite t n i pos') =
      some (compare (amount (.finite s m e pos)) (amount (.finite t n i pos'))) := by
  cases s <;> cases t
  case positive.positive => exact congrArg some (compare_magnitude ha hb)
  case positive.negative => exact some_gt_eq (amount_negative.trans amount_positive)
  case negative.positive => exact some_lt_eq (amount_negative.trans amount_positive)
  case negative.negative =>
    change some ((compare e i).then (compare m n)).swap = some (compare (-_) (-_))
    rw [compare_magnitude ha hb, compare_neg]

theorem compare_amount (ha : Normal a) (hb : Normal b) (sa : Small a) (sb : Small b)
    (na : a ≠ .notANumber) (nb : b ≠ .notANumber) :
    a.compare b = some (compare (amount a) (amount b)) := by
  have limits : -limit < limit := (neg_neg_of_pos limit_pos).trans limit_pos
  have ends (u : UnpackedFloat) (nu : Normal u) (su : Small u) (finite : u.isFinite) :=
    abs_lt.mp (abs_amount_lt nu su finite)
  cases a with
  | notANumber => exact absurd rfl na
  | infinity s =>
    cases b with
    | notANumber => exact absurd rfl nb
    | infinity t =>
      cases s <;> cases t
      case positive.positive => exact some_eq_eq _
      case positive.negative => exact some_gt_eq limits
      case negative.positive => exact some_lt_eq limits
      case negative.negative => exact some_eq_eq _
    | zero t =>
      cases s with
      | positive => exact some_gt_eq limit_pos
      | negative => exact some_lt_eq (neg_neg_of_pos limit_pos)
    | finite t n i pos' =>
      cases s with
      | positive => exact some_gt_eq (ends _ hb sb rfl).2
      | negative => exact some_lt_eq (ends _ hb sb rfl).1
  | zero s =>
    cases b with
    | notANumber => exact absurd rfl nb
    | infinity t =>
      cases t with
      | positive => exact some_lt_eq limit_pos
      | negative => exact some_gt_eq (neg_neg_of_pos limit_pos)
    | zero t => exact some_eq_eq 0
    | finite t n i pos' =>
      cases t with
      | positive => exact some_lt_eq amount_positive
      | negative => exact some_gt_eq amount_negative
  | finite s m e pos =>
    cases b with
    | notANumber => exact absurd rfl nb
    | infinity t =>
      cases t with
      | positive => cases s <;> exact some_lt_eq (ends _ ha sa rfl).2
      | negative => cases s <;> exact some_gt_eq (ends _ ha sa rfl).1
    | zero t =>
      cases s with
      | positive => exact some_gt_eq amount_positive
      | negative => exact some_lt_eq amount_negative
    | finite t n i pos' => exact compare_finite ha hb

end

section

variable {x y : Float}

def IsNumber (x : Float) : Prop :=
  x.toModel.unpack ≠ .notANumber

theorem isNumber_of_isFinite (h : x.isFinite) : IsNumber x := by
  intro eq
  have : x.toModel.unpack.isFinite = true := h
  rw [eq] at this
  contradiction

theorem compare_value (hx : IsNumber x) (hy : IsNumber y) :
    x.toModel.unpack.compare y.toModel.unpack = some (compare (value x) (value y)) :=
  compare_amount (unpack_normal _) (unpack_normal _) (unpack_small _) (unpack_small _) hx hy

theorem lt_iff_value (hx : IsNumber x) (hy : IsNumber y) : x < y ↔ value x < value y := by
  have h : x < y ↔ x.toModel.unpack.lt y.toModel.unpack = true := decide_eq_true_iff
  rw [h, UnpackedFloat.lt, compare_value hx hy]
  simp [compare_lt_iff_lt]

theorem le_iff_value (hx : IsNumber x) (hy : IsNumber y) : x ≤ y ↔ value x ≤ value y := by
  have h : x ≤ y ↔ x.toModel.unpack.le y.toModel.unpack = true := decide_eq_true_iff
  rw [h, UnpackedFloat.le, compare_value hx hy]
  simp [Ordering.isLE_iff_ne_gt, compare_le_iff_le]

theorem lt_iff_of_isFinite (hx : x.isFinite) (hy : y.isFinite) : x < y ↔ value x < value y :=
  lt_iff_value (isNumber_of_isFinite hx) (isNumber_of_isFinite hy)

theorem le_iff_of_isFinite (hx : x.isFinite) (hy : y.isFinite) : x ≤ y ↔ value x ≤ value y :=
  le_iff_value (isNumber_of_isFinite hx) (isNumber_of_isFinite hy)

theorem onGrid_value (x : Float) : OnGrid (value x) :=
  onGrid_amount (unpack_normal _)

-- What is no number is neither less than anything nor greater.
theorem compare_of_not_isNumber (h : ¬IsNumber x ∨ ¬IsNumber y) :
    x.toModel.unpack.compare y.toModel.unpack = none := by
  cases h with
  | inl h => rw [not_not.mp h]; rfl
  | inr h => rw [not_not.mp h]; cases x.toModel.unpack <;> rfl

theorem not_lt_of_not_isNumber (h : ¬IsNumber x ∨ ¬IsNumber y) : ¬x < y := by
  have lt : x < y ↔ x.toModel.unpack.lt y.toModel.unpack = true := decide_eq_true_iff
  rw [lt, UnpackedFloat.lt, compare_of_not_isNumber h]
  exact Bool.false_ne_true

theorem not_le_of_not_isNumber (h : ¬IsNumber x ∨ ¬IsNumber y) : ¬x ≤ y := by
  have le : x ≤ y ↔ x.toModel.unpack.le y.toModel.unpack = true := decide_eq_true_iff
  rw [le, UnpackedFloat.le, compare_of_not_isNumber h]
  exact Bool.false_ne_true

theorem abs_value_le (x : Float) : |value x| ≤ limit :=
  abs_amount_le (unpack_small _) (unpack_normal _)

theorem amount_abs (u : UnpackedFloat) : amount u.abs = |amount u| := by
  cases u with
  | finite s m e pos =>
    rw [amount_finite, abs_signed, abs_of_pos (magnitude_pos pos)]
    rfl
  | infinity s =>
    rw [amount_infinity, abs_signed, abs_of_pos limit_pos]
    rfl
  | zero s     => exact abs_zero.symm
  | notANumber => exact abs_zero.symm

-- An absolute value is not rounded.
theorem value_abs (hx : IsNumber x) : IsNumber x.abs ∧ value x.abs = |value x| := by
  have keep {u : UnpackedFloat} (normal : Normal u) (small : Small u) :
      Normal u.abs ∧ Small u.abs := by
    cases u <;> exact ⟨normal, small⟩
  have ⟨normal, small⟩ := keep (unpack_normal x.toModel) (unpack_small x.toModel)
  have same : x.abs.toModel.unpack = x.toModel.unpack.abs := unpack_pack normal small
  rw [IsNumber] at hx
  rw [IsNumber, value, value, same, amount_abs]
  refine ⟨?_, rfl⟩
  cases h : x.toModel.unpack with
  | notANumber => exact absurd h hx
  | _          => exact nofun

theorem exists_infinity (hx : IsNumber x) (h : ¬x.isFinite) :
    ∃ s, x.toModel.unpack = .infinity s := by
  have h : ¬x.toModel.unpack.isFinite := h
  cases eq : x.toModel.unpack with
  | notANumber       => exact absurd eq hx
  | infinity s       => exact ⟨s, rfl⟩
  | zero s           => exact absurd (congrArg UnpackedFloat.isFinite eq) h
  | finite s m e pos => exact absurd (congrArg UnpackedFloat.isFinite eq) h

theorem isFinite_iff_value (hx : IsNumber x) : x.isFinite ↔ |value x| < limit := by
  constructor
  case mp  => exact abs_amount_lt (unpack_normal _) (unpack_small _)
  case mpr =>
    intro lt
    by_contra infinite
    have ⟨s, h⟩ := exists_infinity hx infinite
    rw [value, h, amount_infinity, abs_signed, abs_of_pos limit_pos] at lt
    exact lt_irrefl _ lt

theorem abs_value_lt (hx : x.isFinite) : |value x| < limit :=
  (isFinite_iff_value (isNumber_of_isFinite hx)).mp hx

end

end TextCharts.Double
