import Mathlib.Data.Int.Log
import Mathlib.Data.Rat.Floor
import Mathlib.Tactic.FieldSimp
import Mathlib.Tactic.Linarith
import Mathlib.Tactic.NormNum
import Mathlib.Tactic.Ring

/-!
Rounding to doubles, as a function of the exact number. The doubles nearest to a number are those
multiples of a power of two, its quantum, that stand next to it; a number in the middle goes to the
even multiple. Exponents have no upper limit here.
-/

namespace TextCharts.Double

variable {q r x y : ℚ} {m k e : ℤ}

-- The nearest whole number, an even one in the middle between two.
def nearestEven (x : ℚ) : ℤ :=
  if Int.fract x < 1 / 2 then ⌊x⌋
  else if 1 / 2 < Int.fract x then ⌊x⌋ + 1
  else if Even ⌊x⌋ then ⌊x⌋ else ⌊x⌋ + 1

theorem nearestEven_intCast (k : ℤ) : nearestEven k = k := by
  simp [nearestEven]

-- A distance of one half is only to an even number.
theorem nearestEven_spec (x : ℚ) : |nearestEven x - x| ≤ 1 / 2 ∧
    (|nearestEven x - x| = 1 / 2 → Even (nearestEven x)) := by
  have split : ⌊x⌋ + Int.fract x = x := Int.floor_add_fract x
  have pos : 0 ≤ Int.fract x := Int.fract_nonneg x
  have lt : Int.fract x < 1 := Int.fract_lt_one x
  have below : |(⌊x⌋ : ℚ) - x| = Int.fract x := by
    rw [show (⌊x⌋ : ℚ) - x = -Int.fract x by linarith, abs_neg, abs_of_nonneg pos]
  have above : |((⌊x⌋ + 1 : ℤ) : ℚ) - x| = 1 - Int.fract x := by
    push_cast
    rw [show (⌊x⌋ : ℚ) + 1 - x = 1 - Int.fract x by linarith, abs_of_nonneg (by linarith)]
  rw [nearestEven]
  split_ifs with low high even
  · exact ⟨below ▸ low.le, fun tie => by linarith⟩
  · exact ⟨above ▸ by linarith, fun tie => by linarith⟩
  · exact ⟨below ▸ not_lt.mp high, fun _ => even⟩
  · exact ⟨above ▸ by linarith, fun _ => (Int.not_even_iff_odd.mp even).add_one⟩

-- Two neighbours that are both nearest are at the same distance.
theorem abs_sub_eq_half {a b : ℤ} (ha : |a - x| ≤ 1 / 2) (hb : |b - x| ≤ 1 / 2) (next : a = b + 1) :
    |a - x| = 1 / 2 ∧ |b - x| = 1 / 2 := by
  have ⟨_, high⟩ := abs_le.mp ha
  have ⟨low, _⟩ := abs_le.mp hb
  have next : (a : ℚ) = b + 1 := by exact_mod_cast next
  have above : (a : ℚ) - x = 1 / 2 := by linarith
  have below : (b : ℚ) - x = -(1 / 2) := by linarith
  rw [above, below, abs_neg, abs_of_pos (by norm_num)]
  exact ⟨rfl, rfl⟩

-- The only whole number that is nearest, and even if it is in the middle.
theorem eq_nearestEven (near : |k - x| ≤ 1 / 2) (tie : |k - x| = 1 / 2 → Even k) :
    nearestEven x = k := by
  have ⟨near', tie'⟩ := nearestEven_spec x
  have ⟨low, high⟩ := abs_le.mp near
  have ⟨low', high'⟩ := abs_le.mp near'
  have above : nearestEven x ≤ k + 1 := by
    have : (nearestEven x : ℚ) ≤ k + 1 := by linarith
    exact_mod_cast this
  have below : k ≤ nearestEven x + 1 := by
    have : (k : ℚ) ≤ nearestEven x + 1 := by linarith
    exact_mod_cast this
  by_contra other
  -- Two neighbours are not both even.
  have both : Even (nearestEven x) ∧ Even k := by
    rcases (show nearestEven x = k + 1 ∨ k = nearestEven x + 1 by omega) with next | next
    · have ⟨half', half⟩ := abs_sub_eq_half near' near next
      exact ⟨tie' half', tie half⟩
    · have ⟨half, half'⟩ := abs_sub_eq_half near near' next
      exact ⟨tie' half', tie half⟩
  have ⟨⟨a, ha⟩, ⟨b, hb⟩⟩ := both
  omega

theorem nearestEven_mono (h : x ≤ y) : nearestEven x ≤ nearestEven y := by
  by_contra lt
  have gap : (nearestEven y : ℚ) + 1 ≤ nearestEven x := by exact_mod_cast not_le.mp lt
  have ⟨_, high⟩ := abs_le.mp (nearestEven_spec x).1
  have ⟨low, _⟩ := abs_le.mp (nearestEven_spec y).1
  have eq : x = y := by linarith
  exact lt (eq ▸ le_refl _)

theorem nearestEven_neg (x : ℚ) : nearestEven (-x) = -nearestEven x := by
  have ⟨near, tie⟩ := nearestEven_spec x
  have far : |((-nearestEven x : ℤ) : ℚ) - -x| = |nearestEven x - x| := by
    rw [← abs_neg]
    push_cast
    ring_nf
  exact eq_nearestEven (far ▸ near) fun half => (tie (far ▸ half)).neg

-- Doubles are multiples of a power of two that leaves them less than `2 ^ 53` of it.
def quantum (q : ℚ) : ℤ :=
  max (Int.log 2 |q| - 52) (-1074)

def rounded (q : ℚ) : ℚ :=
  nearestEven (q / 2 ^ quantum q) * 2 ^ quantum q

theorem unit_pos (e : ℤ) : (0 : ℚ) < 2 ^ e :=
  zpow_pos (by norm_num) e

theorem le_quantum (q : ℚ) : -1074 ≤ quantum q :=
  le_max_right _ _

theorem quantum_neg (q : ℚ) : quantum (-q) = quantum q := by
  rw [quantum, abs_neg, quantum]

theorem abs_lt_quantum (q : ℚ) : |q| < 2 ^ (53 : ℤ) * 2 ^ quantum q := by
  have above : |q| < 2 ^ (Int.log 2 |q| + 1) := Int.lt_zpow_succ_log_self (by norm_num) |q|
  rw [← zpow_add₀ (by norm_num)]
  refine above.trans_le (zpow_le_zpow_right₀ (by norm_num) ?_)
  have : Int.log 2 |q| - 52 ≤ quantum q := le_max_left _ _
  omega

-- There is a smaller unit only for numbers that are not small.
theorem quantum_le_abs (nonzero : q ≠ 0) (large : -1074 < quantum q) :
    2 ^ (52 : ℤ) * 2 ^ quantum q ≤ |q| := by
  have below : (2 : ℚ) ^ Int.log 2 |q| ≤ |q| :=
    Int.zpow_log_le_self (by norm_num) (abs_pos.mpr nonzero)
  rw [← zpow_add₀ (by norm_num)]
  refine le_trans (zpow_le_zpow_right₀ (by norm_num) ?_) below
  rcases max_choice (Int.log 2 |q| - 52) (-1074) with h | h <;> rw [quantum] at large ⊢ <;> omega

theorem quantum_le (nonzero : q ≠ 0) (lt : |q| < 2 ^ (53 : ℤ) * 2 ^ e) (le : -1074 ≤ e) :
    quantum q ≤ e := by
  rw [← zpow_add₀ (by norm_num)] at lt
  have log : Int.log 2 |q| < 53 + e :=
    (Int.lt_zpow_iff_log_lt (by norm_num) (abs_pos.mpr nonzero)).mp (by exact_mod_cast lt)
  exact max_le (by omega) le

theorem quantum_mono (nonzero : q ≠ 0) (h : |q| ≤ |r|) : quantum q ≤ quantum r :=
  quantum_le nonzero (h.trans_lt (abs_lt_quantum r)) (le_quantum r)

theorem quantum_eq (nonzero : q ≠ 0) (lt : |q| < 2 ^ (53 : ℤ) * 2 ^ e) (le : -1074 ≤ e)
    (least : e = -1074 ∨ 2 ^ (52 : ℤ) * 2 ^ e ≤ |q|) : quantum q = e := by
  refine le_antisymm (quantum_le nonzero lt le) ?_
  cases least with
  | inl least => exact least ▸ le_quantum q
  | inr large =>
    have unit : (2 : ℚ) ^ (52 + e) < 2 ^ (53 + quantum q) := by
      rw [zpow_add₀ (by norm_num), zpow_add₀ (by norm_num)]
      exact large.trans_lt (abs_lt_quantum q)
    have := (zpow_lt_zpow_iff_right₀ (by norm_num)).mp unit
    omega

theorem rounded_zero : rounded 0 = 0 := by
  have : nearestEven 0 = 0 := nearestEven_intCast 0
  simp [rounded, this]

theorem rounded_neg (q : ℚ) : rounded (-q) = -rounded q := by
  rw [rounded, rounded, quantum_neg, neg_div, nearestEven_neg]
  push_cast
  ring

-- Rounding falls below no multiple of the quantum.
theorem le_rounded (h : k * 2 ^ quantum q ≤ q) : k * 2 ^ quantum q ≤ rounded q := by
  have le : (k : ℚ) ≤ q / 2 ^ quantum q := (le_div_iff₀ (unit_pos _)).mpr h
  have := nearestEven_mono le
  rw [nearestEven_intCast] at this
  exact mul_le_mul_of_nonneg_right (by exact_mod_cast this) (unit_pos _).le

theorem rounded_nonneg (h : 0 ≤ q) : 0 ≤ rounded q := by
  have := le_rounded (k := 0) (q := q) (by simpa using h)
  simpa using this

-- All bits of the significand are used, unless the number is small.
theorem significand_le (nonneg : 0 ≤ q) : nearestEven (q / 2 ^ quantum q) ≤ 2 ^ 53 := by
  have lt := abs_lt_quantum q
  rw [abs_of_nonneg nonneg] at lt
  have le : q / 2 ^ quantum q ≤ ((2 ^ 53 : ℤ) : ℚ) :=
    (div_le_iff₀ (unit_pos _)).mpr (by exact_mod_cast lt.le)
  exact (nearestEven_mono le).trans_eq (nearestEven_intCast _)

theorem le_significand (pos : 0 < q) (large : -1074 < quantum q) :
    2 ^ 52 ≤ nearestEven (q / 2 ^ quantum q) := by
  have le := quantum_le_abs pos.ne' large
  rw [abs_of_pos pos] at le
  have le : ((2 ^ 52 : ℤ) : ℚ) ≤ q / 2 ^ quantum q :=
    (le_div_iff₀ (unit_pos _)).mpr (by exact_mod_cast le)
  exact (nearestEven_intCast _).symm.trans_le (nearestEven_mono le)

theorem rounded_mono_of_pos (pos : 0 < q) (h : q ≤ r) : rounded q ≤ rounded r := by
  have abs : |q| ≤ |r| := by rwa [abs_of_pos pos, abs_of_pos (pos.trans_le h)]
  rcases (quantum_mono pos.ne' abs).lt_or_eq with lt | eq
  case inr =>
    rw [rounded, rounded, eq]
    have le : nearestEven (q / 2 ^ quantum r) ≤ nearestEven (r / 2 ^ quantum r) :=
      nearestEven_mono (div_le_div_of_nonneg_right h (unit_pos _).le)
    exact mul_le_mul_of_nonneg_right (by exact_mod_cast le) (unit_pos _).le
  case inl =>
    have high : (nearestEven (q / 2 ^ quantum q) : ℚ) ≤ 2 ^ 53 := by
      exact_mod_cast significand_le pos.le
    have low : (2 : ℚ) ^ 52 ≤ nearestEven (r / 2 ^ quantum r) := by
      exact_mod_cast le_significand (pos.trans_le h) ((le_quantum q).trans_lt lt)
    calc rounded q
      _ ≤ 2 ^ 53 * 2 ^ quantum q       := mul_le_mul_of_nonneg_right high (unit_pos _).le
      _ = 2 ^ 52 * 2 ^ (quantum q + 1) := by rw [zpow_add_one₀ (by norm_num)]; ring
      _ ≤ 2 ^ 52 * 2 ^ quantum r       := mul_le_mul_of_nonneg_left
        (zpow_le_zpow_right₀ (by norm_num) lt) (by norm_num)
      _ ≤ rounded r                    := mul_le_mul_of_nonneg_right low (unit_pos _).le

theorem rounded_mono (h : q ≤ r) : rounded q ≤ rounded r := by
  rcases lt_or_ge 0 q with pos | nonpos
  case inl => exact rounded_mono_of_pos pos h
  case inr =>
    rcases lt_or_ge r 0 with neg | nonneg
    case inl =>
      have := rounded_mono_of_pos (neg_pos.mpr neg) (neg_le_neg h)
      rw [rounded_neg, rounded_neg] at this
      exact neg_le_neg_iff.mp this
    case inr =>
      have low := rounded_nonneg (neg_nonneg.mpr nonpos)
      rw [rounded_neg] at low
      exact (neg_nonneg.mp low).trans (rounded_nonneg nonneg)

-- The numbers that doubles stand for, if exponents have no upper limit.
def OnGrid (q : ℚ) : Prop :=
  ∃ m e : ℤ, |m| < 2 ^ 53 ∧ -1074 ≤ e ∧ q = m * 2 ^ e

theorem OnGrid.neg (grid : OnGrid q) : OnGrid (-q) := by
  have ⟨m, e, lt, le, eq⟩ := grid
  refine ⟨-m, e, by rwa [abs_neg], le, ?_⟩
  rw [eq]
  push_cast
  ring

theorem exists_multiple_of_le {t : ℤ} (m : ℤ) (h : t ≤ e) :
    ∃ k : ℤ, (m : ℚ) * 2 ^ e = k * 2 ^ t := by
  have shift : ((e - t).toNat : ℤ) = e - t := Int.toNat_of_nonneg (by omega)
  refine ⟨m * 2 ^ (e - t).toNat, ?_⟩
  push_cast
  rw [mul_assoc, ← zpow_natCast, shift, ← zpow_add₀ (by norm_num), sub_add_cancel]

-- A number on the grid is a multiple of its quantum.
theorem OnGrid.exists_multiple (grid : OnGrid q) : ∃ k : ℤ, q = k * 2 ^ quantum q := by
  obtain ⟨m, e, lt, le, eq⟩ := grid
  by_cases nonzero : q = 0
  case pos => exact ⟨0, by simp [nonzero]⟩
  case neg =>
    have abs : |q| < 2 ^ (53 : ℤ) * 2 ^ e := by
      rw [eq, abs_mul, abs_of_pos (unit_pos e)]
      exact mul_lt_mul_of_pos_right (by exact_mod_cast lt) (unit_pos e)
    have ⟨k, hk⟩ := exists_multiple_of_le m (quantum_le nonzero abs le)
    exact ⟨k, eq.trans hk⟩

theorem OnGrid.rounded_eq (grid : OnGrid q) : rounded q = q := by
  have ⟨k, hk⟩ := grid.exists_multiple
  have quotient : q / 2 ^ quantum q = k := (div_eq_iff (unit_pos _).ne').mpr hk
  rw [rounded, quotient, nearestEven_intCast]
  exact hk.symm

-- Two numbers on the grid are no nearer than the least number.
theorem OnGrid.sub_ge (hq : OnGrid q) (hr : OnGrid r) (lt : q < r) :
    2 ^ (-1074 : ℤ) ≤ r - q := by
  obtain ⟨m, e, _, le, eq⟩ := hq
  obtain ⟨n, i, _, le', eq'⟩ := hr
  have ⟨k, hk⟩ := exists_multiple_of_le m le
  have ⟨j, hj⟩ := exists_multiple_of_le n le'
  rw [eq, eq', hk, hj] at lt ⊢
  have gap : (k : ℚ) + 1 ≤ j := by
    exact_mod_cast lt_of_mul_lt_mul_right lt (unit_pos _).le
  calc (2 : ℚ) ^ (-1074 : ℤ)
    _ = 1 * 2 ^ (-1074 : ℤ)                       := (one_mul _).symm
    _ ≤ (j - k) * 2 ^ (-1074 : ℤ)                 :=
      mul_le_mul_of_nonneg_right (by linarith) (unit_pos _).le
    _ = j * 2 ^ (-1074 : ℤ) - k * 2 ^ (-1074 : ℤ) := sub_mul ..

end TextCharts.Double
