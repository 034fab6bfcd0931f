import TextCharts.Decimal.Shortest
import TextCharts.Proofs.Double.Half
import TextCharts.Proofs.Double.Parts

namespace TextCharts.Decimal

open Double (HasParts quantum rounded unit_pos)

variable {i : Interval} {tie : Tie} {n : Numeral} {m c unit : ℕ} {e k : ℤ} {q : ℚ} {x : Float}
variable {negative : Bool}

def Numeral.value (n : Numeral) : ℚ :=
  n.coefficient * 10 ^ n.exponent

namespace Interval

-- A number between the ends, which are in units of `2 ^ e`.
def Within (i : Interval) (e : ℤ) (q : ℚ) : Prop :=
  if i.closed then i.low * 2 ^ e ≤ q ∧ q ≤ i.high * 2 ^ e
  else i.low * 2 ^ e < q ∧ q < i.high * 2 ^ e

-- Both sides of a comparison are made whole by the same number.
def common (e k : ℤ) : ℚ :=
  2 ^ (-e).toNat * 10 ^ (-k).toNat

theorem common_pos (e k : ℤ) : 0 < common e k := by
  unfold common
  positivity

theorem pow_toNat {a : ℚ} (nonzero : a ≠ 0) (e : ℤ) : a ^ e.toNat = a ^ e * a ^ (-e).toNat := by
  rw [← zpow_natCast, ← zpow_natCast, ← zpow_add₀ nonzero]
  congr 1
  omega

def factor (e k : ℤ) : ℕ :=
  Nat.pow 2 e.toNat * Nat.pow 10 (-k).toNat

def step (e k : ℤ) : ℕ :=
  Nat.pow 2 (-e).toNat * Nat.pow 10 k.toNat

theorem factor_eq (e k : ℤ) : (factor e k : ℚ) = 2 ^ e * common e k := by
  change ((2 ^ e.toNat * 10 ^ (-k).toNat : ℕ) : ℚ) = _
  push_cast
  rw [pow_toNat (by norm_num) e, common]
  ring

theorem step_eq (e k : ℤ) : (step e k : ℚ) = 10 ^ k * common e k := by
  change ((2 ^ (-e).toNat * 10 ^ k.toNat : ℕ) : ℚ) = _
  push_cast
  rw [pow_toNat (by norm_num) k, common]
  ring

theorem cast_mul_factor (a : ℕ) : ((a * factor e k : ℕ) : ℚ) = a * 2 ^ e * common e k := by
  rw [Nat.cast_mul, factor_eq, mul_assoc]

theorem cast_mul_step (a : ℕ) : ((a * step e k : ℕ) : ℚ) = a * 10 ^ k * common e k := by
  rw [Nat.cast_mul, step_eq, mul_assoc]

theorem scaled_le_iff (a b : ℕ) :
    a * factor e k ≤ b * step e k ↔ (a : ℚ) * 2 ^ e ≤ b * 10 ^ k := by
  rw [← Nat.cast_le (α := ℚ), cast_mul_factor, cast_mul_step]
  exact mul_le_mul_iff_of_pos_right (common_pos e k)

theorem scaled_lt_iff (a b : ℕ) :
    a * factor e k < b * step e k ↔ (a : ℚ) * 2 ^ e < b * 10 ^ k := by
  rw [← Nat.cast_lt (α := ℚ), cast_mul_factor, cast_mul_step]
  exact mul_lt_mul_iff_of_pos_right (common_pos e k)

theorem holds_iff (i : Interval) (e k : ℤ) :
    (i.scale (factor e k)).holds (c * step e k) ↔ i.Within e (c * 10 ^ k) := by
  have below : c * step e k ≤ i.high * factor e k ↔ (c : ℚ) * 10 ^ k ≤ i.high * 2 ^ e := by
    rw [← not_lt, scaled_lt_iff, not_lt]
  have less : c * step e k < i.high * factor e k ↔ (c : ℚ) * 10 ^ k < i.high * 2 ^ e := by
    rw [← not_le, scaled_le_iff, not_le]
  unfold holds Within scale
  cases i.closed <;> simp [scaled_le_iff, scaled_lt_iff, below, less]

theorem roundDiv_eq (tie : Tie) (num den : ℕ) :
    roundDiv tie num den = num / den ∨ roundDiv tie num den = num / den + 1 := by
  dsimp only [roundDiv]
  cases tie <;> split_ifs <;> simp

theorem nearest?_holds (h : nearest? tie i unit = some c) : i.holds (c * unit) := by
  dsimp only [nearest?] at h
  split at h
  case h_1 here next =>
    cases h
    rcases roundDiv_eq tie i.mid unit with eq | eq <;> rw [eq]
    · exact here
    · exact next
  case h_2 here _ => cases h; exact here
  case h_3 next   => cases h; exact next
  case h_4        => contradiction

-- A step that leads from the middle to no end is found.
theorem nearest?_of_room (pos : 0 < unit) (room : i.low + unit ≤ i.mid) (lt : i.mid < i.high) :
    ∃ c, nearest? tie i unit = some c := by
  have below : i.mid / unit * unit ≤ i.mid := Nat.div_mul_le_self ..
  have above : i.mid < i.mid / unit * unit + unit := Nat.lt_div_mul_add pos
  have holds : i.holds (i.mid / unit * unit) := by
    unfold Interval.holds
    cases i.closed <;> simp <;> omega
  unfold nearest?
  dsimp only
  rw [holds]
  cases i.holds ((i.mid / unit + 1) * unit) <;> exact ⟨_, rfl⟩

theorem search_succ (fuel : ℕ) : search tie i e (fuel + 1) k =
    ((nearest? tie (i.scale (factor e k)) (step e k)).map (Numeral.mk · k)).or
      (search tie i e fuel (k - 1)) := by
  unfold factor step
  rw [search]
  split <;> next found => rw [found]; rfl

theorem search_within {fuel : ℕ} (h : search tie i e fuel k = some n) : i.Within e n.value := by
  induction fuel generalizing k with
  | zero         => contradiction
  | succ fuel hi =>
    rw [search_succ] at h
    cases found : nearest? tie (i.scale (factor e k)) (step e k) with
    | none   => exact hi (by rwa [found] at h)
    | some c =>
      rw [found] at h
      cases h
      exact (holds_iff i e k).mp (nearest?_holds found)

-- A step of at most one unit leads to no end.
theorem nearest?_of_fine (room : i.low + 1 ≤ i.mid) (lt : i.mid < i.high)
    (fine : (10 : ℚ) ^ k ≤ 2 ^ e) :
    ∃ c, nearest? tie (i.scale (factor e k)) (step e k) = some c := by
  have pos : 0 < factor e k := Nat.mul_pos (Nat.pow_pos (by norm_num)) (Nat.pow_pos (by norm_num))
  have pos' : 0 < step e k := Nat.mul_pos (Nat.pow_pos (by norm_num)) (Nat.pow_pos (by norm_num))
  have le : step e k ≤ factor e k := by
    have scaled : ¬1 * factor e k < 1 * step e k := by
      rw [scaled_lt_iff, not_lt, Nat.cast_one, one_mul, one_mul]
      exact fine
    omega
  refine nearest?_of_room pos' ?_ ((Nat.mul_lt_mul_right pos).mpr lt)
  calc i.low * factor e k + step e k
    _ ≤ i.low * factor e k + factor e k := Nat.add_le_add_left le _
    _ = (i.low + 1) * factor e k        := (Nat.succ_mul ..).symm
    _ ≤ i.mid * factor e k              := Nat.mul_le_mul_right _ room

theorem search_of_fine (fuel : ℕ) (room : i.low + 1 ≤ i.mid) (lt : i.mid < i.high)
    (fine : (10 : ℚ) ^ (k - fuel : ℤ) ≤ 2 ^ e) : ∃ n, search tie i e (fuel + 1) k = some n := by
  induction fuel generalizing k with
  | zero         =>
    rw [Nat.cast_zero, sub_zero] at fine
    obtain ⟨c, found⟩ := nearest?_of_fine room lt fine
    exact ⟨_, by rw [search_succ, found]; rfl⟩
  | succ fuel hi =>
    have fine : (10 : ℚ) ^ (k - 1 - fuel) ≤ 2 ^ e := by
      rwa [sub_sub, add_comm, ← Nat.cast_succ]
    have ⟨n, later⟩ := hi fine
    rw [search_succ, later]
    cases nearest? tie (i.scale (factor e k)) (step e k) <;> exact ⟨_, rfl⟩

end Interval

-- Powers of ten and two are compared by a power of both.
theorem ten_zpow_le {a b : ℕ} (pos : a ≠ 0) (le : a * k ≤ b * e)
    (powers : ((10 : ℚ) ^ b) ^ e ≤ (2 ^ a) ^ e) : (10 : ℚ) ^ k ≤ 2 ^ e := by
  refine (pow_le_pow_iff_left₀ (zpow_pos (by norm_num) k).le (unit_pos e).le pos).mp ?_
  calc ((10 : ℚ) ^ k) ^ a
    _ = 10 ^ (a * k)   := by rw [← zpow_natCast, ← zpow_mul, mul_comm]
    _ ≤ 10 ^ (b * e)   := zpow_le_zpow_right₀ (by norm_num) le
    _ = (10 ^ b) ^ e   := by rw [zpow_mul, zpow_natCast]
    _ ≤ (2 ^ a) ^ e    := powers
    _ = (2 ^ e) ^ a    := by rw [← zpow_natCast, ← zpow_natCast, ← zpow_mul, ← zpow_mul, mul_comm]

-- Twenty grids below the first one, a step is less than a quarter of the last binary place.
theorem last_grid_fine {digits : ℕ} (few : digits ≤ 52) (low : -1074 ≤ e) (high : e ≤ 971) :
    (10 : ℚ) ^ ((digits + e + 2) * 30103 / 100000 + 1 - 20 : ℤ) ≤ 2 ^ (e - 2) := by
  rcases le_total 0 (e - 2) with up | down
  case inl =>
    refine ten_zpow_le (a := 10) (b := 3) (by norm_num) (by omega) ?_
    exact zpow_le_zpow_left₀ up (by norm_num) (by norm_num)
  case inr =>
    refine ten_zpow_le (a := 93) (b := 28) (by norm_num) (by omega) ?_
    have ⟨n, eq⟩ : ∃ n : ℕ, e - 2 = -n := ⟨(2 - e).toNat, by omega⟩
    rw [eq, zpow_neg, zpow_neg, zpow_natCast, zpow_natCast]
    exact inv_anti₀ (by positivity) (pow_le_pow_left₀ (by norm_num) (by norm_num) n)

theorem exists_quarter (e : ℤ) : ∃ unit : ℚ, 0 < unit ∧ (2 : ℚ) ^ (e - 2) = unit ∧
    (2 : ℚ) ^ (e - 1) = 2 * unit ∧ (2 : ℚ) ^ e = 4 * unit := by
  refine ⟨2 ^ (e - 2), unit_pos _, rfl, ?_, ?_⟩
  · rw [← zpow_one_add₀ (by norm_num)]
    congr 1
    omega
  · rw [show (4 : ℚ) = 2 ^ (2 : ℤ) by norm_num, ← zpow_add₀ (by norm_num)]
    congr 1
    omega

theorem shortest_within (has : HasParts x negative m e) (nonzero : m ≠ 0) :
    (Interval.ofDouble m e).Within (e - 2) (shortest tie m e).value := by
  have digits : m.log2 ≤ 52 := Nat.lt_succ_iff.mp ((Nat.log2_lt nonzero).mpr has.few)
  have room : (Interval.ofDouble m e).low + 1 ≤ (Interval.ofDouble m e).mid := by
    dsimp only [Interval.ofDouble]
    split <;> omega
  have above : (Interval.ofDouble m e).mid < (Interval.ofDouble m e).high := by
    dsimp only [Interval.ofDouble]
    omega
  have fine := last_grid_fine digits has.low has.high
  have ⟨n, found⟩ : ∃ n, Interval.search tie (.ofDouble m e) (e - 2) 21
      ((m.log2 + e + 2) * 30103 / 100000 + 1) = some n := Interval.search_of_fine 20 room above fine
  have eq : shortest tie m e = n := by
    rw [shortest, if_neg nonzero]
    dsimp only
    rw [found, Option.getD_some]
  exact eq ▸ Interval.search_within found

-- What an interval says of its numbers, in quarters of the last binary place.
structure Near (m : ℕ) (e : ℤ) (q : ℚ) : Prop where
  low   : (4 * m - 2) * 2 ^ (e - 2) ≤ q
  high  : q ≤ (4 * m + 2) * 2 ^ (e - 2)
  even  : q = (4 * m - 2) * 2 ^ (e - 2) ∨ q = (4 * m + 2) * 2 ^ (e - 2) → Even m
  least : m = 2 ^ 52 → e ≠ -1074 → (4 * m - 1) * 2 ^ (e - 2) ≤ q

theorem Interval.Within.ends (within : i.Within e q) :
    (i.low * 2 ^ e ≤ q ∧ q ≤ i.high * 2 ^ e) ∧
      (q = i.low * 2 ^ e ∨ q = i.high * 2 ^ e → i.closed) := by
  unfold Interval.Within at within
  split at within
  case isTrue closed => exact ⟨within, fun _ => closed⟩
  case isFalse =>
    refine ⟨⟨within.1.le, within.2.le⟩, ?_⟩
    rintro (eq | eq)
    · exact absurd eq within.1.ne'
    · exact absurd eq within.2.ne

theorem near_of_within (pos : 0 < m) (within : (Interval.ofDouble m e).Within (e - 2) q) :
    Near m e q := by
  have ⟨⟨low, high⟩, closed⟩ := within.ends
  have above : ((Interval.ofDouble m e).high : ℚ) = 4 * m + 2 := by
    change ((4 * m + 2 : ℕ) : ℚ) = _
    push_cast
    rfl
  have even : (Interval.ofDouble m e).closed ↔ Even m := by
    change (m % 2 == 0) = true ↔ _
    rw [beq_iff_eq, Nat.even_iff]
  rw [above] at high closed
  rw [even] at closed
  have unit := unit_pos (e - 2)
  by_cases least : m = 2 ^ 52 ∧ e ≠ -1074
  case pos =>
    have below : ((Interval.ofDouble m e).low : ℚ) = 4 * m - 1 := by
      have eq : (Interval.ofDouble m e).low + 1 = 4 * m := by
        simp [Interval.ofDouble, least]
      have eq : ((Interval.ofDouble m e).low : ℚ) + 1 = 4 * m := by exact_mod_cast eq
      linarith
    rw [below] at low
    refine ⟨?_, high, fun _ => least.1 ▸ ⟨2 ^ 51, by norm_num⟩, fun _ _ => low⟩
    linarith
  case neg =>
    have below : ((Interval.ofDouble m e).low : ℚ) = 4 * m - 2 := by
      have eq : (Interval.ofDouble m e).low + 2 = 4 * m := by
        have power : Nat.pow 2 52 = 2 ^ 52 := rfl
        have other : ¬(m = 2 ^ 52 && e != -1074) = true := by simpa using least
        dsimp only [Interval.ofDouble]
        rw [power, if_neg other]
        omega
      have eq : ((Interval.ofDouble m e).low : ℚ) + 2 = 4 * m := by exact_mod_cast eq
      linarith
    rw [below] at low closed
    exact ⟨low, high, closed, fun full up => absurd ⟨full, up⟩ least⟩

theorem Near.rounded_of_same (near : Near m e q) (same : quantum q = e) :
    rounded q = m * 2 ^ e := by
  obtain ⟨u, pos, quarter, _, whole⟩ := exists_quarter e
  have ⟨low, high, even, _⟩ := near
  rw [quarter] at low high even
  have apart : |m * 2 ^ e - q| ≤ 2 * u := by
    rw [whole, abs_le]
    constructor <;> linarith
  apply Double.rounded_of_near (k := m)
  case eq   => rw [same, Int.cast_natCast]
  case near =>
    rw [same]
    linarith
  case tie  =>
    rw [same, Int.even_coe_nat]
    intro tie
    refine even ?_
    rcases abs_choice (m * 2 ^ e - q) with eq | eq <;> rw [eq, whole] at tie
    · exact .inl (by linarith)
    · exact .inr (by linarith)

-- Below a power of two, doubles are twice as dense.
theorem Near.rounded_of_less (near : Near m e q) (few : m < 2 ^ 53) (full : 2 ^ 52 ≤ m)
    (less : quantum q < e) : rounded q = m * 2 ^ e := by
  obtain ⟨u, pos, quarter, half, whole⟩ := exists_quarter e
  have ⟨low, _, _, dense⟩ := near
  rw [quarter] at low dense
  have large : (2 : ℚ) ^ 52 ≤ m := by exact_mod_cast full
  have positive : 0 < q := lt_of_lt_of_le (mul_pos (by linarith) pos) low
  have high : q < 2 ^ 53 * (2 * u) := by
    calc q
      _ = |q|                            := (abs_of_pos positive).symm
      _ < 2 ^ (53 : ℤ) * 2 ^ quantum q   := Double.abs_lt_quantum q
      _ ≤ 2 ^ (53 : ℤ) * 2 ^ (e - 1)     := mul_le_mul_of_nonneg_left
        (zpow_le_zpow_right₀ (by norm_num) (by omega)) (by norm_num)
      _ = 2 ^ 53 * (2 * u)               := by rw [half, zpow_ofNat]
  have power : m = 2 ^ 52 := by
    have lt : (4 * m - 2 : ℚ) < 2 ^ 54 := by
      refine lt_of_mul_lt_mul_right ?_ pos.le
      linarith
    have lt : 4 * m < 2 ^ 54 + 2 := by
      have : (4 * m : ℚ) < 2 ^ 54 + 2 := by linarith
      exact_mod_cast this
    omega
  have up : -1074 < e := (Double.le_quantum q).trans_lt less
  have dense := dense power up.ne'
  have value : (m : ℚ) = 2 ^ 52 := by exact_mod_cast power
  rw [value] at dense
  have same : quantum q = e - 1 := by
    refine Double.quantum_eq positive.ne' ?_ (by omega) (.inr ?_)
    · rw [abs_of_pos positive, half, zpow_ofNat]
      exact high
    · rw [abs_of_pos positive, half, zpow_ofNat]
      linarith
  have apart : |2 ^ 52 * 2 ^ e - q| ≤ u := by
    rw [whole, abs_le]
    constructor <;> linarith
  rw [value]
  apply Double.rounded_of_near (k := 2 ^ 53)
  case eq   =>
    rw [same, half, whole]
    push_cast
    ring
  case near =>
    rw [same, half, mul_div_cancel_left₀ _ two_ne_zero]
    exact apart
  case tie  => exact fun _ => ⟨2 ^ 52, by norm_num⟩

-- A number in the interval has the quantum of the double, or half of it.
theorem rounded_of_within (has : HasParts x negative m e) (pos : 0 < m)
    (within : (Interval.ofDouble m e).Within (e - 2) q) : rounded q = m * 2 ^ e := by
  have near := near_of_within pos within
  have few : (m : ℚ) + 1 ≤ 2 ^ 53 := by exact_mod_cast has.few
  have least : (1 : ℚ) ≤ m := by exact_mod_cast pos
  have below : quantum q ≤ e := by
    have positive : 0 < q := lt_of_lt_of_le (mul_pos (by linarith) (unit_pos _)) near.low
    refine Double.quantum_le positive.ne' ?_ has.low
    obtain ⟨u, upos, quarter, _, whole⟩ := exists_quarter e
    have high := near.high
    rw [quarter] at high
    rw [abs_of_pos positive, whole, zpow_ofNat]
    calc q
      _ ≤ (4 * m + 2) * u    := high
      _ < 2 ^ 53 * 4 * u     := mul_lt_mul_of_pos_right (by linarith) upos
      _ = 2 ^ 53 * (4 * u)   := mul_assoc ..
  rcases below.lt_or_eq with less | same
  case inl =>
    have up : -1074 < e := (Double.le_quantum q).trans_lt less
    exact near.rounded_of_less has.few (has.full.resolve_right up.ne') less
  case inr => exact near.rounded_of_same same

theorem shortest_rounds (tie : Tie) (has : HasParts x negative m e) :
    rounded (shortest tie m e).value = m * 2 ^ e := by
  rcases Nat.eq_zero_or_pos m with rfl | pos
  case inl =>
    have zero : (shortest tie 0 e).value = 0 := by
      rw [shortest, if_pos rfl, Numeral.value, Nat.cast_zero, zero_mul]
    rw [zero, Double.rounded_zero, Nat.cast_zero, zero_mul]
  case inr => exact rounded_of_within has pos (shortest_within has pos.ne')

end TextCharts.Decimal
