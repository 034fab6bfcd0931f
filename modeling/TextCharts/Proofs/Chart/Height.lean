import TextCharts.Proofs.Chart.Samples
import TextCharts.Proofs.Double.Order
import TextCharts.Proofs.Double.Whole

namespace TextCharts.Chart

open Double

variable {c : Chart} {x y : Float} {q r : ℚ} {n : ℕ}

theorem equals_clamp (number : IsNumber x) : Equals (clamp x) (max 0 (min 1 (value x))) := by
  have below : x < 0 ↔ value x < 0 := by
    rw [lt_iff_value number equals_zero.number, equals_zero.value]
  have above : 1 < x ↔ 1 < value x := by
    rw [lt_iff_value equals_one.number number, equals_one.value]
  rw [clamp]
  split_ifs with neg large
  case pos =>
    rw [max_eq_left ((min_le_right _ _).trans (below.mp neg).le)]
    exact equals_zero
  case pos =>
    rw [min_eq_left (above.mp large).le, max_eq_right zero_le_one]
    exact equals_one
  case neg =>
    rw [below, not_lt] at neg
    rw [above, not_lt] at large
    rw [min_eq_right large, max_eq_right neg]
    have small : |value x| < limit :=
      calc |value x|
        _ = value x := abs_of_nonneg neg
        _ ≤ 1       := large
        _ < limit   := one_lt_limit
    exact ⟨(isFinite_iff_value number).mpr small, rfl⟩

theorem clamp_of_not_isNumber (h : ¬IsNumber x) : clamp x = x := by
  rw [clamp, if_neg (not_lt_of_not_isNumber (.inl h)), if_neg (not_lt_of_not_isNumber (.inr h))]

-- How far up a ratio is, of so many rows.
def level (n : ℕ) (q : ℚ) : ℕ :=
  ⌊rounded (max 0 (min 1 q) * n) + 1 / 2⌋₊

theorem level_mono (h : q ≤ r) : level n q ≤ level n r := by
  have shown : max 0 (min 1 q) * n ≤ max 0 (min 1 r) * (n : ℚ) :=
    mul_le_mul_of_nonneg_right (max_le_max_left 0 (min_le_min_left 1 h)) (Nat.cast_nonneg n)
  exact Nat.floor_le_floor (add_le_add_left (rounded_mono shown) _)

theorem level_of_nonpos (h : q ≤ 0) : level n q = 0 := by
  rw [level, max_eq_left ((min_le_right 1 q).trans h), zero_mul, rounded_zero]
  norm_num

theorem level_of_one_le (small : n < 2 ^ 53) (h : 1 ≤ q) : level n q = n := by
  rw [level, min_eq_left h, max_eq_right zero_le_one, one_mul, (onGrid_natCast small).rounded_eq]
  exact (Nat.floor_eq_iff (by positivity)).mpr ⟨by linarith, by linarith⟩

theorem level_le (small : n < 2 ^ 53) : level n q ≤ n :=
  calc level n q
    _ ≤ level n (max 1 q) := level_mono (le_max_right 1 q)
    _ = n                 := level_of_one_le small (le_max_left 1 q)

theorem nearest_clamp_mul (small : n < 2 ^ 53) (number : IsNumber x) :
    nearest (clamp x * .ofScientific n false 0) = level n (value x) := by
  have clamped := equals_clamp number
  have whole := equals_ofScientific small
  have product := mul_returns clamped.finite whole.finite
  rw [clamped.value, whole.value] at product
  have low : 0 ≤ max 0 (min 1 (value x)) * n := mul_nonneg (le_max_left _ _) (Nat.cast_nonneg n)
  have high : max 0 (min 1 (value x)) * n ≤ n :=
    mul_le_of_le_one_left (Nat.cast_nonneg n) (max_le zero_le_one (min_le_left _ _))
  have bottom : 0 ≤ rounded (max 0 (min 1 (value x)) * n) := rounded_nonneg low
  have top : rounded (max 0 (min 1 (value x)) * n) ≤ n :=
    (rounded_mono high).trans_eq (onGrid_natCast small).rounded_eq
  have bounded : |rounded (max 0 (min 1 (value x)) * n)| < limit := by
    rw [abs_of_nonneg bottom]
    exact top.trans_lt (lt_of_abs_lt (abs_natCast_lt_limit small))
  have scaled := product.equals_rounded bounded
  have few : (n : ℚ) < 2 ^ 53 := by exact_mod_cast small
  rw [nearest_eq scaled.finite (scaled.value ▸ bottom) (scaled.value ▸ top.trans_lt few),
    scaled.value, level]

theorem nearest_clamp_mul_of_not_isNumber (h : ¬IsNumber x) :
    nearest (clamp x * y) = 0 := by
  rw [clamp_of_not_isNumber h]
  exact nearest_of_not_isNumber (not_isNumber_mul h)

-- How far up its axis a chart shows a value.
def ratio (c : Chart) (y : Float) : Float :=
  (y - c.range.low) / (c.range.high - c.range.low)

def rise (c : Chart) (y : Float) : ℕ :=
  nearest (clamp (c.ratio y) * .ofScientific c.lastRow false 0)

theorem row_eq (c : Chart) (y : Float) : c.row y = c.lastRow - c.rise y :=
  rfl

theorem rise_eq (small : c.lastRow < 2 ^ 53) (number : IsNumber (c.ratio y)) :
    c.rise y = level c.lastRow (value (c.ratio y)) :=
  nearest_clamp_mul small number

theorem rise_of_not_isNumber (h : ¬IsNumber (c.ratio y)) : c.rise y = 0 :=
  nearest_clamp_mul_of_not_isNumber h

theorem rise_le (small : c.lastRow < 2 ^ 53) : c.rise y ≤ c.lastRow := by
  by_cases number : IsNumber (c.ratio y)
  case pos => exact (rise_eq small number).trans_le (level_le small)
  case neg => exact (rise_of_not_isNumber number).trans_le (Nat.zero_le _)

-- The axis of a chart has two ends, one above the other, and more than one row, but not too many.
structure Upright (c : Chart) : Prop where
  low   : c.range.low.isFinite
  high  : c.range.high.isFinite
  lt    : c.range.low < c.range.high
  tall  : 0 < c.lastRow
  small : c.lastRow < 2 ^ 53

section

variable {u v : Float}

theorem Upright.isNumber_length (up : c.Upright) : IsNumber (c.range.high - c.range.low) :=
  (sub_returns up.high up.low).number

theorem Upright.length_pos (up : c.Upright) : 0 < value (c.range.high - c.range.low) :=
  sub_pos up.low up.high up.lt

theorem Upright.isNumber_ratio (up : c.Upright) (length : (c.range.high - c.range.low).isFinite)
    (hy : y.isFinite) : IsNumber (c.ratio y) :=
  isNumber_div (sub_returns hy up.low).number length up.length_pos

theorem Upright.ratio_mono (up : c.Upright) (length : (c.range.high - c.range.low).isFinite)
    (hu : u.isFinite) (hv : v.isFinite) (le : u ≤ v) : value (c.ratio u) ≤ value (c.ratio v) := by
  rw [le_iff_of_isFinite hu hv] at le
  have lower := sub_returns hu up.low
  have upper := sub_returns hv up.low
  exact div_mono lower.number upper.number length up.length_pos
    (value_mono lower upper (sub_le_sub_right le _))

theorem Upright.ratio_low (up : c.Upright) (length : (c.range.high - c.range.low).isFinite) :
    value (c.ratio c.range.low) = 0 := by
  have none := equals_sub_self up.low up.low rfl
  have ratio := div_returns none.finite length up.length_pos.ne'
  rw [none.value, zero_div] at ratio
  exact ratio.equals_zero.value

theorem Upright.ratio_high (up : c.Upright) (length : (c.range.high - c.range.low).isFinite) :
    value (c.ratio c.range.high) = 1 := by
  have ratio := div_returns length length up.length_pos.ne'
  rw [div_self up.length_pos.ne'] at ratio
  exact (ratio.equals (equals_one.value ▸ onGrid_value 1) (abs_one.trans_lt one_lt_limit)).value

-- On an axis that is too long, no value is above the last row.
theorem Upright.rise_of_infinite (up : c.Upright)
    (infinite : ¬(c.range.high - c.range.low).isFinite) (hy : y.isFinite) : c.rise y = 0 := by
  by_cases finite : (y - c.range.low).isFinite
  case pos =>
    have zero := div_infinity finite up.isNumber_length infinite
    have number : IsNumber (c.ratio y) := zero.number
    have none : value (c.ratio y) = 0 := zero.value
    rw [rise_eq up.small number]
    exact level_of_nonpos none.le
  case neg =>
    exact rise_of_not_isNumber (not_isNumber_infinity_div (sub_returns hy up.low).number finite
      up.isNumber_length infinite)

theorem Upright.rise_mono (up : c.Upright) (hu : u.isFinite) (hv : v.isFinite) (le : u ≤ v) :
    c.rise u ≤ c.rise v := by
  by_cases length : (c.range.high - c.range.low).isFinite
  case pos =>
    rw [rise_eq up.small (up.isNumber_ratio length hu),
      rise_eq up.small (up.isNumber_ratio length hv)]
    exact level_mono (up.ratio_mono length hu hv le)
  case neg => exact (up.rise_of_infinite length hu).trans_le (Nat.zero_le _)

theorem Upright.rise_low (up : c.Upright) : c.rise c.range.low = 0 := by
  by_cases length : (c.range.high - c.range.low).isFinite
  case pos =>
    rw [rise_eq up.small (up.isNumber_ratio length up.low)]
    exact level_of_nonpos (up.ratio_low length).le
  case neg => exact up.rise_of_infinite length up.low

theorem Upright.rise_high (up : c.Upright) (length : (c.range.high - c.range.low).isFinite) :
    c.rise c.range.high = c.lastRow := by
  rw [rise_eq up.small (up.isNumber_ratio length up.high)]
  exact level_of_one_le up.small (up.ratio_high length).ge

end

-- No row of a step lies below this one.
def Step.Within (last : ℕ) (s : Step) : Prop :=
  s.top ≤ last ∧ s.bottom ≤ last

section

variable {last : ℕ} {before : Option Step} {steps : List (Option Step)} {s t : Step}

theorem Step.Within.reach (hs : s.Within last) (ht : t.Within last) :
    (s.reach t).Within last := by
  refine ⟨reach_top_le.trans ht.1, ?_⟩
  have top := hs.1
  have bottom := ht.2
  simp only [Step.reach]
  split <;> omega

theorem join_within (first : ∀ s, before = some s → s.Within last)
    (within : ∀ s, some s ∈ steps → s.Within last) :
    ∀ s, some s ∈ join before steps → s.Within last := by
  induction before, steps using join.induct with
  | case1 before => simp [join]
  | case2 before rest hi =>
    simp only [List.mem_cons, reduceCtorEq, false_or] at within
    simpa [join] using hi first within
  | case3 u rest hi =>
    simp only [List.mem_cons, Option.some.injEq, forall_eq_or_imp] at within
    simpa [join] using ⟨within.1, hi (by simpa using within.1) within.2⟩
  | case4 before u rest hi =>
    simp only [List.mem_cons, Option.some.injEq, forall_eq_or_imp] at within
    have joined := (first before rfl).reach within.1
    simpa [join] using ⟨joined, hi (by simpa using within.1) within.2⟩

theorem step_within (c : Chart) (fill : Fill) (e : Extent) : (c.step fill e).Within c.lastRow := by
  cases fill with
  | line => exact ⟨row_le, row_le⟩
  | area => exact ⟨row_le, le_rfl⟩

theorem trace_within {fill : Fill} {extents : List (Option Extent)}
    (traced : c.trace fill extents = .ok steps) : ∀ s, some s ∈ steps → s.Within c.lastRow := by
  have apart : ∀ s, some s ∈ extents.map (Option.map (c.step fill)) → s.Within c.lastRow := by
    intro s mem
    obtain ⟨e, _, eq⟩ := List.mem_map.mp mem
    obtain ⟨e, rfl, rfl⟩ := Option.map_eq_some_iff.mp eq
    exact step_within c fill e
  simp only [trace] at traced
  split at traced
  case isTrue  => contradiction
  case isFalse =>
    cases traced
    cases fill with
    | line => exact join_within (by simp) apart
    | area => exact apart

end

-- The rows of values on an axis, and the steps that are made of them. The greatest value is in the
-- first row if and only if the length of the axis is not too large for a double.
structure Scales (c : Chart) : Prop where
  drawn    : ∀ (fill : Fill) (extents : List (Option Extent)), (∃ e, some e ∈ extents) →
    ∃ steps, c.trace fill extents = .ok steps ∧ c.Traces fill extents steps ∧
      ∀ s, some s ∈ steps → s.Within (4 * c.height - 1)
  within   : ∀ y, c.rise y ≤ c.lastRow ∧ c.row y ≤ 4 * c.height - 1
  descends : ∀ u v, u.isFinite → v.isFinite → u ≤ v → c.row v ≤ c.row u
  bottom   : ∀ y, y.isFinite → y ≤ c.range.low → c.row y = 4 * c.height - 1
  top      : (∀ y, y.isFinite → c.range.high ≤ y → c.row y = 0) ↔
    (c.range.high - c.range.low).isFinite
  flat     : ¬(c.range.high - c.range.low).isFinite →
    ∀ y, y.isFinite → c.row y = 4 * c.height - 1

theorem Upright.scales (up : c.Upright) : c.Scales := by
  have last : 4 * c.height - 1 = c.lastRow := congrArg (· - 1) (Nat.mul_comm 4 _)
  have flat (infinite : ¬(c.range.high - c.range.low).isFinite) (y : Float) (hy : y.isFinite) :
      c.row y = c.lastRow := by
    rw [row_eq, up.rise_of_infinite infinite hy, Nat.sub_zero]
  constructor
  case drawn    =>
    intro fill extents filled
    obtain ⟨steps, traced, traces⟩ := traces_of_trace c fill filled
    exact ⟨steps, traced, traces, last ▸ trace_within traced⟩
  case within   => exact fun y => ⟨rise_le up.small, last ▸ row_le⟩
  case descends => exact fun u v hu hv le => Nat.sub_le_sub_left (up.rise_mono hu hv le) _
  case bottom   =>
    intro y hy le
    have rise : c.rise y = 0 := Nat.le_zero.mp (up.rise_low ▸ up.rise_mono hy up.low le)
    rw [row_eq, rise, last, Nat.sub_zero]
  case top      =>
    constructor
    case mp  =>
      intro first
      by_contra infinite
      have le : c.range.high ≤ c.range.high := (le_iff_of_isFinite up.high up.high).mpr le_rfl
      have zero := first c.range.high up.high le
      exact up.tall.ne (zero.symm.trans (flat infinite c.range.high up.high))
    case mpr =>
      intro length y hy le
      have rise : c.lastRow ≤ c.rise y := up.rise_high length ▸ up.rise_mono up.high hy le
      exact Nat.sub_eq_zero_of_le rise
  case flat     => exact last ▸ flat

theorem Draft.upright_of_build {d : Draft} (built : d.build = .ok c)
    (low : c.range.low.isFinite) (high : c.range.high.isFinite) : c.Upright := by
  have ⟨_, rows⟩ := size_of_build built
  obtain ⟨_, size, built⟩ := bind_eq_ok.mp built
  obtain ⟨_, range, built⟩ := bind_eq_ok.mp built
  cases built
  have lt : d.range.low < d.range.high := by
    by_contra not
    rw [checkRange, if_neg not] at range
    contradiction
  have few : d.height ≤ maxHeight := by
    by_contra tall
    rw [checkSize] at size
    split_ifs at size with narrow large
    exact large (by simp [Nat.not_le.mp tall])
  have small : d.height * dotsDown - 1 < 2 ^ 53 :=
    calc d.height * dotsDown - 1
      _ ≤ maxHeight * dotsDown := (Nat.sub_le _ _).trans (Nat.mul_le_mul_right _ few)
      _ < 2 ^ 53               := by decide
  have tall : 0 < d.height * dotsDown - 1 :=
    calc 0
      _ < minHeight * dotsDown - 1 := by decide
      _ ≤ d.height * dotsDown - 1  := Nat.sub_le_sub_right (Nat.mul_le_mul_right _ rows) _
  exact ⟨low, high, lt, tall, small⟩

theorem scales_of_build {d : Draft} (built : d.build = .ok c) (low : c.range.low.isFinite)
    (high : c.range.high.isFinite) : c.Scales :=
  (Draft.upright_of_build built low high).scales

theorem small_scales : smallDraft.build = .ok small ∧ small.range.low.isFinite ∧
    small.range.high.isFinite ∧ small.Scales := by
  have size : Draft.checkSize 14 7 = .ok () := rfl
  have range : Draft.checkRange ⟨0, 4⟩ = .ok () := if_pos (by decide +kernel)
  have built : smallDraft.build = .ok small :=
    bind_eq_ok.mpr ⟨(), size, bind_eq_ok.mpr ⟨(), range, rfl⟩⟩
  have low : small.range.low.isFinite := by decide +kernel
  have high : small.range.high.isFinite := by decide +kernel
  exact ⟨built, low, high, scales_of_build built low high⟩

-- The greatest double.
def greatest : Float :=
  .ofBits 0x7fefffffffffffff

-- An axis from the least double to the greatest.
def long : Chart where
  title := ""
  subtitle := none
  range := ⟨-greatest, greatest⟩
  width := 14
  height := 7
  color := none

def longDraft : Draft where
  width := 14
  height := 7
  range := ⟨-greatest, greatest⟩
  color := none

-- Its greatest value is in the last row.
theorem long_not_on_top : longDraft.build = .ok long ∧ long.range.low.isFinite ∧
    long.range.high.isFinite ∧ greatest.isFinite ∧ long.range.high ≤ greatest ∧
      long.trace .line [some ⟨greatest, greatest⟩] = .ok [some ⟨27, 27⟩] := by
  have size : Draft.checkSize 14 7 = .ok () := rfl
  have range : Draft.checkRange ⟨-greatest, greatest⟩ = .ok () := if_pos (by decide +kernel)
  have built : longDraft.build = .ok long :=
    bind_eq_ok.mpr ⟨(), size, bind_eq_ok.mpr ⟨(), range, rfl⟩⟩
  have row : long.row greatest = 27 := by decide +kernel
  have traced : long.trace .line [some ⟨greatest, greatest⟩] =
      .ok [some ⟨long.row greatest, long.row greatest⟩] := rfl
  rw [traced, row]
  exact ⟨built, by decide +kernel, by decide +kernel, by decide +kernel, by decide +kernel, rfl⟩

end TextCharts.Chart
