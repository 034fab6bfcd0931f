import Mathlib.Algebra.Order.Group.Basic
import Mathlib.Algebra.Order.Group.Int
import Mathlib.Data.Prod.Lex
import Mathlib.Order.MinMax
import TextCharts.Chart.Bins

namespace TextCharts

namespace Double

open Float.Model (UnpackedFloat)

-- The sign counts first, then the exponent and the mantissa, both turned round below zero.
def place : UnpackedFloat → ℤ ×ₗ ℤ ×ₗ ℤ
  | .finite .positive mantissa exponent _ => toLex (1, toLex (exponent, ↑mantissa))
  | .finite .negative mantissa exponent _ => toLex (-1, toLex (-exponent, -↑mantissa))
  | _                                     => toLex (0, toLex (0, 0))

theorem compare_neg {α : Type} [AddCommGroup α] [LinearOrder α] [IsOrderedAddMonoid α] (a b : α) :
    compare (-a) (-b) = (compare a b).swap := by
  cases h : compare a b
  case lt => simpa [compare_gt_iff_gt, compare_lt_iff_lt] using h
  case eq => simpa [compare_eq_iff_eq] using h
  case gt => simpa [compare_lt_iff_lt, compare_gt_iff_gt] using h

theorem compare_cast (a b : ℕ) : compare (a : ℤ) b = compare a b := by
  cases h : compare a b
  case lt => simpa [compare_lt_iff_lt] using h
  case eq => simp [compare_eq_iff_eq.mp h]
  case gt => simpa [compare_gt_iff_gt] using h

theorem compare_place {a b : UnpackedFloat} (ha : a.isFinite) (hb : b.isFinite) :
    a.compare b = some (compare (place a) (place b)) := by
  cases a <;> cases b <;> try contradiction
  -- Two places are compared part by part, as the numbers are.
  case zero.zero                       => rfl
  case zero.finite s _ _ _             => cases s <;> rfl
  case finite.zero s _ _ _ _           => cases s <;> rfl
  case finite.finite s m e _ t m' e' _ =>
    cases s <;> cases t
    case negative.negative =>
      change some ((compare e e').then (compare m m')).swap =
        some ((compare (-e) (-e')).then (compare (-(m : ℤ)) (-(m' : ℤ))))
      rw [compare_neg, compare_neg, compare_cast, Ordering.swap_then]
    case positive.positive =>
      change some ((compare e e').then (compare m m')) =
        some ((compare e e').then (compare (m : ℤ) (m' : ℤ)))
      rw [compare_cast]
    all_goals rfl

variable {x y : Float}

def rank (x : Float) : ℤ ×ₗ ℤ ×ₗ ℤ :=
  place x.toModel.unpack

theorem lt_iff_rank (hx : x.isFinite) (hy : y.isFinite) : x < y ↔ rank x < rank y := by
  have h : x < y ↔ x.toModel.unpack.lt y.toModel.unpack = true := decide_eq_true_iff
  rw [h, UnpackedFloat.lt, compare_place hx hy]
  simp [rank, compare_lt_iff_lt]

theorem le_iff_rank (hx : x.isFinite) (hy : y.isFinite) : x ≤ y ↔ rank x ≤ rank y := by
  have h : x ≤ y ↔ x.toModel.unpack.le y.toModel.unpack = true := decide_eq_true_iff
  rw [h, UnpackedFloat.le, compare_place hx hy]
  simp [rank, Ordering.isLE_iff_ne_gt, compare_le_iff_le]

theorem le_of_le_of_le {z : Float} (hx : x.isFinite) (hy : y.isFinite) (hz : z.isFinite)
    (hxy : x ≤ y) (hyz : y ≤ z) : x ≤ z := by
  rw [le_iff_rank hx hy] at hxy
  rw [le_iff_rank hy hz] at hyz
  exact (le_iff_rank hx hz).mpr (hxy.trans hyz)

end Double

namespace Extent

open Double

variable {e : Extent} {x : Float} {l rest values : List Float}

-- Of some finite values, the ends of an extent are the least and the greatest.
structure Spans (e : Extent) (l : List Float) : Prop where
  finite   : ∀ x ∈ l, x.isFinite
  low_mem  : e.low ∈ l
  high_mem : e.high ∈ l
  low_le   : ∀ x ∈ l, e.low ≤ x
  le_high  : ∀ x ∈ l, x ≤ e.high

theorem spans_singleton (hx : x.isFinite) : Spans ⟨x, x⟩ [x] where
  finite   := by simpa using hx
  low_mem  := List.mem_singleton_self x
  high_mem := List.mem_singleton_self x
  low_le   := by simp [le_iff_rank hx hx]
  le_high  := by simp [le_iff_rank hx hx]

theorem rank_add_low (hl : e.low.isFinite) (hx : x.isFinite) :
    rank (e.add x).low = min (rank e.low) (rank x) := by
  simp only [add, lt_iff_rank hx hl]
  split
  case isTrue h  => exact (min_eq_right h.le).symm
  case isFalse h => exact (min_eq_left (not_lt.mp h)).symm

theorem rank_add_high (hh : e.high.isFinite) (hx : x.isFinite) :
    rank (e.add x).high = max (rank e.high) (rank x) := by
  simp only [add, lt_iff_rank hh hx]
  split
  case isTrue h  => exact (max_eq_right h.le).symm
  case isFalse h => exact (max_eq_left (not_lt.mp h)).symm

theorem Spans.add (spans : e.Spans l) (hx : x.isFinite) : (e.add x).Spans (l ++ [x]) := by
  have hl := spans.finite e.low spans.low_mem
  have hh := spans.finite e.high spans.high_mem
  have finite : ∀ y ∈ l ++ [x], y.isFinite := List.forall_mem_append.mpr
    ⟨spans.finite, by simpa using hx⟩
  have low_mem : (e.add x).low ∈ l ++ [x] := by
    simp only [Extent.add]
    split <;> simp [spans.low_mem]
  have high_mem : (e.add x).high ∈ l ++ [x] := by
    simp only [Extent.add]
    split <;> simp [spans.high_mem]
  refine ⟨finite, low_mem, high_mem, ?low_le, ?le_high⟩
  case low_le =>
    intro y mem
    rw [le_iff_rank (finite _ low_mem) (finite y mem), rank_add_low hl hx, min_le_iff]
    cases List.mem_append.mp mem with
    | inl mem => exact .inl ((le_iff_rank hl (spans.finite y mem)).mp (spans.low_le y mem))
    | inr mem => exact .inr (List.mem_singleton.mp mem ▸ le_refl _)
  case le_high =>
    intro y mem
    rw [le_iff_rank (finite y mem) (finite _ high_mem), rank_add_high hh hx, le_max_iff]
    cases List.mem_append.mp mem with
    | inl mem => exact .inl ((le_iff_rank (spans.finite y mem) hh).mp (spans.le_high y mem))
    | inr mem => exact .inr (List.mem_singleton.mp mem ▸ le_refl _)

theorem Spans.foldl_add (spans : e.Spans l) (finite : ∀ x ∈ rest, x.isFinite) :
    (rest.foldl Extent.add e).Spans (l ++ rest) := by
  induction rest generalizing e l with
  | nil            => simpa using spans
  | cons x rest hi =>
    have ⟨hx, finite⟩ := List.forall_mem_cons.mp finite
    simpa using hi (spans.add hx) finite

theorem ofValues?_spans (h : ofValues? values = some e) :
    e.Spans (values.filter Float.isFinite) := by
  simp only [ofValues?] at h
  split at h
  case h_1        => contradiction
  case h_2 x rest hf =>
    have finite : ∀ y ∈ x :: rest, y.isFinite := by
      intro y mem
      exact (List.mem_filter.mp (hf ▸ mem)).2
    have ⟨hx, finite⟩ := List.forall_mem_cons.mp finite
    cases h
    rw [hf]
    exact (spans_singleton hx).foldl_add finite

theorem ofValues?_eq_none : ofValues? values = none ↔ ∀ x ∈ values, ¬x.isFinite := by
  simp only [ofValues?]
  split
  case h_1 h => simpa using h
  case h_2 x rest hf =>
    have mem : x ∈ values.filter Float.isFinite := hf ▸ List.mem_cons_self
    have ⟨mem, hx⟩ := List.mem_filter.mp mem
    simpa using ⟨x, mem, hx⟩

end Extent
end TextCharts
