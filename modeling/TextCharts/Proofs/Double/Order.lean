import TextCharts.Proofs.Double.Arithmetic

namespace TextCharts.Double

open Float.Model (Format UnpackedFloat)
open Float.Model.UnpackedFloat (Sign)

variable {x y z : Float} {q r : ℚ}

theorem value_mono (hx : Returns x q) (hy : Returns y r) (le : q ≤ r) : value x ≤ value y := by
  rw [hx.value, hy.value]
  exact saturate_mono (rounded_mono le)

theorem equals_of_represents_zero {u : UnpackedFloat} (h : Represents u 0) :
    Equals (.ofModel (.pack u)) 0 := by
  rw [← rounded_zero] at h
  exact h.returns.equals_zero

theorem sub_pos (hx : x.isFinite) (hy : y.isFinite) (lt : x < y) : 0 < value (y - x) := by
  have lt : value x < value y := (lt_iff_of_isFinite hx hy).mp lt
  have least : (2 : ℚ) ^ (-1074 : ℤ) ≤ value y - value x :=
    (onGrid_value x).sub_ge (onGrid_value y) lt
  have grid : OnGrid (2 ^ (-1074 : ℤ)) := ⟨1, -1074, by norm_num, le_rfl, by norm_num⟩
  have small : |(2 : ℚ) ^ (-1074 : ℤ)| ≤ limit := by
    rw [abs_of_pos (unit_pos _)]
    exact zpow_le_zpow_right₀ (by norm_num) (by norm_num)
  calc 0
    _ < (2 : ℚ) ^ (-1074 : ℤ)                  := unit_pos _
    _ = saturate (rounded (2 ^ (-1074 : ℤ)))   := by
      rw [grid.rounded_eq, saturate_of_abs_le small]
    _ ≤ saturate (rounded (value y - value x)) := saturate_mono (rounded_mono least)
    _ = value (y - x)                          := (sub_returns hy hx).value.symm

theorem div_infinity (hx : x.isFinite) (hz : IsNumber z) (infinite : ¬z.isFinite) :
    Equals (x / z) 0 := by
  have zero {a : UnpackedFloat} (t : Sign) (finite : a.isFinite) :
      Represents (UnpackedFloat.div Format.binary64 a (.infinity t)) 0 := by
    cases a with
    | notANumber       => contradiction
    | infinity s       => contradiction
    | zero s           => exact represents_zero _
    | finite s m e pos => exact represents_zero _
  have ⟨t, h⟩ := exists_infinity hz infinite
  refine equals_of_represents_zero ?_
  rw [h]
  exact zero t hx

theorem not_isNumber_infinity_div (hx : IsNumber x) (infinite : ¬x.isFinite) (hz : IsNumber z)
    (infinite' : ¬z.isFinite) : ¬IsNumber (x / z) := by
  have ⟨s, h⟩ := exists_infinity hx infinite
  have ⟨t, h'⟩ := exists_infinity hz infinite'
  refine not_isNumber_pack ?_
  rw [h, h']
  rfl

-- Dividing by a positive number keeps an infinity.
theorem infinity_div (hx : IsNumber x) (infinite : ¬x.isFinite) (hz : z.isFinite)
    (pos : 0 < value z) : IsNumber (x / z) ∧ value (x / z) = value x := by
  have keep {b : UnpackedFloat} (s : Sign) (finite : b.isFinite) (pos : 0 < amount b) :
      UnpackedFloat.div Format.binary64 (.infinity s) b = .infinity s := by
    cases b with
    | notANumber => contradiction
    | infinity t => contradiction
    | zero t     => exact absurd pos (lt_irrefl 0)
    | finite t n i pos' =>
      cases t with
      | positive => cases s <;> rfl
      | negative => exact absurd pos amount_negative.not_gt
  obtain ⟨s, h⟩ := exists_infinity hx infinite
  have same : (x / z).toModel.unpack = .infinity s := by
    change (Float.Model.pack
      (UnpackedFloat.div Format.binary64 x.toModel.unpack z.toModel.unpack)).unpack = _
    rw [h, keep s hz pos]
    cases s <;> rfl
  rw [IsNumber, value, value, same, h]
  exact ⟨by simp, rfl⟩

theorem value_of_infinite (hx : IsNumber x) (infinite : ¬x.isFinite) :
    value x = -limit ∨ value x = limit := by
  have ⟨s, h⟩ := exists_infinity hx infinite
  rw [value, h]
  cases s with
  | positive => exact .inr rfl
  | negative => exact .inl rfl

theorem isNumber_div (hx : IsNumber x) (hz : z.isFinite) (pos : 0 < value z) :
    IsNumber (x / z) := by
  by_cases finite : x.isFinite
  case pos => exact (div_returns finite hz pos.ne').number
  case neg => exact (infinity_div hx finite hz pos).1

theorem div_mono (hx : IsNumber x) (hy : IsNumber y) (hz : z.isFinite) (pos : 0 < value z)
    (le : value x ≤ value y) : value (x / z) ≤ value (y / z) := by
  have ends (x : Float) : -limit ≤ value x ∧ value x ≤ limit := abs_le.mp (abs_value_le x)
  by_cases finite : x.isFinite
  case pos =>
    by_cases finite' : y.isFinite
    case pos =>
      exact value_mono (div_returns finite hz pos.ne') (div_returns finite' hz pos.ne')
        (div_le_div_of_nonneg_right le pos.le)
    case neg =>
      have below := (abs_lt.mp (abs_value_lt finite)).1
      have top : value y = limit :=
        (value_of_infinite hy finite').resolve_left fun bottom => by linarith
      rw [(infinity_div hy finite' hz pos).2, top]
      exact (ends _).2
  case neg =>
    rw [(infinity_div hx finite hz pos).2]
    by_cases finite' : y.isFinite
    case pos =>
      have above := (abs_lt.mp (abs_value_lt finite')).2
      have bottom : value x = -limit :=
        (value_of_infinite hx finite).resolve_right fun top => by linarith
      rw [bottom]
      exact (ends _).1
    case neg => rwa [(infinity_div hy finite' hz pos).2]

end TextCharts.Double
