import Mathlib.Logic.ExistsUnique
import TextCharts.Proofs.Chart.Extent

namespace TextCharts.Chart

variable {values : List Float} {samples bins half k : Nat} {v : Float} {e : Extent}

-- The half-column that a sample falls into.
def FallsInto (samples bins k half : Nat) : Prop :=
  if samples ≤ bins then half = k
  else half * samples / bins ≤ k ∧ k < (half + 1) * samples / bins

-- The finite samples of a half-column.
def Sample (values : List Float) (bins half : Nat) (v : Float) : Prop :=
  ∃ k, FallsInto values.length bins k half ∧ values[k]? = some v ∧ v.isFinite

-- A half-column begins at or before a sample if it is not after the one of that sample.
theorem start_le_iff (pos : 0 < bins) (some : 0 < samples) :
    half * samples / bins ≤ k ↔ half ≤ ((k + 1) * bins - 1) / samples := by
  have hk : 0 < (k + 1) * bins := Nat.mul_pos k.succ_pos pos
  rw [← Nat.lt_add_one_iff, Nat.div_lt_iff_lt_mul pos, Nat.le_div_iff_mul_le some]
  omega

theorem fallsInto_iff (pos : 0 < bins) (many : bins < samples) :
    FallsInto samples bins k half ↔ half = ((k + 1) * bins - 1) / samples := by
  have some : 0 < samples := Nat.zero_lt_of_lt many
  rw [FallsInto, if_neg (Nat.not_le_of_lt many), ← Nat.not_le, start_le_iff pos some,
    start_le_iff pos some]
  omega

theorem fallsInto_existsUnique (pos : 0 < bins) : ∃! half, FallsInto samples bins k half := by
  by_cases few : samples ≤ bins
  case pos => simp [FallsInto, few]
  case neg => simp [fallsInto_iff pos (Nat.lt_of_not_le few)]

theorem FallsInto.lt (falls : FallsInto samples bins k half) (pos : 0 < bins) (hk : k < samples) :
    half < bins := by
  by_cases few : samples ≤ bins
  case pos =>
    simp only [FallsInto, few, if_true] at falls
    omega
  case neg =>
    rw [(fallsInto_iff pos (Nat.lt_of_not_le few)).mp falls]
    have hk : (k + 1) * bins ≤ samples * bins := Nat.mul_le_mul_right bins hk
    have hb : 0 < (k + 1) * bins := Nat.mul_pos k.succ_pos pos
    rw [Nat.div_lt_iff_lt_mul (by omega), Nat.mul_comm bins]
    omega

-- All samples of a half-column.
def bucket (values : List Float) (bins half : Nat) : List Float :=
  if values.length ≤ bins then values[half]?.toList
  else slice values (binStart values.length bins half) (binEnd values.length bins half)

theorem mem_slice {α : Type} {items : List α} {start stop : Nat} {a : α} :
    a ∈ slice items start stop ↔ ∃ k, (start ≤ k ∧ k < stop) ∧ items[k]? = some a := by
  simp only [slice, List.mem_iff_getElem?, List.getElem?_take, List.getElem?_drop]
  constructor
  case mp  =>
    intro ⟨i, h⟩
    split at h
    case isTrue lt => exact ⟨start + i, by omega, h⟩
    case isFalse   => contradiction
  case mpr =>
    intro ⟨k, ⟨le, lt⟩, h⟩
    refine ⟨k - start, ?_⟩
    rw [if_pos (by omega), Nat.add_sub_cancel' le, h]

-- Where there are more samples than half-columns, each of these has one.
theorem binEnd_eq (pos : 0 < bins) (many : bins < samples) :
    binEnd samples bins half = (half + 1) * samples / bins := by
  have hs : half * samples + bins ≤ (half + 1) * samples := by
    rw [Nat.add_mul]
    omega
  have := Nat.div_le_div_right (c := bins) hs
  rw [Nat.add_div_right _ pos] at this
  exact Nat.max_eq_left this

theorem mem_bucket (pos : 0 < bins) : v ∈ bucket values bins half ↔
    ∃ k, FallsInto values.length bins k half ∧ values[k]? = some v := by
  by_cases few : values.length ≤ bins
  case pos => simp [bucket, FallsInto, few]
  case neg =>
    have hend : binEnd values.length bins half = _ := binEnd_eq pos (Nat.lt_of_not_le few)
    simp only [bucket, FallsInto, few, if_false, mem_slice, hend, binStart]

theorem sample_iff (pos : 0 < bins) :
    Sample values bins half v ↔ v ∈ (bucket values bins half).filter Float.isFinite := by
  simp only [Sample, List.mem_filter, mem_bucket pos, ← and_assoc, exists_and_right]

theorem bin_getElem? (pos : 0 < bins) :
    (bin values bins)[half]?.join = Extent.ofValues? (bucket values bins half) := by
  have hb : bins ≠ 0 := Nat.ne_of_gt pos
  by_cases few : values.length ≤ bins
  case pos =>
    cases h : values[half]? <;> simp [bin, bucket, hb, few, h, Extent.ofValues?]
  case neg =>
    by_cases lt : half < bins
    case pos => simp [bin, bucket, hb, few, lt]
    case neg =>
      have none : bucket values bins half = [] := by
        refine List.eq_nil_iff_forall_not_mem.mpr fun v mem => ?_
        obtain ⟨k, falls, hk⟩ := (mem_bucket pos).mp mem
        exact lt (falls.lt pos (List.getElem?_eq_some_iff.mp hk).1)
      simp [bin, hb, few, lt, none, Extent.ofValues?]

theorem bin_eq_none (pos : 0 < bins) :
    (bin values bins)[half]?.join = none ↔ ∀ v, ¬Sample values bins half v := by
  simp only [bin_getElem? pos, Extent.ofValues?_eq_none, sample_iff pos, List.mem_filter, not_and]

theorem bin_spans (pos : 0 < bins) (h : (bin values bins)[half]?.join = some e) :
    Sample values bins half e.low ∧ Sample values bins half e.high ∧
      ∀ v, Sample values bins half v → e.low ≤ v ∧ v ≤ e.high := by
  have spans := Extent.ofValues?_spans (bin_getElem? pos ▸ h)
  simp only [sample_iff pos]
  exact ⟨spans.low_mem, spans.high_mem, fun v mem => ⟨spans.low_le v mem, spans.le_high v mem⟩⟩

end TextCharts.Chart
