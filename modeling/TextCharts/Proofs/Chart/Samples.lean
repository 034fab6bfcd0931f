import TextCharts.Chart.Draw
import TextCharts.Proofs.Chart.Buckets
import TextCharts.Proofs.Chart.Dots
import TextCharts.Proofs.Steps

namespace TextCharts.Chart

variable {c : Chart} {fill : Fill} {values : List Float} {half i : Nat}

theorem Draft.size_of_build {d : Draft} (built : d.build = .ok c) :
    minWidth ≤ c.width ∧ minHeight ≤ c.height := by
  have ⟨_, size, built⟩ := bind_eq_ok.mp built
  have ⟨_, _, built⟩ := bind_eq_ok.mp built
  cases built
  by_cases small : d.width < minWidth ∨ d.height < minHeight
  case pos => simp [checkSize, small] at size
  case neg => simpa using small

theorem row_le {y : Float} : c.row y ≤ c.lastRow :=
  Nat.sub_le _ _

section

variable {before : Option Step} {steps : List (Option Step)} {s t : Step}

theorem Step.reach_top_le : (s.reach t).top ≤ t.top := by
  simp only [Step.reach]
  split <;> omega

theorem Step.le_reach_bottom : t.bottom ≤ (s.reach t).bottom := by
  simp only [Step.reach]
  split <;> omega

-- Joined to the one before, a step covers what it covered.
theorem join_covers (h : steps[i]? = some (some s)) :
    ∃ t, (join before steps)[i]? = some (some t) ∧ t.top ≤ s.top ∧ s.bottom ≤ t.bottom := by
  induction before, steps using join.induct generalizing i with
  | case1 => simp at h
  | case2 before rest hi =>
    cases i with
    | zero   => simp at h
    | succ i => simpa [join] using hi h
  | case3 u rest hi =>
    cases i with
    | zero   => simp at h; simp [join, h]
    | succ i => simpa [join] using hi h
  | case4 before u rest hi =>
    cases i with
    | zero   =>
      simp at h
      simp [join, h, Step.reach_top_le, Step.le_reach_bottom]
    | succ i => simpa [join] using hi h

-- Joining gives no step to a half-column that has none.
theorem join_blank (h : steps[i]?.join = none) : (join before steps)[i]?.join = none := by
  induction before, steps using join.induct generalizing i with
  | case1 => simp [join]
  | case2 before rest hi => cases i <;> simp_all [join]
  | case3 u rest hi => cases i <;> simp_all [join]
  | case4 before u rest hi => cases i <;> simp_all [join]

end

-- What a trace makes of the extents of half-columns: a step for each extent and none for the rest.
structure Traces (c : Chart) (fill : Fill) (extents : List (Option Extent))
    (steps : List (Option Step)) : Prop where
  covers : ∀ (half : Nat) (e : Extent), extents[half]?.join = some e →
    ∃ s : Step, steps[half]? = some (some s) ∧ s.top ≤ c.row e.high ∧ c.row e.low ≤ s.bottom ∧
      (fill = .area → s = ⟨c.row e.high, c.lastRow⟩)
  blank  : ∀ half : Nat, extents[half]?.join = none → steps[half]?.join = none

theorem traces_of_trace (c : Chart) (fill : Fill) {extents : List (Option Extent)}
    (filled : ∃ e, some e ∈ extents) :
    ∃ steps, c.trace fill extents = .ok steps ∧ c.Traces fill extents steps := by
  have ⟨e, mem⟩ := filled
  have hnone : extents.all Option.isNone = false := List.all_eq_false.mpr ⟨_, mem, by simp⟩
  have stepped {half : Nat} {e} (h : extents[half]?.join = some e) :
      (extents.map (Option.map (c.step fill)))[half]? = some (some (c.step fill e)) := by
    simp [Option.join_eq_some_iff.mp h]
  have blank {half : Nat} (h : extents[half]?.join = none) :
      (extents.map (Option.map (c.step fill)))[half]?.join = none := by
    cases he : extents[half]? <;> simp_all
  simp only [trace, hnone, Bool.false_eq_true, if_false]
  refine ⟨_, rfl, ?_⟩
  cases fill with
  | area =>
    exact {
      covers := fun half e h => ⟨_, stepped h, Nat.le_refl _, row_le, fun _ => rfl⟩
      blank  := fun half h => blank h }
  | line =>
    exact {
      covers := fun half e h =>
        (join_covers (stepped h)).imp fun s ⟨hs, top, bottom⟩ => ⟨hs, top, bottom, nofun⟩
      blank  := fun half h => join_blank (blank h) }

-- What the rows of a graph show of a series.
structure Shows (c : Chart) (fill : Fill) (values : List Float) (rows : List String) : Prop where
  column : ∀ k < values.length, ∃! half, FallsInto values.length (c.width * dotsAcross) k half
  sample : ∀ half v, Sample values (c.width * dotsAcross) half v → Lit rows half (c.row v)
  blank  : ∀ half, (∀ v, ¬Sample values (c.width * dotsAcross) half v) → ∀ row, ¬Lit rows half row
  area   : fill = .area → ∀ half v, Sample values (c.width * dotsAcross) half v →
    ∃ m, Sample values (c.width * dotsAcross) half m ∧
      (∀ u, Sample values (c.width * dotsAcross) half u → u ≤ m) ∧
      ∀ row, Lit rows half row ↔ c.row m ≤ row ∧ row ≤ c.lastRow

theorem Sample.mem {bins : Nat} {v : Float} : Sample values bins half v → v ∈ values ∧ v.isFinite
  | ⟨_, _, hk, finite⟩ => ⟨List.mem_of_getElem? hk, finite⟩

theorem Sample.lt {bins : Nat} {v : Float} (sample : Sample values bins half v) (pos : 0 < bins) :
    half < bins :=
  have ⟨_, falls, hk, _⟩ := sample
  falls.lt pos (List.getElem?_eq_some_iff.mp hk).1

theorem exists_sample {bins : Nat} {v : Float} (pos : 0 < bins) (mem : v ∈ values)
    (finite : v.isFinite) : ∃ half, Sample values bins half v := by
  have ⟨k, hk⟩ := List.mem_iff_getElem?.mp mem
  have ⟨half, falls, _⟩ : ∃! half, FallsInto values.length bins k half :=
    fallsInto_existsUnique pos
  exact ⟨half, k, falls, hk, finite⟩

-- A greater value has no greater row.
def FallsOn (c : Chart) (values : List Float) : Prop :=
  ∀ u ∈ values, ∀ v ∈ values, u.isFinite → v.isFinite → u ≤ v → c.row v ≤ c.row u

theorem Traces.covers_sample {bins : Nat} {v : Float} {steps : List (Option Step)}
    (traces : c.Traces fill (bin values bins) steps) (pos : 0 < bins) (falls : c.FallsOn values)
    (sample : Sample values bins half v) : ∃ (s : Step) (m : Float), steps[half]? = some (some s) ∧
      Sample values bins half m ∧ (∀ u, Sample values bins half u → u ≤ m) ∧
      s.top ≤ c.row v ∧ c.row v ≤ s.bottom ∧ (fill = .area → s = ⟨c.row m, c.lastRow⟩) := by
  cases he : (bin values bins)[half]?.join with
  | none   => exact absurd sample ((bin_eq_none pos).mp he v)
  | some e =>
    have ⟨low, high, within⟩ := bin_spans pos he
    have ⟨s, hs, top, bottom, area⟩ := traces.covers half e he
    have ⟨le, ge⟩ := within v sample
    have ⟨mem, finite⟩ := sample.mem
    have above : c.row e.high ≤ c.row v := falls v mem _ high.mem.1 finite high.mem.2 ge
    have below : c.row v ≤ c.row e.low := falls _ low.mem.1 v mem low.mem.2 finite le
    exact ⟨s, e.high, hs, high, fun u sample => (within u sample).2, Nat.le_trans top above,
      Nat.le_trans below bottom, area⟩

theorem Traces.shows {steps : List (Option Step)}
    (traces : c.Traces fill (bin values (c.width * dotsAcross)) steps)
    (pos : 0 < c.width * dotsAcross) (high : c.lastRow < c.height * dotsDown)
    (falls : c.FallsOn values) : c.Shows fill values (encode steps c.width c.height) where
  column := fun _ _ => fallsInto_existsUnique pos
  sample := by
    intro half v sample
    have ⟨s, _, hs, _, _, top, bottom, _⟩ := traces.covers_sample pos falls sample
    exact lit_encode.mpr ⟨sample.lt pos, Nat.lt_of_le_of_lt row_le high, s, hs, top, bottom⟩
  blank  := by
    intro half empty row lit
    have ⟨_, _, s, hs, _⟩ := lit_encode.mp lit
    have := traces.blank half ((bin_eq_none pos).mpr empty)
    simp [hs] at this
  area   := by
    intro area half v sample
    have ⟨s, m, hs, hm, greatest, _, _, covers⟩ := traces.covers_sample pos falls sample
    refine ⟨m, hm, greatest, fun row => ?_⟩
    simp only [lit_encode, hs, covers area]
    constructor
    case mp  =>
      intro ⟨_, _, _, hs, covered⟩
      cases hs
      exact covered
    case mpr =>
      intro covered
      exact ⟨sample.lt pos, Nat.lt_of_le_of_lt covered.2 high, _, rfl, covered⟩

theorem shows_of_build {d : Draft} (built : d.build = .ok c) (finite : ∃ v ∈ values, v.isFinite)
    (falls : c.FallsOn values) :
    ∃ steps, c.trace fill (bin values (c.width * dotsAcross)) = .ok steps ∧
      c.Shows fill values (encode steps c.width c.height) := by
  have ⟨wide, high⟩ := Draft.size_of_build built
  have pos : 0 < c.width * dotsAcross :=
    Nat.mul_pos (Nat.lt_of_lt_of_le (by decide) wide) (by decide)
  have last : c.lastRow < c.height * dotsDown := Nat.sub_lt
    (Nat.mul_pos (Nat.lt_of_lt_of_le (by decide) high) (by decide)) (by decide)
  have ⟨v, mem, finite⟩ := finite
  have ⟨half, sample⟩ := exists_sample pos mem finite
  have filled : ∃ e, some e ∈ bin values (c.width * dotsAcross) := by
    have ⟨e, he⟩ := Option.ne_none_iff_exists'.mp fun none => (bin_eq_none pos).mp none v sample
    exact ⟨e, List.mem_of_getElem? (Option.join_eq_some_iff.mp he)⟩
  have ⟨steps, traced, traces⟩ := c.traces_of_trace fill filled
  exact ⟨steps, traced, traces.shows pos last falls⟩

-- Two values more than there are half-columns, one of them no number.
def rising : List Float :=
  [0, 0 / 0, 1, 2, 2, 1, 3, 0, 4, 0, 1, 2, 2, 1, 3, 0, 4, 0, 1, 2, 2, 1, 3, 0, 4, 3, 3, 1, 0, 4]

def small : Chart where
  title := ""
  subtitle := none
  range := ⟨0, 4⟩
  width := 14
  height := 7
  color := none

def smallDraft : Draft where
  width := 14
  height := 7
  range := ⟨0, 4⟩
  color := none

theorem rising_shown : smallDraft.build = .ok small ∧ (∃ v ∈ rising, v.isFinite) ∧
    small.FallsOn rising ∧ ∃ steps, small.trace .area (bin rising 28) = .ok steps ∧
      small.Shows .area rising (encode steps 14 7) := by
  have size : Draft.checkSize 14 7 = .ok () := rfl
  have range : Draft.checkRange ⟨0, 4⟩ = .ok () := if_pos (by decide +kernel)
  have built : smallDraft.build = .ok small :=
    bind_eq_ok.mpr ⟨(), size, bind_eq_ok.mpr ⟨(), range, rfl⟩⟩
  have finite : ∃ v ∈ rising, v.isFinite := by decide +kernel
  have falls : small.FallsOn rising := by
    simp only [FallsOn]
    decide +kernel
  exact ⟨built, finite, falls, shows_of_build built finite falls⟩

end TextCharts.Chart
