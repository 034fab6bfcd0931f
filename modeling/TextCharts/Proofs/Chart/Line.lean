import Mathlib.Data.List.ReduceOption
import TextCharts.Proofs.Chart.Samples

namespace TextCharts.Chart

variable {c : Chart} {steps : List (Option Step)} {before : Option Step} {s t : Step}
  {i j row : Nat}

-- The last step of some, or the one before them if there is none.
def latest (before : Option Step) (steps : List (Option Step)) : Option Step :=
  steps.foldl (fun before step => step.or before) before

-- A step as it is after it was joined to the one before it.
def Step.joined (before : Option Step) (s : Step) : Step :=
  match before with
  | none        => s
  | some before => before.reach s

-- A step is joined to the last one before it, as that was before it was joined itself.
theorem join_getElem? : (join before steps)[j]? =
    steps[j]?.map (Option.map (Step.joined (latest before (steps.take j)))) := by
  induction before, steps using join.induct generalizing j with
  | case1 before => simp [join]
  | case2 before rest hi =>
    cases j with
    | zero   => simp [join]
    | succ j => simp [join, hi, latest]
  | case3 u rest hi =>
    cases j with
    | zero   => simp [join, latest, Step.joined]
    | succ j => simp [join, hi, latest]
  | case4 before u rest hi =>
    cases j with
    | zero   => simp [join, latest, Step.joined]
    | succ j => simp [join, hi, latest]

theorem join_length : (join before steps).length = steps.length := by
  induction before, steps using join.induct with
  | case1                   => rfl
  | case2 before rest hi    => simp [join, hi]
  | case3 u rest hi         => simp [join, hi]
  | case4 before u rest hi  => simp [join, hi]

-- Nothing is present between two places of a list.
def Neighbours {α : Type} (items : List (Option α)) (i j : Nat) : Prop :=
  i < j ∧ ∀ k, i < k → k < j → items[k]?.join = none

theorem latest_take_succ : latest none (steps.take (j + 1)) =
    steps[j]?.join.or (latest none (steps.take j)) := by
  cases h : steps[j]? <;> simp [latest, List.take_add_one, h]

theorem latest_eq_some_iff : latest none (steps.take j) = some s ↔
    ∃ i, Neighbours steps i j ∧ steps[i]? = some (some s) := by
  induction j with
  | zero      => simp [latest, Neighbours]
  | succ j hi =>
    rw [latest_take_succ]
    cases h : steps[j]?.join with
    | some t =>
      rw [Option.some_or]
      rw [Option.join_eq_some_iff] at h
      constructor
      case mp  =>
        intro eq
        exact ⟨j, ⟨Nat.lt_succ_self j, fun k _ _ => by omega⟩, by rw [h, eq]⟩
      case mpr =>
        intro ⟨i, ⟨lt, blank⟩, hs⟩
        by_cases last : i = j
        case pos => simpa [last ▸ hs] using h.symm
        case neg => simpa [h] using blank j (by omega) (Nat.lt_succ_self j)
    | none   =>
      rw [Option.none_or, hi]
      constructor
      case mp  =>
        intro ⟨i, ⟨lt, blank⟩, hs⟩
        refine ⟨i, ⟨Nat.lt_succ_of_lt lt, fun k after before => ?_⟩, hs⟩
        by_cases last : k = j
        case pos => exact last ▸ h
        case neg => exact blank k after (by omega)
      case mpr =>
        intro ⟨i, ⟨lt, blank⟩, hs⟩
        have earlier : i ≠ j := by
          intro eq
          simp [← eq, hs] at h
        exact ⟨i, ⟨by omega, fun k after before => blank k after (by omega)⟩, hs⟩

-- Two steps share a row or lie next to each other.
def Step.Touches (s t : Step) : Prop :=
  s.top ≤ t.bottom + 1 ∧ t.top ≤ s.bottom + 1

-- No row is taken from one that lies at the top.
theorem reach_bottom (below : t.bottom < s.top) : (s.reach t).bottom + 1 = s.top := by
  simp only [Step.reach, below, if_true]
  omega

theorem reach_touches (hs : s.top ≤ s.bottom) (ht : t.top ≤ t.bottom) : s.Touches (s.reach t) := by
  simp only [Step.Touches, Step.reach]
  split <;> split <;> omega

-- The rows that a step gains lie between it and the one that it is joined to.
theorem of_mem_reach (top : (s.reach t).top ≤ row) (bottom : row ≤ (s.reach t).bottom) :
    (t.top ≤ row ∧ row ≤ t.bottom) ∨ (s.bottom < row ∧ row < t.top) ∨
      (t.bottom < row ∧ row < s.top) := by
  simp only [Step.reach] at top bottom
  split at top <;> split at bottom <;> omega

-- The ends of some extents.
def ends (extents : List (Option Extent)) : List Float :=
  extents.reduceOption.flatMap fun e => [e.low, e.high]

-- A greater value has no greater row, whether it is finite or not.
def Descends (c : Chart) (values : List Float) : Prop :=
  ∀ u ∈ values, ∀ v ∈ values, u ≤ v → c.row v ≤ c.row u

variable {extents : List (Option Extent)} {e : Extent}

theorem mem_ends (mem : some e ∈ extents) : e.low ∈ ends extents ∧ e.high ∈ ends extents := by
  have kept : e ∈ extents.reduceOption := List.reduceOption_mem_iff.mpr mem
  exact ⟨List.mem_flatMap.mpr ⟨e, kept, by simp⟩, List.mem_flatMap.mpr ⟨e, kept, by simp⟩⟩

theorem Descends.upright (descends : c.Descends (ends extents)) (mem : some e ∈ extents)
    (le : e.low ≤ e.high) : (c.step .line e).top ≤ (c.step .line e).bottom :=
  have ⟨low, high⟩ := mem_ends mem
  descends e.low low e.high high le

-- What a line makes of the extents of half-columns. Every extent gets a step that covers it and
-- lies in the graph, and that touches the step before it; it covers no other rows than those
-- between the two extents.
structure Connects (c : Chart) (extents : List (Option Extent)) (steps : List (Option Step)) :
    Prop where
  length  : steps.length = extents.length
  absent  : ∀ i : Nat, steps[i]? = some none ↔ extents[i]? = some none
  covers  : ∀ (i : Nat) (e : Extent) (s : Step), extents[i]? = some (some e) →
    steps[i]? = some (some s) → s.top ≤ s.bottom ∧ s.bottom ≤ 4 * c.height - 1 ∧
      s.top ≤ c.row e.high ∧ c.row e.low ≤ s.bottom
  touches : ∀ (i j : Nat) (s t : Step), Neighbours steps i j → steps[i]? = some (some s) →
    steps[j]? = some (some t) → s.Touches t
  between : ∀ (j : Nat) (e : Extent) (t : Step), extents[j]? = some (some e) →
    steps[j]? = some (some t) → ∀ row, t.top ≤ row → row ≤ t.bottom →
      (c.row e.high ≤ row ∧ row ≤ c.row e.low) ∨
      ∃ (i : Nat) (f : Extent), Neighbours extents i j ∧ extents[i]? = some (some f) ∧
        ((c.row f.low < row ∧ row < c.row e.high) ∨ (c.row e.low < row ∧ row < c.row f.high))

-- The steps of extents before they are joined.
def apart (c : Chart) (extents : List (Option Extent)) : List (Option Step) :=
  extents.map (Option.map (c.step .line))

theorem neighbours_map {α β : Type} {f : α → β} {items : List (Option α)} :
    Neighbours (items.map (Option.map f)) i j ↔ Neighbours items i j := by
  refine and_congr_right fun _ => forall_congr' fun k => ?_
  cases h : items[k]?.join <;> cases h' : items[k]? <;> simp_all

theorem apart_eq_some_iff : (apart c extents)[i]? = some (some s) ↔
    ∃ e, extents[i]? = some (some e) ∧ c.step .line e = s := by
  simp [apart]

-- A step lies in a graph.
def Step.Fits (c : Chart) (s : Step) : Prop :=
  s.top ≤ s.bottom ∧ s.bottom ≤ c.lastRow

theorem Step.joined_covers (before : Option Step) (s : Step) :
    (s.joined before).top ≤ s.top ∧ s.bottom ≤ (s.joined before).bottom := by
  cases before with
  | none        => exact ⟨Nat.le_refl _, Nat.le_refl _⟩
  | some before => exact ⟨Step.reach_top_le, Step.le_reach_bottom⟩

theorem Step.Fits.joined (fits : s.Fits c) (last : ∀ t, before = some t → t.Fits c) :
    (s.joined before).Fits c := by
  have ⟨top, bottom⟩ := s.joined_covers before
  refine ⟨top.trans (fits.1.trans bottom), ?_⟩
  cases before with
  | none        => exact fits.2
  | some before =>
    have ⟨upright, low⟩ := last before rfl
    have high := fits.2
    simp only [Step.joined, Step.reach]
    split <;> omega

theorem apart_fits (descends : c.Descends (ends extents))
    (ordered : ∀ e, some e ∈ extents → e.low ≤ e.high)
    (hs : (apart c extents)[i]? = some (some s)) : s.Fits c := by
  obtain ⟨e, he, rfl⟩ := apart_eq_some_iff.mp hs
  have mem := List.mem_of_getElem? he
  exact ⟨descends.upright mem (ordered e mem), row_le⟩

theorem join_apart_eq_some_iff : (join none (apart c extents))[j]? = some (some t) ↔
    ∃ s, (apart c extents)[j]? = some (some s) ∧
      s.joined (latest none ((apart c extents).take j)) = t := by
  simp [join_getElem?]

theorem neighbours_join : Neighbours (join none steps) i j ↔ Neighbours steps i j := by
  refine and_congr_right fun _ => forall_congr' fun k => ?_
  rw [join_getElem?]
  cases h : steps[k]? with
  | none      => simp
  | some step => cases step <;> simp

theorem join_connects (descends : c.Descends (ends extents))
    (ordered : ∀ e, some e ∈ extents → e.low ≤ e.high) :
    c.Connects extents (join none (apart c extents)) := by
  have fits {i : Nat} {s : Step} : (apart c extents)[i]? = some (some s) → s.Fits c :=
    apart_fits descends ordered
  have last (j : Nat) (t : Step) (h : latest none ((apart c extents).take j) = some t) : t.Fits c :=
    have ⟨_, _, ht⟩ := latest_eq_some_iff.mp h
    fits ht
  constructor
  case length  => rw [join_length, apart, List.length_map]
  case absent  =>
    intro i
    simp [join_getElem?, apart]
  case covers  =>
    intro i e s he hs
    obtain ⟨own, hown, rfl⟩ := join_apart_eq_some_iff.mp hs
    obtain ⟨e', he', rfl⟩ := apart_eq_some_iff.mp hown
    cases he.symm.trans he'
    have ⟨upright, low⟩ := (fits hown).joined (last i)
    have ⟨top, bottom⟩ := (c.step .line e).joined_covers (latest none ((apart c extents).take i))
    exact ⟨upright, Nat.mul_comm 4 _ ▸ low, top, bottom⟩
  case touches =>
    intro i j s t next hs ht
    obtain ⟨p, hp, rfl⟩ := join_apart_eq_some_iff.mp hs
    obtain ⟨own, hown, rfl⟩ := join_apart_eq_some_iff.mp ht
    have prev : latest none ((apart c extents).take j) = some p :=
      latest_eq_some_iff.mpr ⟨i, neighbours_join.mp next, hp⟩
    -- The step is joined to the rows of the one before it that this had from the first.
    have touches : p.Touches (p.reach own) := reach_touches (fits hp).1 (fits hown).1
    have ⟨top, bottom⟩ := p.joined_covers (latest none ((apart c extents).take i))
    rw [prev]
    exact ⟨top.trans touches.1, touches.2.trans (Nat.succ_le_succ bottom)⟩
  case between =>
    intro j e t he ht row top bottom
    obtain ⟨own, hown, rfl⟩ := join_apart_eq_some_iff.mp ht
    obtain ⟨e', he', rfl⟩ := apart_eq_some_iff.mp hown
    cases he.symm.trans he'
    cases prev : latest none ((apart c extents).take j) with
    | none   =>
      rw [prev] at top bottom
      exact .inl ⟨top, bottom⟩
    | some p =>
      obtain ⟨i, next, hp⟩ := latest_eq_some_iff.mp prev
      obtain ⟨f, hf, rfl⟩ := apart_eq_some_iff.mp hp
      rw [prev] at top bottom
      cases of_mem_reach top bottom with
      | inl own  => exact .inl own
      | inr gain => exact .inr ⟨i, f, neighbours_map.mp next, hf, gain⟩

theorem line_connects : (∀ s t : Step, t.bottom < s.top → (s.reach t).bottom + 1 = s.top) ∧
    ∀ (c : Chart) (extents : List (Option Extent)), (∃ e, some e ∈ extents) →
      (∀ e, some e ∈ extents → e.low ≤ e.high) → c.Descends (ends extents) →
      ∃ steps, c.trace .line extents = .ok steps ∧ c.Connects extents steps := by
  refine ⟨fun s t => reach_bottom, fun c extents ⟨e, mem⟩ ordered descends => ?_⟩
  have filled : extents.all Option.isNone = false := List.all_eq_false.mpr ⟨_, mem, by simp⟩
  refine ⟨join none (apart c extents), ?_, join_connects descends ordered⟩
  simp only [trace, filled, Bool.false_eq_true, if_false, apart]

-- A jump over a gap, a step within the one before it and a jump down.
def jumps : List (Option Extent) :=
  [some ⟨0, 0.5⟩, none, some ⟨3, 4⟩, some ⟨3.25, 3.5⟩, some ⟨-1, 1⟩, none]

theorem jumps_connect : (∃ e, some e ∈ jumps) ∧ (∀ e, some e ∈ jumps → e.low ≤ e.high) ∧
    small.Descends (ends jumps) ∧
      ∃ steps, small.trace .line jumps = .ok steps ∧ small.Connects jumps steps := by
  have filled : ∃ e, some e ∈ jumps := ⟨⟨0, 0.5⟩, List.mem_cons_self⟩
  have ordered : ∀ e, some e ∈ jumps → e.low ≤ e.high := by
    have kept : ∀ e ∈ jumps.reduceOption, e.low ≤ e.high := by decide +kernel
    exact fun e mem => kept e (List.reduceOption_mem_iff.mpr mem)
  have descends : small.Descends (ends jumps) := by
    simp only [Descends]
    decide +kernel
  exact ⟨filled, ordered, descends, line_connects.2 small jumps filled ordered descends⟩

end TextCharts.Chart
