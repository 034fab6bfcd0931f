import TextCharts.Proofs.Run.Reports

namespace TextCharts.Plan

open Session

variable {p p₁ p₂ : Plan} {x : Target} {position : Nat}

-- A target of a plan whose index no other target has.
def Alone (p : Plan) (x : Target) : Prop :=
  p.targets.filter (·.mount.index == x.mount.index) = [x]

-- A request for all nodes or for the index of a target.
def CalledAt (p : Plan) (x : Target) (time : Nat) : Prop :=
  ∃ c ∈ p.calls, c.time = time ∧ (c.index = none ∨ c.index = some x.mount.index)

theorem Alone.zipIdx_filter (alone : p.Alone x) : ∃ position,
    p.targets.zipIdx.filter (·.1.mount.index == x.mount.index) = [(x, position)] := by
  have h : (p.targets.zipIdx.filter (·.1.mount.index == x.mount.index)).map (·.1) = [x] := by
    have := List.filter_map (f := Prod.fst) (p := (·.mount.index == x.mount.index))
      (l := p.targets.zipIdx)
    rw [List.zipIdx_map_fst] at this
    exact this.symm.trans alone
  have ⟨(x', position), h, hx⟩ := List.map_eq_singleton_iff.mp h
  exact ⟨position, hx ▸ h⟩

-- The first target with the index of a target that is alone with it is that target.
theorem firstWith?_alone {index : Nat}
    (h : p.targets.zipIdx.filter (·.1.mount.index == x.mount.index) = [(x, position)]) :
    firstWith? p.targets index = some position ↔ index = x.mount.index := by
  have only (y : Target) (i : Nat) (hy : p.targets[i]? = some y)
      (index : y.mount.index = x.mount.index) : (y, i) = (x, position) := by
    have mem : (y, i) ∈ p.targets.zipIdx.filter (·.1.mount.index == x.mount.index) :=
      List.mem_filter.mpr ⟨List.mem_zipIdx_iff_getElem?.mpr hy, by simpa using index⟩
    exact List.mem_singleton.mp (h ▸ mem)
  have mem : (x, position) ∈ p.targets.zipIdx :=
    List.mem_of_mem_filter (h ▸ List.mem_singleton_self _)
  have hx : p.targets[position]? = some x := List.mem_zipIdx_iff_getElem?.mp mem
  constructor
  case mp =>
    intro hf
    have ⟨lt, hi, _⟩ := List.findIdx?_eq_some_iff_getElem.mp hf
    have ⟨_, hx⟩ := List.getElem?_eq_some_iff.mp hx
    rw [hx] at hi
    exact (eq_of_beq hi).symm
  case mpr =>
    intro hi
    subst hi
    cases hf : firstWith? p.targets x.mount.index with
    | none   =>
      have := List.findIdx?_eq_none_iff.mp hf x (List.mem_of_getElem? hx)
      simp at this
    | some i =>
      have ⟨lt, hi, _⟩ := List.findIdx?_eq_some_iff_getElem.mp hf
      have := only p.targets[i] i (List.getElem?_eq_getElem lt) (eq_of_beq hi)
      exact congrArg some (Prod.mk.inj this).2

theorem hits_alone {c : Cancellation}
    (h : p.targets.zipIdx.filter (·.1.mount.index == x.mount.index) = [(x, position)]) :
    c.hits p.targets position ↔ c.index = none ∨ c.index = some x.mount.index := by
  cases hc : c.index with
  | none   => simp [Cancellation.hits, hc]
  | some _ => simp [Cancellation.hits, hc, firstWith?_alone h]

-- Whoever else there is, the requests that a target is named in say when it is hit first.
theorem firstHit_alone {time : Nat}
    (hp : p.targets.zipIdx.filter (·.1.mount.index == x.mount.index) = [(x, position)]) :
    p.FirstHit position time ↔
      (∃ called, p.CalledAt x called ∧ max p.start called = time) ∧
        ∀ called, p.CalledAt x called → time ≤ max p.start called := by
  constructor
  case mp  =>
    intro ⟨⟨c, mem, hits, hc⟩, least⟩
    refine ⟨⟨c.time, ⟨c, mem, rfl, (hits_alone hp).mp hits⟩, hc⟩, ?_⟩
    exact fun _ ⟨c, mem, hc, named⟩ => hc ▸ least c mem ((hits_alone hp).mpr named)
  case mpr =>
    intro ⟨⟨_, ⟨c, mem, hc, named⟩, h⟩, least⟩
    refine ⟨⟨c, mem, (hits_alone hp).mpr named, hc ▸ h⟩, fun c mem hits => ?_⟩
    exact least _ ⟨c, mem, rfl, (hits_alone hp).mp hits⟩

theorem Joins.filter_reports {s : Session} (joins : p.Joins s)
    (hp : p.targets.zipIdx.filter (·.1.mount.index == x.mount.index) = [(x, position)]) :
    ∃ r, s.reports.filter (·.mount.index == x.mount.index) = [r] ∧ p.Fate x position r := by
  have ⟨rs, perm, fates⟩ := joins.fates
  have fates := List.rel_filter (p := (·.1.mount.index == x.mount.index))
    (q := (·.mount.index == x.mount.index)) (fun _ _ fate => by simp only [fate.mount]) fates
  rw [hp, List.forall₂_cons_left_iff] at fates
  have ⟨r, _, fate, rest, only⟩ := fates
  rw [List.forall₂_nil_left_iff.mp rest] at only
  exact ⟨r, List.perm_singleton.mp (only ▸ perm.filter _), fate⟩

-- A target on its own, and the same one after another that breaks down and before one that hangs.
def lone : Plan :=
  { mixed with targets := [tableOf 7 "late"], calls := [⟨30, some 7⟩] }

def crowded : Plan :=
  { mixed with
    targets := [tableOf 0 "broken", tableOf 7 "late", tableOf 1 "none"]
    calls := [⟨40, some 1⟩, ⟨30, none⟩] }

-- The target is cancelled long before its time is over.
theorem lone_apart (position : Nat) : ¬lone.Tied (tableOf 7 "late") position := by
  intro ⟨⟨c, mem, _, hc⟩, _⟩
  rw [List.mem_singleton.mp mem] at hc
  exact absurd hc (by decide)

-- A target whose source answers at once and that is cancelled at once.
def tied : Plan :=
  { mixed with targets := [tableOf 0 "here"], calls := [⟨0, some 0⟩] }

-- The request is made before the task of the target goes on for the first time.
def hitSession : Session :=
  tied.session.call ⟨0, some 0⟩

def tiedSession (first : Branch) : Session :=
  (hitSession.poll tied.dispatcher first { id := 0, target := tableOf 0 "here" }).join

theorem hitSession_reached : tied.Reaches hitSession := by
  have called : Session.Step tied.dispatcher tied.session hitSession :=
    .call List.mem_cons_self (Nat.le_refl 0)
  exact ⟨rfl, .single called⟩

theorem tiedSession_reached (first : Branch) :
    Relation.ReflTransGen (Session.Step tied.dispatcher) hitSession (tiedSession first) := by
  have polled := Session.Step.poll (d := tied.dispatcher) (s := hitSession)
    (t := { id := 0, target := tableOf 0 "here" }) first List.mem_cons_self (.inl rfl)
  refine (Relation.ReflTransGen.single polled).tail (.join ?_)
  cases first <;> exact List.cons_ne_nil _ _

theorem tied_joins (first : Branch) : tied.Joins (tiedSession first) where
  reaches := ⟨rfl, hitSession_reached.2.trans (tiedSession_reached first)⟩
  live    := by cases first <;> rfl
  ended   := by cases first <;> rfl

end TextCharts.Plan
