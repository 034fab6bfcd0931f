import TextCharts.Proofs.Run.Invariant
import TextCharts.Render.Builtin

namespace TextCharts

open Relation

namespace Session

variable {d : Dispatcher} {s : Session}

-- Nothing is left to happen only when no task and no request is left.
theorem done_of_next?_none (h : s.next? d = none) :
    s.ended = [] ∧ s.live = [] ∧ s.calls = [] := by
  simp only [next?] at h
  split at h
  case h_1 => contradiction
  case h_2 taken =>
    split at h
    case h_1 => contradiction
    case h_2 =>
      split at h
      case h_1 => contradiction
      case h_2 =>
        have wake := List.min?_eq_none_iff.mp (Option.map_eq_none_iff.mp h)
        simpa [taken] using wake

theorem play_execution : ReflTransGen (Step d) s (s.play d) := by
  induction s using play.induct d with
  | case1 s h       => rw [play, h]
  | case2 s s' h hi => rw [play, h]; exact .head (next?_step h) hi

theorem play_next? : (s.play d).next? d = none := by
  induction s using play.induct d with
  | case1 s h       => rw [play, h]; exact h
  | case2 s s' h hi => rw [play, h]; exact hi

theorem measure_add_le {f : ℕ → Session} (steps : ∀ n, Step d (f n) (f (n + 1))) (n : ℕ) :
    (f n).measure d + n ≤ (f 0).measure d := by
  induction n with
  | zero      => exact Nat.le_refl _
  | succ n hi =>
    have := (steps n).measure_lt
    omega

end Session

namespace Plan

open Session

variable {p : Plan} {s : Session}

def Loads (p : Plan) : Prop :=
  p.readiness.result = .ok ()

def Reaches (p : Plan) (s : Session) : Prop :=
  p.Loads ∧ ReflTransGen (Step p.dispatcher) p.session s

-- All tasks have been taken, which is what a host that waits for them waits for.
structure Joins (p : Plan) (s : Session) : Prop where
  reaches : p.Reaches s
  live    : s.live = []
  ended   : s.ended = []

theorem Reaches.sound (reaches : p.Reaches s) : p.Sound s :=
  sound_session.execution reaches.2

-- A run does not stop before all tasks have been taken.
theorem Reaches.progress (reaches : p.Reaches s) :
    p.Joins s ∨ ∃ s', Step p.dispatcher s s' := by
  cases h : s.next? p.dispatcher with
  | some s' => exact .inr ⟨s', next?_step h⟩
  | none    =>
    have ⟨ended, live, _⟩ := done_of_next?_none h
    exact .inl ⟨reaches, live, ended⟩

-- In some order the reports are fates of the targets.
theorem Joins.fates (joins : p.Joins s) : ∃ rs, s.reports.Perm rs ∧
    List.Forall₂ (fun x r => p.Fate x.1 x.2 r) p.targets.zipIdx rs := by
  have ⟨taken, perm, reports⟩ := joins.reaches.sound.account
  rw [joins.live, joins.ended] at perm
  have ⟨rs, comes, sorted⟩ := List.perm_comp_forall₂ perm.symm reports
  have positions : p.targets.zipIdx.map (·.2) = .range p.targets.length := by
    rw [List.zipIdx_map_snd, List.range_eq_range']
  rw [← positions, List.forall₂_map_left_iff] at comes
  have ⟨length, comes⟩ := List.forall₂_iff_zip.mp comes
  refine ⟨rs, sorted.symm, List.forall₂_iff_zip.mpr ⟨length, fun {x r} mem => ?_⟩⟩
  have ⟨target, found, fate⟩ := comes mem
  have found' := List.mem_zipIdx_iff_getElem?.mp (List.of_mem_zip mem).1
  cases found.symm.trans found'
  exact fate

-- What is true of all fates is true of all reports, whatever their order.
theorem Joins.reports_each {P : Target → Nat → Report → Prop} (joins : p.Joins s)
    (each : ∀ target position r, p.Fate target position r → P target position r) :
    ∃ rs, s.reports.Perm rs ∧ rs.length = p.targets.length ∧
      ∀ position target r, p.targets[position]? = some target → rs[position]? = some r →
        P target position r := by
  have ⟨rs, perm, fates⟩ := joins.fates
  have ⟨length, fates⟩ := List.forall₂_iff_get.mp fates
  rw [List.length_zipIdx] at length
  refine ⟨rs, perm, length.symm, fun position target r ht hr => ?_⟩
  have ⟨lt, ht⟩ := List.getElem?_eq_some_iff.mp ht
  have ⟨lt', hr⟩ := List.getElem?_eq_some_iff.mp hr
  have fate := fates position (by simpa using lt) lt'
  simp only [List.get_eq_getElem, List.getElem_zipIdx, Nat.zero_add, ht, hr] at fate
  exact each target position r fate

theorem Joins.fate_of_mem {r : Report} (joins : p.Joins s) (mem : r ∈ s.reports) :
    ∃ target position, p.targets[position]? = some target ∧ p.Fate target position r := by
  have ⟨rs, perm, length, fates⟩ := joins.reports_each fun _ _ _ fate => fate
  have ⟨position, lt, hr⟩ := List.getElem_of_mem (perm.mem_iff.mp mem)
  have ht := List.getElem?_eq_getElem (length ▸ lt : position < p.targets.length)
  exact ⟨_, position, ht, fates position _ r ht (hr ▸ List.getElem?_eq_getElem lt)⟩

theorem Joins.mounts (joins : p.Joins s) :
    (s.reports.map (·.mount)).Perm (p.targets.map (·.mount)) := by
  have ⟨rs, perm, fates⟩ := joins.fates
  have same : p.targets.zipIdx.map (·.1.mount) = rs.map (·.mount) := by
    rw [← List.forall₂_eq_eq_eq, List.forall₂_map_left_iff, List.forall₂_map_right_iff]
    exact fates.imp fun _ _ fate => fate.mount.symm
  have targets : p.targets.zipIdx.map (·.1.mount) = p.targets.map (·.mount) := by
    conv_rhs => rw [← List.zipIdx_map_fst 0 p.targets, List.map_map]
    rfl
  rw [← targets, same]
  exact perm.map _

-- Runs over the same targets end alike if no target has two fates.
theorem Joins.perm_of_unique {p' : Plan} {s' : Session} (joins : p.Joins s) (joins' : p'.Joins s')
    (targets : p'.targets = p.targets)
    (unique : ∀ position target, p.targets[position]? = some target →
      ∀ r r', p.Fate target position r → p'.Fate target position r' → r = r') :
    s.reports.Perm s'.reports := by
  have ⟨rs, perm, length, fates⟩ := joins.reports_each fun _ _ _ fate => fate
  have ⟨rs', perm', length', fates'⟩ := joins'.reports_each fun _ _ _ fate => fate
  rw [targets] at length' fates'
  have same : rs = rs' := by
    refine List.ext_getElem (length.trans length'.symm) fun position lt lt' => ?_
    have ht := List.getElem?_eq_getElem (length ▸ lt : position < p.targets.length)
    exact unique position _ ht _ _ (fates position _ _ ht (List.getElem?_eq_getElem lt))
      (fates' position _ _ ht (List.getElem?_eq_getElem lt'))
  exact perm.trans (same ▸ perm'.symm)

-- What a host gets that waits for all tasks, and what it is shown meanwhile.
structure Complete (targets : List Target) (reports seen : List Report) : Prop where
  mounts : (reports.map (·.mount)).Perm (targets.map (·.mount))
  final  : ∀ r ∈ reports, r.state = .rendered ∨ ∃ e, r.state = .failed e
  seen   : seen = reports

theorem Joins.complete (joins : p.Joins s) : Complete p.targets s.reports s.seen where
  mounts := joins.mounts
  final  := fun r _ => by cases r.state <;> simp
  seen   := joins.reaches.sound.seen

theorem Loads.joins_play (loads : p.Loads) : p.Joins (p.session.play p.dispatcher) :=
  have ⟨ended, live, _⟩ := done_of_next?_none play_next?
  ⟨⟨loads, play_execution⟩, live, ended⟩

theorem Loads.run_eq (loads : p.Loads) :
    p.run = .ok (.ofSession (p.session.play p.dispatcher)) := by
  have loads : (p.dispatcher.loader p.packages).result = .ok () := loads
  simp only [run, Dispatcher.run, loads]
  rfl

-- However the steps of a run follow each other, they come to an end and do not stop before all
-- tasks have been taken; and then there is one report for each target.
structure Accounted (p : Plan) : Prop where
  finite   : ¬∃ f : ℕ → Session, f 0 = p.session ∧ ∀ n, Step p.dispatcher (f n) (f (n + 1))
  progress : ∀ s, p.Reaches s → p.Joins s ∨ ∃ s', Step p.dispatcher s s'
  complete : ∀ s, p.Joins s → Complete p.targets s.reports s.seen
  run      : ∃ r, p.run = .ok r ∧ Complete p.targets r.reports r.seen

theorem accounted_of_loads (loads : p.Loads) : p.Accounted where
  finite   := by
    intro ⟨f, _, steps⟩
    have := measure_add_le steps ((f 0).measure p.dispatcher + 1)
    omega
  progress := fun _ reaches => reaches.progress
  complete := fun _ joins => joins.complete
  run      := ⟨_, loads.run_eq, loads.joins_play.complete⟩

-- Some sources that answer at once, too late, never, and not at all well.
def sources : Source
  | "here"   => some (0, .text "a\r\n1")
  | "late"   => some (80, .text "a\r\n1")
  | "broken" => some (5, .panic "lost")
  | _        => none

def tableOf (index : Nat) (source : String) : Target where
  mount := { index, id := none }
  config := { source, renderer := "text.Table", package := none, dialect := {}, options := [] }

def mixed : Plan where
  dispatcher := {
    registry := .builtin 80 ⟨false⟩
    loader := (Registry.builtin 80 ⟨false⟩).loader
    source := sources
    limit := 60 }
  packages := []
  targets := [tableOf 0 "here", tableOf 0 "broken", tableOf 3 "late", tableOf 4 "none"]
  calls := [⟨90, none⟩, ⟨10, some 4⟩, ⟨10, some 0⟩]

theorem mixed_accounted : mixed.Loads ∧ mixed.Accounted :=
  ⟨rfl, accounted_of_loads rfl⟩

end Plan
end TextCharts
