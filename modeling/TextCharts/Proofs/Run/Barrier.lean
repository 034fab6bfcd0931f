import Mathlib.Order.OrderIsoNat
import TextCharts.Proofs.Render.Packages
import TextCharts.Proofs.Run.Reports
import TextCharts.Run.Launch

namespace TextCharts

open Relation

namespace Session

variable {d : Dispatcher} {s s' : Session} {t : Task} {after : Nat}

-- No source was asked before a time that has passed.
structure Late (after : Nat) (s : Session) : Prop where
  now     : after ≤ s.now
  fetched : ∀ f ∈ s.fetched, after ≤ f.1

theorem late_start {targets : List Target} {calls : List Cancellation} :
    Late after (.start after targets calls) where
  now     := Nat.le_refl _
  fetched := by simp [start]

-- Only the time and the sources that were asked matter.
theorem Late.of_eq (late : s.Late after) (now : s'.now = s.now) (fetched : s'.fetched = s.fetched) :
    s'.Late after :=
  ⟨now ▸ late.now, fetched ▸ late.fetched⟩

theorem Late.begin (late : s.Late after) : (s.begin t).Late after := by
  simp only [Session.begin]
  split
  case h_1 => exact late
  case h_2 =>
    refine ⟨late.now, fun f mem => ?_⟩
    cases List.mem_append.mp mem with
    | inl mem => exact late.fetched f mem
    | inr mem => exact List.mem_singleton.mp mem ▸ late.now

theorem Late.advance (late : s.Late after) : (s.advance d t).Late after := by
  simp only [Session.advance]
  split
  · exact late.begin.of_eq rfl rfl
  · split
    · exact late.begin.of_eq rfl rfl
    · exact late.begin

theorem Late.poll {first : Branch} (late : s.Late after) : (s.poll d first t).Late after := by
  simp only [Session.poll]
  split
  · exact late.advance
  · split
    · exact late.of_eq rfl rfl
    · exact late.advance

theorem Late.join (late : s.Late after) : s.join.Late after := by
  simp only [Session.join]
  split
  · exact late
  · exact late.of_eq rfl rfl
  · split <;> exact late.of_eq rfl rfl

-- What was due now has been done when time passes.
theorem Quiet.lt_wake {time : Nat} (quiet : s.Quiet d) (wake : s.wake? d = some time) :
    s.now < time := by
  cases mem_of_wake wake with
  | inl h =>
    have ⟨t, mem, due⟩ := h
    exact due ▸ Nat.lt_of_not_le fun le => quiet.waiting t mem (.inr (.inl le))
  | inr h =>
    have ⟨c, mem, due⟩ := h
    exact due ▸ quiet.early c mem

theorem Late.step (late : s.Late after) : Step d s s' → s'.Late after
  | .poll _ _ _      => late.poll
  | .call _ _        => late.of_eq rfl rfl
  | .join _          => late.join
  | .tick quiet wake =>
    ⟨Nat.le_trans late.now (Nat.le_of_lt (quiet.lt_wake wake)), late.fetched⟩

theorem Late.execution (late : s.Late after) (e : ReflTransGen (Step d) s s') : s'.Late after := by
  induction e with
  | refl        => exact late
  | tail _ e hi => exact hi.step e

end Session

namespace Signal

theorem opened_of_ok {signal : Signal} {r : Readiness} (answer : signal.readiness? = some r)
    (ok : r.result = .ok ()) : signal = .opened r.after (.ok ()) := by
  cases signal with
  | opened  => cases answer; exact congrArg _ ok
  | dropped => cases answer; contradiction
  | silent  => contradiction

end Signal

namespace Launch

variable {p : Plan} {signal : Signal} {l l' : Launch}

-- Where a run has come to says what its loader has answered.
def Sound (p : Plan) (signal : Signal) : Launch → Prop
  | waiting now => ∀ r, signal.readiness? = some r → now ≤ r.after
  | refused e   => ∃ r, signal.readiness? = some r ∧ r.result = .error e
  | started s   => ∃ r, signal.readiness? = some r ∧ r.result = .ok () ∧
    ReflTransGen (Session.Step p.dispatcher) (.start r.after p.targets p.calls) s

theorem Sound.step (sound : l.Sound p signal) : Step p signal l l' → l'.Sound p signal
  | .wait _ early            => early
  | .refuse answer _ result  => ⟨_, answer, result⟩
  | .start answer due result => by
    -- Time has not passed over the answer, so the nodes start when it comes.
    have now := Nat.le_antisymm (sound _ answer) due
    exact ⟨_, answer, result, now ▸ .refl⟩
  | .go step                 => by
    have ⟨r, answer, result, e⟩ := sound
    exact ⟨r, answer, result, e.tail step⟩

-- How long a run may still wait, and then what it has to do.
def measure (p : Plan) (r : Readiness) : Launch → Nat
  | waiting now => r.after - now + 2 * (Session.start now p.targets p.calls).weight + 2
  | refused _   => 0
  | started s   => s.measure p.dispatcher

theorem Step.measure_lt {r : Readiness} (answer : signal.readiness? = some r) :
    Step p signal l l' → l'.measure p r < l.measure p r
  | .wait later early => by
    have := early r answer
    simp only [measure, Session.weight, Session.start]
    omega
  | .refuse _ _ _     => by
    simp only [measure]
    omega
  | .start _ _ _      => by
    simp only [measure, Session.measure]
    split <;> omega
  | .go step          => step.measure_lt

end Launch

namespace Plan

open Launch

variable {p : Plan} {signal : Signal} {l : Launch} {r : Registry} {package : String}

def Launches (p : Plan) (signal : Signal) (l : Launch) : Prop :=
  ReflTransGen (Step p signal) (.waiting 0) l

theorem Launches.sound (launches : p.Launches signal l) : l.Sound p signal := by
  induction launches with
  | refl        => exact fun _ _ => Nat.zero_le _
  | tail _ e hi => exact hi.step e

-- A node starts only once its loader has said that all went well.
theorem Launches.barrier (launches : p.Launches signal l) :
    l.fetched = [] ∧ l.reports = [] ∨
      ∃ time, signal = .opened time (.ok ()) ∧ ∀ f ∈ l.fetched, time ≤ f.1 := by
  cases l with
  | waiting   => exact .inl ⟨rfl, rfl⟩
  | refused   => exact .inl ⟨rfl, rfl⟩
  | started s =>
    have ⟨r, answer, ok, e⟩ := launches.sound
    have late := Session.late_start.execution e
    exact .inr ⟨r.after, Signal.opened_of_ok answer ok, late.fetched⟩

-- The loader of a run makes this of its signal.
def Awaits (p : Plan) (signal : Signal) : Prop :=
  signal.readiness? = some p.readiness

theorem run_of_error {e : LoadError} (failed : p.readiness.result = .error e) :
    p.run = .error e := by
  have failed : (p.dispatcher.loader p.packages).result = .error e := failed
  simp only [run, Dispatcher.run, failed]
  rfl

-- Where a run ends, which is what it gives. All orders of its steps give the same reports, unless a
-- node is hit first just when it ends by itself.
inductive Ends (p : Plan) : Launch → Prop
  | refused {e : LoadError} (run : p.run = .error e) : Ends p (.refused e)
  | started {s : Session} {r : Run} (run : p.run = .ok r) (joins : p.Joins s)
      (complete : Complete p.targets s.reports s.seen)
      (reports : (∀ position target, p.targets[position]? = some target →
        ¬p.Tied target position) → s.reports.Perm r.reports) : Ends p (.started s)

theorem Awaits.progress (awaits : p.Awaits signal) (launches : p.Launches signal l) :
    (∃ l', Step p signal l l') ∨ p.Ends l := by
  have sound := launches.sound
  cases l with
  | waiting now =>
    by_cases due : p.readiness.after ≤ now
    case pos =>
      cases result : p.readiness.result with
      | error => exact .inl ⟨_, .refuse awaits due result⟩
      | ok    => exact .inl ⟨_, .start awaits due result⟩
    case neg =>
      refine .inl ⟨_, .wait (Nat.lt_of_not_le due) fun r answer => ?_⟩
      exact Nat.le_of_eq (congrArg _ (Option.some.inj (awaits.symm.trans answer)))
  | refused e =>
    have ⟨r, answer, failed⟩ := sound
    cases awaits.symm.trans answer
    exact .inr (.refused (run_of_error failed))
  | started s =>
    have ⟨r, answer, loads, e⟩ := sound
    cases awaits.symm.trans answer
    have loads : p.Loads := loads
    cases Reaches.progress ⟨loads, e⟩ with
    | inl joins =>
      refine .inr (.started loads.run_eq joins joins.complete fun apart => ?_)
      exact joins.perm_of_unique loads.joins_play rfl fun position target ht r r' fate fate' =>
        fate.unique (apart position target ht) fate'
    | inr step  =>
      have ⟨_, step⟩ := step
      exact .inl ⟨_, .go step⟩

theorem Awaits.finite (awaits : p.Awaits signal) :
    ¬∃ f : ℕ → Launch, f 0 = .waiting 0 ∧ ∀ n, Step p signal (f n) (f (n + 1)) := by
  intro ⟨f, _, steps⟩
  have falls : StrictAnti fun n => (f n).measure p p.readiness :=
    strictAnti_nat_of_succ_lt fun n => (steps n).measure_lt awaits
  exact not_strictAnti_of_wellFoundedLT _ falls

-- A run whose loader looks for the packages of its targets in a registry.
def loading (p : Plan) (r : Registry) : Plan :=
  { p with
    dispatcher := { p.dispatcher with loader := r.loader }
    packages := TextCharts.packages p.targets }

theorem loading_loads (serves : ∀ t ∈ p.targets, r.Serves t) : (p.loading r).Loads :=
  congrArg Readiness.result (Registry.loader_of_serves serves)

theorem loading_fails (lacks : r.Lacks p.targets package) :
    (p.loading r).readiness.result = .error (.unknownPackage package) :=
  congrArg Readiness.result (Registry.loader_of_lacks lacks)

-- Nothing was asked or reported, however a run went.
def Untouched (p : Plan) : Prop :=
  ∀ signal, p.Awaits signal → ∀ l, p.Launches signal l → l.fetched = [] ∧ l.reports = []

theorem untouched_of_error {e : LoadError} (failed : p.readiness.result = .error e) :
    p.Untouched := by
  intro signal awaits l launches
  cases launches.barrier with
  | inl untouched => exact untouched
  | inr opened    =>
    have ⟨time, opened, _⟩ := opened
    subst opened
    simp [← Option.some.inj awaits] at failed

-- What the loader of a run decides about it: whether its nodes start, and when.
structure Guarded (p : Plan) : Prop where
  barrier : ∀ signal l, p.Launches signal l →
    l.fetched = [] ∧ l.reports = [] ∨
      ∃ time, signal = .opened time (.ok ()) ∧ ∀ f ∈ l.fetched, time ≤ f.1
  finite  : ∀ signal, p.Awaits signal →
    ¬∃ f : ℕ → Launch, f 0 = .waiting 0 ∧ ∀ n, Step p signal (f n) (f (n + 1))
  ends    : ∀ signal, p.Awaits signal → ∀ l, p.Launches signal l →
    (∃ l', Step p signal l l') ∨ p.Ends l
  dropped : ∀ time, p.Awaits (.dropped time) → p.run = .error .signalDropped ∧ p.Untouched
  loading : ∀ r : Registry,
    (∀ t ∈ p.targets, r.Serves t) ∧
      (∃ run, (p.loading r).run = .ok run ∧ Complete p.targets run.reports run.seen) ∨
    ∃ package, r.Lacks p.targets package ∧
      (p.loading r).run = .error (.unknownPackage package) ∧ (p.loading r).Untouched

theorem guarded (p : Plan) : p.Guarded where
  barrier := fun _ _ launches => launches.barrier
  finite  := fun _ awaits => awaits.finite
  ends    := fun _ awaits _ launches => awaits.progress launches
  dropped := by
    intro time awaits
    have failed : p.readiness.result = .error .signalDropped :=
      congrArg Readiness.result (Option.some.inj awaits).symm
    exact ⟨run_of_error failed, untouched_of_error failed⟩
  loading := by
    intro r
    by_cases serves : ∀ t ∈ p.targets, r.Serves t
    case pos =>
      have loads := loading_loads serves
      exact .inl ⟨serves, _, loads.run_eq, loads.joins_play.complete⟩
    case neg =>
      have ⟨package, lacks⟩ := Registry.exists_lacks serves
      have failed := loading_fails lacks
      exact .inr ⟨package, lacks, run_of_error failed, untouched_of_error failed⟩

end Plan
end TextCharts
