import TextCharts.Proofs.Run.Reports

namespace TextCharts

namespace Node

variable {limit : Nat} {behaviour : Behaviour}

theorem settle_answered {delay : Nat} {reply : Reply} (h : delay ≤ limit) :
    settle limit (some (delay, reply)) = (.answered reply, delay) :=
  if_pos h

theorem settle_timedOut (late : ∀ delay reply, behaviour = some (delay, reply) → limit < delay) :
    settle limit behaviour = (.timedOut, limit) := by
  cases behaviour with
  | none   => rfl
  | some b => exact if_neg (Nat.not_le_of_lt (late b.1 b.2 rfl))

theorem lt_settle_iff {h : Nat} :
    h < (settle limit behaviour).2 ↔
      h < limit ∧ ∀ delay reply, behaviour = some (delay, reply) → h < delay := by
  cases behaviour with
  | none   => simp [settle]
  | some b =>
    obtain ⟨delay, reply⟩ := b
    simp only [settle, Option.some.injEq, Prod.mk.injEq]
    constructor
    case mp  =>
      split
      case isTrue  le => exact fun lt => ⟨Nat.lt_of_lt_of_le lt le, fun _ _ h => h.1 ▸ lt⟩
      case isFalse nl =>
        exact fun lt => ⟨lt, fun _ _ h => h.1 ▸ Nat.lt_trans lt (Nat.lt_of_not_le nl)⟩
    case mpr =>
      intro h
      split
      case isTrue  => exact h.2 delay reply ⟨rfl, rfl⟩
      case isFalse => exact h.1

end Node

namespace Session

variable {d : Dispatcher} {s : Session} {t : Task}

-- What the host has asked for and was told, which tasks leave as it is.
def host (s : Session) : List (Cancellation × Option Bool) × List Cancellation :=
  (s.told, s.calls)

theorem begin_host : (s.begin t).host = s.host := by
  simp only [begin]
  split <;> rfl

theorem advance_host : (s.advance d t).host = s.host := by
  simp only [advance]
  split
  · exact begin_host
  · split <;> exact begin_host

theorem poll_host {first : Branch} : (s.poll d first t).host = s.host := by
  simp only [poll]
  split
  · exact advance_host
  · split
    · rfl
    · exact advance_host

theorem join_host : s.join.host = s.host := by
  simp only [join]
  split
  · rfl
  · rfl
  · split <;> rfl

end Session

namespace Plan

open Relation Session

variable {p : Plan} {s s' : Session} {target : Target} {position : Nat} {r r' : Report}

-- What a node is reported with if no two of its ends come together.
structure Decided (p : Plan) (target : Target) (position : Nat) (r : Report) : Prop where
  cancelled : ∀ time, p.FirstHit position time → time < p.start + p.dispatcher.limit →
    (∀ delay reply, p.dispatcher.source target.config.source = some (delay, reply) →
      time < p.start + delay) →
    r = Node.report target.mount time (.error .cancelled)
  answered  : ∀ delay reply, p.dispatcher.source target.config.source = some (delay, reply) →
    delay ≤ p.dispatcher.limit →
    (∀ time, p.FirstHit position time → p.start + delay < time) →
    r = Node.report target.mount (p.start + delay)
      ((Node.outcome p.dispatcher.registry p.dispatcher.limit target (.answered reply)).mapError
        Node.Stop.error)
  timedOut  : (∀ delay reply, p.dispatcher.source target.config.source = some (delay, reply) →
      p.dispatcher.limit < delay) →
    (∀ time, p.FirstHit position time → p.start + p.dispatcher.limit < time) →
    r = Node.report target.mount (p.start + p.dispatcher.limit)
      (.error (.fetch (.timedOut p.dispatcher.limit)))

theorem Fate.decided (fate : p.Fate target position r) : p.Decided target position r where
  cancelled := by
    intro time first early before
    have start := first.start_le
    have lt : time - p.start < (p.dispatcher.settle target).2 := by
      refine Node.lt_settle_iff.mpr ⟨by omega, fun delay reply hs => ?_⟩
      have := before delay reply hs
      omega
    have lt : time < p.due target := by
      simp only [due]
      omega
    cases fate with
    | cancelled first' _ => rw [first.unique first']
    | settled late       => exact absurd (late time first) (Nat.not_le_of_lt lt)
  answered  := by
    intro delay reply hs le after
    have settled : p.dispatcher.settle target = (.answered reply, delay) := by
      rw [Dispatcher.settle, hs, Node.settle_answered le]
    cases fate with
    | cancelled first early =>
      rw [due, settled] at early
      exact absurd early (Nat.not_le_of_lt (after _ first))
    | settled _             => rw [due, outcome, settled]
  timedOut  := by
    intro late after
    have settled : p.dispatcher.settle target = (.timedOut, p.dispatcher.limit) :=
      Node.settle_timedOut late
    cases fate with
    | cancelled first early =>
      rw [due, settled] at early
      exact absurd early (Nat.not_le_of_lt (after _ first))
    | settled _             =>
      rw [due, outcome, settled]
      rfl

-- A request is answered by whether a target has the index that it names, if it names one.
def answerTo (p : Plan) (c : Cancellation) : Option Bool :=
  c.index.map fun index => decide (∃ t ∈ p.targets, t.mount.index = index)

theorem Sound.answer (sound : p.Sound s) (c : Cancellation) :
    c.answer s.switches = p.answerTo c := by
  simp only [Cancellation.answer, answerTo]
  congr 1
  funext index
  have h := congrArg (List.any · (· == index)) sound.switches
  simp only [List.any_map, Function.comp_def] at h
  rw [h, List.any_eq]
  simp

-- Whenever it is made, and whatever has become of the nodes, a request turns the switches of those
-- that it hits and no other.
theorem Sound.turned (sound : p.Sound s) (c : Cancellation) (lt : position < p.targets.length) :
    (s.call c).isOn position = true ↔ s.isOn position = true ∨ c.hits p.targets position := by
  have h := congrArg List.length sound.switches
  simp only [List.length_map] at h
  exact Cancellation.turn_on sound.switches (h ▸ lt)

-- What has been told, and what is to be told to the requests that have not been made.
def Told (p : Plan) (s : Session) : Prop :=
  (s.host.1 ++ s.host.2.map fun c => (c, p.answerTo c)).Perm
    (p.calls.map fun c => (c, p.answerTo c))

theorem Told.of_eq (told : p.Told s) (h : s'.host = s.host) : p.Told s' := by
  rwa [Told, h]

theorem Told.call {c : Cancellation} (told : p.Told s) (sound : p.Sound s) (mem : c ∈ s.calls) :
    p.Told (s.call c) := by
  have moved := ((List.perm_cons_erase mem).map fun c => (c, p.answerTo c)).symm.append_left s.told
  simp only [Told, Session.host, Session.call, sound.answer]
  rw [List.append_assoc]
  exact moved.trans told

theorem Told.step (told : p.Told s) (sound : p.Sound s) : Step p.dispatcher s s' → p.Told s'
  | .poll _ _ _ => told.of_eq poll_host
  | .call mem _ => told.call sound mem
  | .join _     => told.of_eq join_host
  | .tick _ _   => told

theorem Reaches.told (reaches : p.Reaches s) : p.Told s := by
  have ⟨loads, e⟩ := reaches
  induction e with
  | refl        => exact List.Perm.refl _
  | tail e h hi => exact (hi ⟨loads, e⟩).step (Reaches.sound ⟨loads, e⟩) h

def withCalls (p : Plan) (calls : List Cancellation) : Plan :=
  { p with calls }

-- Other requests that hit every node first at the same time as those of a plan, as far as they hit
-- it before it ends by itself. None of them hits a node first just when it does.
structure Agree (p : Plan) (calls : List Cancellation) : Prop where
  apart  : ∀ position target, p.targets[position]? = some target →
    ¬p.Tied target position ∧ ¬(p.withCalls calls).Tied target position
  before : ∀ position target, p.targets[position]? = some target →
    ∀ time < p.due target, p.FirstHit position time ↔ (p.withCalls calls).FirstHit position time

theorem Agree.fate {calls : List Cancellation} (agree : p.Agree calls)
    (ht : p.targets[position]? = some target) (fate : (p.withCalls calls).Fate target position r) :
    p.Fate target position r := by
  have ⟨_, apart⟩ := agree.apart position target ht
  cases fate with
  | cancelled first early =>
    have lt := first.lt_due apart early
    exact .cancelled ((agree.before position target ht _ lt).mpr first) early
  | settled late          =>
    refine .settled fun time first => Nat.le_of_not_lt fun lt => ?_
    have first' := (agree.before position target ht time lt).mp first
    exact Nat.not_le_of_lt lt (late time first')

theorem Agree.reports_perm {calls : List Cancellation} (agree : p.Agree calls) (joins : p.Joins s)
    (joins' : (p.withCalls calls).Joins s') : s'.reports.Perm s.reports := by
  refine (joins.perm_of_unique joins' rfl fun position target ht r r' fate fate' => ?_).symm
  exact fate.unique (agree.apart position target ht).1 (agree.fate ht fate')

-- What requests are told and do at any time of a run, and what they come to in its reports.
structure Raced (p : Plan) : Prop where
  told    : ∀ s, p.Reaches s → ∀ c, (s.call c).told = s.told ++ [(c, p.answerTo c)]
  hits    : ∀ s, p.Reaches s → ∀ c, ∀ position < p.targets.length,
    ((s.call c).isOn position = true ↔ s.isOn position = true ∨ c.hits p.targets position)
  decided : ∀ s, p.Joins s → ∃ rs, s.reports.Perm rs ∧ rs.length = p.targets.length ∧
    ∀ position target r, p.targets[position]? = some target → rs[position]? = some r →
      p.Decided target position r
  alike   : ∀ calls, p.Agree calls → ∀ s s', p.Joins s → (p.withCalls calls).Joins s' →
    s'.reports.Perm s.reports
  run     : ∃ s, p.Joins s ∧ p.run = .ok (.ofSession s) ∧
    (s.told.map (·.2)).Perm (p.calls.map p.answerTo)

theorem Loads.told_play (loads : p.Loads) :
    ((p.session.play p.dispatcher).told.map (·.2)).Perm (p.calls.map p.answerTo) := by
  have told := (loads.joins_play.reaches.told).map (·.2)
  have ⟨_, _, calls⟩ := done_of_next?_none (play_next? (d := p.dispatcher) (s := p.session))
  simpa [Session.host, calls, Function.comp_def] using told

theorem raced_of_loads (loads : p.Loads) : p.Raced where
  told    := fun _ reaches c => by rw [Session.call, reaches.sound.answer]
  hits    := fun _ reaches c _ lt => reaches.sound.turned c lt
  decided := fun _ joins => joins.reports_each fun _ _ _ fate => fate.decided
  alike   := fun _ agree _ _ joins joins' => agree.reports_perm joins joins'
  run     := ⟨_, loads.joins_play, loads.run_eq, loads.told_play⟩

theorem mixed_raced : mixed.Loads ∧ mixed.Raced :=
  ⟨rfl, raced_of_loads rfl⟩

end Plan
end TextCharts
