import Mathlib.Data.List.Basic
import Mathlib.Data.Nat.Find
import TextCharts.Run.Dispatch

namespace TextCharts

def firstWith? (targets : List Target) (index : Nat) : Option Nat :=
  targets.findIdx? (·.mount.index == index)

-- A request reaches all nodes, or only the first one with the index that it names.
def Cancellation.hits (targets : List Target) (position : Nat) (c : Cancellation) : Bool :=
  c.index.all fun index => firstWith? targets index == some position

namespace Switch

theorem turnFirst_index {index : Nat} {l : List Switch} :
    (turnFirst index l).map (·.index) = l.map (·.index) := by
  induction l with
  | nil => rfl
  | cons s l hi =>
    simp only [turnFirst]
    split
    · rfl
    · simp [hi]

theorem turnFirst_on {index position : Nat} {l : List Switch} :
    (turnFirst index l)[position]?.any (·.on) = true ↔
      l[position]?.any (·.on) = true ∨ l.findIdx? (·.index == index) = some position := by
  induction l generalizing position with
  | nil => simp [turnFirst]
  | cons s l hi =>
    by_cases hs : s.index = index
    case pos => cases position <;> simp [turnFirst, turn, hs, List.findIdx?_cons]
    case neg => cases position <;> simp [turnFirst, hs, hi, List.findIdx?_cons]

end Switch

namespace Cancellation

variable {c : Cancellation} {targets : List Target} {l : List Switch} {position : Nat}

theorem turn_index : (c.turn l).map (·.index) = l.map (·.index) := by
  simp only [turn]
  split
  · simp [Switch.turn]
  · exact Switch.turnFirst_index

theorem findIdx?_switch {index : Nat} (h : l.map (·.index) = targets.map (·.mount.index)) :
    l.findIdx? (·.index == index) = firstWith? targets index := by
  have := congrArg (List.findIdx? (· == index)) h
  simpa only [List.findIdx?_map, Function.comp_def, firstWith?] using this

theorem turn_on (h : l.map (·.index) = targets.map (·.mount.index)) (lt : position < l.length) :
    (c.turn l)[position]?.any (·.on) = true ↔
      l[position]?.any (·.on) = true ∨ c.hits targets position := by
  simp only [turn, hits]
  split
  case h_1 hc => simp [hc, Switch.turn, lt]
  case h_2 hc => simp [hc, Switch.turnFirst_on, findIdx?_switch h]

end Cancellation

namespace Node

-- The error that a node is reported with, whether it reports itself or not.
def Stop.error : Stop → NodeError
  | fault e => e
  | breakdown message => .panicked message

-- What the host is given for a task, at the time at which it is taken.
def collect (mount : Mount) (now : Nat) : Except String Report → Report
  | .ok r => r
  | .error message => aborted mount now message

-- Both ways in which a report is made come to the same.
theorem collect_conclude {mount : Mount} {now : Nat} {o : Except Stop String} :
    collect mount now (conclude mount now o) = report mount now (o.mapError Stop.error) := by
  cases o with
  | ok => rfl
  | error stop => cases stop <;> rfl

theorem report_mount {mount : Mount} {time : Nat} {o : Except NodeError String} :
    (report mount time o).mount = mount := by
  cases o <;> rfl

end Node

namespace Plan

variable {p : Plan} {target : Target} {position : Nat} {r r' : Report}

-- A node is hit first at a time; a request that is made before the nodes start hits them then.
structure FirstHit (p : Plan) (position time : Nat) : Prop where
  hit   : ∃ c ∈ p.calls, c.hits p.targets position ∧ max p.start c.time = time
  least : ∀ c ∈ p.calls, c.hits p.targets position → time ≤ max p.start c.time

theorem FirstHit.unique {time time' : Nat} (first : p.FirstHit position time)
    (first' : p.FirstHit position time') : time = time' := by
  have ⟨c, mem, hits, hc⟩ := first.hit
  have ⟨c', mem', hits', hc'⟩ := first'.hit
  exact Nat.le_antisymm (hc' ▸ first.least c' mem' hits') (hc ▸ first'.least c mem hits)

theorem exists_firstHit {c : Cancellation} (mem : c ∈ p.calls) (hits : c.hits p.targets position) :
    ∃ time, p.FirstHit position time := by
  classical
  have called : ∃ time, ∃ c ∈ p.calls, c.hits p.targets position ∧ max p.start c.time = time :=
    ⟨_, c, mem, hits, rfl⟩
  refine ⟨Nat.find called, Nat.find_spec called, fun c mem hits => ?_⟩
  exact Nat.find_min' called ⟨c, mem, hits, rfl⟩

theorem FirstHit.start_le {time : Nat} (first : p.FirstHit position time) : p.start ≤ time := by
  have ⟨_, _, _, hc⟩ := first.hit
  exact hc ▸ Nat.le_max_left _ _

-- When a node ends by itself, since its source answers or its time is over.
def due (p : Plan) (target : Target) : Nat :=
  p.start + (p.dispatcher.settle target).2

-- What a node comes to by itself.
def outcome (p : Plan) (target : Target) : Except NodeError String :=
  (Node.outcome p.dispatcher.registry p.dispatcher.limit target
    (p.dispatcher.settle target).1).mapError Node.Stop.error

-- A node is hit first just when it ends by itself.
def Tied (p : Plan) (target : Target) (position : Nat) : Prop :=
  p.FirstHit position (p.due target)

theorem FirstHit.lt_due {time : Nat} (apart : ¬p.Tied target position)
    (first : p.FirstHit position time) (early : time ≤ p.due target) : time < p.due target := by
  refine Nat.lt_of_le_of_ne early fun same => apart ?_
  subst same
  exact first

-- What a node may be reported with. Only if it is tied, there are two such reports.
inductive Fate (p : Plan) (target : Target) (position : Nat) : Report → Prop
  | cancelled {time : Nat} (first : p.FirstHit position time) (early : time ≤ p.due target) :
    Fate p target position (Node.report target.mount time (.error .cancelled))
  | settled (late : ∀ time, p.FirstHit position time → p.due target ≤ time) :
    Fate p target position (Node.report target.mount (p.due target) (p.outcome target))

theorem Fate.mount (fate : p.Fate target position r) : r.mount = target.mount := by
  cases fate <;> exact Node.report_mount

theorem Fate.unique (apart : ¬p.Tied target position) (fate : p.Fate target position r)
    (fate' : p.Fate target position r') : r = r' := by
  cases fate with
  | cancelled first early =>
    cases fate' with
    | cancelled first' _ => rw [first.unique first']
    | settled late       => exact absurd (late _ first) (Nat.not_le_of_lt (first.lt_due apart early))
  | settled late =>
    cases fate' with
    | cancelled first early =>
      exact absurd (late _ first) (Nat.not_le_of_lt (first.lt_due apart early))
    | settled _             => rfl

end Plan
end TextCharts
