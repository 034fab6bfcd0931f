import TextCharts.Render.Loader
import TextCharts.Run.Node

/-!
The nodes of a run under way. Every node is a task of its own. Shared are the set that tasks are
taken from as they end, the mounts of the tasks, for those that break down, and the switches by
which a host stops a node that it knows by the index of its target.
-/

namespace TextCharts

-- A request to stop the first node with an index, or all nodes.
structure Cancellation where
  time : Nat
  index : Option Nat
  deriving DecidableEq, Repr

structure Switch where
  index : Nat
  on : Bool := false
  deriving DecidableEq, Repr

namespace Switch

def turn (s : Switch) : Switch :=
  { s with on := true }

def turnFirst (index : Nat) : List Switch → List Switch
  | [] => []
  | s :: rest => if s.index = index then s.turn :: rest else s :: turnFirst index rest

end Switch

namespace Cancellation

def turn (c : Cancellation) (switches : List Switch) : List Switch :=
  match c.index with
  | none => switches.map Switch.turn
  | some index => Switch.turnFirst index switches

-- The answer to a request: whether there is such a node, if it names one.
def answer (c : Cancellation) (switches : List Switch) : Option Bool :=
  c.index.map fun index => switches.any (·.index == index)

end Cancellation

-- How many milliseconds a source may take if nothing else is said.
def defaultLimit : Nat := 10000

-- What stays the same for all nodes of a run.
structure Dispatcher where
  registry : Registry
  loader : Loader
  source : Source
  limit : Nat := defaultLimit

namespace Dispatcher

def settle (d : Dispatcher) (target : Target) : Node.Cause × Nat :=
  Node.settle d.limit (d.source target.config.source)

def conclude (d : Dispatcher) (target : Target) (time : Nat) (cause : Node.Cause) :
    Except String Report :=
  Node.conclude target.mount time (Node.outcome d.registry d.limit target cause)

end Dispatcher

-- A node that has been started. Its number is also the position of its switch.
structure Task where
  id : Nat
  target : Target
  -- when its source was asked
  begun : Option Nat := none

-- When the answer or the limit of a task is due, its source being asked now if it was not yet.
def Task.due (d : Dispatcher) (now : Nat) (t : Task) : Nat :=
  t.begun.getD now + (d.settle t.target).2

-- What a task waits for. Whenever it goes on, it looks at one of the two first, and nothing says at
-- which one, so that a task whose source is due and whose switch is on may end either way.
inductive Branch
  | source
  | switch

structure Session where
  now : Nat
  live : List Task
  mounts : List (Nat × Mount)
  switches : List Switch
  -- the requests that the host has still to make
  calls : List Cancellation
  -- the tasks that have ended and were not taken yet
  ended : List (Nat × Except String Report) := []
  reports : List Report := []
  -- what the host was shown while it waited
  seen : List Report := []
  told : List (Cancellation × Option Bool) := []
  fetched : List (Nat × String) := []
  answered : List String := []

namespace Session

-- All nodes start at once.
def start (now : Nat) (targets : List Target) (calls : List Cancellation) : Session where
  now
  live := targets.zipIdx.map fun (target, id) => { id, target }
  mounts := targets.zipIdx.map fun (target, id) => (id, target.mount)
  switches := targets.map fun target => { index := target.mount.index }
  calls

def isOn (s : Session) (id : Nat) : Bool :=
  s.switches[id]?.any (·.on)

def begin (t : Task) (s : Session) : Session :=
  match t.begun with
  | some _ => s
  | none => { s with
      live := s.live.map fun u => if u.id = t.id then { u with begun := some s.now } else u
      fetched := s.fetched ++ [(s.now, t.target.config.source)] }

def finish (d : Dispatcher) (t : Task) (cause : Node.Cause) (s : Session) : Session :=
  { s with
    live := s.live.eraseP (·.id == t.id)
    ended := s.ended ++ [(t.id, d.conclude t.target s.now cause)]
    answered := s.answered ++
      match cause with
      | .answered _ => [t.target.config.source]
      | _ => [] }

-- Lets a task go on that looks at its source before its switch.
def advance (d : Dispatcher) (t : Task) (s : Session) : Session :=
  let s := s.begin t
  if t.due d s.now ≤ s.now then s.finish d t (d.settle t.target).1
  else if s.isOn t.id then s.finish d t .cancelled
  else s

-- A task that looks at its switch first does not come to its source if the switch is on.
def poll (d : Dispatcher) (first : Branch) (t : Task) (s : Session) : Session :=
  match first with
  | .source => s.advance d t
  | .switch => if s.isOn t.id then s.finish d t .cancelled else s.advance d t

def call (c : Cancellation) (s : Session) : Session :=
  { s with
    calls := s.calls.erase c
    switches := c.turn s.switches
    told := s.told ++ [(c, c.answer s.switches)] }

def deliver (r : Report) (s : Session) : Session :=
  { s with seen := s.seen ++ [r], reports := s.reports ++ [r] }

-- Takes the task that ended first. For one that broke down a report is made from its mount.
def join (s : Session) : Session :=
  match s.ended with
  | [] => s
  | (_, .ok r) :: ended => { s with ended }.deliver r
  | (id, .error message) :: ended =>
    match s.mounts.lookup id with
    | none => { s with ended }
    | some mount =>
      { s with ended, mounts := s.mounts.filter (·.1 != id) }.deliver
        (Node.aborted mount s.now message)

-- When something is due next.
def wake? (d : Dispatcher) (s : Session) : Option Nat :=
  (s.live.map (·.due d s.now) ++ s.calls.map (·.time)).min?

def Ready (d : Dispatcher) (s : Session) (t : Task) : Prop :=
  t.begun = none ∨ t.due d s.now ≤ s.now ∨ s.isOn t.id = true

instance (d : Dispatcher) (s : Session) (t : Task) : Decidable (s.Ready d t) :=
  inferInstanceAs (Decidable (_ ∨ _ ∨ _))

-- Nothing is left to do at this time.
structure Quiet (d : Dispatcher) (s : Session) : Prop where
  taken : s.ended = []
  waiting : ∀ t ∈ s.live, ¬s.Ready d t
  early : ∀ c ∈ s.calls, s.now < c.time

-- What may happen next. Tasks go on and requests are made in any order, and time passes only when
-- nothing is to be done.
inductive Step (d : Dispatcher) (s : Session) : Session → Prop
  | poll {t : Task} (first : Branch) (mem : t ∈ s.live) (ready : s.Ready d t) :
      Step d s (s.poll d first t)
  | call {c : Cancellation} (mem : c ∈ s.calls) (due : c.time ≤ s.now) : Step d s (s.call c)
  | join (ended : s.ended ≠ []) : Step d s s.join
  | tick {time : Nat} (quiet : s.Quiet d) (wake : s.wake? d = some time) :
      Step d s { s with now := time }

-- One of the things that may happen next, if there are any. Every task looks at its source first.
def next? (d : Dispatcher) (s : Session) : Option Session :=
  match s.ended with
  | _ :: _ => some s.join
  | [] =>
    match s.live.find? (s.Ready d ·) with
    | some t => some (s.poll d .source t)
    | none =>
      match s.calls.find? (·.time ≤ s.now) with
      | some c => some (s.call c)
      | none => (s.wake? d).map fun time => { s with now := time }

end Session
end TextCharts
