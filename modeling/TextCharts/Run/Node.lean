import TextCharts.Render.Registry
import TextCharts.Run.Source

namespace TextCharts

-- What a node can end in. The stages before it are known to its task alone.
inductive State
  | rendered
  | failed (e : NodeError)

namespace State

def shown : State → String
  | rendered => "rendered"
  | failed e => "failed: " ++ e.message

def isRendered : State → Bool
  | rendered => true
  | failed _ => false

end State

-- The end of a node: its state, what it shows and the time.
structure Report where
  mount : Mount
  state : State
  output : String
  time : Nat

-- What a failed node shows.
def marker (mount : Mount) (e : NodeError) : String :=
  "⚠ " ++ mount.shown ++ ": " ++ e.message

namespace Node

-- What ends a node.
inductive Cause
  | cancelled
  | answered (reply : Reply)
  | timedOut

-- What comes first of the answer and the limit, and when, both counted from the time at which the
-- source is asked. An answer at the limit is in time.
def settle (limit : Nat) : Behaviour → Cause × Nat
  | some (delay, reply) => if delay ≤ limit then (.answered reply, delay) else (.timedOut, limit)
  | none => (.timedOut, limit)

-- What keeps a node from its drawing: a fault that it reports itself, or the loss of its task.
inductive Stop
  | fault (e : NodeError)
  | breakdown (message : String)

-- Draws the text of a source on an empty surface. A renderer that breaks down while it draws is
-- caught, but not one that breaks down while it is made.
def draw (registry : Registry) (target : Target) (body : String) : Except Stop String := do
  let table := Table.parse target.config.dialect body
  let made ← (registry.resolve target.config.renderer target.mount).mapError .fault
  let renderer ← made.mapError .breakdown
  let drawing := renderer table target.config.options
  match drawing.ending with
  | .done => .ok (drawing.on "")
  | .failed e => .error (.fault (.draw e))
  | .panicked message => .error (.fault (.panicked message))

def outcome (registry : Registry) (limit : Nat) (target : Target) : Cause → Except Stop String
  | .cancelled => .error (.fault .cancelled)
  | .timedOut => .error (.fault (.fetch (.timedOut limit)))
  | .answered (.fault e) => .error (.fault (.fetch e))
  | .answered (.panic message) => .error (.breakdown message)
  | .answered (.text body) => draw registry target body

def report (mount : Mount) (time : Nat) : Except NodeError String → Report
  | .ok output => { mount, time, output, state := .rendered }
  | .error e => { mount, time, output := marker mount e, state := .failed e }

-- How the task of a node ends: with a report, or broken down.
def conclude (mount : Mount) (time : Nat) : Except Stop String → Except String Report
  | .ok output => .ok (report mount time (.ok output))
  | .error (.fault e) => .ok (report mount time (.error e))
  | .error (.breakdown message) => .error message

-- The report of a task that broke down, which cannot make it itself.
def aborted (mount : Mount) (time : Nat) (message : String) : Report where
  mount
  time
  output := marker mount (.panicked message)
  state := .failed (.panicked message)

end Node
end TextCharts
