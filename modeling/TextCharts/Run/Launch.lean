import TextCharts.Run.Dispatch

namespace TextCharts

-- What a loader makes of the signal that it owes to a run: an answer, once, or none, its end of the
-- signal being lost or kept for good.
inductive Signal
  | opened (time : Nat) (result : Except LoadError Unit)
  | dropped (time : Nat)
  | silent

-- What a run gets that waits for a signal.
def Signal.readiness? : Signal → Option Readiness
  | opened after result => some { after, result }
  | dropped after       => some { after, result := .error .signalDropped }
  | silent              => none

-- A run from when its loader is asked.
inductive Launch
  | waiting (now : Nat)
  | refused (e : LoadError)
  | started (s : Session)

namespace Launch

def fetched : Launch → List (Nat × String)
  | started s => s.fetched
  | _         => []

def reports : Launch → List Report
  | started s => s.reports
  | _         => []

-- What may happen next. Time does not pass over the answer of the loader.
inductive Step (p : Plan) (signal : Signal) : Launch → Launch → Prop
  | wait {now time : Nat} (later : now < time)
      (early : ∀ r, signal.readiness? = some r → time ≤ r.after) :
      Step p signal (waiting now) (waiting time)
  | refuse {now : Nat} {r : Readiness} {e : LoadError} (answer : signal.readiness? = some r)
      (due : r.after ≤ now) (result : r.result = .error e) :
      Step p signal (waiting now) (refused e)
  | start {now : Nat} {r : Readiness} (answer : signal.readiness? = some r)
      (due : r.after ≤ now) (result : r.result = .ok ()) :
      Step p signal (waiting now) (started (.start now p.targets p.calls))
  | go {s s' : Session} (step : s.Step p.dispatcher s') :
      Step p signal (started s) (started s')

end Launch
end TextCharts
