import TextCharts.Run.Play

namespace TextCharts

-- What a run leaves: the reports as the tasks were taken, those that the host was shown meanwhile,
-- what the cancellations were told, and the locators whose sources answered.
structure Run where
  reports : List Report
  seen : List Report
  cancelled : List (Option Bool)
  answered : List String

def Run.ofSession (s : Session) : Run where
  reports := s.reports
  seen := s.seen
  cancelled := s.told.map (·.2)
  answered := s.answered

-- The loader is asked for all packages, and when it has answered well, all nodes start at once.
def Dispatcher.run (d : Dispatcher) (packages : List String) (targets : List Target)
    (cancellations : List Cancellation) : Except LoadError Run := do
  let readiness := d.loader packages
  readiness.result
  return .ofSession ((Session.start readiness.after targets cancellations).play d)

-- The message of a run that could not load its packages.
def LoadError.runMessage (e : LoadError) : String :=
  "resource load failed: " ++ e.message

-- Everything that a run is given.
structure Plan where
  dispatcher : Dispatcher
  packages : List String
  targets : List Target
  calls : List Cancellation

namespace Plan

def readiness (p : Plan) : Readiness :=
  p.dispatcher.loader p.packages

def start (p : Plan) : Nat :=
  p.readiness.after

def session (p : Plan) : Session :=
  .start p.start p.targets p.calls

def run (p : Plan) : Except LoadError Run :=
  p.dispatcher.run p.packages p.targets p.calls

end Plan
end TextCharts
