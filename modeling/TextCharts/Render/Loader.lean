import TextCharts.Render.Registry

namespace TextCharts

inductive LoadError
  | unknownPackage (name : String)
  | signalDropped
  deriving DecidableEq, Repr

def LoadError.message : LoadError → String
  | unknownPackage name => "no renderer package named `" ++ name ++ "`"
  | signalDropped => "loader dropped its readiness signal"

-- When a loader answers, in milliseconds, and whether it could load everything.
structure Readiness where
  after : Nat := 0
  result : Except LoadError Unit := .ok ()

-- Is asked once for all packages.
abbrev Loader :=
  List String → Readiness

-- Packages are parts of the names of a registry, so that nothing has to be loaded.
def Registry.loader (r : Registry) : Loader := fun packages =>
  match packages.find? fun p => !r.hasPackage p with
  | some p => { result := .error (.unknownPackage p) }
  | none => {}

end TextCharts
