import TextCharts.Config.Draft
import TextCharts.Json.Reader

namespace TextCharts

-- The place of an element among all that ask for a drawing, and its identifier.
structure Mount where
  index : Nat
  id : Option String
  deriving DecidableEq, Repr

def Mount.shown (m : Mount) : String :=
  match m.id with
  | some id => "#" ++ id
  | none => s!"node[{m.index}]"

-- The options hold all entries, those that have a meaning here among them.
structure Target.Config where
  source : String
  renderer : String
  package : Option String
  dialect : Dialect
  options : Json.Entries

structure Target where
  mount : Mount
  config : Target.Config

namespace Target.Config

def sourceKey : String := "csvSrc"
def rendererKey : String := "csvGvType"
def packageKey : String := "csvGvPackage"
def dialectKey : String := "csvOptions"

def text? (options : Json.Entries) (key : String) : Option String :=
  (options.get? key).bind Json.asString?

def requireText (options : Json.Entries) (key : String) : Except ConfigError String :=
  match text? options key with
  | some s => .ok s
  | none => .error (.missingField key)

def ofEntries (options : Json.Entries) : Except ConfigError Config := do
  let source ← requireText options sourceKey
  let renderer ← requireText options rendererKey
  let dialect ← Dialect.ofJson (options.get? dialectKey)
  return { source, renderer, dialect, options, package := text? options packageKey }

def ofText (text : String) : Except ConfigError Config :=
  match Json.read? text with
  | none => .error .notJson
  | some (.object options) => ofEntries options
  | some _ => .error .notAnObject

end Target.Config

-- Keeps the first of equal texts.
def firstSeen (items : List String) : List String :=
  items.foldl (fun seen item => if seen.contains item then seen else seen ++ [item]) []

-- The different packages that targets name, in the order in which they come first.
def packages (targets : List Target) : List String :=
  firstSeen (targets.filterMap (·.config.package))

end TextCharts
