import TextCharts.Files.Basic
import TextCharts.Page.Discovery
import TextCharts.Render.Builtin
import TextCharts.Run.Dispatch
import TextCharts.Run.Locator

namespace TextCharts

structure Document where
  page : String
  base : Option Url := none

-- A document that cannot be read.
structure Document.OpenError where
  name : String
  reason : FileError
  deriving DecidableEq, Repr

def Document.OpenError.message (e : OpenError) : String :=
  "cannot read document " ++ e.name ++ ": " ++ e.reason.message

namespace Document

-- The base of a file is the directory that it lies in.
def ofFile (files : Files) (name : String) : Except OpenError Document :=
  match files name with
  | .ok file => .ok { page := file.text, base := some (Url.ofDirectory file.directory) }
  | .error reason => .error { name, reason }

def withBase (d : Document) (base : Option Url) : Document :=
  { d with base := base.or d.base }

def targets (d : Document) : List Target :=
  discover d.page

-- Nothing remote is reached.
def source (d : Document) (files : Files) (delays : Delays) : Source := fun locator =>
  match Place.resolve d.base locator with
  | .error e => some (0, .fault e)
  | .ok (.remote url) => some (0, .fault (.unreachable url.shown))
  | .ok (.file name) =>
    (delays name).map fun delay =>
      match files.text name with
      | .ok text => (delay, .text text)
      | .error reason => (delay, .fault (.unreadable name reason))

-- The names of the files that the targets ask for.
def fileNames (d : Document) : List String :=
  d.targets.filterMap fun target =>
    match Place.resolve d.base target.config.source with
    | .ok (.file name) => some name
    | _ => none

def readsEnd (d : Document) (delays : Delays) : Bool :=
  d.fileNames.all fun name => (delays name).isSome

-- The run over all targets of a document, which nobody cancels.
def plan (d : Document) (source : Source) (terminal : Nat) (style : Style) (limit : Nat) : Plan where
  dispatcher := {
    registry := .builtin terminal style
    loader := (Registry.builtin terminal style).loader
    source
    limit }
  packages := packages d.targets
  targets := d.targets
  calls := []

end Document
end TextCharts
