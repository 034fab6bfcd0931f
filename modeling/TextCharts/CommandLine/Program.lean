import TextCharts.CommandLine.Arguments
import TextCharts.CommandLine.LogFilter
import TextCharts.Json.Writer
import TextCharts.Page.Document

namespace TextCharts.CommandLine

-- The width that is assumed where there is no terminal.
def usualWidth : Nat :=
  80

-- What the program finds around it.
structure Surroundings where
  files : Files
  delays : Delays := fun _ => some 1
  input : ByteArray := .empty
  -- Whether the output is a terminal, where colours can be seen.
  onTerminal : Bool := false
  -- The width of the terminal, if there is one, wherever the output goes.
  width : Nat := usualWidth

-- Why a command ends badly.
inductive Failure
  | logFilter (e : LogFilter.Error)
  | unreadable (e : FileError)
  | dialect (e : ConfigError)
  | document (e : Document.OpenError)
  | remote (e : FetchError)
  | load (e : LoadError)
  | targets (failed total : Nat)

def Failure.message : Failure → String
  | logFilter e => "bad log filter: " ++ e.message
  | unreadable e => e.message
  | dialect e => e.message
  | document e => e.message
  | remote e => e.message
  | load e => e.runMessage
  | targets failed total => s!"{failed} of {total} render targets failed"

-- What a command prints, and its failure if it fails.
structure Printed where
  text : String := ""
  failure : Option Failure := none
  -- Whether all that was begun comes to an end. The program does not end before that.
  ends : Bool := true

def Printed.ofResult : Except Failure String → Printed
  | .ok text => { text }
  | .error e => { failure := some e }

-- Line breaks and tabs in the way they are typed.
def escapes : List (Char × Char) :=
  [('r', '\r'), ('n', '\n'), ('t', '\t')]

-- Puts a character for every backslash with a letter after it.
def replaceEscape (letter meaning : Char) : List Char → List Char
  | [] => []
  | [c] => [c]
  | c :: d :: rest =>
    if c = '\\' && d = letter then meaning :: replaceEscape letter meaning rest
    else c :: replaceEscape letter meaning (d :: rest)

-- One kind of escape after the other.
def unescape (s : String) : String :=
  .ofList (escapes.foldl (fun text (letter, meaning) => replaceEscape letter meaning text) s.toList)

namespace ParseArguments

-- The settings in the order in which they are made.
def settings (a : ParseArguments) : List Dialect.Setting :=
  [.stripHeader (a.stripHeader && a.raw), .trimFields a.trimFields] ++
    (a.fieldSeparator.map .fieldSeparator).toList ++
    (a.recordSeparator.map fun s => .recordSeparator (unescape s)).toList ++
    (a.quoteChar.map .quoteChar).toList

def dialect (a : ParseArguments) : Except ConfigError Dialect :=
  (Dialect.Draft.ofSettings a.settings).build

def toJson (a : ParseArguments) (d : Dialect) (text : String) : Json :=
  let rows := d.parse text
  if a.raw then .array (rows.map .strings) else (Table.ofRows rows).toJson

def text (a : ParseArguments) (s : Surroundings) : Except FileError String :=
  if a.file = "-" then textOf s.input else s.files.text a.file

-- The file is read before the settings are checked.
def run (a : ParseArguments) (s : Surroundings) : Printed :=
  .ofResult do
    let text ← (a.text s).mapError .unreadable
    let d ← a.dialect.mapError .dialect
    return (a.toJson d text).pretty 0 ++ "\n"

end ParseArguments

-- Ends a text with a line feed if it does not end in one.
def endLine (text : String) : String :=
  if text.toList.getLast? = some '\n' then text else text ++ "\n"

namespace Printed

-- All reports as they were seen, and a failure if one of them is no drawing.
def ofRun (ends : Bool) (run : Run) : Printed :=
  let failed := run.reports.countP (!·.state.isRendered)
  { text := .join (run.seen.map fun r => endLine r.output)
    failure := if failed = 0 then none else some (.targets failed run.reports.length)
    ends }

end Printed

namespace RenderArguments

def limit (a : RenderArguments) : Nat :=
  a.milliseconds.getD defaultLimit

-- The URL of a document that is not a file.
def remote? (a : RenderArguments) : Option Url :=
  (url? a.document).filter fun url => url.scheme = "http" || url.scheme = "https"

-- A base among the arguments goes before that of the document.
def openDocument (a : RenderArguments) (files : Files) : Except Failure Document :=
  match a.remote? with
  | some url => .error (.remote (.unreachable url.shown))
  | none => ((Document.ofFile files a.document).map (·.withBase a.base)).mapError .document

def style (a : RenderArguments) (s : Surroundings) : Style :=
  ⟨s.onTerminal && !a.noColor⟩

def plan (a : RenderArguments) (s : Surroundings) (document : Document) : Plan :=
  document.plan (document.source s.files s.delays) s.width (a.style s) a.limit

-- A file is read to its end even if its node has not waited for it.
def run (a : RenderArguments) (s : Surroundings) : Printed :=
  match a.openDocument s.files with
  | .error e => { failure := some e }
  | .ok document =>
    match (a.plan s document).run with
    | .error e => { failure := some (.load e) }
    | .ok run => .ofRun (document.readsEnd s.delays) run

end RenderArguments

def renderersText : String :=
  .join ((Registry.builtin usualWidth ⟨false⟩).names.map (· ++ "\n"))

def Command.run (s : Surroundings) : Command → Printed
  | render a => a.run s
  | parse a => a.run s
  | renderers => { text := renderersText }

namespace Command

-- The files that are named by the words themselves.
def fileNames : Command → List String
  | render a => if a.remote?.isSome then [] else [a.document]
  | parse a => if a.file = "-" then [] else [a.file]
  | renderers => []

-- The files that are asked for by the files that the words name.
def furtherNames (files : Files) : Command → List String
  | render a =>
    match a.openDocument files with
    | .ok document => document.fileNames
    | .error _ => []
  | _ => []

def needsInput : Command → Bool
  | parse a => a.file = "-"
  | _ => false

end Command

-- The log filter is checked before the command begins.
def Arguments.run (a : Arguments) (s : Surroundings) : Printed :=
  match LogFilter.check (a.logLevel.getD "") with
  | .error e => { failure := some (.logFilter e) }
  | .ok _ => a.command.run s

-- What the program leaves: its status, unless it goes on forever, and the texts of its two streams.
structure Ending where
  status : Option Nat := some 0
  output : String := ""
  errors : String := ""
  deriving DecidableEq, Repr

namespace Ending

def ofPrinted (p : Printed) : Ending :=
  if !p.ends then { status := none, output := p.text }
  else match p.failure with
    | none => { output := p.text }
    | some e => { status := some 1, output := p.text, errors := "error: " ++ e.message ++ "\n" }

def ofArgumentError (e : ArgumentError) : Ending :=
  if e.isQuestion then { output := e.message ++ "\n" }
  else { status := some 2, errors := "error: " ++ e.message ++ "\n" }

end Ending

def run (s : Surroundings) (words : List String) : Ending :=
  match Arguments.ofWords words with
  | .error e => .ofArgumentError e
  | .ok a => .ofPrinted (a.run s)

end TextCharts.CommandLine
