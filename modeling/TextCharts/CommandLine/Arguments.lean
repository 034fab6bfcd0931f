import TextCharts.CommandLine.Reading

namespace TextCharts.CommandLine

structure RenderArguments where
  document : String
  milliseconds : Option Nat := none
  base : Option Url := none
  noColor : Bool := false
  deriving DecidableEq, Repr

structure ParseArguments where
  -- A dash stands for the standard input.
  file : String := "-"
  fieldSeparator : Option Char := none
  recordSeparator : Option String := none
  quoteChar : Option Char := none
  stripHeader : Bool := false
  trimFields : Bool := false
  raw : Bool := false
  deriving DecidableEq, Repr

inductive Command
  | render (a : RenderArguments)
  | parse (a : ParseArguments)
  | renderers
  deriving DecidableEq, Repr

structure Arguments where
  logLevel : Option String := none
  command : Command
  deriving DecidableEq, Repr

namespace Slot

def help : Slot := ⟨"help", .question .help⟩
def version : Slot := ⟨"version", .question .version⟩
def logLevel : Slot := ⟨"log-level", .value .text⟩
def document : Slot := ⟨"document", .value .text⟩
def timeout : Slot := ⟨"timeout-ms", .value .milliseconds⟩
def base : Slot := ⟨"base", .value .url⟩
def noColor : Slot := ⟨"no-color", .flag⟩
def file : Slot := ⟨"file", .value .fileName⟩
def fieldSeparator : Slot := ⟨"field-sep", .value .character⟩
def recordSeparator : Slot := ⟨"record-sep", .value .text⟩
def quoteChar : Slot := ⟨"quote", .value .character⟩
def stripHeader : Slot := ⟨"strip-header", .flag⟩
def trimFields : Slot := ⟨"trim", .flag⟩
def raw : Slot := ⟨"raw", .flag⟩

end Slot

namespace Given

def text? (g : Given) (slot : Slot) : Option String :=
  g.lookup slot.name

def has (g : Given) (slot : Slot) : Bool :=
  (text? g slot).isSome

end Given

namespace Signature

def commandNames : List String :=
  ["render", "parse", "renderers", "help"]

-- The signature of a command. Its log level goes before that of the whole line.
def ofCommand (options : List Slot) (positional : Option Slot) : Signature where
  options := options ++ [Slot.logLevel, Slot.help]
  letters := [('h', Slot.help)]
  positional

def top : Signature where
  options := [Slot.logLevel, Slot.help, Slot.version]
  letters := [('h', Slot.help), ('V', Slot.version)]
  commands := commandNames

def render : Signature :=
  ofCommand [Slot.timeout, Slot.base, Slot.noColor] (some Slot.document)

def parse : Signature :=
  ofCommand [Slot.fieldSeparator, Slot.recordSeparator, Slot.quoteChar, Slot.stripHeader,
    Slot.trimFields, Slot.raw] (some Slot.file)

def renderers : Signature :=
  ofCommand [] none

end Signature

open Given

def RenderArguments.ofGiven (g : Given) : Except ArgumentError RenderArguments :=
  match text? g Slot.document with
  | none => .error .missingDocument
  | some document => .ok {
    document
    milliseconds := (text? g Slot.timeout).bind milliseconds?
    base := (text? g Slot.base).bind url?
    noColor := has g Slot.noColor }

def ParseArguments.ofGiven (g : Given) : ParseArguments where
  file := (text? g Slot.file).getD "-"
  fieldSeparator := (text? g Slot.fieldSeparator).bind character?
  recordSeparator := text? g Slot.recordSeparator
  quoteChar := (text? g Slot.quoteChar).bind character?
  stripHeader := has g Slot.stripHeader
  trimFields := has g Slot.trimFields
  raw := has g Slot.raw

namespace Arguments

-- The words after a command.
def ofCommand (name : String) (words : List String) : Except ArgumentError (Given × Command) :=
  match name with
  | "render" => do
    let g ← Reading.values Signature.render words
    return (g, .render (← RenderArguments.ofGiven g))
  | "parse" => do
    let g ← Reading.values Signature.parse words
    return (g, .parse (.ofGiven g))
  | "renderers" => do return (← Reading.values Signature.renderers words, .renderers)
  | _ =>
    match words with
    | [] => .error .help
    | [topic] => .error (if Signature.commandNames.contains topic then .help else .unknownCommand)
    | _ => .error .unknownCommand

-- A fault of the command goes before one of the words in front of it.
def ofWords (words : List String) : Except ArgumentError Arguments := do
  let (r, found) ← Reading.read Signature.top {} words
  match found with
  | none =>
    let r ← r.settle
    .error (if r.given.isEmpty then .nothingGiven else .noCommand)
  | some (name, rest) =>
    let (g, command) ← ofCommand name rest
    let r ← r.settle
    return { command, logLevel := (text? g Slot.logLevel).or (text? r.given Slot.logLevel) }

end Arguments
end TextCharts.CommandLine
