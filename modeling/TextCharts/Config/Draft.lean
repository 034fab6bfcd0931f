import TextCharts.Config.Error
import TextCharts.Delimited.Dialect
import TextCharts.Json.Basic

namespace TextCharts.Dialect

inductive Setting
  | fieldSeparator (c : Char)
  | recordSeparator (s : String)
  | quoteChar (c : Char)
  | stripHeader (on : Bool)
  | trimFields (on : Bool)
  deriving DecidableEq, Repr

structure Draft where
  fieldSeparator : Option Char := none
  recordSeparator : Option String := none
  quoteChar : Option Char := none
  stripHeader : Bool := false
  trimFields : Bool := false
  deriving DecidableEq, Repr

namespace Draft

def set (d : Draft) : Setting → Draft
  | .fieldSeparator c => { d with fieldSeparator := some c }
  | .recordSeparator s => { d with recordSeparator := some s }
  | .quoteChar c => { d with quoteChar := some c }
  | .stripHeader on => { d with stripHeader := on }
  | .trimFields on => { d with trimFields := on }

def ofSettings (settings : List Setting) : Draft :=
  settings.foldl set {}

def build (d : Draft) : Except ConfigError Dialect :=
  let defaults : Dialect := {}
  let recordSeparator := match d.recordSeparator with
    | none => defaults.recordSeparator
    | some s => if s.isEmpty then defaults.recordSeparator else s
  if 2 < recordSeparator.length then .error (.recordSeparatorLength recordSeparator.length)
  else .ok {
    fieldSeparator := d.fieldSeparator.getD defaults.fieldSeparator
    recordSeparator
    quoteChar := d.quoteChar.getD defaults.quoteChar
    stripHeader := d.stripHeader
    trimFields := d.trimFields }

end Draft

-- The options of a configuration as they are written there.
structure Spec where
  fieldSeparator : Option String := none
  recordSeparator : Option String := none
  quoteChar : Option String := none
  stripHeader : Bool := false
  trimFields : Bool := false
  deriving DecidableEq, Repr

namespace Spec

-- A text or nothing; anything else is refused.
def optionalText? : Option Json → Option (Option String)
  | none => some none
  | some .null => some none
  | some (.string s) => some (some s)
  | some _ => none

def flag? : Option Json → Option Bool
  | none => some false
  | some (.bool b) => some b
  | some _ => none

-- Reads the five options, each of which may be absent.
def read? (field record quote strip trim : Option Json) : Option Spec := do
  return {
    fieldSeparator := ← optionalText? field
    recordSeparator := ← optionalText? record
    quoteChar := ← optionalText? quote
    stripHeader := ← flag? strip
    trimFields := ← flag? trim }

-- From an object, or from a list of at most five values in the order of the fields.
def ofJson? : Json → Option Spec
  | .object entries =>
    let get := Json.Entries.get? entries
    read? (get "fieldSeparator") (get "recordSeparator") (get "quoteChar") (get "stripHeader")
      (get "trimFields")
  | .array items =>
    if 5 < items.length then none
    else read? items[0]? items[1]? items[2]? items[3]? items[4]?
  | _ => none

-- An empty text sets nothing.
def singleChar (key : String) : Option String → Except ConfigError (Option Char)
  | none => .ok none
  | some value =>
    match value.toList with
    | [] => .ok none
    | [c] => .ok (some c)
    | _ => .error (.notSingleChar key value)

def toDialect (s : Spec) : Except ConfigError Dialect := do
  let fieldSeparator ← singleChar "fieldSeparator" s.fieldSeparator
  let quoteChar ← singleChar "quoteChar" s.quoteChar
  Draft.build {
    fieldSeparator
    recordSeparator := s.recordSeparator
    quoteChar
    stripHeader := s.stripHeader
    trimFields := s.trimFields }

end Spec

-- The dialect that a configuration asks for.
def ofJson (options : Option Json) : Except ConfigError Dialect :=
  match options with
  | none => .ok {}
  | some value =>
    match Spec.ofJson? value with
    | none => .error .notJson
    | some spec => spec.toDialect

end TextCharts.Dialect
