import Mathlib.Data.List.Induction
import TextCharts.CommandLine.Program
import TextCharts.Proofs.Delimited.Rest
import TextCharts.Proofs.Page.Options

namespace TextCharts.Dialect

open CommandLine (ParseArguments unescape)

namespace Setting

def key : Setting → String
  | fieldSeparator _  => "fieldSeparator"
  | recordSeparator _ => "recordSeparator"
  | quoteChar _       => "quoteChar"
  | stripHeader _     => "stripHeader"
  | trimFields _      => "trimFields"

def fieldSeparator? : Setting → Option Char
  | fieldSeparator c => some c
  | _                => none

def recordSeparator? : Setting → Option String
  | recordSeparator s => some s
  | _                 => none

def quoteChar? : Setting → Option Char
  | quoteChar c => some c
  | _           => none

def stripHeader? : Setting → Option Bool
  | stripHeader on => some on
  | _              => none

def trimFields? : Setting → Option Bool
  | trimFields on => some on
  | _             => none

-- The last value that is set, of those that are looked for.
def last? {α : Type} (value? : Setting → Option α) (settings : List Setting) : Option α :=
  (settings.filterMap value?).getLast?

variable {α : Type} {value? : Setting → Option α} {settings settings' : List Setting}

theorem last?_append (setting : Setting) :
    last? value? (settings ++ [setting]) = (value? setting).or (last? value? settings) := by
  cases h : value? setting <;> simp [last?, List.filterMap_append, h]

theorem last?_filter {key : String} (only : ∀ a : Setting, a.key ≠ key → value? a = none) :
    last? value? (settings.filter (·.key = key)) = last? value? settings := by
  simp only [last?, List.filterMap_filter, decide_eq_true_eq]
  congr
  funext a
  split
  case isTrue    => rfl
  case isFalse h => exact (only a h).symm

end Setting

open Setting (last?)

-- What is set last for each field.
def Spec.ofSettings (settings : List Setting) : Spec where
  fieldSeparator  := (last? Setting.fieldSeparator? settings).map .singleton
  recordSeparator := last? Setting.recordSeparator? settings
  quoteChar       := (last? Setting.quoteChar? settings).map .singleton
  stripHeader     := (last? Setting.stripHeader? settings).getD false
  trimFields      := (last? Setting.trimFields? settings).getD false

-- What is given by the arguments of a command, where a record separator may hold escapes.
def Spec.ofArguments (a : ParseArguments) : Spec where
  fieldSeparator  := a.fieldSeparator.map .singleton
  recordSeparator := a.recordSeparator.map unescape
  quoteChar       := a.quoteChar.map .singleton
  stripHeader     := a.stripHeader
  trimFields      := a.trimFields

-- What is absent or empty takes the default.
inductive Takes (default : String) : Option String → String → Prop
  | absent : Takes default none default
  | empty  : Takes default (some "") default
  | given {s : String} (ne : s ≠ "") : Takes default (some s) s

structure Makes (spec : Spec) (d : Dialect) : Prop where
  fieldSeparator  : Takes "," spec.fieldSeparator (.singleton d.fieldSeparator)
  recordSeparator : Takes "\r\n" spec.recordSeparator d.recordSeparator
  length          : d.recordSeparator.length = 1 ∨ d.recordSeparator.length = 2
  quoteChar       : Takes "\"" spec.quoteChar (.singleton d.quoteChar)
  stripHeader     : d.stripHeader = spec.stripHeader
  trimFields      : d.trimFields = spec.trimFields

def AtMost (limit : Nat) (given : Option String) : Prop :=
  ∀ s, given = some s → s.length ≤ limit

def Longer (limit : Nat) (fault : String → ConfigError) (given : Option String)
    (e : ConfigError) : Prop :=
  ∃ s, given = some s ∧ limit < s.length ∧ e = fault s

-- What may be wrong with what is given, in the order in which it counts.
def Spec.faults (spec : Spec) : List (ConfigError → Prop) := [
  Longer 1 (.notSingleChar "fieldSeparator") spec.fieldSeparator,
  Longer 1 (.notSingleChar "quoteChar") spec.quoteChar,
  Longer 2 (fun s => .recordSeparatorLength s.length) spec.recordSeparator]

-- A scan looks for all characters of the record separator, and a row ends with the last of them.
structure Honoured (d : Dialect) : Prop where
  chars  : d.recordChars.1 :: d.recordChars.2.toList = d.recordSeparator.toList
  closes : d.recordChars.1 ≠ d.quoteChar → d.recordChars.1 ≠ d.fieldSeparator →
    ∀ s : Scan, s.place = .outside →
      d.recordSeparator.toList.foldl (Scan.step d) s = s.closeRow d

-- What is made of what is given, where the acceptable is accepted.
structure Built (spec : Spec) (acceptable : Prop) (result : Except ConfigError Dialect) :
    Prop where
  accepted : (∃ d, result = .ok d) ↔ acceptable
  made     : ∀ d, result = .ok d ↔ Makes spec d
  refused  : ∀ e, result = .error e ↔ First spec.faults e
  honoured : ∀ d, result = .ok d → Honoured d

variable {settings settings' : List Setting} {spec : Spec} {d : Dialect} {e : ConfigError}

namespace Draft

theorem ofSettings_append (setting : Setting) :
    ofSettings (settings ++ [setting]) = (ofSettings settings).set setting := by
  simp [ofSettings]

theorem ofSettings_eq : ofSettings settings = {
    fieldSeparator := last? Setting.fieldSeparator? settings
    recordSeparator := last? Setting.recordSeparator? settings
    quoteChar := last? Setting.quoteChar? settings
    stripHeader := (last? Setting.stripHeader? settings).getD false
    trimFields := (last? Setting.trimFields? settings).getD false } := by
  induction settings using List.reverseRecOn with
  | nil                            => rfl
  | append_singleton settings a hi =>
    rw [ofSettings_append, hi]
    simp only [Setting.last?_append]
    cases a <;> rfl

-- Settings of different fields may change places.
theorem ofSettings_congr
    (same : ∀ key, settings.filter (·.key = key) = settings'.filter (·.key = key)) :
    ofSettings settings = ofSettings settings' := by
  have last {α : Type} {value? : Setting → Option α} (key : String)
      (only : ∀ a : Setting, a.key ≠ key → value? a = none) :
      last? value? settings = last? value? settings' := by
    rw [← Setting.last?_filter only, same key, Setting.last?_filter only]
  rw [ofSettings_eq, ofSettings_eq, last "fieldSeparator" _, last "recordSeparator" _,
    last "quoteChar" _, last "stripHeader" _, last "trimFields" _]
  all_goals
    intro a other
    cases a <;> first | rfl | exact absurd rfl other

end Draft

section

variable {default s : String} {given : Option String}

theorem takes_none : Takes default none s ↔ default = s := by
  constructor
  case mp  => rintro ⟨⟩; rfl
  case mpr => rintro rfl; exact .absent

theorem takes_empty : Takes default (some "") s ↔ default = s := by
  constructor
  case mp  => rintro (_ | _ | ne) <;> trivial
  case mpr => rintro rfl; exact .empty

theorem takes_some {t : String} (ne : t ≠ "") : Takes default (some t) s ↔ t = s := by
  constructor
  case mp  => rintro (_ | _ | ne) <;> trivial
  case mpr => rintro rfl; exact .given ne

theorem takes_separator_iff : Takes "\r\n" given s ↔ Draft.separator given = s := by
  cases given with
  | none   => rw [takes_none, Draft.separator]
  | some t =>
    by_cases ht : t = ""
    case pos => simp [ht, takes_empty, Draft.separator]
    case neg => simp [takes_some, ht, Draft.separator]

theorem takes_char_iff (key : String) {default c : Char} :
    Takes (.singleton default) given (.singleton c) ↔
      ∃ char, Spec.singleChar key given = .ok char ∧ char.getD default = c := by
  cases given with
  | none   => simp [takes_none, Spec.singleChar]
  | some t =>
    simp only [Spec.singleChar_eq_ok_iff]
    by_cases ht : t = ""
    case pos => simp [ht, takes_empty]
    case neg => simp [takes_some, ht]

theorem separator_pos : 0 < (Draft.separator given).length := by
  cases given with
  | none   => decide
  | some t =>
    by_cases ht : t = ""
    case pos => simp only [ht, Draft.separator]; decide
    case neg => simp [Draft.separator, ht, Nat.pos_iff_ne_zero]

end

theorem atMost_iff {limit : Nat} {fault : String → ConfigError} {given : Option String} :
    (∀ e, ¬Longer limit fault given e) ↔ AtMost limit given := by
  constructor
  case mp  => exact fun absent s hs => Nat.not_lt.mp fun lt => absent _ ⟨s, hs, lt, rfl⟩
  case mpr => exact fun atMost e ⟨s, hs, lt, _⟩ => Nat.not_lt.mpr (atMost s hs) lt

theorem Makes.honoured (makes : Makes spec d) : Honoured d := by
  have chars : d.separator = d.recordSeparator.toList := by
    have := makes.length
    exact separator_eq (by omega) (by omega)
  exact {
    chars
    closes := fun hq hf _ outside => chars ▸ foldl_separator hq hf outside }

namespace Spec

theorem toDialect_makes_iff : spec.toDialect = .ok d ↔ Makes spec d := by
  rw [toDialect_eq_ok_iff, ← takes_char_iff, ← takes_char_iff, ← takes_separator_iff]
  constructor
  case mp =>
    intro ⟨fieldSeparator, ⟨recordSeparator, le⟩, quoteChar, strip, trim⟩
    have pos : 0 < (Draft.separator spec.recordSeparator).length := separator_pos
    rw [takes_separator_iff.mp recordSeparator] at pos
    exact {
      fieldSeparator, recordSeparator, quoteChar
      length := by omega
      stripHeader := strip.symm
      trimFields := trim.symm }
  case mpr =>
    intro ⟨field, record, length, quote, strip, trim⟩
    exact ⟨field, ⟨record, by omega⟩, quote, strip.symm, trim.symm⟩

theorem toDialect_refused_iff : spec.toDialect = .error e ↔ First spec.faults e := by
  refine bind_eq_error (fun _ => singleChar_eq_error_iff) fun _ _ => ?_
  refine bind_eq_error (fun _ => singleChar_eq_error_iff) fun _ _ => ?_
  simp [First, Longer, Draft.build_eq_error_iff]

theorem built (spec : Spec) :
    Built spec (AtMost 1 spec.fieldSeparator ∧ AtMost 1 spec.quoteChar ∧
      AtMost 2 spec.recordSeparator) spec.toDialect where
  accepted := by
    rw [exists_ok_iff fun _ => toDialect_refused_iff]
    simp [faults, atMost_iff]
  made _       := toDialect_makes_iff
  refused _    := toDialect_refused_iff
  honoured _ h := (toDialect_makes_iff.mp h).honoured

end Spec

theorem singleChar_singleton (key : String) (char : Option Char) :
    Spec.singleChar key (char.map .singleton) = .ok char := by
  cases char <;> simp [Spec.singleChar]

theorem atMost_singleton (char : Option Char) : AtMost 1 (char.map .singleton) := by
  cases char <;> simp [AtMost]

theorem Draft.build_eq_toDialect :
    (ofSettings settings).build = (Spec.ofSettings settings).toDialect := by
  simp only [ofSettings_eq, Spec.toDialect, Spec.ofSettings, singleChar_singleton]
  rfl

theorem Draft.built (settings : List Setting) :
    Built (.ofSettings settings) (AtMost 2 (last? Setting.recordSeparator? settings))
      (ofSettings settings).build := by
  have built := (Spec.ofSettings settings).built
  have field : AtMost 1 (Spec.ofSettings settings).fieldSeparator := atMost_singleton _
  have quote : AtMost 1 (Spec.ofSettings settings).quoteChar := atMost_singleton _
  simp only [field, quote, true_and] at built
  rw [build_eq_toDialect]
  exact built

theorem ofSettings_settings (a : ParseArguments) : Spec.ofSettings a.settings =
    { Spec.ofArguments a with stripHeader := a.stripHeader && a.raw } := by
  obtain ⟨_, _ | _, _ | _, _ | _, _, _, _⟩ := a <;> rfl

-- Whichever way is taken, all that is given is checked in the same order and then heeded. The
-- arguments of a command have a header stripped from raw rows only.
theorem built_on_all_routes :
    (∀ settings, Built (.ofSettings settings) (AtMost 2 (last? Setting.recordSeparator? settings))
      (Draft.ofSettings settings).build) ∧
    (∀ settings settings' : List Setting,
      (∀ key, settings.filter (·.key = key) = settings'.filter (·.key = key)) →
        Draft.ofSettings settings = Draft.ofSettings settings') ∧
    (∀ spec : Spec, Built spec (AtMost 1 spec.fieldSeparator ∧ AtMost 1 spec.quoteChar ∧
      AtMost 2 spec.recordSeparator) spec.toDialect) ∧
    ∀ a : ParseArguments, Built
      { Spec.ofArguments a with stripHeader := a.stripHeader && a.raw }
      (AtMost 2 (a.recordSeparator.map unescape)) a.dialect := by
  refine ⟨Draft.built, fun _ _ same => Draft.ofSettings_congr same, Spec.built, fun a => ?_⟩
  have built := Draft.built a.settings
  have record := congrArg Spec.recordSeparator (ofSettings_settings a)
  simp only [Spec.ofSettings, Spec.ofArguments] at record
  rwa [ofSettings_settings, record] at built

-- The table of typed cells needs the header, whether or not it is to be stripped.
theorem not_built_of_header_alone :
    ¬Built (.ofArguments { stripHeader := true }) (AtMost 2 none)
      (ParseArguments.dialect { stripHeader := true }) := by
  intro built
  have := ((built.made _).mp rfl).stripHeader
  contradiction

end TextCharts.Dialect
