import TextCharts.Page.Target
import TextCharts.Proofs.Page.Options

namespace TextCharts.Target.Config

-- A text configures a target if it is an object with a source and a renderer, and with options for
-- the dialect that describe one, if any. The object is kept as it is.
structure Configures (text : String) (config : Config) : Prop where
  object   : Json.read? text = some (.object config.options)
  source   : config.options.get? "csvSrc" = some (.string config.source)
  renderer : config.options.get? "csvGvType" = some (.string config.renderer)
  package  : ∀ s, config.package = some s ↔ config.options.get? "csvGvPackage" = some (.string s)
  dialect  : config.options.get? "csvOptions" = none ∧ config.dialect = {} ∨
    ∃ value given, config.options.get? "csvOptions" = some value ∧
      Dialect.given? value = some given ∧ Dialect.Describes given config.dialect

def Missing (key : String) (text : String) (e : ConfigError) : Prop :=
  ∃ entries, Json.read? text = some (.object entries) ∧
    (∀ s, Json.Entries.get? entries key ≠ some (.string s)) ∧ e = .missingField key

-- What may be wrong with a text, in the order in which it counts.
def faults (text : String) : List (ConfigError → Prop) := [
  fun e => Json.read? text = none ∧ e = .notJson,
  fun e => (∃ value, Json.read? text = some value ∧ ∀ entries, value ≠ .object entries) ∧
    e = .notAnObject,
  Missing "csvSrc" text,
  Missing "csvGvType" text,
  fun e => ∃ entries value, Json.read? text = some (.object entries) ∧
    Json.Entries.get? entries "csvOptions" = some value ∧ First (Dialect.faults value) e]

variable {text key s : String} {options : Json.Entries} {config : Config} {e : ConfigError}

theorem text?_eq_some_iff : text? options key = some s ↔ options.get? key = some (.string s) := by
  simp only [text?, Option.bind_eq_some_iff]
  constructor
  case mp =>
    intro ⟨value, found, hs⟩
    cases value <;> cases hs
    exact found
  case mpr => exact fun found => ⟨_, found, rfl⟩

theorem requireText_eq_ok_iff :
    requireText options key = .ok s ↔ options.get? key = some (.string s) := by
  rw [← text?_eq_some_iff, requireText]
  cases text? options key <;> simp

theorem requireText_eq_error_iff (read : Json.read? text = some (.object options)) :
    requireText options key = .error e ↔ Missing key text e := by
  have missing : (∀ s, options.get? key ≠ some (.string s)) ↔ text? options key = none := by
    simp [← text?_eq_some_iff, Option.eq_none_iff_forall_ne_some]
  simp only [Missing, read, Option.some.injEq, Json.object.injEq, exists_eq_left', missing,
    requireText]
  cases text? options key <;> simp [eq_comm]

theorem ofEntries_eq_ok_iff : ofEntries options = .ok config ↔
    options.get? "csvSrc" = some (.string config.source) ∧
      options.get? "csvGvType" = some (.string config.renderer) ∧
        text? options "csvGvPackage" = config.package ∧
          Dialect.ofJson (options.get? "csvOptions") = .ok config.dialect ∧
            options = config.options := by
  cases config
  simp only [ofEntries, bind_eq_ok, requireText_eq_ok_iff, sourceKey, rendererKey, packageKey,
    dialectKey, pure, Except.pure, Except.ok.injEq, mk.injEq]
  grind

theorem ofText_of_read (read : Json.read? text = some (.object options)) :
    ofText text = ofEntries options := by
  simp only [ofText, read]

theorem ofText_of_other {value : Json} (read : Json.read? text = some value)
    (other : ∀ entries, value ≠ .object entries) : ofText text = .error .notAnObject := by
  simp only [ofText, read]

theorem dialect_eq_ok_iff {given : Option Json} {d : Dialect} : Dialect.ofJson given = .ok d ↔
    given = none ∧ d = {} ∨
      ∃ value get, given = some value ∧ Dialect.given? value = some get ∧
        Dialect.Describes get d := by
  cases given with
  | none       => simp [Dialect.ofJson, eq_comm]
  | some value => simp [Dialect.ofJson_eq_ok_iff]

theorem ofText_eq_ok_iff : ofText text = .ok config ↔ Configures text config := by
  constructor
  case mp =>
    intro h
    cases read : Json.read? text with
    | none       => simp [ofText, read] at h
    | some value =>
      by_cases object : ∃ entries, value = .object entries
      case neg =>
        have other := ofText_of_other read fun entries hv => object ⟨entries, hv⟩
        rw [other] at h
        cases h
      case pos =>
        obtain ⟨options, rfl⟩ := object
        rw [ofText_of_read read] at h
        obtain ⟨source, renderer, package, dialect, rfl⟩ := ofEntries_eq_ok_iff.mp h
        exact {
          object   := read
          source   := source
          renderer := renderer
          package  := fun s => by rw [← package, text?_eq_some_iff]
          dialect  := dialect_eq_ok_iff.mp dialect }
  case mpr =>
    intro ⟨object, source, renderer, package, dialect⟩
    rw [ofText_of_read object]
    refine ofEntries_eq_ok_iff.mpr ⟨source, renderer, ?_, dialect_eq_ok_iff.mpr dialect, rfl⟩
    exact Option.ext fun s => text?_eq_some_iff.trans (package s).symm

theorem ofEntries_eq_error_iff (read : Json.read? text = some (.object options)) :
    ofEntries options = .error e ↔ First ((faults text).drop 2) e := by
  refine bind_eq_error (fun _ => requireText_eq_error_iff read) fun _ _ => ?_
  refine bind_eq_error (fun _ => requireText_eq_error_iff read) fun _ _ => ?_
  refine bind_eq_error (fun e => ?_) fun _ _ => by simp [First, pure, Except.pure]
  simp only [read, Option.some.injEq, Json.object.injEq, exists_and_left, exists_eq_left']
  cases given : options.get? "csvOptions" with
  | none       => simp [dialectKey, given, Dialect.ofJson]
  | some value => simp [dialectKey, given, Dialect.ofJson_eq_error_iff]

theorem ofText_eq_error_iff : ofText text = .error e ↔ First (faults text) e := by
  cases read : Json.read? text with
  | none       =>
    rw [faults, first_of_present ⟨read, rfl⟩]
    simp [ofText, read, eq_comm]
  | some value =>
    rw [faults, first_of_absent fun e h => by simp [read] at h]
    by_cases object : ∃ entries, value = .object entries
    case neg =>
      have other := fun entries hv => object ⟨entries, hv⟩
      rw [first_of_present ⟨⟨value, read, other⟩, rfl⟩, ofText_of_other read other]
      exact ⟨fun h => ⟨⟨value, read, other⟩, by cases h; rfl⟩, fun ⟨_, h⟩ => h ▸ rfl⟩
    case pos =>
      obtain ⟨options, rfl⟩ := object
      rw [first_of_absent fun e h => by simp [read] at h, ofText_of_read read]
      exact ofEntries_eq_error_iff read

end TextCharts.Target.Config
