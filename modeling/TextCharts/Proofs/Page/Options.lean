import TextCharts.Config.Draft
import TextCharts.Proofs.Steps

namespace TextCharts.Dialect

-- The keys in the order in which a list gives their values.
def optionKeys : List String :=
  ["fieldSeparator", "recordSeparator", "quoteChar", "stripHeader", "trimFields"]

-- The value that options give for each key, by name in an object and by place in a short list.
def given? : Json → Option (String → Option Json)
  | .object entries => some fun key => Json.Entries.get? entries key
  | .array items    =>
    if items.length ≤ 5 then some fun key => items[optionKeys.idxOf key]? else none
  | _               => none

-- What is absent, null or an empty text is left open.
inductive Unset : Option Json → Prop
  | absent : Unset none
  | null   : Unset (some .null)
  | empty  : Unset (some (.string ""))

inductive IsText : Option Json → Prop
  | absent            : IsText none
  | null              : IsText (some .null)
  | text (s : String) : IsText (some (.string s))

inductive IsFlag : Option Json → Bool → Prop
  | absent          : IsFlag none false
  | flag (b : Bool) : IsFlag (some (.bool b)) b

inductive IsChar (default : Char) : Option Json → Char → Prop
  | unset {value : Option Json} (unset : Unset value) : IsChar default value default
  | char (c : Char) : IsChar default (some (.string (.singleton c))) c

inductive IsSeparator : Option Json → String → Prop
  | unset {value : Option Json} (unset : Unset value) : IsSeparator value "\r\n"
  | text (s : String) (length : s.length = 1 ∨ s.length = 2) : IsSeparator (some (.string s)) s

structure Describes (given : String → Option Json) (d : Dialect) : Prop where
  fieldSeparator  : IsChar ',' (given "fieldSeparator") d.fieldSeparator
  recordSeparator : IsSeparator (given "recordSeparator") d.recordSeparator
  quoteChar       : IsChar '"' (given "quoteChar") d.quoteChar
  stripHeader     : IsFlag (given "stripHeader") d.stripHeader
  trimFields      : IsFlag (given "trimFields") d.trimFields

-- Every option is of a kind that it may have.
structure Kinds (given : String → Option Json) : Prop where
  fieldSeparator  : IsText (given "fieldSeparator")
  recordSeparator : IsText (given "recordSeparator")
  quoteChar       : IsText (given "quoteChar")
  stripHeader     : ∃ b, IsFlag (given "stripHeader") b
  trimFields      : ∃ b, IsFlag (given "trimFields") b

def TooLong (key : String) (limit : Nat) (fault : String → ConfigError) (value : Json)
    (e : ConfigError) : Prop :=
  ∃ given s, given? value = some given ∧ given key = some (.string s) ∧ limit < s.length ∧
    e = fault s

-- What may be wrong with options, in the order in which it counts.
def faults (value : Json) : List (ConfigError → Prop) := [
  fun e => (∀ given, given? value = some given → ¬Kinds given) ∧ e = .notJson,
  TooLong "fieldSeparator" 1 (.notSingleChar "fieldSeparator") value,
  TooLong "quoteChar" 1 (.notSingleChar "quoteChar") value,
  TooLong "recordSeparator" 2 (fun s => .recordSeparatorLength s.length) value]

namespace Draft

variable {draft : Draft} {d : Dialect} {e : ConfigError}

-- A record separator that is unset or empty takes the default.
def separator (s : Option String) : String :=
  match s with
  | none   => "\r\n"
  | some s => if s.isEmpty then "\r\n" else s

theorem build_eq : draft.build =
    if 2 < (separator draft.recordSeparator).length then
      .error (.recordSeparatorLength (separator draft.recordSeparator).length)
    else .ok {
      fieldSeparator := draft.fieldSeparator.getD ','
      recordSeparator := separator draft.recordSeparator
      quoteChar := draft.quoteChar.getD '"'
      stripHeader := draft.stripHeader
      trimFields := draft.trimFields } :=
  rfl

theorem build_eq_ok_iff : draft.build = .ok d ↔
    draft.fieldSeparator.getD ',' = d.fieldSeparator ∧
      (separator draft.recordSeparator = d.recordSeparator ∧ d.recordSeparator.length ≤ 2) ∧
        draft.quoteChar.getD '"' = d.quoteChar ∧ draft.stripHeader = d.stripHeader ∧
          draft.trimFields = d.trimFields := by
  rw [build_eq]
  cases d
  split <;> grind

theorem build_eq_error_iff : draft.build = .error e ↔
    ∃ s, draft.recordSeparator = some s ∧ 2 < s.length ∧ e = .recordSeparatorLength s.length := by
  have default : "\r\n".length = 2 := rfl
  rw [build_eq]
  cases draft.recordSeparator with
  | none   => simp [separator, default]
  | some s =>
    by_cases hs : s = ""
    case pos => simp [separator, hs, default]
    case neg => simp [separator, hs]; grind

end Draft

namespace Spec

variable {value : Option Json} {key : String} {text : Option String}

theorem optionalText?_eq_some_iff : optionalText? value = some text ↔
    (value = none ∨ value = some .null) ∧ text = none ∨
      ∃ s, value = some (.string s) ∧ text = some s := by
  rcases value with _ | _ | _ | _ | s | _ | _ <;> simp [optionalText?, eq_comm]

theorem isText_iff : IsText value ↔ ∃ text, optionalText? value = some text := by
  simp only [optionalText?_eq_some_iff]
  constructor
  case mp  => rintro (_ | _ | s) <;> simp
  case mpr =>
    rintro ⟨_, ⟨rfl | rfl, _⟩ | ⟨s, rfl, _⟩⟩
    · exact .absent
    · exact .null
    · exact .text s

theorem flag?_eq_some_iff {b : Bool} : flag? value = some b ↔ IsFlag value b := by
  constructor
  case mp =>
    intro h
    simp only [flag?] at h
    split at h
    · cases h; exact .absent
    · cases h; exact .flag b
    · contradiction
  case mpr => rintro (_ | b) <;> rfl

theorem singleChar_eq_ok_iff {s : String} {char : Option Char} :
    singleChar key (some s) = .ok char ↔
      s = "" ∧ char = none ∨ ∃ c, s = .singleton c ∧ char = some c := by
  simp only [← String.toList_inj, singleChar]
  rcases s.toList with _ | ⟨c, _ | ⟨c', l⟩⟩ <;> simp [eq_comm]

theorem singleChar_eq_error_iff {e : ConfigError} : singleChar key text = .error e ↔
    ∃ s, text = some s ∧ 1 < s.length ∧ e = .notSingleChar key s := by
  cases text with
  | none   => simp [singleChar]
  | some s =>
    simp only [Option.some.injEq, exists_eq_left', ← String.length_toList, singleChar]
    rcases s.toList with _ | ⟨c, _ | ⟨c', l⟩⟩ <;> simp [eq_comm]

theorem isChar_iff (key : String) {default c : Char} : IsChar default value c ↔
    ∃ text, optionalText? value = some text ∧
      ∃ char, singleChar key text = .ok char ∧ char.getD default = c := by
  simp only [optionalText?_eq_some_iff]
  constructor
  case mp =>
    rintro (unset | c)
    case unset => cases unset <;> simp [singleChar]
    case char  => simp [singleChar]
  case mpr =>
    rintro ⟨_, ⟨rfl | rfl, rfl⟩ | ⟨s, rfl, rfl⟩, char, hchar, rfl⟩
    case inl.inl => cases hchar; exact .unset .absent
    case inl.inr => cases hchar; exact .unset .null
    case inr =>
      obtain ⟨rfl, rfl⟩ | ⟨c, rfl, rfl⟩ := singleChar_eq_ok_iff.mp hchar
      · exact .unset .empty
      · exact .char c

theorem isSeparator_iff {s : String} : IsSeparator value s ↔
    ∃ text, optionalText? value = some text ∧ Draft.separator text = s ∧ s.length ≤ 2 := by
  have default : "\r\n".length = 2 := rfl
  simp only [optionalText?_eq_some_iff]
  constructor
  case mp =>
    rintro (unset | ⟨s, length⟩)
    case unset => cases unset <;> simp [Draft.separator, default]
    case text  =>
      have hs : s ≠ "" := by rintro rfl; simp at length
      have : s.length ≤ 2 := by omega
      simp [Draft.separator, hs, this]
  case mpr =>
    rintro ⟨_, ⟨rfl | rfl, rfl⟩ | ⟨t, rfl, rfl⟩, rfl, length⟩
    case inl.inl => exact .unset .absent
    case inl.inr => exact .unset .null
    case inr =>
      by_cases ht : t = ""
      case pos => subst ht; exact .unset .empty
      case neg =>
        have pos : t.length ≠ 0 := by simpa using ht
        simp only [Draft.separator, String.isEmpty_iff, ht, if_false] at length ⊢
        exact .text t (by omega)

variable {spec : Spec} {d : Dialect} {e : ConfigError}

theorem read?_eq_some_iff {field record quote strip trim : Option Json} :
    read? field record quote strip trim = some spec ↔
      optionalText? field = some spec.fieldSeparator ∧
        optionalText? record = some spec.recordSeparator ∧
          optionalText? quote = some spec.quoteChar ∧ flag? strip = some spec.stripHeader ∧
            flag? trim = some spec.trimFields := by
  cases spec
  simp only [read?, Option.pure_def, Option.bind_eq_bind, Option.bind_eq_some_iff,
    Option.some.injEq, mk.injEq]
  grind

theorem toDialect_eq_ok_iff : spec.toDialect = .ok d ↔
    (∃ c, singleChar "fieldSeparator" spec.fieldSeparator = .ok c ∧
        c.getD ',' = d.fieldSeparator) ∧
      (Draft.separator spec.recordSeparator = d.recordSeparator ∧
        d.recordSeparator.length ≤ 2) ∧
      (∃ c, singleChar "quoteChar" spec.quoteChar = .ok c ∧ c.getD '"' = d.quoteChar) ∧
      spec.stripHeader = d.stripHeader ∧ spec.trimFields = d.trimFields := by
  simp only [toDialect, bind_eq_ok, Draft.build_eq_ok_iff]
  grind

end Spec

section

variable {given : String → Option Json} {value : Json} {spec : Spec} {d : Dialect}

-- The five options as they are read.
def read? (given : String → Option Json) : Option Spec :=
  Spec.read? (given "fieldSeparator") (given "recordSeparator") (given "quoteChar")
    (given "stripHeader") (given "trimFields")

theorem ofJson?_eq : Spec.ofJson? value = (given? value).bind read? := by
  cases value with
  | object entries => rfl
  | array items    =>
    by_cases short : items.length ≤ 5
    case pos =>
      have := Nat.not_lt_of_le short
      simp [Spec.ofJson?, given?, short, this, read?, optionKeys, List.idxOf_cons]
    case neg => simp [Spec.ofJson?, given?, short]
  | _              => rfl

theorem kinds_iff : Kinds given ↔ ∃ spec, read? given = some spec := by
  simp only [read?, Spec.read?_eq_some_iff]
  constructor
  case mp =>
    intro ⟨field, record, quote, ⟨strip, hs⟩, ⟨trim, ht⟩⟩
    have ⟨field, hf⟩ := Spec.isText_iff.mp field
    have ⟨record, hr⟩ := Spec.isText_iff.mp record
    have ⟨quote, hq⟩ := Spec.isText_iff.mp quote
    exact ⟨⟨field, record, quote, strip, trim⟩, hf, hr, hq, Spec.flag?_eq_some_iff.mpr hs,
      Spec.flag?_eq_some_iff.mpr ht⟩
  case mpr =>
    intro ⟨spec, field, record, quote, strip, trim⟩
    exact {
      fieldSeparator  := Spec.isText_iff.mpr ⟨_, field⟩
      recordSeparator := Spec.isText_iff.mpr ⟨_, record⟩
      quoteChar       := Spec.isText_iff.mpr ⟨_, quote⟩
      stripHeader     := ⟨_, Spec.flag?_eq_some_iff.mp strip⟩
      trimFields      := ⟨_, Spec.flag?_eq_some_iff.mp trim⟩ }

theorem describes_iff :
    Describes given d ↔ ∃ spec, read? given = some spec ∧ spec.toDialect = .ok d := by
  simp only [read?, Spec.read?_eq_some_iff, Spec.toDialect_eq_ok_iff]
  constructor
  case mp =>
    intro ⟨field, record, quote, strip, trim⟩
    have ⟨field, hf, field'⟩ := (Spec.isChar_iff "fieldSeparator").mp field
    have ⟨record, hr, record'⟩ := Spec.isSeparator_iff.mp record
    have ⟨quote, hq, quote'⟩ := (Spec.isChar_iff "quoteChar").mp quote
    exact ⟨⟨field, record, quote, d.stripHeader, d.trimFields⟩,
      ⟨hf, hr, hq, Spec.flag?_eq_some_iff.mpr strip, Spec.flag?_eq_some_iff.mpr trim⟩,
      field', record', quote', rfl, rfl⟩
  case mpr =>
    intro ⟨spec, ⟨hf, hr, hq, hs, ht⟩, field, record, quote, strip, trim⟩
    exact {
      fieldSeparator  := (Spec.isChar_iff _).mpr ⟨_, hf, field⟩
      recordSeparator := Spec.isSeparator_iff.mpr ⟨_, hr, record⟩
      quoteChar       := (Spec.isChar_iff _).mpr ⟨_, hq, quote⟩
      stripHeader     := strip ▸ Spec.flag?_eq_some_iff.mp hs
      trimFields      := trim ▸ Spec.flag?_eq_some_iff.mp ht }

theorem tooLong_iff {key : String} {limit : Nat} {fault : String → ConfigError} {e : ConfigError}
    {text : Option String} (gives : given? value = some given)
    (reads : Spec.optionalText? (given key) = some text) :
    TooLong key limit fault value e ↔ ∃ s, text = some s ∧ limit < s.length ∧ e = fault s := by
  have same : ∀ s, given key = some (.string s) ↔ text = some s := by
    intro s
    obtain ⟨unset, rfl⟩ | ⟨t, ht, rfl⟩ := Spec.optionalText?_eq_some_iff.mp reads
    · obtain h | h := unset <;> simp [h]
    · simp [ht]
  simp [TooLong, gives, same]

theorem ofJson_eq_ok_iff : ofJson (some value) = .ok d ↔
    ∃ given, given? value = some given ∧ Describes given d := by
  simp only [ofJson, ofJson?_eq]
  cases given? value with
  | none       => simp
  | some given =>
    simp only [Option.bind_some, Option.some.injEq, exists_eq_left', describes_iff]
    cases read? given <;> simp

example : ofJson (some (.array [.string ";", .null, .string ""])) =
    .ok { fieldSeparator := ';' } :=
  rfl

theorem toDialect_eq_error_iff {e : ConfigError} (gives : given? value = some given)
    (reads : read? given = some spec) :
    spec.toDialect = .error e ↔ First (faults value).tail e := by
  have ⟨field, record, quote, _, _⟩ := Spec.read?_eq_some_iff.mp reads
  refine bind_eq_error (fun e => ?_) fun _ _ => bind_eq_error (fun e => ?_) fun _ _ => ?_
  · rw [tooLong_iff gives field, Spec.singleChar_eq_error_iff]
  · rw [tooLong_iff gives quote, Spec.singleChar_eq_error_iff]
  · simp [First, tooLong_iff gives record, Draft.build_eq_error_iff]

theorem ofJson_eq_error_iff {e : ConfigError} :
    ofJson (some value) = .error e ↔ First (faults value) e := by
  simp only [ofJson, ofJson?_eq]
  cases gives : given? value with
  | none       => simp [faults, First, gives, eq_comm]
  | some given =>
    have kinds : (∀ given, given? value = some given → ¬Kinds given) ↔ read? given = none := by
      simp [gives, kinds_iff, Option.eq_none_iff_forall_ne_some]
    cases reads : read? given with
    | none      =>
      rw [faults, first_of_present ⟨kinds.mpr reads, rfl⟩]
      simp [reads, kinds, eq_comm]
    | some spec =>
      rw [faults, first_of_absent fun e h => by simp [kinds.mp h.1] at reads]
      simp only [Option.bind_some, reads]
      exact toDialect_eq_error_iff gives reads

end
end TextCharts.Dialect
