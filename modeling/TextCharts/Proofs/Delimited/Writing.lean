import TextCharts.Proofs.Delimited.Rest

namespace TextCharts

def Pieces.prepend {α : Type} (content : List α) (p : Pieces α) : Pieces α :=
  { p with field := content ++ p.field }

namespace Dialect

variable {d : Dialect} {text : List Char}

-- The characters that mean themselves without quotes.
def Plain (d : Dialect) (c : Char) : Prop :=
  c ≠ d.quoteChar ∧ c ≠ d.fieldSeparator ∧ c ≠ d.recordChars.1

inductive Written (d : Dialect)
  | quoted (content : String)
  | bare (content : String) (plain : ∀ c ∈ content.toList, d.Plain c)

def doubled (d : Dialect) (content : List Char) : List Char :=
  content.flatMap fun c => if c = d.quoteChar then [c, c] else [c]

namespace Written

def content : Written d → String
  | quoted content | bare content _ => content

def chars : Written d → List Char
  | quoted content => d.quoteChar :: d.doubled content.toList ++ [d.quoteChar]
  | bare content _ => content.toList

end Written

def line (d : Dialect) (row : List (Written d)) : List Char :=
  [d.fieldSeparator].intercalate (row.map (·.chars))

def write (d : Dialect) (table : List (List (Written d))) : String :=
  .ofList (d.separator.intercalate (table.map d.line))

def contents (table : List (List (Written d))) : List (List String) :=
  table.map (·.map (·.content))

-- Any rows can be written, as quotes are always allowed.
theorem exists_contents_eq (rows : List (List String)) :
    ∃ table : List (List (Written d)), contents table = rows :=
  ⟨rows.map (·.map .quoted), by simp [contents, Written.content, Function.comp_def]⟩

-- What has been read has a row, and a field in every row.
theorem filled_of_contents_eq (hh : d.stripHeader = false) {text : String}
    {table : List (List (Written d))} (h : contents table = d.parse text) :
    table ≠ [] ∧ ∀ row ∈ table, row ≠ [] := by
  constructor
  case left =>
    rintro rfl
    exact parse_ne_nil hh h.symm
  case right =>
    intro row hrow he
    have hm : [] ∈ contents table := List.mem_map.mpr ⟨row, hrow, by simp [he]⟩
    exact ne_nil_of_mem_parse hh (h ▸ hm) rfl

theorem rest_doubled {content : List Char} (h : text.head? ≠ some d.quoteChar) :
    d.rest (d.doubled content ++ d.quoteChar :: text) .inside =
      (d.rest text .outside).prepend content := by
  induction content with
  | nil            => exact rest_inside_quote h
  | cons c content hi =>
    simp only [doubled, List.flatMap_cons] at hi ⊢
    split
    case isTrue hc  => subst hc; exact rest_inside_pair.trans (hi ▸ rfl)
    case isFalse hc => exact (rest_inside_data hc).trans (hi ▸ rfl)

theorem rest_plain {content : List Char} (h : ∀ c ∈ content, d.Plain c) :
    d.rest (content ++ text) .outside = (d.rest text .outside).prepend content := by
  induction content with
  | nil            => rfl
  | cons c content hi =>
    have ⟨⟨hq, hf, hr⟩, h⟩ := List.forall_mem_cons.mp h
    have hs : ¬d.separator <+: c :: (content ++ text) :=
      fun hp => hr (List.cons_prefix_cons.mp hp).1.symm
    exact (rest_data hq hf hs).trans (hi h ▸ rfl)

-- A field is over where a quote does not follow.
theorem rest_chars {w : Written d} (h : text.head? ≠ some d.quoteChar) :
    d.rest (w.chars ++ text) .outside = (d.rest text .outside).prepend w.content.toList := by
  cases w with
  | bare content plain => exact rest_plain plain
  | quoted content     =>
    have inside : d.rest (d.doubled content.toList ++ d.quoteChar :: text) .inside = _ :=
      rest_doubled h
    simpa [Written.chars, Written.content, rest_quote] using inside

section

variable (hf : d.quoteChar ≠ d.fieldSeparator) (hr : d.quoteChar ≠ d.recordChars.1)
  (hs : d.fieldSeparator ≠ d.recordChars.1)

include hf

-- A row is over where nothing is left of it: at the end, or where rows are parted.
theorem rest_line {w : Written d} {row : List (Written d)} (h : text.head? ≠ some d.quoteChar)
    (hfield : (d.rest text .outside).field = []) (hrow : (d.rest text .outside).row = []) :
    d.rest (d.line (w :: row) ++ text) .outside =
      ⟨w.content.toList, row.map (·.content.toList), (d.rest text .outside).rows⟩ := by
  induction row generalizing w with
  | nil            => simp [line, rest_chars h, Pieces.prepend, hfield, hrow]
  | cons w' row hi =>
    have hl : d.line (w :: w' :: row) ++ text =
        w.chars ++ d.fieldSeparator :: (d.line (w' :: row) ++ text) := by
      simp [line, List.intercalate_cons_cons]
    have hq : (d.fieldSeparator :: (d.line (w' :: row) ++ text)).head? ≠ some d.quoteChar := by
      simpa using hf.symm
    rw [hl, rest_chars hq, rest_fieldSeparator hf.symm, hi]
    simp [Pieces.prepend, Pieces.newField]

theorem rest_last_line {w : Written d} {row : List (Written d)} :
    d.rest (d.line (w :: row)) .outside = ⟨w.content.toList, row.map (·.content.toList), []⟩ := by
  have h : d.rest (d.line (w :: row) ++ []) .outside = _ := rest_line hf (by simp) rfl rfl
  rwa [List.append_nil] at h

include hr hs

theorem rest_line_separator {w : Written d} {row : List (Written d)} :
    d.rest (d.line (w :: row) ++ (d.separator ++ text)) .outside =
      ⟨w.content.toList, row.map (·.content.toList), (d.rest text .outside).toRows⟩ := by
  have next : d.rest (d.separator ++ text) .outside = (d.rest text .outside).newRow :=
    rest_separator hr.symm hs.symm
  have hq : (d.separator ++ text).head? ≠ some d.quoteChar := by
    simpa [separator] using hr.symm
  rw [rest_line hf hq, next]
  case _ => rfl
  all_goals rw [next]; rfl

theorem rest_write {table : List (List (Written d))} (hne : table ≠ [])
    (h : ∀ row ∈ table, row ≠ []) :
    (d.rest (d.separator.intercalate (table.map d.line)) .outside).toRows =
      table.map (·.map (·.content.toList)) := by
  induction table with
  | nil               => contradiction
  | cons row table hi =>
    have ⟨hrow, h⟩ := List.forall_mem_cons.mp h
    have ⟨w, ws, hw⟩ := List.exists_cons_of_ne_nil hrow
    cases table with
    | nil             => simp [hw, rest_last_line hf, Pieces.toRows]
    | cons row' table =>
      have hi := hi (List.cons_ne_nil _ _) h
      simp_all [List.intercalate_cons_cons, rest_line_separator hf hr hs, Pieces.toRows]

theorem scan_write (ht : d.trimFields = false) {table : List (List (Written d))}
    (hne : table ≠ []) (h : ∀ row ∈ table, row ≠ []) :
    d.scan (d.write table).toList = contents table := by
  simp [write, scan_eq, rest_write hf hr hs hne h, contents, closed, ht, Function.comp_def]

theorem parse_write_eq (ht : d.trimFields = false) (hh : d.stripHeader = false)
    {table : List (List (Written d))} (hne : table ≠ []) (h : ∀ row ∈ table, row ≠ []) :
    d.parse (d.write table) =
      if EndsShort (contents table) then (contents table).dropLast else contents table := by
  rw [parse_eq hh, scan_write hf hr hs ht hne h]

-- What has been written is read back, but for a last row that is short. So what has been read is
-- read again from whatever it is written to if and only if its last row is not short.
theorem parse_write (ht : d.trimFields = false) (hh : d.stripHeader = false) :
    (∀ table : List (List (Written d)), table ≠ [] → (∀ row ∈ table, row ≠ []) →
      d.parse (d.write table) =
        if EndsShort (contents table) then (contents table).dropLast else contents table) ∧
    (∀ (text : String) (table : List (List (Written d))), contents table = d.parse text →
      (d.parse (d.write table) = d.parse text ↔ ¬EndsShort (d.parse text))) ∧
    ∀ rows : List (List String), ∃ table : List (List (Written d)), contents table = rows := by
  refine ⟨fun _ => parse_write_eq hf hr hs ht hh, ?_, exists_contents_eq⟩
  intro text table h
  have ⟨hne, hrows⟩ := filled_of_contents_eq hh h
  rw [parse_write_eq hf hr hs ht hh hne hrows, h]
  split
  case isTrue hs  => simp [hs, hs.dropLast_ne]
  case isFalse hs => simp [hs]

end

-- The second of the two characters that part rows is a quote.
def clash : Dialect where
  recordSeparator := "|\""

theorem clash_parse_write :
    clash.quoteChar ≠ clash.fieldSeparator ∧ clash.quoteChar ≠ clash.recordChars.1 ∧
    clash.fieldSeparator ≠ clash.recordChars.1 ∧
    clash.trimFields = false ∧ clash.stripHeader = false ∧
    clash.parse "a,\"\"\"|\"|\"\"b\"" = [["a", "\"|"]] := by
  have hf : clash.quoteChar ≠ clash.fieldSeparator := by decide
  have hr : clash.quoteChar ≠ clash.recordChars.1 := by decide
  have hs : clash.fieldSeparator ≠ clash.recordChars.1 := by decide
  have ha : ∀ c ∈ "a".toList, clash.Plain c := by simp [Plain, clash, recordChars]
  have hw : clash.write [[.bare "a" ha, .quoted "\"|"], [.quoted "b"]] =
    "a,\"\"\"|\"|\"\"b\"" := rfl
  refine ⟨hf, hr, hs, rfl, rfl, ?_⟩
  rw [← hw, (parse_write hf hr hs rfl rfl).1 _ (by simp) (by simp)]
  rfl

end Dialect
end TextCharts
