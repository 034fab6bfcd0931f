import TextCharts.CommandLine.Program

namespace TextCharts.CommandLine

-- One pass over a text.
def expand : List Char → List Char
  | '\\' :: 'r' :: rest => '\r' :: expand rest
  | '\\' :: 'n' :: rest => '\n' :: expand rest
  | '\\' :: 't' :: rest => '\t' :: expand rest
  | c :: rest           => c :: expand rest
  | []                  => []

def replaceAll (order : List (Char × Char)) (text : List Char) : List Char :=
  order.foldl (fun text kind => replaceEscape kind.1 kind.2 text) text

-- The letters that make an escape of a backslash before them.
def letters : List Char :=
  escapes.map (·.1)

-- What a text consists of.
inductive Part
  | escape (letter : Char) (mem : letter ∈ letters)
  | plain (c : Char)

namespace Part

def written : Part → List Char
  | escape letter _ => ['\\', letter]
  | plain c         => [c]

def meaning : Part → Char
  | escape letter _ => (escapes.lookup letter).getD letter
  | plain c         => c

-- What becomes of a part when the escapes of a kind are replaced.
def replace (kind : Char × Char) : Part → Part
  | escape letter mem => if letter = kind.1 then plain kind.2 else escape letter mem
  | plain c           => plain c

def replaceAll (order : List (Char × Char)) (part : Part) : Part :=
  order.foldl (fun part kind => part.replace kind) part

end Part

-- Reads a text from the left.
def parts : List Char → List Part
  | []             => []
  | [c]            => [.plain c]
  | c :: d :: rest =>
    if h : c = '\\' ∧ d ∈ letters then .escape d h.2 :: parts rest
    else .plain c :: parts (d :: rest)

variable {kind : Char × Char} {letter c d : Char} {text rest : List Char}
  {order : List (Char × Char)} {part : Part}

-- No letter is a backslash, and no meaning is one or a letter.
theorem escapes_apart : ∀ kind ∈ escapes, kind.1 ≠ '\\' ∧ kind.2 ≠ '\\' ∧ kind.2 ∉ letters := by
  decide

theorem ne_backslash (mem : letter ∈ letters) : letter ≠ '\\' := by
  obtain ⟨kind, known, rfl⟩ := List.mem_map.mp mem
  exact (escapes_apart kind known).1

theorem parts_escape (mem : letter ∈ letters) :
    parts ('\\' :: letter :: rest) = .escape letter mem :: parts rest :=
  dif_pos ⟨rfl, mem⟩

theorem parts_plain (h : c = '\\' → ∀ d ∈ rest.head?, d ∉ letters) :
    parts (c :: rest) = .plain c :: parts rest := by
  cases rest with
  | nil         => rfl
  | cons d rest => exact dif_neg fun escape => h escape.1 d rfl escape.2

theorem replaceEscape_escape :
    replaceEscape kind.1 kind.2 ('\\' :: kind.1 :: rest) =
      kind.2 :: replaceEscape kind.1 kind.2 rest := by
  simp [replaceEscape]

theorem replaceEscape_plain (h : c = '\\' → rest.head? ≠ some kind.1) :
    replaceEscape kind.1 kind.2 (c :: rest) = c :: replaceEscape kind.1 kind.2 rest := by
  cases rest with
  | nil         => rfl
  | cons d rest =>
    apply if_neg
    simpa using h

-- What is put for escapes comes first only if it is put for the first one.
theorem head?_replaceEscape : ∀ d ∈ (replaceEscape kind.1 kind.2 text).head?,
    d = kind.2 ∨ d ∈ text.head? := by
  cases text with
  | nil         => simp [replaceEscape]
  | cons c rest =>
    by_cases escape : c = '\\' ∧ rest.head? = some kind.1
    case pos =>
      obtain ⟨rfl, head⟩ := escape
      obtain ⟨rest, rfl⟩ := List.head?_eq_some_iff.mp head
      simp [replaceEscape_escape]
    case neg => simp [replaceEscape_plain (not_and.mp escape)]

-- To replace the escapes of one kind makes no other one and destroys none.
theorem parts_replaceEscape (mem : kind ∈ escapes) :
    parts (replaceEscape kind.1 kind.2 text) = (parts text).map (Part.replace kind) := by
  have ⟨_, meaning, unlettered⟩ := escapes_apart kind mem
  have known : kind.1 ∈ letters := List.mem_map_of_mem mem
  induction text using parts.induct with
  | case1                    => rfl
  | case2 c                  => rfl
  | case3 c d rest escape hi =>
    obtain ⟨rfl, letter⟩ := escape
    rw [parts_escape letter, List.map_cons, ← hi, Part.replace]
    split
    case isTrue same   =>
      rw [same, replaceEscape_escape]
      exact parts_plain fun backslash => absurd backslash meaning
    case isFalse other =>
      rw [replaceEscape_plain, replaceEscape_plain]
      · exact parts_escape letter
      · exact fun backslash => absurd backslash (ne_backslash letter)
      · simpa using other
  | case4 c d rest plain hi  =>
    have plain : c = '\\' → d ∉ letters := fun backslash letter => plain ⟨backslash, letter⟩
    have other : c = '\\' → d ≠ kind.1 := fun backslash same => plain backslash (same ▸ known)
    rw [parts_plain (by simpa using plain), List.map_cons, ← hi, replaceEscape_plain]
    · refine parts_plain fun backslash e head => ?_
      cases head?_replaceEscape e head with
      | inl put   => exact put ▸ unlettered
      | inr first => cases first; exact plain backslash
    · simpa using other

theorem parts_replaceAll (known : ∀ kind ∈ order, kind ∈ escapes) :
    parts (replaceAll order text) = (parts text).map (Part.replaceAll order) := by
  induction order generalizing text with
  | nil                => exact (List.map_id _).symm
  | cons kind order hi =>
    have ⟨mem, known⟩ := List.forall_mem_cons.mp known
    have step : replaceAll (kind :: order) text =
        replaceAll order (replaceEscape kind.1 kind.2 text) := rfl
    simp [step, hi known, parts_replaceEscape mem, Part.replaceAll]

-- Nothing of a text is lost when it is read.
theorem flatMap_parts : (parts text).flatMap Part.written = text := by
  induction text using parts.induct with
  | case1                    => rfl
  | case2 c                  => rfl
  | case3 c d rest escape hi =>
    obtain ⟨rfl, letter⟩ := escape
    simp [parts_escape letter, hi, Part.written]
  | case4 c d rest plain hi  => simp [parts, plain, hi, Part.written]

-- Every escape is read as one, whatever stands before it.
theorem parts_append_escape (mem : letter ∈ letters) (before : List Char) :
    parts (before ++ '\\' :: letter :: rest) =
      parts before ++ .escape letter mem :: parts rest := by
  induction before using parts.induct with
  | case1                      => exact parts_escape mem
  | case2 c                    =>
    have backslash : '\\' ∉ letters := fun mem => ne_backslash mem rfl
    rw [List.singleton_append, parts_plain (by simpa using fun _ => backslash), parts_escape mem]
    rfl
  | case3 c d before escape hi =>
    obtain ⟨rfl, known⟩ := escape
    simp only [List.cons_append, parts_escape known, hi]
  | case4 c d before plain hi  =>
    simp only [List.cons_append] at hi
    simp [parts, plain, hi]

theorem expand_escape (mem : letter ∈ letters) :
    expand ('\\' :: letter :: rest) = (Part.escape letter mem).meaning :: expand rest := by
  have three : letter = 'r' ∨ letter = 'n' ∨ letter = 't' := by
    simpa [letters, escapes] using mem
  rcases three with rfl | rfl | rfl <;> rfl

theorem expand_plain (h : c = '\\' → ∀ d ∈ rest.head?, d ∉ letters) :
    expand (c :: rest) = c :: expand rest := by
  have known : 'r' ∈ letters ∧ 'n' ∈ letters ∧ 't' ∈ letters := by decide
  conv => lhs; unfold expand
  split <;> simp_all

theorem expand_eq : expand text = (parts text).map Part.meaning := by
  induction text using parts.induct with
  | case1                    => rfl
  | case2 c                  => exact expand_plain (by simp)
  | case3 c d rest escape hi =>
    obtain ⟨rfl, letter⟩ := escape
    simp [expand_escape letter, parts_escape letter, hi]
  | case4 c d rest plain hi  =>
    have plain : c = '\\' → d ∉ letters := fun backslash letter => plain ⟨backslash, letter⟩
    rw [expand_plain (by simpa using plain), parts_plain (by simpa using plain), hi]
    rfl

theorem lookup_eq : ∀ kind ∈ escapes, escapes.lookup kind.1 = some kind.2 := by
  decide

namespace Part

theorem replaceAll_plain : replaceAll order (plain c) = plain c := by
  induction order with
  | nil                => rfl
  | cons kind order hi => exact hi

-- The first kind that an escape is of replaces it for good.
theorem replaceAll_escape (mem : letter ∈ letters) (known : ∀ kind ∈ order, kind ∈ escapes)
    (named : letter ∈ order.map (·.1)) :
    replaceAll order (escape letter mem) = plain (escape letter mem).meaning := by
  induction order with
  | nil                => cases named
  | cons kind order hi =>
    have ⟨first, known⟩ := List.forall_mem_cons.mp known
    have step : replaceAll (kind :: order) (escape letter mem) =
        replaceAll order ((escape letter mem).replace kind) := rfl
    rw [step, replace]
    split
    case isTrue same   =>
      subst same
      rw [replaceAll_plain, meaning, lookup_eq kind first, Option.getD_some]
    case isFalse other => exact hi known ((List.mem_cons.mp named).resolve_left other)

theorem replaceAll_of_perm (perm : order.Perm escapes) (part : Part) :
    replaceAll order part = plain part.meaning := by
  cases part with
  | escape letter mem =>
    apply replaceAll_escape mem
    · exact fun kind mem => perm.mem_iff.mp mem
    · exact (perm.map _).mem_iff.mpr mem
  | plain c           => exact replaceAll_plain

end Part

-- Whatever the order is, the meanings take the place of all escapes.
theorem replaceAll_eq (perm : order.Perm escapes) : replaceAll order text = expand text := by
  calc replaceAll order text
    _ = (parts (replaceAll order text)).flatMap Part.written := flatMap_parts.symm
    _ = (parts text).flatMap fun part => (Part.replaceAll order part).written := by
      rw [parts_replaceAll fun kind mem => perm.mem_iff.mp mem, List.flatMap_map]
    _ = (parts text).flatMap fun part => [part.meaning] := by
      simp only [Part.replaceAll_of_perm perm, Part.written]
    _ = expand text := by rw [expand_eq, List.map_eq_flatMap]

-- One pass is enough, in whatever order the kinds of escapes are replaced: the escapes of a text
-- are the parts that it is read as, and each replacement changes those of its kind alone.
theorem unescape_expands :
    (∀ s, (unescape s).toList = expand s.toList) ∧
    (∀ order, order.Perm escapes → ∀ text, replaceAll order text = expand text) ∧
    (∀ kind ∈ escapes, ∀ text,
      parts (replaceEscape kind.1 kind.2 text) = (parts text).map (Part.replace kind)) ∧
    ∀ text, (parts text).flatMap Part.written = text ∧ ∀ letter mem before after,
      text = before ++ '\\' :: letter :: after →
        parts text = parts before ++ .escape letter mem :: parts after := by
  refine ⟨fun s => ?once, fun order perm text => replaceAll_eq perm,
    fun kind mem text => parts_replaceEscape mem, fun text => ⟨flatMap_parts, ?every⟩⟩
  case once  => exact String.toList_ofList.trans (replaceAll_eq (.refl escapes))
  case every =>
    rintro letter mem before after rfl
    exact parts_append_escape mem before

example : unescape "\\\\n\\\\\\t\\x" = "\\\n\\\\\t\\x" := by
  decide

end TextCharts.CommandLine
