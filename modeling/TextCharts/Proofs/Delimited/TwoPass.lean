import TextCharts.Proofs.Delimited.Rest

namespace TextCharts.Dialect

variable {d : Dialect} {c : Char} {o : Bool} {text : List Char}
  {piece marks : List (Char × Bool)}

-- A position is open if the number of quotes before it is even.
def isOpen (d : Dialect) (text : List Char) (position : Nat) : Bool :=
  (text.take position).count d.quoteChar % 2 == 0

def marked (d : Dialect) (text : List Char) : List (Char × Bool) :=
  text.mapIdx fun position c => (c, d.isOpen text position)

def atSeparator (d : Dialect) (marks : List (Char × Bool)) : Bool :=
  d.separator.isPrefixOf (marks.map (·.1))

-- Cuts from left to right. Where a field separator and a record separator both start, the former
-- counts, and what has been cut at is not looked at again.
def cut (d : Dialect) : List (Char × Bool) → Pieces (Char × Bool)
  | [] => .empty
  | (c, o) :: marks =>
    if o ∧ c = d.fieldSeparator then (d.cut marks).newField
    else if o ∧ d.atSeparator ((c, o) :: marks) then
      (d.cut (marks.drop (d.separator.length - 1))).newRow
    else (d.cut marks).push (c, o)
termination_by marks => marks.length
decreasing_by all_goals simp; try omega

-- Of a run of quotes every other one is left, not counting one that opens it.
def unquoted (quote : Char) : List (Char × Bool) → List Char
  | [] => []
  | (c, o) :: piece =>
    if c = quote then
      let run := 1 + (piece.takeWhile (·.1 == quote)).length
      .replicate ((if o then run - 1 else run) / 2) quote ++
        unquoted quote (piece.dropWhile (·.1 == quote))
    else c :: unquoted quote piece
termination_by piece => piece.length
decreasing_by
  · have := (List.dropWhile_suffix (l := piece) (·.1 == quote)).length_le
    simp only [List.length_cons]
    omega
  · simp

def reading (d : Dialect) (text : List Char) : List (List String) :=
  (d.cut (d.marked text)).toRows.map (·.map fun piece => .ofList (unquoted d.quoteChar piece))

-- The marks of a text whose first position is open or not.
def markedFrom (d : Dialect) (o : Bool) : List Char → List (Char × Bool)
  | [] => []
  | c :: text => (c, o) :: d.markedFrom (if c = d.quoteChar then !o else o) text

theorem isOpen_cons {position : Nat} : d.isOpen (c :: text) (position + 1) =
    if c = d.quoteChar then !d.isOpen text position else d.isOpen text position := by
  have parity (n : Nat) : ((n + 1) % 2 == 0) = !(n % 2 == 0) := by
    cases Nat.mod_two_eq_zero_or_one n with
    | inl h => simp [Nat.add_mod, h]
    | inr h => simp [Nat.add_mod, h]
  split
  case isTrue h  => simp [isOpen, h, parity]
  case isFalse h => simp [isOpen, h]

theorem markedFrom_eq :
    d.markedFrom o text = text.mapIdx fun position c => (c, o == d.isOpen text position) := by
  induction text generalizing o with
  | nil            => rfl
  | cons c text hi =>
    simp only [markedFrom, hi, List.mapIdx_cons, isOpen_cons]
    congr 1
    case e_head => simp [isOpen]
    case e_tail =>
      congr 1
      funext position c'
      split <;> simp

theorem marked_eq : d.marked text = d.markedFrom true text := by
  simp [marked, markedFrom_eq]

theorem markedFrom_quote :
    d.markedFrom o (d.quoteChar :: text) = (d.quoteChar, o) :: d.markedFrom (!o) text := by
  simp [markedFrom]

theorem markedFrom_data (h : c ≠ d.quoteChar) :
    d.markedFrom o (c :: text) = (c, o) :: d.markedFrom o text := by
  simp [markedFrom, h]

theorem map_fst_markedFrom : (d.markedFrom o text).map (·.1) = text := by
  induction text generalizing o with
  | nil            => rfl
  | cons c text hi => simp [markedFrom, hi]

theorem markedFrom_append {before : List Char} (h : d.quoteChar ∉ before) :
    d.markedFrom o (before ++ text) = before.map (·, o) ++ d.markedFrom o text := by
  induction before with
  | nil              => rfl
  | cons c before hi =>
    have ⟨hc, hb⟩ : d.quoteChar ≠ c ∧ d.quoteChar ∉ before := by simpa using h
    simp [markedFrom, hc.symm, hi hb]

theorem head?_markedFrom : (d.markedFrom o text).head? = text.head?.map (·, o) := by
  cases text <;> rfl

section

variable {q c : Char} {o : Bool} {piece : List (Char × Bool)}

theorem unquoted_nil : unquoted q [] = [] := by
  simp [unquoted]

theorem unquoted_data (h : c ≠ q) : unquoted q ((c, o) :: piece) = c :: unquoted q piece := by
  simp [unquoted, h]

theorem unquoted_run : unquoted q ((q, o) :: piece) =
    .replicate (((piece.takeWhile (·.1 == q)).length + if o then 0 else 1) / 2) q ++
      unquoted q (piece.dropWhile (·.1 == q)) := by
  rw [unquoted]
  cases o <;> simp [Nat.add_comm]

theorem unquoted_pair : unquoted q ((q, false) :: (q, true) :: piece) =
    q :: unquoted q ((q, true) :: piece) := by
  have half (n : Nat) : (n + 1 + 1) / 2 = n / 2 + 1 := by omega
  simp [unquoted_run, half, List.replicate_succ]

-- The first quote of an open run is not left, nor is a quote that stands alone.
theorem unquoted_open (h : ∀ o, piece.head? = some (q, o) → o = false) :
    unquoted q ((q, true) :: piece) = unquoted q piece := by
  match piece with
  | [] => simp [unquoted]
  | (c, o) :: piece =>
    by_cases hc : c = q
    case neg => simp [unquoted_run, hc]
    case pos =>
      subst hc
      cases h o rfl
      simp [unquoted_run]

theorem unquoted_alone (h : ∀ o, piece.head? ≠ some (q, o)) :
    unquoted q ((q, false) :: piece) = unquoted q piece := by
  match piece with
  | [] => simp [unquoted]
  | (c, o) :: piece =>
    have hc : c ≠ q := by simpa using h o
    simp [unquoted_run, hc]

end

theorem cut_closed : d.cut ((c, false) :: marks) = (d.cut marks).push (c, false) := by
  simp [cut]

theorem cut_data (hf : c ≠ d.fieldSeparator) (hs : ¬d.separator <+: c :: marks.map (·.1)) :
    d.cut ((c, true) :: marks) = (d.cut marks).push (c, true) := by
  simp [cut, atSeparator, hf, hs]

theorem cut_fieldSeparator :
    d.cut ((d.fieldSeparator, true) :: marks) = (d.cut marks).newField := by
  simp [cut]

theorem cut_separator (h : d.recordChars.1 ≠ d.fieldSeparator) :
    d.cut (d.separator.map (·, true) ++ marks) = (d.cut marks).newRow := by
  simp [separator, cut, atSeparator, h, Function.comp_def]

-- The first piece of a text starts with its first mark, or is empty.
theorem head?_cut (h : (d.cut marks).field.head? = some (c, o)) : marks.head? = some (c, o) := by
  unfold cut at h
  split at h
  case h_1 => simp [Pieces.empty] at h
  case h_2 =>
    split at h
    case isTrue => simp [Pieces.newField] at h
    case isFalse =>
      split at h
      case isTrue  => simp [Pieces.newRow] at h
      case isFalse => simpa [Pieces.push] using h

theorem head?_cut_markedFrom {o' : Bool}
    (h : (d.cut (d.markedFrom o text)).field.head? = some (c, o')) :
    text.head? = some c ∧ o = o' := by
  simpa [head?_markedFrom] using head?_cut h

-- What two passes make of a text whose first position is open or not. It is taken apart from the
-- left just as what one pass makes of it.
def pieces (d : Dialect) (o : Bool) (text : List Char) : Pieces Char :=
  (d.cut (d.markedFrom o text)).map (unquoted d.quoteChar)

theorem pieces_inside_data (hq : c ≠ d.quoteChar) :
    d.pieces false (c :: text) = (d.pieces false text).push c := by
  rw [pieces, markedFrom_data hq, cut_closed, Pieces.map_push (unquoted_data hq), pieces]

theorem pieces_inside_quote (hq : text.head? ≠ some d.quoteChar) :
    d.pieces false (d.quoteChar :: text) = d.pieces true text := by
  rw [pieces, markedFrom_quote, cut_closed, Bool.not_false]
  exact Pieces.map_push_eq (unquoted_alone fun _ h => hq (head?_cut_markedFrom h).1)

theorem pieces_data (hq : c ≠ d.quoteChar) (hf : c ≠ d.fieldSeparator)
    (hs : ¬d.separator <+: c :: text) :
    d.pieces true (c :: text) = (d.pieces true text).push c := by
  have hs : ¬d.separator <+: c :: (d.markedFrom true text).map (·.1) := by
    rwa [map_fst_markedFrom]
  rw [pieces, markedFrom_data hq, cut_data hf hs, Pieces.map_push (unquoted_data hq), pieces]

theorem pieces_fieldSeparator (hq : d.fieldSeparator ≠ d.quoteChar) :
    d.pieces true (d.fieldSeparator :: text) = (d.pieces true text).newField := by
  rw [pieces, markedFrom_data hq, cut_fieldSeparator, Pieces.map_newField unquoted_nil, pieces]

theorem pieces_separator (hq : d.quoteChar ∉ d.separator)
    (hf : d.recordChars.1 ≠ d.fieldSeparator) :
    d.pieces true (d.separator ++ text) = (d.pieces true text).newRow := by
  rw [pieces, markedFrom_append hq, cut_separator hf, Pieces.map_newRow unquoted_nil, pieces]

section

variable (hf : d.quoteChar ≠ d.fieldSeparator) (hs : d.quoteChar ∉ d.separator)
include hf hs

theorem cut_quote : d.cut ((d.quoteChar, true) :: marks) =
    (d.cut marks).push (d.quoteChar, true) := by
  refine cut_data hf fun h => hs ?_
  simp [separator, ← (List.cons_prefix_cons.mp h).1]

theorem pieces_quote : d.pieces true (d.quoteChar :: text) = d.pieces false text := by
  rw [pieces, markedFrom_quote, cut_quote hf hs, Bool.not_true]
  exact Pieces.map_push_eq (unquoted_open fun _ h => (head?_cut_markedFrom h).2.symm)

theorem pieces_inside_pair :
    d.pieces false (d.quoteChar :: d.quoteChar :: text) =
      (d.pieces false text).push d.quoteChar := by
  have h : (d.cut (d.markedFrom true (d.quoteChar :: text))).map (unquoted d.quoteChar) =
      d.pieces false text := pieces_quote hf hs
  rw [← h, pieces, markedFrom_quote, cut_closed, Bool.not_false, markedFrom_quote,
    cut_quote hf hs, Pieces.map_push unquoted_pair]

-- A place outside quotes is one whose next position is open, and one inside is one whose next
-- position is not. The other two places are passed over: a pair of characters is read at once.
theorem rest_eq : (text : List Char) →
    d.rest text .outside = d.pieces true text ∧ d.rest text .inside = d.pieces false text
  | [] => by simp [rest_nil, pieces, markedFrom, cut, Pieces.empty, Pieces.map, unquoted_nil]
  | c :: text => by
    obtain ⟨outside, inside⟩ := rest_eq text
    constructor
    case left =>
      by_cases hq : c = d.quoteChar
      case pos => rw [hq, rest_quote, inside, pieces_quote hf hs]
      case neg =>
        by_cases hc : c = d.fieldSeparator
        case pos => rw [hc, rest_fieldSeparator hf.symm, outside, pieces_fieldSeparator hf.symm]
        case neg =>
          by_cases hp : d.separator <+: c :: text
          case neg => rw [rest_data hq hc hp, outside, pieces_data hq hc hp]
          case pos =>
            have hl : d.recordChars.1 = c := (List.cons_prefix_cons.mp hp).1
            obtain ⟨text', ht⟩ := hp
            have outside' := (rest_eq text').1
            rw [← ht, rest_separator (hl ▸ hq) (hl ▸ hc), outside', pieces_separator hs (hl ▸ hc)]
    case right =>
      by_cases hq : c = d.quoteChar
      case neg => rw [rest_inside_data hq, inside, pieces_inside_data hq]
      case pos =>
        subst hq
        by_cases ht : text.head? = some d.quoteChar
        case neg => rw [rest_inside_quote ht, outside, pieces_inside_quote ht]
        case pos =>
          obtain ⟨text', ht⟩ := List.head?_eq_some_iff.mp ht
          have inside' := (rest_eq text').2
          rw [ht, rest_inside_pair, inside', pieces_inside_pair hf hs]
termination_by text => text.length
decreasing_by
  · simp
  · simp only [← ht, separator, List.cons_append, List.length_cons, List.length_append]
    omega
  · simp only [ht, List.length_cons]
    omega

theorem scan_eq_reading (ht : d.trimFields = false) : d.scan text = d.reading text := by
  simp [scan_eq, rest_eq hf hs, pieces, reading, marked_eq, closed, ht, Pieces.toRows_map,
    Function.comp_def]

-- The rows of a text are those of its reading, but for a last one that is short.
theorem parse_eq_reading (ht : d.trimFields = false) (hh : d.stripHeader = false)
    (text : String) :
    d.reading text.toList ≠ [] ∧
    (∀ row ∈ d.reading text.toList, row ≠ []) ∧
    d.parse text =
      if EndsShort (d.reading text.toList) then (d.reading text.toList).dropLast
      else d.reading text.toList := by
  rw [← scan_eq_reading hf hs ht]
  exact ⟨scan_ne_nil, fun _ => ne_nil_of_mem_scan, parse_eq hh⟩

end

-- Of three bars the first two part rows, and the last is data.
def bars : Dialect where
  recordSeparator := "||"

theorem bars_parse :
    bars.quoteChar ≠ bars.fieldSeparator ∧ bars.quoteChar ∉ bars.separator ∧
    bars.trimFields = false ∧ bars.stripHeader = false ∧
    bars.reading "a,\"\"\"||\"|||b".toList = [["a", "\"||"], ["|b"]] ∧
    bars.parse "a,\"\"\"||\"|||b" = [["a", "\"||"]] := by
  have hf : bars.quoteChar ≠ bars.fieldSeparator := by decide
  have hs : bars.quoteChar ∉ bars.separator := by decide
  have hr : bars.reading "a,\"\"\"||\"|||b".toList = [["a", "\"||"], ["|b"]] := by
    decide +kernel
  refine ⟨hf, hs, rfl, rfl, hr, ?_⟩
  rw [(parse_eq_reading hf hs rfl rfl _).2.2, hr]
  rfl

end TextCharts.Dialect
