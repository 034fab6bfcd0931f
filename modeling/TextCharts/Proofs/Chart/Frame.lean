import TextCharts.Chart.Frame
import TextCharts.Proofs.Text.Lines

namespace TextCharts

open Text (HasLines IsLine blanks rule)

section

variable {c : Char} {places n : Nat} {x : Float}

theorem not_mem_digitsOf (h : ¬c.isDigit) : c ∉ Decimal.digitsOf n := fun mem =>
  h (Nat.isDigit_of_mem_toDigits (by decide) (by decide) mem)

theorem not_mem_places (h : ¬c.isDigit) (point : c ≠ '.') : c ∉ Decimal.places places n := by
  have padded : c ∉ Decimal.zeros (places + 1 - (Decimal.digitsOf n).length) ++
      Decimal.digitsOf n := by
    have zero : c ≠ '0' := fun hc => h (hc ▸ rfl)
    simp [Decimal.zeros, List.mem_replicate, zero, not_mem_digitsOf h]
  simp only [Decimal.places]
  split
  · exact padded
  · simp only [List.mem_append, List.mem_cons, not_or]
    exact ⟨mt List.mem_of_mem_take padded, point, mt List.mem_of_mem_drop padded⟩

theorem feed_not_mem_fixed (places : Nat) (x : Float) : '\n' ∉ (Decimal.fixed places x).toList := by
  have infinite (negative : Bool) : '\n' ∉ (Decimal.infinity negative).toList := by
    cases negative <;> decide
  simp only [Decimal.fixed]
  split
  case h_1 => decide
  case h_2 => exact infinite _
  case h_3 negative m e _ =>
    have digits (n : Nat) : '\n' ∉ Decimal.places places n := not_mem_places (by decide) (by decide)
    cases negative <;> simp [Decimal.signed, digits]

end

namespace Chart

-- A text in the middle of a rule, or the rule alone if there is no text or no room for it.
inductive Centered (width : Nat) (text : String) : String → Prop
  | text {left right : Nat} (some : 1 ≤ text.length)
      (fills : left + 2 + text.length + 1 + right = width)
      (middle : right = left ∨ right = left + 1) :
      Centered width text (rule left ++ "  " ++ text ++ " " ++ rule right)
  | rule (none : text.length = 0 ∨ width < text.length + 3) : Centered width text (rule width)

-- The label of a row of a graph, which is set to the right: the ends of the range at the ends of
-- the graph, and blanks between.
def Labels (c : Chart) (index : Nat) (label : String) : Prop :=
  label.length = c.range.labelWidth 1 ∧ ∃ before, label = blanks before ++
    if index = 0 then Decimal.fixed 1 c.range.high
    else if index + 1 = c.height then Decimal.fixed 1 c.range.low
    else ""

-- What the lines of a frame are.
structure Framed (c : Chart) (rows lines : List String) : Prop where
  count  : lines.length = c.height + 4
  width  : ∀ line ∈ lines, line.length = c.width + c.range.labelWidth 1 + 3
  top    : ∃ title, Centered (c.width + c.range.labelWidth 1 + 1) c.title title ∧
    lines[0]? = some ("┌" ++ title ++ "┐")
  margin : ∀ index, index = 1 ∨ index = c.height + 2 →
    lines[index]? = some ("│" ++ blanks (c.width + c.range.labelWidth 1 + 1) ++ "│")
  graph  : ∀ index row, rows[index]? = some row →
    ∃ label, c.Labels index label ∧ lines[index + 2]? = some ("│" ++ label ++ " " ++ row ++ "│")
  bottom : ∃ subtitle,
    Centered (c.width + c.range.labelWidth 1 + 1) (c.subtitle.getD "") subtitle ∧
      lines[c.height + 3]? = some ("└" ++ subtitle ++ "┘")

variable {c : Chart} {rows : List String} {width : Nat} {text line : String}

theorem centered_centered (width : Nat) (text : String) :
    Centered width text (centered none width text) := by
  simp only [centered, Bool.or_eq_true, decide_eq_true_iff]
  split
  case isTrue h  => exact .rule (by omega)
  case isFalse h => exact .text (by omega) (by omega) (by omega)

theorem Centered.isLine (centered : Centered width text line) (whole : '\n' ∉ text.toList) :
    IsLine width line := by
  cases centered with
  | text _ fills =>
    have two : IsLine 2 "  " := ⟨rfl, by decide⟩
    have one : IsLine 1 " " := ⟨rfl, by decide⟩
    have text : IsLine text.length text := ⟨rfl, whole⟩
    exact fills ▸ ((((Text.isLine_rule _).append two).append text).append one).append
      (Text.isLine_rule _)
  | rule         => exact Text.isLine_rule width

theorem length_label_le (rows index : Nat) : (c.label rows index).length ≤ c.labelWidth := by
  simp only [label]
  split
  · exact Nat.le_max_right _ _
  · split
    · exact Nat.le_max_left _ _
    · exact Nat.zero_le _

theorem feed_not_mem_label (rows index : Nat) : '\n' ∉ (c.label rows index).toList := by
  simp only [label]
  split
  · exact feed_not_mem_fixed _ _
  · split
    · exact feed_not_mem_fixed _ _
    · simp

theorem graphLine_eq (plain : c.color = none) (rows index : Nat) (row : String) :
    c.graphLine rows row index =
      "│" ++ Text.alignRight c.labelWidth (c.label rows index) ++ " " ++ row ++ "│" := by
  rw [graphLine, plain]
  rfl

theorem isLine_border : IsLine 1 "│" :=
  ⟨rfl, by decide⟩

theorem graphLine_isLine (plain : c.color = none) (row : IsLine c.width text) (rows index : Nat) :
    IsLine (c.innerWidth + 2) (c.graphLine rows text index) := by
  have label : IsLine c.labelWidth (Text.alignRight c.labelWidth (c.label rows index)) :=
    Text.isLine_alignRight (length_label_le rows index) (feed_not_mem_label rows index)
  have parts := (((isLine_border.append label).append (Text.isLine_blanks gutterWidth)).append
    row).append isLine_border
  have width : 1 + c.labelWidth + gutterWidth + c.width + 1 = c.innerWidth + 2 := by
    rw [innerWidth]
    omega
  rw [graphLine, plain]
  exact width ▸ parts

theorem frameLines_isLine (plain : c.color = none) (title : '\n' ∉ c.title.toList)
    (subtitle : ∀ text, c.subtitle = some text → '\n' ∉ text.toList)
    (wide : ∀ row ∈ rows, IsLine c.width row) :
    ∀ line ∈ c.frameLines rows, IsLine (c.innerWidth + 2) line := by
  have margin := (Text.isLine_blanks c.innerWidth).between isLine_border isLine_border
  simp only [frameLines, plain, List.forall_mem_append, List.forall_mem_cons, List.forall_mem_map]
  refine ⟨⟨?top, margin, ?graph⟩, margin, ?bottom, by simp⟩
  case top    =>
    exact ((centered_centered _ _).isLine title).between ⟨rfl, by decide⟩ ⟨rfl, by decide⟩
  case graph  =>
    intro row mem
    exact graphLine_isLine plain (wide _ (List.fst_mem_of_mem_zipIdx mem)) _ _
  case bottom =>
    refine IsLine.between ?_ ⟨rfl, by decide⟩ ⟨rfl, by decide⟩
    cases given : c.subtitle with
    | none      => exact Text.isLine_rule _
    | some text => exact (centered_centered _ _).isLine (subtitle text given)

theorem frame_hasLines (plain : c.color = none) (title : '\n' ∉ c.title.toList)
    (subtitle : ∀ text, c.subtitle = some text → '\n' ∉ text.toList)
    (wide : ∀ row ∈ rows, IsLine c.width row) : HasLines (c.frame rows) (c.frameLines rows) :=
  Text.hasLines_of_isLine (frameLines_isLine plain title subtitle wide)

theorem labels_alignRight (c : Chart) (index : Nat) :
    c.Labels index (Text.alignRight c.labelWidth (c.label c.height index)) := by
  refine ⟨Text.length_alignRight (length_label_le c.height index), _, congrArg _ ?_⟩
  by_cases first : index = 0
  case pos => simp [label, first, labelPlaces]
  case neg =>
    have last : index = c.height - 1 ↔ index + 1 = c.height := by omega
    simp [label, first, last, labelPlaces]

-- Two lines stand before the graph, and two after it.
theorem frameLines_graph {index : Nat} {row : String} (place : rows[index]? = some row) :
    (c.frameLines rows)[index + 2]? = some (c.graphLine rows.length row index) := by
  have lt : index < rows.length := (List.getElem?_eq_some_iff.mp place).1
  simp only [frameLines, List.cons_append, List.getElem?_cons_succ]
  rw [List.getElem?_append_left (by simpa using lt)]
  simp [place]

theorem frameLines_margin :
    (c.frameLines rows)[rows.length + 2]? = some ("│" ++ blanks c.innerWidth ++ "│") := by
  simp only [frameLines, List.cons_append, List.getElem?_cons_succ]
  rw [List.getElem?_append_right (by simp)]
  simp

theorem frameLines_bottom (plain : c.color = none) : (c.frameLines rows)[rows.length + 3]? =
    some ("└" ++ centered none c.innerWidth (c.subtitle.getD "") ++ "┘") := by
  simp only [frameLines, plain, List.cons_append, List.getElem?_cons_succ]
  rw [List.getElem?_append_right (by simp)]
  cases c.subtitle <;> simp [centered]

theorem frameLines_framed (plain : c.color = none) (title : '\n' ∉ c.title.toList)
    (subtitle : ∀ text, c.subtitle = some text → '\n' ∉ text.toList) (tall : rows.length = c.height)
    (wide : ∀ row ∈ rows, IsLine c.width row) : Framed c rows (c.frameLines rows) where
  count  := by simp [frameLines, tall]
  width  := fun line mem => (frameLines_isLine plain title subtitle wide line mem).length
  top    := ⟨_, centered_centered _ _, by rw [frameLines, plain]; rfl⟩
  margin := by
    rintro _ (rfl | rfl)
    · rfl
    · exact tall ▸ frameLines_margin
  graph  := by
    intro index row place
    refine ⟨_, c.labels_alignRight index, ?_⟩
    rw [frameLines_graph place, tall, graphLine_eq plain]
  bottom := ⟨_, centered_centered _ _, tall ▸ frameLines_bottom plain⟩

-- The frame of a chart without colours is a rectangle of lines.
theorem frame_framed (plain : c.color = none) (title : '\n' ∉ c.title.toList)
    (subtitle : ∀ text, c.subtitle = some text → '\n' ∉ text.toList) (tall : rows.length = c.height)
    (wide : ∀ row ∈ rows, IsLine c.width row) :
    ∃ lines, HasLines (c.frame rows) lines ∧ Framed c rows lines :=
  ⟨_, frame_hasLines plain title subtitle wide, frameLines_framed plain title subtitle tall wide⟩

-- The last quarter in the red.
def quarter : Chart where
  title := "Q4"
  subtitle := some "a subtitle that has no room"
  range := ⟨-2.5, 10⟩
  width := 14
  height := 7
  color := none

theorem quarter_framed : ∃ lines,
    HasLines (quarter.frame (.replicate 7 "⣀⣀⣀⣀⣀⣀⣀⣀⣀⣀⣀⣀⣀⣀")) lines ∧
      Framed quarter (.replicate 7 "⣀⣀⣀⣀⣀⣀⣀⣀⣀⣀⣀⣀⣀⣀") lines := by
  have wide : ∀ row ∈ List.replicate 7 "⣀⣀⣀⣀⣀⣀⣀⣀⣀⣀⣀⣀⣀⣀", IsLine quarter.width row := by
    intro row mem
    exact (List.mem_replicate.mp mem).2 ▸ ⟨rfl, by decide⟩
  have subtitle : ∀ text, quarter.subtitle = some text → '\n' ∉ text.toList := by
    intro text h
    exact Option.some.inj h ▸ by decide
  exact frame_framed rfl (by decide) subtitle rfl wide

-- The default width of a chart is all that its samples need, or all that the terminal has.
theorem widthFor_spec {terminal label : Nat} (samples : Nat) (room : label + 18 ≤ terminal) :
    minWidth ≤ widthFor terminal samples label ∧
      widthFor terminal samples label + label + 3 < terminal ∧
        (samples ≤ widthFor terminal samples label * dotsAcross ∨
          widthFor terminal samples label + label + 4 = terminal) := by
  simp only [widthFor, minWidth, borderWidth, gutterWidth, dotsAcross]
  omega

-- The lines of every frame for a range end before the last column of a terminal. They end right
-- before it unless every sample has a half-column.
structure Suits (terminal samples : Nat) (range : Extent) (width : Nat) : Prop where
  wide   : minWidth ≤ width
  frames : ∀ (c : Chart) (rows : List String), c.color = none → c.range = range → c.width = width →
    '\n' ∉ c.title.toList → (∀ text, c.subtitle = some text → '\n' ∉ text.toList) →
      (∀ row ∈ rows, IsLine width row) → ∃ lines, HasLines (c.frame rows) lines ∧
        (∀ line ∈ lines, line.length < terminal) ∧
          (samples ≤ width * dotsAcross ∨ ∀ line ∈ lines, line.length + 1 = terminal)

theorem widthFor_suits (terminal samples : Nat) (range : Extent) :
    (range.labelWidth 1 + 18 ≤ terminal →
      Suits terminal samples range (widthFor terminal samples (range.labelWidth 1))) ∧
        (terminal < range.labelWidth 1 + 18 →
          widthFor terminal samples (range.labelWidth 1) = minWidth) := by
  constructor
  case left =>
    intro room
    have ⟨wide, short, full⟩ := widthFor_spec samples room
    refine ⟨wide, ?_⟩
    rintro c rows plain rfl width title subtitle lengths
    have isLine := frameLines_isLine plain title subtitle (width ▸ lengths)
    have length : c.innerWidth + 2 = c.width + c.range.labelWidth 1 + 3 := rfl
    refine ⟨_, frame_hasLines plain title subtitle (width ▸ lengths), ?short, full.imp_right ?full⟩
    case short =>
      intro line mem
      rw [(isLine line mem).length, length, width]
      exact short
    case full  =>
      intro full line mem
      rw [(isLine line mem).length, length, width]
      exact full
  case right =>
    intro narrow
    simp only [widthFor, minWidth, borderWidth, gutterWidth, dotsAcross]
    omega

theorem percents_suit : (⟨0, 100⟩ : Extent).labelWidth 1 + 18 ≤ 40 ∧
    Suits 40 1000 ⟨0, 100⟩ 31 ∧ 22 < (⟨0, 100⟩ : Extent).labelWidth 1 + 18 ∧
      widthFor 22 1000 5 = 14 := by
  have label : (⟨0, 100⟩ : Extent).labelWidth 1 = 5 := by decide +kernel
  have room : (⟨0, 100⟩ : Extent).labelWidth 1 + 18 ≤ 40 := by rw [label]; decide
  have narrow : 22 < (⟨0, 100⟩ : Extent).labelWidth 1 + 18 := by rw [label]; decide
  have suits := (widthFor_suits 40 1000 ⟨0, 100⟩).1 room
  have least := (widthFor_suits 22 1000 ⟨0, 100⟩).2 narrow
  rw [label] at suits least
  exact ⟨room, suits, narrow, least⟩

end Chart
end TextCharts
