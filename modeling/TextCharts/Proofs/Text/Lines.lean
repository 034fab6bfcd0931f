import TextCharts.Text.Line

namespace TextCharts.Text

variable {text : String} {lines : List String} {width : Nat}

-- The lines of a text, every one of which ends with a line feed.
def HasLines (text : String) (lines : List String) : Prop :=
  text.toList.splitOn '\n' = lines.map String.toList ++ [[]]

theorem toList_unlines_cons (line : String) (lines : List String) :
    (unlines (line :: lines)).toList = line.toList ++ '\n' :: (unlines lines).toList := by
  simp [unlines]

theorem unlines_append (lines lines' : List String) :
    unlines (lines ++ lines') = unlines lines ++ unlines lines' := by
  simp [unlines]

theorem hasLines_unlines (plain : ∀ line ∈ lines, '\n' ∉ line.toList) :
    HasLines (unlines lines) lines := by
  induction lines with
  | nil               => rfl
  | cons line rest hi =>
    have ⟨h, plain⟩ := List.forall_mem_cons.mp plain
    rw [HasLines, toList_unlines_cons, List.splitOn_append_cons_self_of_not_mem h, hi plain]
    rfl

theorem length_splitOn (text : List Char) :
    (text.splitOn '\n').length = text.count '\n' + 1 := by
  induction text with
  | nil            => rfl
  | cons c text hi =>
    rw [List.splitOn_cons_eq_if_modifyHead, List.count_cons]
    by_cases h : c = '\n' <;> simp [h, hi]

theorem HasLines.length_eq (has : HasLines text lines) :
    lines.length = text.toList.count '\n' := by
  have length := congrArg List.length has
  simp [length_splitOn] at length
  exact length.symm

theorem count_unlines_cons (line : String) (lines : List String) :
    (unlines (line :: lines)).toList.count '\n' =
      line.toList.count '\n' + 1 + (unlines lines).toList.count '\n' := by
  rw [toList_unlines_cons, List.count_append, List.count_cons_self]
  omega

theorem length_le_count (lines : List String) :
    lines.length ≤ (unlines lines).toList.count '\n' := by
  induction lines with
  | nil               => exact Nat.zero_le _
  | cons line rest hi =>
    rw [count_unlines_cons, List.length_cons]
    omega

-- A line feed within a line makes one more line of it.
theorem length_lt_count (broken : ∃ line ∈ lines, '\n' ∈ line.toList) :
    lines.length < (unlines lines).toList.count '\n' := by
  obtain ⟨line, mem, feed⟩ := broken
  obtain ⟨before, after, rfl⟩ := List.append_of_mem mem
  have := length_le_count before
  have := length_le_count after
  have := List.count_pos_iff.mpr feed
  rw [unlines_append, String.toList_append, List.count_append, count_unlines_cons,
    List.length_append, List.length_cons]
  omega

@[simp]
theorem length_blanks (n : Nat) : (blanks n).length = n := by
  simp [blanks]

@[simp]
theorem toList_blanks (n : Nat) : (blanks n).toList = List.replicate n ' ' := by
  simp [blanks]

@[simp]
theorem length_rule (n : Nat) : (rule n).length = n := by
  simp [rule]

@[simp]
theorem toList_rule (n : Nat) : (rule n).toList = List.replicate n '─' := by
  simp [rule]

theorem length_alignRight (fits : text.length ≤ width) :
    (alignRight width text).length = width := by
  simp [alignRight, fits]

theorem length_alignLeft (fits : text.length ≤ width) :
    (alignLeft width text).length = width := by
  simp [alignLeft, fits]

-- A text of some length that is a line or a part of one.
structure IsLine (width : Nat) (text : String) : Prop where
  length : text.length = width
  whole  : '\n' ∉ text.toList

theorem hasLines_of_isLine (isLine : ∀ line ∈ lines, IsLine width line) :
    HasLines (unlines lines) lines :=
  hasLines_unlines fun line mem => (isLine line mem).whole

theorem IsLine.append {width' : Nat} {text' : String} (line : IsLine width text)
    (line' : IsLine width' text') : IsLine (width + width') (text ++ text') where
  length := by simp [line.length, line'.length]
  whole  := by simp [line.whole, line'.whole]

theorem IsLine.between {left right : String} (line : IsLine width text) (hl : IsLine 1 left)
    (hr : IsLine 1 right) : IsLine (width + 2) (left ++ text ++ right) := by
  have parts := (hl.append line).append hr
  rwa [Nat.add_comm 1] at parts

theorem isLine_blanks (n : Nat) : IsLine n (blanks n) where
  length := length_blanks n
  whole  := by simp

theorem isLine_rule (n : Nat) : IsLine n (rule n) where
  length := length_rule n
  whole  := by simp

theorem isLine_alignRight (fits : text.length ≤ width) (whole : '\n' ∉ text.toList) :
    IsLine width (alignRight width text) where
  length := length_alignRight fits
  whole  := by simp [alignRight, whole]

theorem isLine_alignLeft (fits : text.length ≤ width) (whole : '\n' ∉ text.toList) :
    IsLine width (alignLeft width text) where
  length := length_alignLeft fits
  whole  := by simp [alignLeft, whole]

end TextCharts.Text
