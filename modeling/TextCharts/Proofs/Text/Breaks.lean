import TextCharts.Proofs.Table.Shown

namespace TextCharts.Text

-- The characters at which a line has to end: line feed, vertical tab, form feed, carriage return,
-- next line, and the separators of lines and of paragraphs.
def isBreak (c : Char) : Bool :=
  let n := c.toNat
  (10 ≤ n && n ≤ 13) || n == 0x85 || n == 0x2028 || n == 0x2029

-- The line breaks of a text, in their order.
def breaks (text : String) : List Char :=
  text.toList.filter isBreak

def OneLine (text : String) : Prop :=
  breaks text = []

instance (text : String) : Decidable (OneLine text) :=
  inferInstanceAs (Decidable (_ = _))

-- The line breaks of a text are those of some others, one after the other.
def Quotes (text : String) (quoted : List String) : Prop :=
  breaks text = quoted.flatMap breaks

variable {text opening ending : String} {quoted quoted' : List String} {chars : List Char}

theorem oneLine_iff : OneLine text ↔ ∀ c ∈ text.toList, ¬isBreak c := by
  rw [OneLine, breaks, List.filter_eq_nil_iff]

theorem breaks_append (opening ending : String) :
    breaks (opening ++ ending) = breaks opening ++ breaks ending := by
  rw [breaks, String.toList_append, List.filter_append, breaks, breaks]

theorem OneLine.append (opens : OneLine opening) (closes : OneLine ending) :
    OneLine (opening ++ ending) := by
  rw [OneLine, breaks_append, opens, closes, List.append_nil]

theorem oneLine_ofList (plain : ∀ c ∈ chars, ¬isBreak c) : OneLine (.ofList chars) :=
  oneLine_iff.mpr (String.toList_ofList.symm ▸ plain)

theorem isBlank_of_isBreak {c : Char} (ends : isBreak c) : isBlank c := by
  simp only [isBreak, isBlank, Bool.or_eq_true, Bool.and_eq_true, decide_eq_true_eq,
    beq_iff_eq] at ends ⊢
  omega

theorem not_isBreak_of_isPrinted {c : Char} (printed : isPrinted c) : ¬isBreak c :=
  mt isBlank_of_isBreak (not_isBlank_of_isPrinted printed)

theorem not_isBreak_of_mem_digitsOf {n : ℕ} {c : Char} (mem : c ∈ Decimal.digitsOf n) :
    ¬isBreak c := by
  apply not_isBreak_of_isPrinted
  rw [isPrinted, Decimal.isDigit_of_mem_digitsOf c mem]
  rfl

theorem oneLine_toString (n : ℕ) : OneLine (toString n) := by
  apply oneLine_ofList
  exact fun _ => not_isBreak_of_mem_digitsOf

theorem oneLine_plain (x : Float) : OneLine (Decimal.plain x) := by
  rw [Decimal.plain]
  split
  case h_1 => decide
  case h_2 negative _ => cases negative <;> decide
  case h_3 negative m e _ =>
    obtain ⟨_, _, spells⟩ := Decimal.positional_spells (Decimal.shortest .up m e)
    have plain : ∀ c ∈ (Decimal.shortest .up m e).positional, ¬isBreak c := fun c mem =>
      not_isBreak_of_isPrinted (spells.isPrinted c mem)
    apply oneLine_ofList
    cases negative with
    | true  => exact List.forall_mem_cons.mpr ⟨by decide, plain⟩
    | false => exact plain

namespace Quotes

theorem self (text : String) : Quotes text [text] :=
  (List.flatMap_singleton _ _).symm

theorem of_oneLine (plain : OneLine text) : Quotes text [] :=
  plain

theorem append (opens : Quotes opening quoted) (closes : Quotes ending quoted') :
    Quotes (opening ++ ending) (quoted ++ quoted') := by
  rw [Quotes, breaks_append, opens, closes, List.flatMap_append]

theorem after (quotes : Quotes text quoted) (opens : OneLine opening) :
    Quotes (opening ++ text) quoted :=
  (of_oneLine opens).append quotes

theorem before (quotes : Quotes text quoted) (closes : OneLine ending) :
    Quotes (text ++ ending) quoted := by
  rw [← List.append_nil quoted]
  exact quotes.append (of_oneLine closes)

theorem between (text : String) (opens : OneLine opening) (closes : OneLine ending) :
    Quotes (opening ++ text ++ ending) [text] :=
  ((self text).after opens).before closes

theorem oneLine_iff (quotes : Quotes text quoted) :
    OneLine text ↔ ∀ quote ∈ quoted, OneLine quote := by
  rw [OneLine, quotes, List.flatMap_eq_nil_iff]
  rfl

end Quotes
end TextCharts.Text
