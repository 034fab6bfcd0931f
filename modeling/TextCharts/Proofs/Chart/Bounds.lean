import TextCharts.Proofs.Chart.Samples
import TextCharts.Proofs.Double.Half

namespace TextCharts

namespace Extent

open Double

variable {e : Extent} {values : List Float} {x : Float}

-- An extent with all finite values in it, whose ends are finite too.
structure Encloses (e : Extent) (values : List Float) : Prop where
  low     : e.low.isFinite
  high    : e.high.isFinite
  low_le  : ∀ v ∈ values, v.isFinite → e.low ≤ v
  le_high : ∀ v ∈ values, v.isFinite → v ≤ e.high

-- Some values are finite, and these are all the same large even number.
def Flat (values : List Float) : Prop :=
  (∃ v ∈ values, v.isFinite) ∧
    ∃ n : ℤ, 2 ^ 51 < |n| ∧ ∀ v ∈ values, v.isFinite → value v = 2 * n

def widened (e : Extent) : Extent :=
  ⟨e.low - 0.5, e.high + 0.5⟩

theorem Encloses.widened (encloses : e.Encloses values) : e.widened.Encloses values := by
  have down := equals_sub_half encloses.low
  have up := equals_add_half encloses.high
  refine ⟨down.finite, up.finite, fun v mem hv => ?_, fun v mem hv => ?_⟩
  · have le := (le_iff_of_isFinite encloses.low hv).mp (encloses.low_le v mem hv)
    refine (le_iff_of_isFinite down.finite hv).mpr ?_
    rw [down.value]
    exact (onGrid_value _).rounded_sub_le.trans le
  · have le := (le_iff_of_isFinite hv encloses.high).mp (encloses.le_high v mem hv)
    refine (le_iff_of_isFinite hv up.finite).mpr ?_
    rw [up.value]
    exact le.trans (onGrid_value _).le_rounded_add

theorem isNarrow_of_eq (hl : e.low.isFinite) (hh : e.high.isFinite)
    (same : value e.low = value e.high) : e.isNarrow := by
  have none := equals_sub_self hh hl same.symm
  have ⟨number, eq⟩ := value_abs none.number
  rw [none.value, abs_zero] at eq
  have positive : 0 < epsilon := by decide +kernel
  have finite : epsilon.isFinite := by decide +kernel
  rw [lt_iff_of_isFinite equals_zero.finite finite, equals_zero.value] at positive
  exact decide_eq_true ((lt_iff_value number (isNumber_of_isFinite finite)).mpr (eq ▸ positive))

-- The ends of all finite values.
structure Ends (e : Extent) (values : List Float) : Prop extends e.Encloses values where
  low_mem  : e.low ∈ values
  high_mem : e.high ∈ values

theorem Spans.ends (spans : e.Spans (values.filter Float.isFinite)) : e.Ends values where
  low      := spans.finite _ spans.low_mem
  high     := spans.finite _ spans.high_mem
  low_le   := fun v mem hv => spans.low_le v (List.mem_filter.mpr ⟨mem, hv⟩)
  le_high  := fun v mem hv => spans.le_high v (List.mem_filter.mpr ⟨mem, hv⟩)
  low_mem  := (List.mem_filter.mp spans.low_mem).1
  high_mem := (List.mem_filter.mp spans.high_mem).1

theorem Ends.flat_iff (ends : e.Ends values) :
    Flat values ↔ value e.low = value e.high ∧ Stiff (value e.low) := by
  constructor
  case mp =>
    intro ⟨_, n, large, same⟩
    have low := same e.low ends.low_mem ends.low
    exact ⟨low.trans (same e.high ends.high_mem ends.high).symm, n, large, low⟩
  case mpr =>
    intro ⟨same, n, large, low⟩
    refine ⟨⟨e.low, ends.low_mem, ends.low⟩, n, large, fun v mem hv => ?_⟩
    have above := (le_iff_of_isFinite ends.low hv).mp (ends.low_le v mem hv)
    have below := (le_iff_of_isFinite hv ends.high).mp (ends.le_high v mem hv)
    exact (le_antisymm (same ▸ below) above).trans low

theorem Ends.le (ends : e.Ends values) : value e.low ≤ value e.high :=
  (le_iff_of_isFinite ends.low ends.high).mp (ends.le_high e.low ends.low_mem ends.low)

theorem Ends.widened_lt_iff (ends : e.Ends values) :
    e.widened.low < e.widened.high ↔ ¬Flat values := by
  have down := equals_sub_half ends.low
  have up := equals_add_half ends.high
  have grid := onGrid_value e.low
  have lt : e.widened.low < e.widened.high ↔
      rounded (value e.low - 1 / 2) < rounded (value e.high + 1 / 2) := by
    rw [← down.value, ← up.value]
    exact lt_iff_of_isFinite down.finite up.finite
  rw [lt, ends.flat_iff]
  rcases ends.le.lt_or_eq with apart | same
  case inl =>
    have room : rounded (value e.low - 1 / 2) < rounded (value e.high + 1 / 2) :=
      calc rounded (value e.low - 1 / 2)
        _ ≤ value e.low                    := grid.rounded_sub_le
        _ < value e.high                   := apart
        _ ≤ rounded (value e.high + 1 / 2) := (onGrid_value e.high).le_rounded_add
    exact iff_of_true room fun flat => apart.ne flat.1
  case inr =>
    rw [← same]
    constructor
    case mp  =>
      intro room ⟨_, stiff⟩
      have low := stiff.rounded_eq (x := value e.low - 1 / 2) grid (by
        rw [sub_sub_cancel, abs_of_pos (by norm_num)])
      have high := stiff.rounded_eq (x := value e.low + 1 / 2) grid (by
        rw [sub_add_cancel_left, abs_neg, abs_of_pos (by norm_num)])
      exact room.ne (low.trans high.symm)
    case mpr => exact fun loose => grid.rounded_lt fun stiff => loose ⟨rfl, stiff⟩

theorem ofValues_encloses (values : List Float) : (ofValues values).Encloses values ∧
    ((ofValues values).low < (ofValues values).high ↔ ¬Flat values) := by
  rw [ofValues]
  cases h : ofValues? values with
  | none   =>
    have none := ofValues?_eq_none.mp h
    have unit : (0 : Float) < 1 := by decide +kernel
    refine ⟨⟨by decide +kernel, by decide +kernel, ?_, ?_⟩, iff_of_true unit ?_⟩
    · exact fun v mem hv => absurd hv (none v mem)
    · exact fun v mem hv => absurd hv (none v mem)
    · exact fun ⟨⟨v, mem, hv⟩, _⟩ => none v mem hv
  | some e =>
    have ends := (ofValues?_spans h).ends
    by_cases narrow : e.isNarrow
    case pos =>
      simp only [narrow, if_true]
      exact ⟨ends.toEncloses.widened, ends.widened_lt_iff⟩
    case neg =>
      simp only [narrow]
      have apart : value e.low ≠ value e.high := fun same =>
        narrow (isNarrow_of_eq ends.low ends.high same)
      have lt := (lt_iff_of_isFinite ends.low ends.high).mpr (lt_of_le_of_ne ends.le apart)
      exact ⟨ends.toEncloses, iff_of_true lt fun flat => apart (ends.flat_iff.mp flat).1⟩

end Extent

namespace Chart

open Double Extent

variable {α β : Type} {terminal : ℕ} {fill : Fill} {style : Style} {options : Options}
variable {values : List Float}

-- Whatever is at fault, it is not the range.
def RangeFits (result : Except DrawError α) : Prop :=
  ∀ low high, result ≠ .error (.invalidRange low high)

theorem RangeFits.ok (a : α) : RangeFits (.ok a) := by
  simp [RangeFits]

theorem RangeFits.bind {first : Except DrawError α} {next : α → Except DrawError β}
    (here : RangeFits first) (there : ∀ a, first = .ok a → RangeFits (next a)) :
    RangeFits (first >>= next) := by
  cases first with
  | ok a    => exact there a rfl
  | error e =>
    intro low high eq
    cases eq
    exact here low high rfl

theorem series_rangeFits (table : Table) (options : Options) :
    RangeFits (series table options) := by
  intro low high
  simp only [series]
  repeat' split
  all_goals simp

theorem read?_rangeFits (kind : OptionKind) (read : Json → Option α) (options : Options)
    (key : String) : RangeFits (options.read? kind read key) := by
  intro low high
  simp only [Options.read?]
  repeat' split
  all_goals simp

theorem colorOf_rangeFits (style : Style) (options : Options) :
    RangeFits (colorOf style options) := by
  intro low high
  simp only [colorOf]
  repeat' split
  all_goals simp

theorem Draft.build_rangeFits {d : Draft} (lt : d.range.low < d.range.high) :
    RangeFits d.build := by
  refine RangeFits.bind ?size fun _ _ => RangeFits.bind ?range fun _ _ => .ok _
  case size =>
    intro low high
    simp only [checkSize]
    repeat' split
    all_goals simp
  case range =>
    rw [checkRange, if_pos lt]
    exact .ok ()

theorem plot_rangeFits (c : Chart) (fill : Fill) (values : List Float) :
    RangeFits (c.plot fill values) := by
  refine RangeFits.bind ?_ fun _ _ => .ok _
  intro low high
  simp only [trace]
  repeat' split
  all_goals simp

theorem ofOptions_rangeFits (low : options.number? "yMin" = .ok none)
    (high : options.number? "yMax" = .ok none) (name : String) (room : ¬Flat values) :
    RangeFits (ofOptions style options name values terminal) := by
  refine RangeFits.bind (read?_rangeFits _ _ options _) fun asked asks => ?_
  cases low.symm.trans asks
  refine RangeFits.bind (read?_rangeFits _ _ options _) fun asked asks => ?_
  cases high.symm.trans asks
  refine RangeFits.bind (read?_rangeFits _ _ options _) fun _ _ => ?_
  refine RangeFits.bind (read?_rangeFits _ _ options _) fun _ _ => ?_
  refine RangeFits.bind (colorOf_rangeFits style options) fun _ _ => ?_
  exact Draft.build_rangeFits ((ofValues_encloses values).2.mpr room)

theorem draw_rangeFits {table : Table} {index : ℕ} {column : Column}
    (low : options.number? "yMin" = .ok none) (high : options.number? "yMax" = .ok none)
    (drawn : series table options = .ok (index, column)) (room : ¬Flat (table.numbers index)) :
    RangeFits (draw fill style table options terminal) := by
  refine RangeFits.bind (series_rangeFits table options) fun found finds => ?_
  cases drawn.symm.trans finds
  simp only
  split
  · intro low high eq
    cases eq
  · exact RangeFits.bind (ofOptions_rangeFits low high _ room) fun c _ => plot_rangeFits c fill _

theorem not_drawn_of_flat {table : Table} {index : ℕ} {column : Column} {text : String}
    (low : options.number? "yMin" = .ok none) (high : options.number? "yMax" = .ok none)
    (drawn : series table options = .ok (index, column)) (flat : Flat (table.numbers index)) :
    draw fill style table options terminal ≠ .ok text := by
  intro done
  obtain ⟨found, finds, done⟩ := bind_eq_ok.mp done
  cases drawn.symm.trans finds
  simp only at done
  split at done
  · contradiction
  · obtain ⟨c, made, _⟩ := bind_eq_ok.mp done
    obtain ⟨asked, asks, made⟩ := bind_eq_ok.mp made
    cases low.symm.trans asks
    obtain ⟨asked, asks, made⟩ := bind_eq_ok.mp made
    cases high.symm.trans asks
    obtain ⟨_, _, made⟩ := bind_eq_ok.mp made
    obtain ⟨_, _, made⟩ := bind_eq_ok.mp made
    obtain ⟨_, _, built⟩ := bind_eq_ok.mp made
    obtain ⟨_, _, built⟩ := bind_eq_ok.mp built
    obtain ⟨_, range, _⟩ := bind_eq_ok.mp built
    have empty := mt (ofValues_encloses (table.numbers index)).2.mp (not_not.mpr flat)
    change Draft.checkRange (ofValues (table.numbers index)) = _ at range
    rw [Draft.checkRange, if_neg empty] at range
    contradiction

-- A chart that asks for no bounds is not drawn if its series is flat, and that is the only reason
-- to reject its range, however wide the terminal is.
theorem bounds_drawable (values : List Float) : (ofValues values).Encloses values ∧
    ((ofValues values).low < (ofValues values).high ↔ ¬Flat values) ∧
      ∀ (terminal : ℕ) (fill : Fill) (style : Style) (options : Options) (table : Table)
        (index : ℕ) (column : Column),
          options.number? "yMin" = .ok none → options.number? "yMax" = .ok none →
          series table options = .ok (index, column) → table.numbers index = values →
            (Flat values → ∀ text, draw fill style table options terminal ≠ .ok text) ∧
            (¬Flat values → RangeFits (draw fill style table options terminal)) := by
  have ⟨encloses, height⟩ := ofValues_encloses values
  refine ⟨encloses, height, ?_⟩
  intro terminal fill style options table index column low high drawn same
  cases same
  exact ⟨fun flat _ => not_drawn_of_flat low high drawn flat, draw_rangeFits low high drawn⟩

-- One number, twice.
def twice : Table where
  columns := [⟨"n", .number⟩]
  rows := [[.number 1], [.number 1]]

theorem twice_drawable : Options.number? [] "yMin" = .ok none ∧
    Options.number? [] "yMax" = .ok none ∧ series twice [] = .ok (0, ⟨"n", .number⟩) ∧
      ¬Flat (twice.numbers 0) ∧
      RangeFits (draw .line ⟨false⟩ twice [] 80) := by
  have low : Options.number? [] "yMin" = .ok none := rfl
  have high : Options.number? [] "yMax" = .ok none := rfl
  have drawn : series twice [] = .ok (0, ⟨"n", .number⟩) := rfl
  have height : (ofValues (twice.numbers 0)).low < (ofValues (twice.numbers 0)).high := by
    decide +kernel
  have ⟨_, flat, drawable⟩ := bounds_drawable (twice.numbers 0)
  have room : ¬Flat (twice.numbers 0) := flat.mp height
  exact ⟨low, high, drawn, room, (drawable _ _ _ _ _ _ _ low high drawn rfl).2 room⟩

-- An even number beyond `2 ^ 52`.
def stiff : Float :=
  .ofBits 0x4330000000000002

theorem stiff_empty : stiff.isFinite ∧ (ofValues [stiff]).low = stiff ∧
    (ofValues [stiff]).high = stiff ∧ ¬(ofValues [stiff]).low < (ofValues [stiff]).high ∧
      Draft.checkRange (ofValues [stiff]) = .error (.invalidRange stiff stiff) := by
  have low : (ofValues [stiff]).low = stiff := by decide +kernel
  have high : (ofValues [stiff]).high = stiff := by decide +kernel
  have empty : ¬(ofValues [stiff]).low < (ofValues [stiff]).high := by decide +kernel
  refine ⟨by decide +kernel, low, high, empty, ?_⟩
  rw [Draft.checkRange, if_neg empty, low, high]

end Chart
end TextCharts
