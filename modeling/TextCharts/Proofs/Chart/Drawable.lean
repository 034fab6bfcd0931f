import TextCharts.Proofs.Chart.Samples
import TextCharts.Proofs.Render.Decoration
import TextCharts.Proofs.Render.Options
import TextCharts.Proofs.Table.Columns

namespace TextCharts.Chart

open Options (Asks IsNumber IsNatural Misfit)

-- The column that a chart is drawn of: the one that is asked for, or else the first one of numbers.
inductive Plots (table : Table) (options : Options) (index : Nat) (column : Column) : Prop
  | named {name : String} (asked : options.get? "series" = some (.string name))
      (last : table.LastNamed name index column) (number : column.kind = .number)
  | first (unasked : ∀ name, options.get? "series" ≠ some (.string name))
      (first : table.FirstOf .number index column)

inductive NoSeries (table : Table) (options : Options) : DrawError → Prop
  | named {name : String} (asked : options.get? "series" = some (.string name))
      (absent : ∀ index column, table.LastNamed name index column → column.kind ≠ .number) :
      NoSeries table options (.unknownSeries name)
  | first (unasked : ∀ name, options.get? "series" ≠ some (.string name))
      (absent : ∀ column ∈ table.columns, column.kind ≠ .number) :
      NoSeries table options .noNumericColumn

-- The axis and the size of a chart of some values. What the options do not ask for follows from the
-- values and from the width of the terminal.
structure Sized (terminal : Nat) (options : Options) (values : List Float) (range : Extent)
    (width height : Nat) : Prop where
  low    : ∃ low, Asks IsNumber (options.get? "yMin") low ∧
    range.low = low.getD (Extent.ofValues values).low
  high   : ∃ high, Asks IsNumber (options.get? "yMax") high ∧
    range.high = high.getD (Extent.ofValues values).high
  width  : ∃ asked, Asks IsNatural (options.get? "width") asked ∧
    width = asked.getD (widthFor terminal values.length (range.labelWidth 1))
  height : ∃ asked, Asks IsNatural (options.get? "height") asked ∧ height = asked.getD 12

-- The chart that is asked for has an axis and a size of which something holds.
def Wants (terminal : Nat) (table : Table) (options : Options)
    (P : Extent → Nat → Nat → Prop) : Prop :=
  ∃ index column range width height, Plots table options index column ∧
    Sized terminal options (table.numbers index) range width height ∧ P range width height

structure Drawable (terminal : Nat) (style : Style) (table : Table) (options : Options) :
    Prop where
  finite : ∃ index column x, Plots table options index column ∧ table.Holds index x ∧ x.isFinite
  color  : style.color = true → ∀ name, options.get? "color" = some (.string name) →
    ∃ color, Color.ofName name = .ok color
  fits   : Wants terminal table options fun range width height => 14 ≤ width ∧ width ≤ 1024 ∧
    7 ≤ height ∧ height ≤ 256 ∧ range.low < range.high

-- What may keep a chart from being drawn, in the order in which it counts.
def faults (terminal : Nat) (style : Style) (table : Table) (options : Options) :
    List (DrawError → Prop) := [
  NoSeries table options,
  fun e => (∃ index column, Plots table options index column ∧
    ∀ x, table.Holds index x → ¬x.isFinite) ∧ e = .emptyData,
  Misfit .number IsNumber options "yMin",
  Misfit .number IsNumber options "yMax",
  Misfit .natural IsNatural options "width",
  Misfit .natural IsNatural options "height",
  fun e => ∃ name fault, style.color = true ∧ options.get? "color" = some (.string name) ∧
    Color.ofName name = .error fault ∧ e = .color fault,
  fun e => Wants terminal table options fun _ width height =>
    (width < 14 ∨ height < 7) ∧ e = .tooSmall 14 7 width height,
  fun e => Wants terminal table options fun _ width height =>
    (1024 < width ∨ 256 < height) ∧ e = .tooLarge 1024 256 width height,
  fun e => Wants terminal table options fun range _ _ =>
    ¬range.low < range.high ∧ e = .invalidRange range.low range.high]

variable {terminal : Nat} {fill : Fill} {style : Style} {table : Table} {options : Options}
variable {index : Nat} {column : Column} {values : List Float} {e : DrawError}

section

variable {name : String}

theorem unasked_iff : options.text? "series" = none ↔
    ∀ name, options.get? "series" ≠ some (.string name) := by
  simp [Option.eq_none_iff_forall_ne_some, ← Target.Config.text?_eq_some_iff, Options.text?,
    Target.Config.text?]

theorem plots_named_iff (asked : options.text? "series" = some name) :
    Plots table options index column ↔
      table.LastNamed name index column ∧ column.kind = .number := by
  have asked := Target.Config.text?_eq_some_iff.mp asked
  constructor
  case mp =>
    intro plots
    cases plots with
    | named asked' last number =>
      cases asked.symm.trans asked'
      exact ⟨last, number⟩
    | first unasked            => exact absurd asked (unasked name)
  case mpr => exact fun ⟨last, number⟩ => .named asked last number

theorem plots_first_iff (unasked : options.text? "series" = none) :
    Plots table options index column ↔ table.FirstOf .number index column := by
  have unasked := unasked_iff.mp unasked
  constructor
  case mp =>
    intro plots
    cases plots with
    | named asked   => exact absurd asked (unasked _)
    | first _ first => exact first
  case mpr => exact .first unasked

theorem noSeries_named_iff (asked : options.text? "series" = some name) :
    NoSeries table options e ↔
      (∀ index column, table.LastNamed name index column → column.kind ≠ .number) ∧
        e = .unknownSeries name := by
  have asked := Target.Config.text?_eq_some_iff.mp asked
  constructor
  case mp =>
    intro noSeries
    cases noSeries with
    | named asked' absent =>
      cases asked.symm.trans asked'
      exact ⟨absent, rfl⟩
    | first unasked       => exact absurd asked (unasked name)
  case mpr => exact fun ⟨absent, he⟩ => he ▸ .named asked absent

theorem noSeries_first_iff (unasked : options.text? "series" = none) :
    NoSeries table options e ↔
      (∀ column ∈ table.columns, column.kind ≠ .number) ∧ e = .noNumericColumn := by
  have unasked := unasked_iff.mp unasked
  constructor
  case mp =>
    intro noSeries
    cases noSeries with
    | named asked    => exact absurd asked (unasked _)
    | first _ absent => exact ⟨absent, rfl⟩
  case mpr => exact fun ⟨absent, he⟩ => he ▸ .first unasked absent

end

theorem series_eq_ok_iff :
    series table options = .ok (index, column) ↔ Plots table options index column := by
  cases asked : options.text? "series" with
  | none      =>
    rw [plots_first_iff asked, ← Table.firstOf?_eq_some_iff]
    simp only [series, asked]
    cases (table.firstOf? .number).bind fun i => table.columns[i]?.map (i, ·) <;> simp
  | some name =>
    rw [plots_named_iff asked, ← Table.columnIndex?_eq_some_iff]
    simp only [series, asked]
    cases (table.columnIndex? name).bind fun i => table.columns[i]?.map (i, ·) with
    | none       => simp
    | some found =>
      obtain ⟨i, c⟩ := found
      by_cases number : c.kind = .number
      case pos => simp [number]; grind
      case neg => simp [number]; grind

theorem series_eq_error_iff : series table options = .error e ↔ NoSeries table options e := by
  cases asked : options.text? "series" with
  | none      =>
    rw [noSeries_first_iff asked, ← Table.firstOf?_eq_none_iff]
    simp only [series, asked]
    cases (table.firstOf? .number).bind fun i => table.columns[i]?.map (i, ·) <;> simp [eq_comm]
  | some name =>
    rw [noSeries_named_iff asked]
    simp only [← Table.columnIndex?_eq_some_iff, series, asked]
    cases (table.columnIndex? name).bind fun i => table.columns[i]?.map (i, ·) with
    | none       => simp [eq_comm]
    | some found =>
      obtain ⟨i, c⟩ := found
      by_cases number : c.kind = .number
      case pos => simp [number]
      case neg => simp [number]; exact eq_comm

section

variable {range : Extent} {width height : Nat} {P : Extent → Nat → Nat → Prop}

theorem Plots.unique {index' : Nat} {column' : Column} (plots : Plots table options index column)
    (plots' : Plots table options index' column') : index = index' ∧ column = column' := by
  have same := (series_eq_ok_iff.mpr plots).symm.trans (series_eq_ok_iff.mpr plots')
  simpa using same

theorem sized_of_asks (terminal : Nat) {low high : Option Float} {across down : Option Nat}
    (lows : Asks IsNumber (options.get? "yMin") low)
    (highs : Asks IsNumber (options.get? "yMax") high)
    (widths : Asks IsNatural (options.get? "width") across)
    (heights : Asks IsNatural (options.get? "height") down) (values : List Float) :
    let usual := Extent.ofValues values
    let range : Extent := ⟨low.getD usual.low, high.getD usual.high⟩
    Sized terminal options values range
      (across.getD (widthFor terminal values.length (range.labelWidth 1))) (down.getD 12) where
  low    := ⟨low, lows, rfl⟩
  high   := ⟨high, highs, rfl⟩
  width  := ⟨across, widths, rfl⟩
  height := ⟨down, heights, rfl⟩

theorem Sized.unique {range' : Extent} {width' height' : Nat}
    (sized : Sized terminal options values range width height)
    (sized' : Sized terminal options values range' width' height') :
    range = range' ∧ width = width' ∧ height = height' := by
  obtain ⟨⟨low, lows, hl⟩, ⟨high, highs, hh⟩, ⟨asked, widths, hw⟩, tall, heights, ht⟩ := sized
  obtain ⟨⟨low', lows', hl'⟩, ⟨high', highs', hh'⟩, ⟨asked', widths', hw'⟩, tall', heights', ht'⟩ :=
    sized'
  cases Options.reads_number.asks_unique lows lows'
  cases Options.reads_number.asks_unique highs highs'
  cases Options.reads_natural.asks_unique widths widths'
  cases Options.reads_natural.asks_unique heights heights'
  have same : range = range' := by
    cases range
    cases range'
    exact congrArg₂ _ (hl.trans hl'.symm) (hh.trans hh'.symm)
  subst same
  exact ⟨rfl, hw.trans hw'.symm, ht.trans ht'.symm⟩

theorem wants_iff (plots : Plots table options index column)
    (sized : Sized terminal options (table.numbers index) range width height) :
    Wants terminal table options P ↔ P range width height := by
  constructor
  case mp =>
    intro ⟨_, _, _, _, _, plots', sized', h⟩
    obtain ⟨rfl, rfl⟩ := plots.unique plots'
    obtain ⟨rfl, rfl, rfl⟩ := sized.unique sized'
    exact h
  case mpr => exact fun h => ⟨_, _, _, _, _, plots, sized, h⟩

end

theorem colorOf_eq_error_iff : colorOf style options = .error e ↔
    ∃ name fault, style.color = true ∧ options.get? "color" = some (.string name) ∧
      Color.ofName name = .error fault ∧ e = .color fault := by
  simp only [← Target.Config.text?_eq_some_iff, colorOf]
  change _ ↔ ∃ name fault, _ ∧ options.text? "color" = some name ∧ _
  cases style.color with
  | false => simp
  | true  =>
    cases options.text? "color" with
    | none      => simp
    | some name => cases h : Color.ofName name <;> simp [h, eq_comm]

theorem Draft.checkSize_eq (width height : Nat) : checkSize width height =
    if width < 14 ∨ height < 7 then .error (.tooSmall 14 7 width height)
    else if 1024 < width ∨ 256 < height then .error (.tooLarge 1024 256 width height)
    else .ok () := by
  simp only [checkSize, Bool.or_eq_true, decide_eq_true_iff]
  rfl

theorem Draft.build_eq_error_iff {d : Draft} : d.build = .error e ↔ First [
    fun e => (d.width < 14 ∨ d.height < 7) ∧ e = .tooSmall 14 7 d.width d.height,
    fun e => (1024 < d.width ∨ 256 < d.height) ∧ e = .tooLarge 1024 256 d.width d.height,
    fun e => ¬d.range.low < d.range.high ∧ e = .invalidRange d.range.low d.range.high] e := by
  rw [build, checkSize_eq]
  by_cases small : d.width < 14 ∨ d.height < 7
  case pos =>
    rw [if_pos small, first_of_present ⟨small, rfl⟩]
    simp [bind, Except.bind, small, eq_comm]
  case neg =>
    rw [if_neg small, first_of_absent fun _ fault => small fault.1]
    by_cases large : 1024 < d.width ∨ 256 < d.height
    case pos =>
      rw [if_pos large, first_of_present ⟨large, rfl⟩]
      simp [bind, Except.bind, large, eq_comm]
    case neg =>
      rw [if_neg large, first_of_absent fun _ fault => large fault.1, checkRange]
      by_cases room : d.range.low < d.range.high
      case pos => simp [bind, Except.bind, pure, Except.pure, First, room]
      case neg => simp [bind, Except.bind, First, room, eq_comm]

theorem ofOptions_eq_error_iff (plots : Plots table options index column) :
    ofOptions style options column.name (table.numbers index) terminal = .error e ↔
      First ((faults terminal style table options).drop 2) e := by
  refine bind_eq_error (fun _ => Options.reads_number.read?_eq_error_iff) fun low lows => ?_
  refine bind_eq_error (fun _ => Options.reads_number.read?_eq_error_iff) fun high highs => ?_
  refine bind_eq_error (fun _ => Options.reads_natural.read?_eq_error_iff) fun across widths => ?_
  refine bind_eq_error (fun _ => Options.reads_natural.read?_eq_error_iff) fun down heights => ?_
  refine bind_eq_error (fun _ => colorOf_eq_error_iff) fun color _ => ?_
  have sized := sized_of_asks terminal
    (Options.reads_number.read?_eq_ok_iff.mp lows) (Options.reads_number.read?_eq_ok_iff.mp highs)
    (Options.reads_natural.read?_eq_ok_iff.mp widths)
    (Options.reads_natural.read?_eq_ok_iff.mp heights) (table.numbers index)
  rw [Draft.build_eq_error_iff]
  simp only [First, wants_iff plots sized]
  rfl

-- Where there is a finite value, some half-column has an extent.
theorem trace_of_finite {c : Chart} (wide : 0 < c.width) (finite : ∃ v ∈ values, v.isFinite) :
    ∃ steps, c.trace fill (bin values (c.width * dotsAcross)) = .ok steps := by
  have pos : 0 < c.width * dotsAcross := Nat.mul_pos wide (by decide)
  have ⟨v, mem, finite⟩ := finite
  have ⟨half, sample⟩ := exists_sample pos mem finite
  have ⟨e, he⟩ := Option.ne_none_iff_exists'.mp fun none => (bin_eq_none pos).mp none v sample
  have ⟨steps, traced, _⟩ := c.traces_of_trace fill
    ⟨e, List.mem_of_getElem? (Option.join_eq_some_iff.mp he)⟩
  exact ⟨steps, traced⟩

theorem width_of_ofOptions {c : Chart} {name : String}
    (made : ofOptions style options name values terminal = .ok c) : minWidth ≤ c.width := by
  obtain ⟨_, _, made⟩ := bind_eq_ok.mp made
  obtain ⟨_, _, made⟩ := bind_eq_ok.mp made
  obtain ⟨_, _, made⟩ := bind_eq_ok.mp made
  obtain ⟨_, _, made⟩ := bind_eq_ok.mp made
  obtain ⟨_, _, built⟩ := bind_eq_ok.mp made
  exact (Draft.size_of_build built).1

theorem plot_eq_ok {c : Chart} {name : String}
    (made : ofOptions style options name values terminal = .ok c)
    (finite : ∃ v ∈ values, v.isFinite) : ∃ text, c.plot fill values = .ok text := by
  have wide : 0 < c.width := Nat.lt_of_lt_of_le (by decide) (width_of_ofOptions made)
  have ⟨steps, traced⟩ : ∃ steps, c.trace fill (bin values (c.width * dotsAcross)) = .ok steps :=
    trace_of_finite wide finite
  exact ⟨_, bind_eq_ok.mpr ⟨steps, traced, rfl⟩⟩

theorem draw_eq : draw fill style table options terminal = series table options >>= fun found =>
    if (table.numbers found.1).any Float.isFinite then
      ofOptions style options found.2.name (table.numbers found.1) terminal >>= fun c =>
        c.plot fill (table.numbers found.1)
    else .error .emptyData := by
  rw [draw]
  cases series table options with
  | error => rfl
  | ok a  =>
    cases h : (table.numbers a.1).any Float.isFinite with
    | true  => simp [bind, Except.bind, h]
    | false => simp [bind, Except.bind, h]; rfl

theorem draw_eq_error_iff :
    draw fill style table options terminal = .error e ↔
      First (faults terminal style table options) e := by
  rw [draw_eq]
  refine bind_eq_error (fun _ => series_eq_error_iff) fun found finds => ?_
  obtain ⟨index, column⟩ := found
  have plots := series_eq_ok_iff.mp finds
  by_cases finite : ∃ x, table.Holds index x ∧ x.isFinite
  case pos =>
    have finite' := Table.exists_finite_iff.mpr finite
    rw [first_of_absent ?absent, if_pos (List.any_eq_true.mpr finite')]
    case absent =>
      intro _ ⟨⟨index', column', plots', empty⟩, _⟩
      obtain ⟨rfl, rfl⟩ := plots.unique plots'
      have ⟨x, holds, finite⟩ := finite
      exact empty x holds finite
    refine Iff.trans ?_ (ofOptions_eq_error_iff plots)
    cases made : ofOptions style options column.name (table.numbers index) terminal with
    | error e' => simp [bind, Except.bind]
    | ok c     =>
      have ⟨text, plotted⟩ : ∃ text, c.plot fill (table.numbers index) = .ok text :=
        plot_eq_ok made finite'
      simp [bind, Except.bind, plotted]
  case neg =>
    have absent : ∀ x, table.Holds index x → ¬x.isFinite := fun x holds hx => finite ⟨x, holds, hx⟩
    have empty : ¬(table.numbers index).any Float.isFinite = true :=
      mt (Table.exists_finite_iff.mp ∘ List.any_eq_true.mp) finite
    rw [first_of_present ⟨⟨index, column, plots, absent⟩, rfl⟩, if_neg empty,
      and_iff_right ⟨index, column, plots, absent⟩, Except.error.injEq, eq_comm]

theorem exists_plots_iff :
    (∃ index column, Plots table options index column) ↔ ∀ e, ¬NoSeries table options e := by
  simp only [← series_eq_ok_iff, ← series_eq_error_iff]
  cases series table options with
  | error e  => simp
  | ok found => simpa using ⟨found.1, found.2, rfl⟩

theorem drawable_iff :
    (∃ text, draw fill style table options terminal = .ok text) ↔
      Drawable terminal style table options := by
  rw [exists_ok_iff fun _ => draw_eq_error_iff]
  simp only [faults, List.forall_mem_cons]
  constructor
  case mp =>
    intro ⟨series, empty, low, high, width, height, color, small, large, range, _⟩
    have ⟨index, column, plots⟩ := exists_plots_iff.mpr series
    have ⟨low, lows⟩ := Options.exists_asks_iff.mpr low
    have ⟨high, highs⟩ := Options.exists_asks_iff.mpr high
    have ⟨across, widths⟩ := Options.exists_asks_iff.mpr width
    have ⟨down, heights⟩ := Options.exists_asks_iff.mpr height
    have sized := sized_of_asks terminal lows highs widths heights (table.numbers index)
    simp only [wants_iff plots sized] at small large range
    refine ⟨?finite, ?color, (wants_iff plots sized).mpr ?fits⟩
    case finite =>
      by_contra none
      refine empty _ ⟨⟨index, column, plots, fun x holds finite => ?_⟩, rfl⟩
      exact none ⟨index, column, x, plots, holds, finite⟩
    case color  =>
      intro on name asked
      cases named : Color.ofName name with
      | ok c        => exact ⟨c, rfl⟩
      | error fault => exact absurd ⟨name, fault, on, asked, named, rfl⟩ (color (.color fault))
    case fits   =>
      have small := not_or.mp fun h => small _ ⟨h, rfl⟩
      have large := not_or.mp fun h => large _ ⟨h, rfl⟩
      have room := not_not.mp fun h => range _ ⟨h, rfl⟩
      exact ⟨by omega, by omega, by omega, by omega, room⟩
  case mpr =>
    intro ⟨⟨index, column, x, plots, holds, finite⟩, color, ⟨index', column', range, width, height,
      plots', sized, wide, narrow, tall, low, room⟩⟩
    obtain ⟨rfl, rfl⟩ := plots.unique plots'
    simp only [wants_iff plots sized]
    refine ⟨exists_plots_iff.mp ⟨index, column, plots⟩, ?empty, Options.exists_asks_iff.mp ?_,
      Options.exists_asks_iff.mp ?_, Options.exists_asks_iff.mp ?_, Options.exists_asks_iff.mp ?_,
      ?color, ?small, ?large, ?range, by simp⟩
    case empty =>
      intro _ ⟨⟨index', column', plots', empty⟩, _⟩
      obtain ⟨rfl, rfl⟩ := plots.unique plots'
      exact empty x holds finite
    case color =>
      intro _ ⟨name, fault, on, asked, named, _⟩
      have ⟨c, fits⟩ := color on name asked
      cases fits.symm.trans named
    case small => exact fun _ fault => by omega
    case large => exact fun _ fault => by omega
    case range => exact fun _ fault => fault.1 room
    · exact sized.low.imp fun _ h => h.1
    · exact sized.high.imp fun _ h => h.1
    · exact sized.width.imp fun _ h => h.1
    · exact sized.height.imp fun _ h => h.1

-- What becomes of the drawing of a chart.
structure Answers (terminal : Nat) (fill : Fill) (style : Style) (table : Table)
    (options : Options) (d : Drawing) : Prop where
  drawn     : (∃ text, d.Shows text) ↔ Drawable terminal style table options
  refused   : (∃ e, d.Fails e) ↔ ¬Drawable terminal style table options
  fault     : ∀ e, d.Fails e ↔ First (faults terminal style table options) e
  untouched : ∀ e, d.Fails e → ∀ surface, d.on surface = surface
  empty     : d.Fails .emptyData → ∃ index column, Plots table options index column ∧
    ∀ x, table.Holds index x → ¬x.isFinite
  traced    : ∀ index column c, Plots table options index column →
    (∃ x, table.Holds index x ∧ x.isFinite) →
    ofOptions style options column.name (table.numbers index) terminal = .ok c →
    ∃ steps, c.trace fill (bin (table.numbers index) (c.width * dotsAcross)) = .ok steps

theorem plots_of_emptyData (draws : draw fill style table options terminal = .error .emptyData) :
    ∃ index column, Plots table options index column ∧ ∀ x, table.Holds index x → ¬x.isFinite := by
  obtain series | ⟨_, empty | ⟨_, later⟩⟩ := draw_eq_error_iff.mp draws
  · cases series
  · exact empty.1
  · simp [First, Misfit, Wants] at later

section

variable {result : Except DrawError String} {text : String}

theorem fails_iff : (Drawing.ofResult result).Fails e ↔ result = .error e := by
  cases result <;> simp [Drawing.ofResult, Drawing.Fails]

theorem shows_iff : (Drawing.ofResult result).Shows text ↔ result = .ok text :=
  ⟨Drawing.Shows.result_eq, fun h => h ▸ Drawing.shows_ok text⟩

end

theorem answers (terminal : Nat) (fill : Fill) (style : Style) (table : Table)
    (options : Options) : Answers terminal fill style table options
      (.ofResult (draw fill style table options terminal)) where
  drawn     := by
    simp only [shows_iff]
    exact drawable_iff
  refused   := by
    have drawn : (∃ text, draw fill style table options terminal = .ok text) ↔ _ :=
      drawable_iff
    simp only [fails_iff, ← drawn]
    cases draw fill style table options terminal <;> simp
  fault     := fun _ => fails_iff.trans draw_eq_error_iff
  untouched := by
    intro e fails surface
    rw [fails_iff.mp fails]
    rfl
  empty     := fun fails => plots_of_emptyData (fails_iff.mp fails)
  traced    := by
    intro index column c plots finite made
    exact trace_of_finite (Nat.lt_of_lt_of_le (by decide) (width_of_ofOptions made))
      (Table.exists_finite_iff.mpr finite)

def rendererName : Fill → String
  | .line => "braille.LineChart"
  | .area => "braille.AreaChart"

-- For a terminal of any width, a chart is drawn exactly if it is drawable, and the first fault of
-- one that is not is reported.
theorem drawn_or_first_fault (terminal : Nat) (fill : Fill) (style : Style) :
    (Registry.builtin terminal style).find? (rendererName fill) =
      some (fun _ => .ok fun table options => .ofResult (draw fill style table options terminal)) ∧
    ∀ table options, Answers terminal fill style table options
      (.ofResult (draw fill style table options terminal)) := by
  refine ⟨?found, answers terminal fill style⟩
  case found =>
    have before : "braille.AreaChart" < "braille.LineChart" := by decide +kernel
    have after : ¬"text.Table" < "braille.AreaChart" := by decide +kernel
    have last : ¬"text.Table" < "braille.LineChart" := by decide +kernel
    cases fill <;> simp [Registry.builtin, Registry.registerBuiltins, Registry.builtins,
      Registry.register, Registry.insert, Registry.find?, rendererName, before, after, last]

end TextCharts.Chart
