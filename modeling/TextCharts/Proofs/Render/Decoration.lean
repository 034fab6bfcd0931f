import TextCharts.Proofs.Color.Escapes
import TextCharts.Proofs.Page.Config
import TextCharts.Render.Builtin

namespace TextCharts

open Color (Decorates decorates_paint)

-- Both fail in the same way, or the one draws the text of the other one with colours.
inductive Alike : Except DrawError String → Except DrawError String → Prop
  | failed (e : DrawError) : Alike (.error e) (.error e)
  | drawn {s t : String} (h : Decorates s t) : Alike (.ok s) (.ok t)

theorem Alike.bind {α : Type} {f g : α → Except DrawError String} (first : Except DrawError α)
    (next : ∀ a, Alike (f a) (g a)) : Alike (first >>= f) (first >>= g) := by
  cases first with
  | error e => exact .failed e
  | ok a    => exact next a

namespace Options

variable {options options' : Options}

-- The colour that is asked for is one, if any is.
def ColorFits (options : Options) : Prop :=
  ∀ name, options.get? "color" = some (.string name) → ∃ color, Color.ofName name = .ok color

-- Options that differ in the colour at most.
def Agree (options options' : Options) : Prop :=
  ∀ key, key ≠ "color" → options.get? key = options'.get? key

theorem Agree.text? (agree : options.Agree options') (key : String) (ne : key ≠ "color") :
    options.text? key = options'.text? key := by
  simp only [Options.text?, agree key ne]

theorem Agree.read? {α : Type} {kind : OptionKind} {read : Json → Option α}
    (agree : options.Agree options') (key : String) (ne : key ≠ "color") :
    options.read? kind read key = options'.read? kind read key := by
  simp only [Options.read?, agree key ne]

end Options

namespace Chart

-- The same chart in another colour, or in none.
def inColor (color : Option Color) (c : Chart) : Chart :=
  { c with color }

variable {c : Chart} {color : Option Color} {terminal : Nat} {fill : Fill} {style : Style}
variable {options : Options}

theorem centered_decorates (color : Option Color) (width : Nat) (text : String) :
    Decorates (centered color width text) (centered none width text) := by
  simp only [centered]
  split
  · exact .refl _
  · refine Decorates.append (.append (.append (.refl _) ?_) (.refl _)) (.refl _)
    exact decorates_paint color text

theorem graphLine_decorates (rows : Nat) (row : String) (index : Nat) :
    Decorates ((c.inColor color).graphLine rows row index)
      ((c.inColor none).graphLine rows row index) :=
  ((Decorates.refl _).append (decorates_paint color row)).append (.refl _)

theorem frame_decorates (rows : List String) :
    Decorates ((c.inColor color).frame rows) ((c.inColor none).frame rows) := by
  have top := ((Decorates.refl "┌").append
    (centered_decorates color c.innerWidth c.title)).append (.refl "┐")
  have graph : List.Forall₂ Decorates
      (rows.zipIdx.map fun row => (c.inColor color).graphLine rows.length row.1 row.2)
      (rows.zipIdx.map fun row => (c.inColor none).graphLine rows.length row.1 row.2) := by
    rw [List.forall₂_map_left_iff, List.forall₂_map_right_iff, List.forall₂_same]
    exact fun row _ => graphLine_decorates rows.length row.1 row.2
  have subtitle (color : Option Color) : (c.inColor color).subtitle = c.subtitle := rfl
  refine Decorates.unlines (.cons top (.cons (.refl _) (List.rel_append graph ?_)))
  refine .cons (.refl _) (.cons (((Decorates.refl "└").append ?bottom).append (.refl "┘")) .nil)
  case bottom =>
    rw [subtitle, subtitle]
    cases c.subtitle with
    | none      => exact .refl _
    | some text => exact centered_decorates color c.innerWidth text

theorem plot_alike (values : List Float) :
    Alike ((c.inColor color).plot fill values) ((c.inColor none).plot fill values) :=
  Alike.bind (c.trace fill (bin values (c.width * dotsAcross))) fun steps =>
    .drawn (frame_decorates (encode steps c.width c.height))

theorem Draft.build_color {d : Draft} :
    d.build = ({ d with color := none }.build).map (inColor d.color) :=
  bind_eq_map fun _ => bind_eq_map fun _ => rfl

-- The colour is the only thing about a chart that depends on the style.
theorem ofOptions_eq (fits : colorOf style options = .ok color) (name : String)
    (values : List Float) : ofOptions style options name values terminal =
      (ofOptions ⟨false⟩ options name values terminal).map (inColor color) := by
  have plain : colorOf ⟨false⟩ options = .ok none := rfl
  simp only [ofOptions, fits, plain]
  refine bind_eq_map fun _ => bind_eq_map fun _ => bind_eq_map fun _ => bind_eq_map fun _ => ?_
  exact Draft.build_color

theorem draw_alike (fits : colorOf style options = .ok color) (table : Table) :
    Alike (draw fill style table options terminal) (draw fill ⟨false⟩ table options terminal) := by
  refine Alike.bind (series table options) fun (index, column) => ?_
  simp only
  split
  · exact .failed .emptyData
  · have plain : colorOf ⟨false⟩ options = .ok none := rfl
    rw [ofOptions_eq fits, ofOptions_eq plain]
    cases ofOptions ⟨false⟩ options column.name (table.numbers index) terminal with
    | error e => exact .failed e
    | ok c    => exact plot_alike (table.numbers index)

theorem colorOf_of_fits (fits : options.ColorFits) (style : Style) :
    ∃ color, colorOf style options = .ok color := by
  simp only [colorOf]
  split
  case isTrue  => exact ⟨none, rfl⟩
  case isFalse =>
    cases asked : options.text? "color" with
    | none      => exact ⟨_, rfl⟩
    | some name =>
      have ⟨color, named⟩ := fits name (Target.Config.text?_eq_some_iff.mp asked)
      simp [named]

-- A chart is not drawn in a colour that there is not.
theorem colorOf_of_draw {text : String} {table : Table}
    (drawn : draw fill style table options terminal = .ok text) :
    ∃ color, colorOf style options = .ok color := by
  have ⟨(index, column), _, drawn⟩ := bind_eq_ok.mp drawn
  simp only at drawn
  split at drawn
  · contradiction
  · have ⟨c, asked, _⟩ := bind_eq_ok.mp drawn
    have ⟨_, _, asked⟩ := bind_eq_ok.mp asked
    have ⟨_, _, asked⟩ := bind_eq_ok.mp asked
    have ⟨_, _, asked⟩ := bind_eq_ok.mp asked
    have ⟨_, _, asked⟩ := bind_eq_ok.mp asked
    have ⟨color, asked, _⟩ := bind_eq_ok.mp asked
    exact ⟨color, asked⟩

theorem draw_congr {options' : Options} (agree : options.Agree options') (table : Table) :
    draw fill ⟨false⟩ table options terminal = draw fill ⟨false⟩ table options' terminal := by
  have plain (options : Options) : colorOf ⟨false⟩ options = .ok none := rfl
  simp only [draw, series, ofOptions, plain, Options.number?, Options.natural?,
    agree.text? "series" (by decide), agree.text? "title" (by decide),
    agree.text? "subtitle" (by decide), agree.read? "yMin" (by decide),
    agree.read? "yMax" (by decide), agree.read? "width" (by decide),
    agree.read? "height" (by decide)]

end Chart

namespace Grid

variable {options options' : Options}

theorem titleLines_decorates (style : Style) (title : Option String) :
    List.Forall₂ Decorates (titleLines style title) (titleLines ⟨false⟩ title) := by
  cases title with
  | none      => exact .nil
  | some text => exact .cons (decorates_paint _ text) .nil

theorem draw_alike (style : Style) (table : Table) (options : Options) :
    Alike (draw style table options) (draw ⟨false⟩ table options) := by
  have same (lines : List String) : List.Forall₂ Decorates lines lines :=
    List.forall₂_same.mpr fun t _ => .refl t
  simp only [draw]
  split
  · exact .failed .emptyData
  · refine Alike.bind (options.natural? "maxRows") fun maxRows => .drawn (.unlines ?_)
    exact List.rel_append (List.rel_append (titleLines_decorates style _) (same _)) (same _)

theorem draw_congr (agree : options.Agree options') (style : Style) (table : Table) :
    draw style table options = draw style table options' := by
  simp only [draw, Options.natural?, agree.text? "title" (by decide),
    agree.read? "maxRows" (by decide)]

end Grid

namespace Drawing

variable {text : String} {e : DrawError} {result : Except DrawError String}

def Fails (d : Drawing) (e : DrawError) : Prop :=
  d.ending = .failed e

-- It ends well, and a surface shows the text afterwards, whatever it showed before.
def Shows (d : Drawing) (text : String) : Prop :=
  d.ending = .done ∧ ∀ surface, d.on surface = text

theorem fails_error (e : DrawError) : (ofResult (.error e)).Fails e :=
  rfl

theorem shows_ok (text : String) : (ofResult (.ok text)).Shows text :=
  ⟨rfl, fun _ => rfl⟩

theorem Shows.result_eq (shown : (ofResult result).Shows text) : result = .ok text := by
  have ⟨ending, painted⟩ := shown
  cases result with
  | error e  => cases ending
  | ok text' => exact congrArg _ (painted "")

theorem Fails.result_eq (fails : (ofResult result).Fails e) : result = .error e := by
  cases result with
  | ok text  => cases fails
  | error e' => cases fails; rfl

end Drawing

-- What colours do to a renderer: nothing if they can be used, and nothing to what a text without
-- escapes says.
structure Decorative (colored plain : Renderer) : Prop where
  agree    : ∀ table options, options.ColorFits →
    (∃ e, (colored table options).Fails e ∧ (plain table options).Fails e) ∨
      ∃ text text', (colored table options).Shows text ∧ (plain table options).Shows text'
  restored : ∀ table options text, (colored table options).Shows text →
    ∃ text', (plain table options).Shows text' ∧
      ('\x1b' ∉ text'.toList → Color.uncolored text.toList = text'.toList)
  unheeded : ∀ table options options', options.Agree options' →
    plain table options = plain table options'

namespace Alike

open Drawing

variable {colored plain : Except DrawError String}

theorem agree (alike : Alike colored plain) :
    (∃ e, (ofResult colored).Fails e ∧ (ofResult plain).Fails e) ∨
      ∃ text text', (ofResult colored).Shows text ∧ (ofResult plain).Shows text' := by
  cases alike with
  | failed e => exact .inl ⟨e, fails_error e, fails_error e⟩
  | drawn    => exact .inr ⟨_, _, shows_ok _, shows_ok _⟩

theorem restored {text : String} (alike : Alike colored plain)
    (shown : (ofResult colored).Shows text) : ∃ text', (ofResult plain).Shows text' ∧
      ('\x1b' ∉ text'.toList → Color.uncolored text.toList = text'.toList) := by
  cases alike with
  | failed e => cases shown.result_eq
  | drawn h  =>
    cases shown.result_eq
    exact ⟨_, shows_ok _, h.uncolored_eq⟩

end Alike

theorem Chart.decorative (terminal : Nat) (fill : Fill) (style : Style) :
    Decorative (fun table options => .ofResult (draw fill style table options terminal))
      fun table options => .ofResult (draw fill ⟨false⟩ table options terminal) where
  agree table options fits :=
    have ⟨_, fits⟩ := colorOf_of_fits fits style
    (draw_alike fits table).agree
  restored table options text shown :=
    have ⟨_, fits⟩ := colorOf_of_draw shown.result_eq
    (draw_alike fits table).restored shown
  unheeded table _ _ agree := by rw [draw_congr agree]

theorem Grid.decorative (style : Style) :
    Decorative (fun table options => .ofResult (draw style table options))
      fun table options => .ofResult (draw ⟨false⟩ table options) where
  agree table options _ := (draw_alike style table options).agree
  restored table options _ shown := (draw_alike style table options).restored shown
  unheeded table _ _ agree := by rw [draw_congr agree]

-- Every renderer that is always there draws in the same way with colours and without, in terminals
-- of the same width.
theorem Registry.builtins_decorative (terminal : Nat) (style : Style) :
    List.Forall₂ (fun colored plain => colored.1 = plain.1 ∧ Decorative colored.2 plain.2)
      (builtins terminal style) (builtins terminal ⟨false⟩) :=
  .cons ⟨rfl, Chart.decorative terminal .line style⟩ <|
    .cons ⟨rfl, Chart.decorative terminal .area style⟩ <| .cons ⟨rfl, Grid.decorative style⟩ .nil

end TextCharts
