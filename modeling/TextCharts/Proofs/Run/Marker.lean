import TextCharts.Proofs.Chart.Drawable
import TextCharts.Proofs.Color.Grammar
import TextCharts.Proofs.CommandLine.Rendering
import TextCharts.Proofs.Render.History
import TextCharts.Proofs.Run.Stages
import TextCharts.Proofs.Text.Breaks

namespace TextCharts

open Text (OneLine Quotes breaks)

-- The texts in a message that the program does not have itself.
def FileError.quotes : FileError → List String
  | other text => [text]
  | _ => []

def FetchError.quotes : FetchError → List String
  | badLocator locator _ => [locator]
  | unsupportedScheme scheme => [scheme]
  | unreachable url => [url]
  | status url _ => [url]
  | unreadable path reason => [path] ++ reason.quotes
  | timedOut _ => []
  | notFound locator => [locator]

def ColorError.quotes : ColorError → List String
  | badHexDigit name => [name]
  | unknown name => [name]

def DrawError.quotes : DrawError → List String
  | unknownSeries name => [name]
  | badOption key _ => [key]
  | color e => e.quotes
  | other text => [text]
  | _ => []

def NodeError.quotes : NodeError → List String
  | fetch e => e.quotes
  | noRenderer name => [name]
  | draw e => e.quotes
  | cancelled => []
  | panicked message => [message]

def Mount.quotes (m : Mount) : List String :=
  m.id.toList

theorem oneLine_sizes {opening : String} (opens : OneLine opening)
    (least most width height : ℕ) :
    OneLine (opening ++ toString least ++ "×" ++ toString most ++ ", got " ++ toString width ++
      "×" ++ toString height) := by
  have times : OneLine "×" := by decide
  have counted (n : ℕ) : OneLine (toString n) := Text.oneLine_toString n
  have limits := ((opens.append (counted least)).append times).append (counted most)
  have found := (limits.append (by decide : OneLine ", got ")).append (counted width)
  exact (found.append times).append (counted height)

theorem oneLine_showDuration (milliseconds : ℕ) : OneLine (showDuration milliseconds) := by
  have counted (n : ℕ) : OneLine (toString n) := Text.oneLine_toString n
  have places : ∀ c ∈ (((Nat.toDigits 10 (1000 + milliseconds % 1000)).drop 1).reverse.dropWhile
      (· == '0')).reverse, ¬Text.isBreak c := by
    intro c mem
    have mem := (List.dropWhile_suffix _).mem (List.mem_reverse.mp mem)
    have mem := List.mem_of_mem_drop (List.mem_reverse.mp mem)
    exact Text.not_isBreak_of_mem_digitsOf mem
  rw [showDuration]
  split
  case isTrue => decide
  case isFalse =>
    split
    case isTrue => exact (counted milliseconds).append (by decide)
    case isFalse =>
      have seconds := counted (milliseconds / 1000)
      split
      case isTrue  => exact seconds.append (by decide)
      case isFalse =>
        have pointed := seconds.append (by decide : OneLine ".")
        exact (pointed.append (Text.oneLine_ofList places)).append (by decide)

theorem FileError.quotes_message (e : FileError) : Quotes e.message e.quotes := by
  cases e with
  | other text   => exact .self text
  | notFound     => exact .of_oneLine (by decide)
  | notDirectory => exact .of_oneLine (by decide)
  | isDirectory  => exact .of_oneLine (by decide)
  | nameTooLong  => exact .of_oneLine (by decide)
  | badName      => exact .of_oneLine (by decide)
  | notText      => exact .of_oneLine (by decide)

theorem Url.ParseError.oneLine_message (e : Url.ParseError) : OneLine e.message := by
  cases e <;> decide

theorem FetchError.quotes_message (e : FetchError) : Quotes e.message e.quotes := by
  cases e with
  | unsupportedScheme scheme  => exact .between scheme (by decide) (by decide)
  | unreachable url           => exact .between url (by decide) (by decide)
  | notFound locator          => exact .between locator (by decide) (by decide)
  | badLocator locator reason =>
    have locator := Quotes.between locator (by decide : OneLine "invalid source locator `")
      (by decide : OneLine "`: ")
    exact locator.before reason.oneLine_message
  | status url code           =>
    have answered : OneLine " answered with status " := by decide
    exact (Quotes.self url).before (answered.append (Text.oneLine_toString code))
  | unreadable path reason    =>
    have path := Quotes.between path (by decide : OneLine "cannot read ") (by decide : OneLine ": ")
    exact path.append reason.quotes_message
  | timedOut milliseconds     =>
    have late : OneLine "fetch timed out after " := by decide
    exact .of_oneLine (late.append (oneLine_showDuration milliseconds))

theorem ColorError.quotes_message (e : ColorError) : Quotes e.message e.quotes := by
  cases e with
  | badHexDigit name => exact .between name (by decide) (by decide)
  | unknown name     => exact .between name (by decide) (by decide)

theorem OptionKind.oneLine_article (kind : OptionKind) : OneLine kind.article := by
  cases kind <;> decide

theorem DrawError.quotes_message (e : DrawError) : Quotes e.message e.quotes := by
  cases e with
  | noNumericColumn       => exact .of_oneLine (by decide)
  | emptyData             => exact .of_oneLine (by decide)
  | unknownSeries name    => exact .between name (by decide) (by decide)
  | color e               => exact e.quotes_message
  | other text            => exact .self text
  | invalidRange low high =>
    have low := (by decide : OneLine "y range ").append (Text.oneLine_plain low)
    have high := (low.append (by decide : OneLine "..")).append (Text.oneLine_plain high)
    exact .of_oneLine (high.append (by decide))
  | badOption key kind    =>
    have key := Quotes.between key (by decide : OneLine "option `")
      (by decide : OneLine "` must be ")
    exact key.before kind.oneLine_article
  | tooSmall minWidth minHeight width height =>
    exact .of_oneLine (oneLine_sizes (by decide) minWidth minHeight width height)
  | tooLarge maxWidth maxHeight width height =>
    exact .of_oneLine (oneLine_sizes (by decide) maxWidth maxHeight width height)

theorem NodeError.quotes_message (e : NodeError) : Quotes e.message e.quotes := by
  cases e with
  | fetch e          => exact e.quotes_message.after (by decide)
  | noRenderer name  => exact .between name (by decide) (by decide)
  | draw e           => exact e.quotes_message.after (by decide)
  | cancelled        => exact .of_oneLine (by decide)
  | panicked message => exact (Quotes.self message).after (by decide)

theorem Mount.quotes_shown (m : Mount) : Quotes m.shown m.quotes := by
  obtain ⟨index, id⟩ := m
  cases id with
  | some id => exact (Quotes.self id).after (by decide)
  | none    =>
    have index := (by decide : OneLine "node[").append (Text.oneLine_toString index)
    exact .of_oneLine (index.append (by decide))

-- A marker quotes the identifier of its element, and then what the message of the fault does.
theorem quotes_marker (mount : Mount) (e : NodeError) :
    Quotes (marker mount e) (mount.quotes ++ e.quotes) := by
  have mount := mount.quotes_shown.after (by decide : OneLine "⚠ ")
  exact (mount.before (by decide)).append e.quotes_message

-- A text that some option is set to.
def Options.Has (options : Options) (text : String) : Prop :=
  ∃ key, options.get? key = some (.string text)

-- Texts of several lines that a fault quotes are texts of the options.
def DrawError.Asked (options : Options) (e : DrawError) : Prop :=
  ∀ text ∈ e.quotes, OneLine text ∨ options.Has text

section

variable {terminal : Nat} {style : Style} {table : Table} {options : Options} {e : DrawError}

theorem DrawError.asked_of_quotes_nil (none : e.quotes = []) : e.Asked options :=
  fun _ mem => nomatch none ▸ mem

theorem Options.Misfit.asked {α : Type} {kind : OptionKind} {Is : Json → α → Prop} {key : String}
    (misfit : Misfit kind Is options key e) (plain : OneLine key) : e.Asked options := by
  intro text mem
  rw [misfit.2] at mem
  exact .inl (List.mem_singleton.mp mem ▸ plain)

theorem Color.quotes_of_refused {name : String} {fault : ColorError}
    (refused : ofName name = .error fault) : fault.quotes = [name] := by
  have answers := ofName_answers name
  rw [refused] at answers
  cases answers <;> rfl

namespace Chart

theorem NoSeries.asked (noSeries : NoSeries table options e) : e.Asked options := by
  cases noSeries with
  | named asked =>
    intro text mem
    exact .inr ⟨"series", List.mem_singleton.mp mem ▸ asked⟩
  | first => exact DrawError.asked_of_quotes_nil rfl

theorem asked_of_fault (terminal : Nat) (style : Style) (table : Table) (options : Options) :
    ∀ fault ∈ faults terminal style table options, ∀ e, fault e → e.Asked options := by
  simp only [faults, List.forall_mem_cons]
  refine ⟨fun _ noSeries => noSeries.asked, ?empty, fun _ misfit => misfit.asked (by decide),
    fun _ misfit => misfit.asked (by decide), fun _ misfit => misfit.asked (by decide),
    fun _ misfit => misfit.asked (by decide), ?color, ?small, ?large, ?range, by simp⟩
  case empty =>
    rintro _ ⟨_, rfl⟩
    exact DrawError.asked_of_quotes_nil rfl
  case color =>
    rintro _ ⟨name, fault, _, asked, refused, rfl⟩ text mem
    have mem : text ∈ fault.quotes := mem
    rw [Color.quotes_of_refused refused] at mem
    exact .inr ⟨"color", List.mem_singleton.mp mem ▸ asked⟩
  case small | large | range =>
    rintro _ ⟨_, _, _, _, _, _, _, _, rfl⟩
    exact DrawError.asked_of_quotes_nil rfl

theorem asked_of_draw {fill : Fill} (failed : draw fill style table options terminal = .error e) :
    e.Asked options := by
  have ⟨fault, mem, present⟩ := (draw_eq_error_iff.mp failed).exists_mem
  exact asked_of_fault _ style table options fault mem e present

end Chart

theorem Grid.asked_of_draw (failed : draw style table options = .error e) : e.Asked options := by
  simp only [draw] at failed
  split at failed
  case isTrue =>
    cases failed
    exact DrawError.asked_of_quotes_nil rfl
  case isFalse =>
    cases read : options.natural? "maxRows" with
    | ok rows  =>
      rw [read] at failed
      cases failed
    | error e' =>
      rw [read] at failed
      cases failed
      exact (Options.reads_natural.read?_eq_error_iff.mp read).asked (by decide)

end

theorem Registry.asked_of_mem {terminal : Nat} {style : Style} :
    ∀ entry ∈ builtins terminal style, ∀ table options e,
      (entry.2 table options).Fails e → e.Asked options := by
  simp only [builtins, List.forall_mem_cons]
  refine ⟨?line, ?area, ?grid, by simp⟩
  case line => exact fun _ _ _ fails => Chart.asked_of_draw fails.result_eq
  case area => exact fun _ _ _ fails => Chart.asked_of_draw fails.result_eq
  case grid => exact fun _ _ _ fails => Grid.asked_of_draw fails.result_eq

namespace Plan

variable {p : Plan} {target : Target} {position : Nat} {e : DrawError}

theorem Shows.asked {terminal : Nat} {style : Style} {stopped : Prop} {r : Report}
    (shows : p.Shows target stopped r) (builtin : p.dispatcher.registry = .builtin terminal style)
    (failed : r.state = .failed (.draw e)) : e.Asked target.config.options := by
  have ⟨fault, mem, present⟩ := ((shows.failed _).mp failed).exists_mem
  simp only [faults, List.mem_cons, List.not_mem_nil, or_false] at mem
  rcases mem with rfl | rfl | rfl | rfl
  · cases present
  · cases present
  · cases present
  · cases present with
    | failed draws failed =>
      obtain ⟨body, renderer, _, ⟨factory, found, made⟩, rfl⟩ := draws
      rw [builtin] at found
      exact Registry.asked_of_mem _ (Registry.mem_builtins found made) _ _ _ failed

-- What the markers of a run quote, in whatever order its steps follow each other, and that is all
-- that their lines depend on.
structure Marks (p : Plan) : Prop where
  breaks  : ∀ s, p.Joins s → ∀ r ∈ s.reports, ∀ e, r.state = .failed e →
    breaks r.output = (r.mount.quotes ++ e.quotes).flatMap breaks
  oneLine : ∀ s, p.Joins s → ∀ r ∈ s.reports, ∀ e, r.state = .failed e →
    (OneLine r.output ↔ ∀ text ∈ r.mount.quotes ++ e.quotes, OneLine text)
  asked   : ∀ terminal style, p.dispatcher.registry = .builtin terminal style →
    ∀ s, p.Joins s → ∀ r ∈ s.reports, ∀ e, r.state = .failed (.draw e) →
      ∃ target ∈ p.targets, r.mount = target.mount ∧ e.Asked target.config.options
  run     : ∃ s, p.Joins s ∧ p.run = .ok (.ofSession s)

theorem marks_of_loads (loads : p.Loads) : p.Marks where
  breaks _ joins r mem e failed := by
    rw [joins.marker_eq mem failed]
    exact quotes_marker r.mount e
  oneLine _ joins r mem e failed := by
    rw [joins.marker_eq mem failed]
    exact (quotes_marker r.mount e).oneLine_iff
  asked _ _ builtin _ joins _ mem _ failed := by
    obtain ⟨target, position, found, fate⟩ := joins.fate_of_mem mem
    refine ⟨target, List.mem_of_getElem? found, fate.mount, ?_⟩
    exact fate.shows.2.elim (·.asked builtin failed) (·.asked builtin failed)
  run := ⟨_, loads.joins_play, loads.run_eq⟩

-- An element whose identifier has a line feed in it, and whose source is not there.
def parted : Plan :=
  { mixed with
    dispatcher := { mixed.dispatcher with source := fun name => some (0, .fault (.notFound name)) }
    targets := [{ tableOf 0 "x.csv" with mount := ⟨0, some "a\nb"⟩ }]
    calls := [] }

theorem parted_marks : parted.Loads ∧ parted.Marks :=
  ⟨rfl, marks_of_loads rfl⟩

theorem parted_broken : ∃ run, parted.run = .ok run ∧ ∃ r ∈ run.reports, ∃ e, r.state = .failed e ∧
    r.output = "⚠ #a\nb: fetch failed: no such source `x.csv`" ∧ ¬OneLine r.output := by
  have loads : parted.Loads := rfl
  obtain ⟨rs, perm, length, fates⟩ := loads.joins_play.reports_each fun _ _ _ fate => fate
  have lt : 0 < rs.length := length ▸ Nat.zero_lt_one
  obtain ⟨r, found⟩ : ∃ r, rs[0]? = some r := ⟨_, List.getElem?_eq_getElem lt⟩
  refine ⟨_, loads.run_eq, r, perm.mem_iff.mpr (List.mem_of_getElem? found), ?_⟩
  cases fates 0 _ r rfl found with
  | cancelled first _ =>
    obtain ⟨_, mem, _⟩ := first.hit
    cases mem
  | settled _         => exact ⟨_, rfl, rfl, by decide⟩

end Plan
end TextCharts
