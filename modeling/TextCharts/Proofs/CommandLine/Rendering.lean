import TextCharts.CommandLine.Program
import TextCharts.Proofs.Run.Barrier
import TextCharts.Proofs.Run.Stages

namespace TextCharts

theorem State.isRendered_iff {state : State} : state.isRendered ↔ state = .rendered := by
  cases state <;> simp [isRendered]

-- A node that fails shows its marker.
theorem Plan.Shows.marker_eq {p : Plan} {target : Target} {stopped : Prop} {r : Report}
    {e : NodeError} (shows : p.Shows target stopped r) (failed : r.state = .failed e) :
    r.output = marker r.mount e := by
  rw [shows.marked e failed, marker, shows.mount]

theorem Plan.Joins.marker_eq {p : Plan} {s : Session} {r : Report} {e : NodeError}
    (joins : p.Joins s) (mem : r ∈ s.reports) (failed : r.state = .failed e) :
    r.output = marker r.mount e := by
  have ⟨_, _, _, fate⟩ := joins.fate_of_mem mem
  have ⟨_, either⟩ := fate.shows
  exact either.elim (·.marker_eq failed) (·.marker_eq failed)

namespace CommandLine

-- A text as it is printed: it ends in a line feed, and not in a further one if it has its own.
inductive Line : String → String → Prop
  | ended (text : String) : Line (text ++ "\n") (text ++ "\n")
  | open {text : String} (h : ∀ text', text ≠ text' ++ "\n") : Line text (text ++ "\n")

theorem line_endLine (text : String) : Line text (endLine text) := by
  rw [endLine]
  split
  case isTrue h =>
    have ⟨chars, h⟩ := List.getLast?_eq_some_iff.mp h
    have : text = .ofList chars ++ "\n" := by simp [← String.toList_inj, h]
    rw [this]
    exact .ended _
  case isFalse h =>
    refine .open fun text' ht => h ?_
    simp [ht]

def Refused (e : Ending) : Prop :=
  e.output = "" ∧ e.status = some 1

-- What is printed for the reports on targets, and how the program ends then. It does not end if a
-- file is not read to its end, and then a report is not that of a drawing.
structure Prints (targets : List Target) (reports : List Report) (ends : Prop) (e : Ending) :
    Prop where
  mounts   : (reports.map (·.mount)).Perm (targets.map (·.mount))
  lines    : ∃ lines, List.Forall₂ Line (reports.map (·.output)) lines ∧ e.output = .join lines
  markers  : ∀ r ∈ reports, ∀ error, r.state = .failed error → r.output = marker r.mount error
  rendered : (∀ r ∈ reports, r.state = .rendered) → e.status = some 0 ∧ e.errors = ""
  failed   : (∃ r ∈ reports, r.state ≠ .rendered) → ends → e.status = some 1 ∧
    let failed := reports.countP (!·.state.isRendered)
    e.errors = "error: " ++ s!"{failed} of {targets.length} render targets failed" ++ "\n"
  endless  : ¬ends → e.status = none ∧ e.errors = ""

theorem output_ofPrinted (printed : Printed) :
    (Ending.ofPrinted printed).output = printed.text := by
  rw [Ending.ofPrinted]
  split
  · rfl
  · split <;> rfl

theorem countP_eq_zero_iff {reports : List Report} :
    reports.countP (!·.state.isRendered) = 0 ↔ ∀ r ∈ reports, r.state = .rendered := by
  simp [List.countP_eq_zero, State.isRendered_iff]

theorem ofPrinted_of_rendered {run : Run} (rendered : ∀ r ∈ run.reports, r.state = .rendered) :
    Ending.ofPrinted (.ofRun true run) = { output := (Printed.ofRun true run).text } := by
  have none : (Printed.ofRun true run).failure = none := if_pos (countP_eq_zero_iff.mpr rendered)
  rw [Ending.ofPrinted, none]
  rfl

theorem ofPrinted_of_failed {run : Run} (failed : ∃ r ∈ run.reports, r.state ≠ .rendered) :
    Ending.ofPrinted (.ofRun true run) = {
      status := some 1
      output := (Printed.ofRun true run).text
      errors := "error: " ++ (Failure.targets (run.reports.countP (!·.state.isRendered))
        run.reports.length).message ++ "\n" } := by
  have some : (Printed.ofRun true run).failure =
      some (.targets (run.reports.countP (!·.state.isRendered)) run.reports.length) :=
    if_neg fun none => by
      have ⟨r, mem, hr⟩ := failed
      exact hr (countP_eq_zero_iff.mp none r mem)
  rw [Ending.ofPrinted, some]
  rfl

-- However a run went, this is what is printed once all its tasks have been taken.
theorem prints_of_joins {p : Plan} {s : Session} {ends : Bool} (joins : p.Joins s)
    (answered : (∀ r ∈ s.reports, r.state = .rendered) → ends = true) :
    Prints p.targets s.reports (ends = true) (.ofPrinted (.ofRun ends (.ofSession s))) where
  mounts   := joins.mounts
  lines    := by
    refine ⟨s.reports.map fun r => endLine r.output, ?_, ?_⟩
    · rw [List.forall₂_map_left_iff, List.forall₂_map_right_iff, List.forall₂_same]
      exact fun r _ => line_endLine r.output
    · rw [output_ofPrinted, ← joins.complete.seen]
      rfl
  markers  := fun _ mem _ failed => joins.marker_eq mem failed
  rendered := by
    intro rendered
    rw [answered rendered, ofPrinted_of_rendered rendered]
    exact ⟨rfl, rfl⟩
  failed   := by
    intro failed ended
    have length : s.reports.length = p.targets.length := by
      simpa using joins.mounts.length_eq
    rw [ended, ofPrinted_of_failed failed, ← length]
    exact ⟨rfl, rfl⟩
  endless  := by
    intro endless
    rw [Bool.eq_false_of_not_eq_true endless]
    exact ⟨rfl, rfl⟩

end CommandLine

namespace Document

-- The files that the targets of a document name are all read to their end.
def ReadsEnd (d : Document) (delays : Delays) : Prop :=
  ∀ target ∈ d.targets, ∀ name, Place.resolve d.base target.config.source = .ok (.file name) →
    ∃ delay, delays name = some delay

variable {d : Document} {files : Files} {delays : Delays}

theorem readsEnd_iff : d.readsEnd delays = true ↔ d.ReadsEnd delays := by
  simp only [readsEnd, fileNames, ReadsEnd, List.all_eq_true, List.mem_filterMap,
    Option.isSome_iff_exists]
  constructor
  case mp  =>
    intro all target mem name file
    exact all name ⟨target, mem, by rw [file]⟩
  case mpr =>
    intro all name ⟨target, mem, file⟩
    refine all target mem name ?_
    split at file
    case h_1 found => exact Option.some.inj file ▸ found
    case h_2       => contradiction

-- A source that is drawn has been read.
theorem delay_of_source {name locator : String} {delay : Nat} {reply : Reply}
    (file : Place.resolve d.base locator = .ok (.file name))
    (answers : d.source files delays locator = some (delay, reply)) :
    ∃ delay, delays name = some delay := by
  simp only [source, file, Option.map_eq_some_iff] at answers
  have ⟨delay, found, _⟩ := answers
  exact ⟨delay, found⟩

variable {source : Source} {terminal : Nat} {style : Style} {limit : Nat}

theorem plan_targets : (d.plan source terminal style limit).targets = d.targets := by
  rw [plan]

theorem readsEnd_of_rendered {s : Session}
    (joins : (d.plan (d.source files delays) terminal style limit).Joins s)
    (rendered : ∀ r ∈ s.reports, r.state = .rendered) : d.readsEnd delays = true := by
  refine readsEnd_iff.mpr fun target mem name file => ?_
  have ⟨rs, perm, length, fates⟩ := joins.reports_each fun _ _ _ fate => fate.shows.2
  have ⟨position, lt, ht⟩ := List.getElem_of_mem mem
  have lt' : position < rs.length := length ▸ lt
  have shows := fates position target _ (ht ▸ List.getElem?_eq_getElem lt)
    (List.getElem?_eq_getElem lt')
  have drawn := rendered _ (perm.mem_iff.mpr (List.getElem_mem lt'))
  have draws : ∃ drawing,
      (d.plan (d.source files delays) terminal style limit).Draws target drawing :=
    shows.elim (·.painted drawn |>.imp fun _ => And.left) (·.painted drawn |>.imp fun _ => And.left)
  obtain ⟨_, _, _, ⟨_, _, answers⟩, _⟩ := draws
  exact delay_of_source file answers

end Document

namespace CommandLine

-- What a command makes of a document: nothing if its packages do not load, and otherwise what is
-- due for its reports, in whatever order the steps of the run follow each other.
structure Rendered (a : RenderArguments) (s : Surroundings) (d : Document) (e : Ending) :
    Prop where
  refused : ∀ fault, (a.plan s d).readiness.result = .error fault → Refused e
  printed : (a.plan s d).Loads → ∃ run, (a.plan s d).run = .ok run ∧
    Prints d.targets run.reports (d.ReadsEnd s.delays) e
  orders  : ∀ session, (a.plan s d).Joins session →
    Prints d.targets session.reports (d.ReadsEnd s.delays)
      (.ofPrinted (.ofRun (d.readsEnd s.delays) (.ofSession session)))

namespace RenderArguments

variable {a : RenderArguments} {files : Files} {file : TextFile} {s : Surroundings}

-- The document that a file holds.
def documentOf (a : RenderArguments) (file : TextFile) : Document where
  page := file.text
  base := a.base.or (some (Url.ofDirectory file.directory))

theorem openDocument_of_file (near : a.remote? = none) (found : files a.document = .ok file) :
    a.openDocument files = .ok (a.documentOf file) := by
  simp only [openDocument, near, Document.ofFile, found]
  rfl

theorem refused_of_unreadable {reason : FileError}
    (unreadable : s.files a.document = .error reason) : Refused (.ofPrinted (a.run s)) := by
  have ⟨failure, h⟩ : ∃ failure, a.openDocument s.files = .error failure := by
    rw [openDocument]
    split
    · exact ⟨_, rfl⟩
    · exact ⟨_, by rw [Document.ofFile, unreadable]; rfl⟩
  rw [run, h]
  exact ⟨rfl, rfl⟩

theorem prints_of_plan {d : Document} {session : Session} (joins : (a.plan s d).Joins session) :
    Prints d.targets session.reports (d.ReadsEnd s.delays)
      (.ofPrinted (.ofRun (d.readsEnd s.delays) (.ofSession session))) := by
  have prints := prints_of_joins joins (Document.readsEnd_of_rendered joins)
  rwa [plan, Document.plan_targets, Document.readsEnd_iff] at prints

theorem rendered_of_file (near : a.remote? = none) (found : s.files a.document = .ok file) :
    Rendered a s (a.documentOf file) (.ofPrinted (a.run s)) where
  refused := by
    intro fault failed
    simp only [run, openDocument_of_file near found, Plan.run_of_error failed]
    exact ⟨rfl, rfl⟩
  printed := by
    intro loads
    refine ⟨_, loads.run_eq, ?_⟩
    simp only [run, openDocument_of_file near found, loads.run_eq]
    exact prints_of_plan loads.joins_play
  orders _ joins := prints_of_plan joins

end RenderArguments

-- A page whose one target has lost its source.
def lost : Document where
  page := "<p data-csv-props='\x7b\"csvSrc\":\"lost.csv\",\"csvGvType\":\"text.Table\"\x7d'>"
  base := some (Url.ofDirectory ["pages"])

def lostFiles : Files
  | "page.html" => .ok { directory := ["pages"], text := lost.page }
  | _           => .error .notFound

def lostArguments : RenderArguments :=
  { document := "page.html", milliseconds := some 60 }

-- The reading of the source never ends, and so the program does not either.
example : run { files := lostFiles, delays := fun _ => none }
    ["render", "page.html", "--timeout-ms", "60"] = {
    status := none
    output := "⚠ node[0]: fetch failed: fetch timed out after 60ms\n" } := by
  decide +kernel

end CommandLine
end TextCharts
