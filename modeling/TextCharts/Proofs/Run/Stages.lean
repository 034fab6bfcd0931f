import TextCharts.Proofs.Run.Isolation
import TextCharts.Proofs.Run.Race
import TextCharts.Proofs.Steps

namespace TextCharts

-- What is seen on an empty surface after paintings, each of which takes the place of the one before.
inductive Leaves : List String → String → Prop
  | nothing : Leaves [] ""
  | last {before : List String} {text : String} : Leaves (before ++ [text]) text

theorem leaves_iff {d : Drawing} {text : String} : Leaves d.paints text ↔ d.on "" = text := by
  obtain ⟨paints, _⟩ := d
  simp only [Drawing.on]
  constructor
  case mp =>
    intro leaves
    cases leaves <;> simp
  case mpr =>
    intro h
    cases paints using List.reverseRecOn with
    | nil              => exact h ▸ .nothing
    | append_singleton => simp at h; exact h ▸ .last

namespace Registry

variable {r : Registry} {name : String} {mount : Mount} {made : Except String Renderer}

theorem find?_eq_none_iff : r.find? name = none ↔ name ∉ r.names := by
  simp only [find?, names, Option.map_eq_none_iff, List.find?_eq_none, beq_iff_eq, List.mem_map,
    not_exists, not_and]

theorem resolve_eq_ok_iff :
    r.resolve name mount = .ok made ↔ ∃ factory, r.find? name = some factory ∧
      factory mount = made := by
  cases found : r.find? name <;> simp [resolve, found]

theorem resolve_eq_error_iff {e : NodeError} :
    r.resolve name mount = .error e ↔ name ∉ r.names ∧ .noRenderer name = e := by
  rw [← find?_eq_none_iff]
  cases found : r.find? name <;> simp [resolve, found]

end Registry

def Reply.read : Reply → Except NodeError String
  | text body => .ok body
  | fault e => .error (.fetch e)
  | panic message => .error (.panicked message)

def Drawing.outcome (d : Drawing) : Except NodeError String :=
  match d.ending with
  | .done => .ok (d.on "")
  | .failed e => .error (.draw e)
  | .panicked message => .error (.panicked message)

namespace Dispatcher

variable {d : Dispatcher} {target : Target}

-- The stages of a node that is not stopped, any of which may be its last one.
def fetch (d : Dispatcher) (target : Target) : Except NodeError String :=
  match d.source target.config.source with
  | some (delay, reply) =>
    if delay ≤ d.limit then reply.read else .error (.fetch (.timedOut d.limit))
  | none => .error (.fetch (.timedOut d.limit))

def resolve (d : Dispatcher) (target : Target) : Except NodeError Renderer := do
  let made ← d.registry.resolve target.config.renderer target.mount
  made.mapError .panicked

def stages (d : Dispatcher) (target : Target) : Except NodeError String := do
  let body ← d.fetch target
  let renderer ← d.resolve target
  (renderer (Table.parse target.config.dialect body) target.config.options).outcome

theorem draw_mapError {body : String} :
    (Node.draw d.registry target body).mapError Node.Stop.error =
      d.resolve target >>= fun renderer =>
        (renderer (Table.parse target.config.dialect body) target.config.options).outcome := by
  simp only [Node.draw, resolve]
  cases d.registry.resolve target.config.renderer target.mount with
  | error   => rfl
  | ok made =>
    cases made with
    | error       => rfl
    | ok renderer =>
      simp only [bind, Except.bind, Except.mapError, Drawing.outcome]
      cases (renderer (Table.parse target.config.dialect body) target.config.options).ending <;> rfl

theorem outcome_settle :
    (Node.outcome d.registry d.limit target (d.settle target).1).mapError Node.Stop.error =
      d.stages target := by
  simp only [settle, stages, fetch]
  cases d.source target.config.source with
  | none   => rfl
  | some b =>
    obtain ⟨delay, reply⟩ := b
    simp only [Node.settle]
    split
    case isFalse => rfl
    case isTrue  =>
      cases reply with
      | text  => exact draw_mapError
      | fault => rfl
      | panic => rfl

end Dispatcher

namespace Plan

variable {p : Plan} {target : Target} {position : Nat}

-- A request hits a node while its time is not over and its source has not answered.
def Stopped (p : Plan) (target : Target) (position : Nat) : Prop :=
  ∃ c ∈ p.calls, c.hits p.targets position ∧ max p.start c.time < p.start + p.dispatcher.limit ∧
    ∀ delay reply, p.dispatcher.source target.config.source = some (delay, reply) →
      max p.start c.time < p.start + delay

-- The reply of the source of a target comes in time.
def Answers (p : Plan) (target : Target) (reply : Reply) : Prop :=
  ∃ delay ≤ p.dispatcher.limit, p.dispatcher.source target.config.source = some (delay, reply)

-- The renderer of a target is there and can be made for its mount.
def Makes (p : Plan) (target : Target) (renderer : Renderer) : Prop :=
  ∃ factory, p.dispatcher.registry.find? target.config.renderer = some factory ∧
    factory target.mount = .ok renderer

-- The text of the source of a target is drawn by the renderer that is made for its mount.
def Draws (p : Plan) (target : Target) (d : Drawing) : Prop :=
  ∃ body renderer, p.Answers target (.text body) ∧ p.Makes target renderer ∧
    renderer (Table.parse target.config.dialect body) target.config.options = d

inductive StopFault (stopped : Prop) : NodeError → Prop
  | cancelled (h : stopped) : StopFault stopped .cancelled

inductive FetchFault (p : Plan) (target : Target) : NodeError → Prop
  | late (late : ∀ reply, ¬p.Answers target reply) :
    FetchFault p target (.fetch (.timedOut p.dispatcher.limit))
  | fault {e : FetchError} (answers : p.Answers target (.fault e)) : FetchFault p target (.fetch e)
  | panic {message : String} (answers : p.Answers target (.panic message)) :
    FetchFault p target (.panicked message)

inductive ResolveFault (p : Plan) (target : Target) : NodeError → Prop
  | missing (missing : target.config.renderer ∉ p.dispatcher.registry.names) :
    ResolveFault p target (.noRenderer target.config.renderer)
  | panic {factory : Factory} {message : String}
    (found : p.dispatcher.registry.find? target.config.renderer = some factory)
    (panic : factory target.mount = .error message) : ResolveFault p target (.panicked message)

inductive DrawFault (p : Plan) (target : Target) : NodeError → Prop
  | failed {d : Drawing} {e : DrawError} (draws : p.Draws target d) (failed : d.ending = .failed e) :
    DrawFault p target (.draw e)
  | panic {d : Drawing} {message : String} (draws : p.Draws target d)
    (panic : d.ending = .panicked message) : DrawFault p target (.panicked message)

-- What may go wrong with a node that is stopped or not, in the order in which it comes to it.
def faults (p : Plan) (target : Target) (stopped : Prop) : List (NodeError → Prop) :=
  [StopFault stopped, FetchFault p target, ResolveFault p target, DrawFault p target]

theorem Answers.fetch_eq {reply : Reply} (h : p.Answers target reply) :
    p.dispatcher.fetch target = reply.read := by
  have ⟨_, le, hs⟩ := h
  simp [hs, Dispatcher.fetch, le]

theorem fetch_eq_of_late (late : ∀ reply, ¬p.Answers target reply) :
    p.dispatcher.fetch target = .error (.fetch (.timedOut p.dispatcher.limit)) := by
  simp only [Dispatcher.fetch]
  cases hs : p.dispatcher.source target.config.source with
  | none   => rfl
  | some b => exact if_neg fun le => late b.2 ⟨b.1, le, hs⟩

theorem fetch_ok_iff {body : String} :
    p.dispatcher.fetch target = .ok body ↔ p.Answers target (.text body) := by
  constructor
  case mpr => exact Answers.fetch_eq
  case mp  =>
    intro h
    by_cases answered : ∃ reply, p.Answers target reply
    case neg => simp [fetch_eq_of_late (not_exists.mp answered)] at h
    case pos =>
      obtain ⟨reply, answers⟩ := answered
      rw [answers.fetch_eq] at h
      cases reply <;> cases h
      exact answers

theorem fetch_error_iff {e : NodeError} :
    p.dispatcher.fetch target = .error e ↔ FetchFault p target e := by
  constructor
  case mpr =>
    intro fault
    cases fault with
    | late late     => exact fetch_eq_of_late late
    | fault answers => exact answers.fetch_eq
    | panic answers => exact answers.fetch_eq
  case mp  =>
    intro h
    by_cases answered : ∃ reply, p.Answers target reply
    case neg =>
      have late := not_exists.mp answered
      rw [fetch_eq_of_late late] at h
      cases h
      exact .late late
    case pos =>
      obtain ⟨reply, answers⟩ := answered
      rw [answers.fetch_eq] at h
      cases reply <;> cases h
      case fault => exact .fault answers
      case panic => exact .panic answers

theorem resolve_ok_iff {renderer : Renderer} :
    p.dispatcher.resolve target = .ok renderer ↔ p.Makes target renderer := by
  simp only [Dispatcher.resolve, bind_eq_ok, Registry.resolve_eq_ok_iff, mapError_eq_ok, Makes]
  constructor
  case mp  => exact fun ⟨_, ⟨factory, found, same⟩, made⟩ => ⟨factory, found, same.trans made⟩
  case mpr => exact fun ⟨factory, found, made⟩ => ⟨_, ⟨factory, found, made⟩, rfl⟩

theorem resolve_error_iff {e : NodeError} :
    p.dispatcher.resolve target = .error e ↔ ResolveFault p target e := by
  simp only [Dispatcher.resolve, bind_eq_error_iff, Registry.resolve_eq_ok_iff,
    Registry.resolve_eq_error_iff, mapError_eq_error]
  constructor
  case mp  =>
    rintro (⟨missing, rfl⟩ | ⟨_, ⟨_, found, rfl⟩, _, panic, rfl⟩)
    · exact .missing missing
    · exact .panic found panic
  case mpr =>
    intro fault
    cases fault with
    | missing missing   => exact .inl ⟨missing, rfl⟩
    | panic found panic => exact .inr ⟨_, ⟨_, found, rfl⟩, _, panic, rfl⟩

theorem Draws.unique {d d' : Drawing} (h : p.Draws target d) (h' : p.Draws target d') : d = d' := by
  simp only [Draws, ← fetch_ok_iff, ← resolve_ok_iff] at h h'
  obtain ⟨body, renderer, fetched, resolved, drawn⟩ := h
  obtain ⟨body', renderer', fetched', resolved', drawn'⟩ := h'
  cases fetched.symm.trans fetched'
  cases resolved.symm.trans resolved'
  exact drawn.symm.trans drawn'

theorem outcome_ok_iff {d : Drawing} {text : String} :
    d.outcome = .ok text ↔ d.ending = .done ∧ Leaves d.paints text := by
  rw [leaves_iff]
  simp only [Drawing.outcome]
  cases d.ending <;> simp

-- The faults of a drawing are those of a target if this is what its renderer draws.
theorem outcome_error_iff {d : Drawing} {e : NodeError} (draws : p.Draws target d) :
    d.outcome = .error e ↔ DrawFault p target e := by
  constructor
  case mp  =>
    intro h
    simp only [Drawing.outcome] at h
    split at h <;> cases h
    case h_2 failed => exact .failed draws failed
    case h_3 panic  => exact .panic draws panic
  case mpr =>
    intro fault
    cases fault with
    | failed draws' failed => simp [Drawing.outcome, draws.unique draws', failed]
    | panic draws' panic   => simp [Drawing.outcome, draws.unique draws', panic]

theorem stages_ok_iff {text : String} :
    p.dispatcher.stages target = .ok text ↔
      ∃ d, p.Draws target d ∧ d.ending = .done ∧ Leaves d.paints text := by
  simp only [Dispatcher.stages, bind_eq_ok, fetch_ok_iff, resolve_ok_iff, outcome_ok_iff]
  constructor
  case mp  =>
    intro ⟨body, answers, renderer, made, done⟩
    exact ⟨_, ⟨body, renderer, answers, made, rfl⟩, done⟩
  case mpr =>
    intro ⟨_, ⟨body, renderer, answers, made, drawn⟩, done⟩
    exact ⟨body, answers, renderer, made, drawn ▸ done⟩

theorem stages_error_iff {e : NodeError} :
    p.dispatcher.stages target = .error e ↔
      First [FetchFault p target, ResolveFault p target, DrawFault p target] e := by
  refine bind_eq_error (fun _ => fetch_error_iff) fun body fetched => ?_
  refine bind_eq_error (fun _ => resolve_error_iff) fun renderer resolved => ?_
  have draws : p.Draws target _ :=
    ⟨body, renderer, fetch_ok_iff.mp fetched, resolve_ok_iff.mp resolved, rfl⟩
  simp [outcome_error_iff draws, First]

theorem stopped_iff : p.Stopped target position ↔
    ∃ time, p.FirstHit position time ∧ time < p.due target := by
  have due_iff {time : Nat} (start : p.start ≤ time) : time < p.due target ↔
      time < p.start + p.dispatcher.limit ∧
        ∀ delay reply, p.dispatcher.source target.config.source = some (delay, reply) →
          time < p.start + delay := by
    simp only [due, Dispatcher.settle, ← Nat.sub_lt_iff_lt_add' start, Node.lt_settle_iff]
  constructor
  case mp  =>
    rintro ⟨c, mem, hits, early⟩
    obtain ⟨time, first⟩ := exists_firstHit mem hits
    exact ⟨time, first, Nat.lt_of_le_of_lt (first.least c mem hits)
      ((due_iff (Nat.le_max_left _ _)).mpr early)⟩
  case mpr =>
    rintro ⟨time, first, early⟩
    obtain ⟨c, mem, hits, hc⟩ := first.hit
    exact ⟨c, mem, hits, hc ▸ (due_iff first.start_le).mp early⟩

-- How a node ends that is stopped or not.
structure EndsIn (p : Plan) (target : Target) (stopped : Prop) (o : Except NodeError String) :
    Prop where
  ok    : ∀ text, o = .ok text ↔ ¬stopped ∧
    ∃ d, p.Draws target d ∧ d.ending = .done ∧ Leaves d.paints text
  error : ∀ e, o = .error e ↔ First (p.faults target stopped) e

theorem endsIn_cancelled : p.EndsIn target True (.error .cancelled) where
  ok    := by simp
  error := by
    intro e
    rw [faults, first_of_present (.cancelled trivial)]
    exact ⟨fun h => by cases h; exact .cancelled trivial, fun h => by cases h; rfl⟩

theorem endsIn_outcome : p.EndsIn target False (p.outcome target) := by
  rw [outcome, Dispatcher.outcome_settle]
  exact {
    ok    := by simp [stages_ok_iff]
    error := by
      have absent : ∀ e, ¬StopFault False e := by
        rintro _ ⟨stopped⟩
        exact stopped
      simp [faults, first_of_absent absent, stages_error_iff] }

-- What a node that is stopped or not is reported with and shows.
structure Shows (p : Plan) (target : Target) (stopped : Prop) (r : Report) : Prop where
  mount    : r.mount = target.mount
  rendered : r.state = .rendered ↔ ¬stopped ∧ ∃ d, p.Draws target d ∧ d.ending = .done
  painted  : r.state = .rendered → ∃ d, p.Draws target d ∧ Leaves d.paints r.output
  failed   : ∀ e, r.state = .failed e ↔ First (p.faults target stopped) e
  marked   : ∀ e, r.state = .failed e → r.output = "⚠ " ++ target.mount.shown ++ ": " ++ e.message

theorem EndsIn.shows {stopped : Prop} {time : Nat} {o : Except NodeError String}
    (ends : p.EndsIn target stopped o) :
    p.Shows target stopped (Node.report target.mount time o) := by
  cases o with
  | ok text =>
    have ⟨on, d, draws, done, leaves⟩ := (ends.ok text).mp rfl
    exact {
      mount    := rfl
      rendered := ⟨fun _ => ⟨on, d, draws, done⟩, fun _ => rfl⟩
      painted  := fun _ => ⟨d, draws, leaves⟩
      failed   := fun e => by simp [Node.report, ← ends.error]
      marked   := fun e h => by cases h }
  | error e =>
    exact {
      mount    := rfl
      rendered := by
        refine iff_of_false (by simp [Node.report]) fun ⟨on, d, draws, done⟩ => ?_
        have ok := (ends.ok (d.on "")).mpr ⟨on, d, draws, done, leaves_iff.mpr rfl⟩
        cases ok
      painted  := fun h => by cases h
      failed   := fun e' => by simp [Node.report, ← ends.error]
      marked   := fun e' h => by cases h; rfl }

theorem Fate.shows {r : Report} (fate : p.Fate target position r) :
    (¬p.Tied target position → p.Shows target (p.Stopped target position) r) ∧
      (p.Shows target True r ∨ p.Shows target False r) := by
  cases fate with
  | cancelled first early =>
    refine ⟨fun apart => ?_, .inl endsIn_cancelled.shows⟩
    rw [eq_true (stopped_iff.mpr ⟨_, first, first.lt_due apart early⟩)]
    exact endsIn_cancelled.shows
  | settled late          =>
    have on : ¬p.Stopped target position := by
      rw [stopped_iff]
      rintro ⟨time, first, early⟩
      exact Nat.not_le_of_lt early (late time first)
    refine ⟨fun _ => ?_, .inr endsIn_outcome.shows⟩
    rw [eq_false on]
    exact endsIn_outcome.shows

-- However a run goes, every node shows what its own stages come to. Whether it is stopped is up to
-- the requests alone, unless it is hit first just when it ends by itself.
structure Staged (p : Plan) : Prop where
  shows : ∀ s, p.Joins s → ∃ rs, s.reports.Perm rs ∧ rs.length = p.targets.length ∧
    ∀ position target r, p.targets[position]? = some target → rs[position]? = some r →
      (¬p.Tied target position → p.Shows target (p.Stopped target position) r) ∧
        (p.Shows target True r ∨ p.Shows target False r)
  run   : ∃ s, p.Joins s ∧ p.run = .ok (.ofSession s)

-- Renderers that paint and then break down, that paint twice, and that cannot be made.
def painters : Registry :=
  ((({} : Registry).register "broken" fun _ => .ok fun _ _ =>
      { paints := ["half"], ending := .panicked "torn" }).register "twice" fun _ => .ok fun _ _ =>
      { paints := ["first", "second"] }).register "unmade" fun _ => .error "gone"

def paintedBy (index : Nat) (renderer : String) : Target :=
  let target := tableOf index "here"
  { target with config := { target.config with renderer } }

def torn : Plan :=
  { mixed with
    dispatcher := { mixed.dispatcher with registry := painters }
    targets := [paintedBy 0 "broken", paintedBy 1 "twice", paintedBy 2 "unmade", paintedBy 3 "none",
      tableOf 4 "late"]
    calls := [⟨10, some 4⟩] }

end Plan
end TextCharts
