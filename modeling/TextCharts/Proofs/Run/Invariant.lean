import Mathlib.Data.List.Perm.Basic
import Mathlib.Data.List.Range
import Mathlib.Logic.Relation
import TextCharts.Proofs.Run.Fate

namespace TextCharts.Plan

open Session

variable {p : Plan} {s s' : Session} {t : Task}

-- A task that has not ended. Neither its source nor a request has decided about it before now, and
-- only a request that is made now can have turned its switch.
structure Waiting (p : Plan) (s : Session) (t : Task) : Prop where
  target : p.targets[t.id]? = some t.target
  begun  : t.begun.getD s.now = p.start
  due    : s.now ≤ p.due t.target
  unhit  : ∀ c ∈ p.calls, c.hits p.targets t.id → s.now ≤ max p.start c.time
  off    : s.isOn t.id = false → ∀ c ∈ p.calls, c.hits p.targets t.id → c ∈ s.calls
  on     : s.isOn t.id = true → ∃ c ∈ p.calls, c.hits p.targets t.id ∧ max p.start c.time = s.now

-- The target at a position may be reported with this.
def Comes (p : Plan) (position : Nat) (r : Report) : Prop :=
  ∃ target, p.targets[position]? = some target ∧ p.Fate target position r

-- Every node waits, has ended or was taken, and only comes to what is its fate, whatever else
-- happens and in whatever order.
structure Sound (p : Plan) (s : Session) : Prop where
  after    : p.start ≤ s.now
  account  : ∃ taken,
    (s.live.map (·.id) ++ s.ended.map (·.1) ++ taken).Perm (.range p.targets.length) ∧
      List.Forall₂ p.Comes taken s.reports
  mounts   : ∀ id ∈ s.live.map (·.id) ++ s.ended.map (·.1),
    s.mounts.lookup id = p.targets[id]?.map (·.mount)
  calls    : s.calls ⊆ p.calls
  switches : s.switches.map (·.index) = p.targets.map (·.mount.index)
  waiting  : ∀ t ∈ s.live, p.Waiting s t
  ended    : ∀ e ∈ s.ended, ∃ target, p.targets[e.1]? = some target ∧
    p.Fate target e.1 (Node.collect target.mount s.now e.2)
  seen     : s.seen = s.reports

theorem Waiting.due_eq (w : p.Waiting s t) :
    t.due p.dispatcher s.now = p.due t.target :=
  congrArg (· + _) w.begun

-- Only the time, the requests and the switches matter to a task that has not ended.
theorem Waiting.of_eq (w : p.Waiting s t) (now : s'.now = s.now) (calls : s'.calls = s.calls)
    (switches : s'.switches = s.switches) : p.Waiting s' t := by
  have ⟨target, begun, due, unhit, off, on⟩ := w
  rw [← now] at begun due unhit on
  rw [← calls] at off
  simp only [isOn, ← switches] at off on
  exact ⟨target, begun, due, unhit, off, on⟩

theorem Sound.ids_nodup (sound : p.Sound s) : (s.live.map (·.id) ++ s.ended.map (·.1)).Nodup :=
  have ⟨_, perm, _⟩ := sound.account
  (List.nodup_append.mp (perm.nodup_iff.mpr List.nodup_range)).1

theorem Sound.isOn_lt (sound : p.Sound s) (w : p.Waiting s t) : t.id < s.switches.length := by
  have ⟨h, _⟩ := List.getElem?_eq_some_iff.mp w.target
  have := congrArg List.length sound.switches
  simp only [List.length_map] at this
  exact this ▸ h

theorem lookup_zipIdx {α β : Type} (f : α → β) (l : List α) (n i : Nat) :
    ((l.zipIdx n).map fun (a, j) => (j, f a)).lookup (n + i) = l[i]?.map f := by
  induction l generalizing n i with
  | nil => rfl
  | cons a l hi =>
    cases i with
    | zero => simp
    | succ i =>
      have hn : (n + (i + 1) == n) = false := by simp
      have hi := hi (n + 1) i
      rw [Nat.add_assoc, Nat.add_comm 1] at hi
      simp only [List.zipIdx_cons, List.map_cons, List.lookup_cons, hn, hi,
        List.getElem?_cons_succ]

-- At the start every task waits, and its position is its number.
theorem sound_session : p.Sound p.session where
  after    := Nat.le_refl _
  account  := by
    refine ⟨[], ?_, .nil⟩
    have := List.zipIdx_map_snd 0 p.targets
    simp only [session, Session.start, List.map_map, Function.comp_def, List.map_nil,
      List.append_nil, List.range_eq_range']
    exact List.Perm.of_eq this
  mounts   := fun id _ => by
    have := lookup_zipIdx (·.mount) p.targets 0 id
    simpa [session, Session.start] using this
  calls    := List.Subset.refl _
  switches := by simp [session, Session.start]
  waiting  := by
    intro t mem
    have ⟨(target, id), mem, h⟩ := List.mem_map.mp mem
    have htarget : p.targets[id]? = some target := List.mem_zipIdx_iff_getElem?.mp mem
    have hoff : p.session.isOn id = false := by simp [session, Session.start, isOn, htarget]
    subst h
    exact {
      target := htarget
      begun  := rfl
      due    := Nat.le_add_right _ _
      unhit  := fun _ _ _ => Nat.le_max_left _ _
      off    := fun _ _ mem _ => mem
      on     := fun h => by simp [hoff] at h }
  ended    := by simp [session, Session.start]
  seen     := rfl

-- Asking its source changes nothing about a task but the time at which it was asked.
theorem Waiting.begin {u : Task} (w : p.Waiting s u) (now : p.start = s.now) :
    p.Waiting s { u with begun := some s.now } where
  target := w.target
  begun  := now.symm
  due    := w.due
  unhit  := w.unhit
  off    := w.off
  on     := w.on

theorem Sound.begin (sound : p.Sound s) (mem : t ∈ s.live) : p.Sound (s.begin t) := by
  cases hb : t.begun with
  | some _ => simpa only [Session.begin, hb] using sound
  | none =>
    have now : p.start = s.now := by simpa [hb] using (sound.waiting t mem).begun.symm
    have ids : (s.begin t).live.map (·.id) = s.live.map (·.id) := by
      simp only [Session.begin, hb, List.map_map]
      refine List.map_congr_left fun u _ => ?_
      simp only [Function.comp_apply]
      split <;> rfl
    simp only [Session.begin, hb] at ids ⊢
    exact {
      after    := sound.after
      account  := by simpa only [ids] using sound.account
      mounts   := by simpa only [ids] using sound.mounts
      calls    := sound.calls
      switches := sound.switches
      waiting  := by
        intro u' mem'
        obtain ⟨u, mem, rfl⟩ := List.mem_map.mp mem'
        have w := sound.waiting u mem
        split
        · exact (w.begin now).of_eq rfl rfl rfl
        · exact w.of_eq rfl rfl rfl
      ended    := sound.ended
      seen     := sound.seen }

-- A task may end as soon as what it ends with is its fate.
theorem Sound.finish {u : Task} {cause : Node.Cause} (sound : p.Sound s) (mem : u ∈ s.live)
    (id : u.id = t.id) (target : p.targets[t.id]? = some t.target)
    (fate : p.Fate t.target t.id
      (Node.collect t.target.mount s.now (p.dispatcher.conclude t.target s.now cause))) :
    p.Sound (s.finish p.dispatcher t cause) := by
  have ⟨v, l₁, l₂, _, hv, hl, he⟩ := List.exists_of_eraseP mem (p := (·.id == t.id)) (by simp [id])
  have hv : v.id = t.id := by simpa using hv
  have ⟨taken, perm, reports⟩ := sound.account
  -- The number of a task goes from those that live to those that have ended.
  have hperm : (s.live.map (·.id) ++ s.ended.map (·.1)).Perm
      ((s.finish p.dispatcher t cause).live.map (·.id) ++
        (s.finish p.dispatcher t cause).ended.map (·.1)) := by
    refine List.perm_iff_count.mpr fun i => ?_
    simp only [Session.finish, he]
    simp only [hl, hv, List.map_append, List.map_cons, List.map_nil, List.count_append,
      List.count_cons, List.count_nil]
    omega
  exact {
    after    := sound.after
    account  := ⟨taken, (hperm.symm.append_right taken).trans perm, reports⟩
    mounts   := fun i mem => sound.mounts i (hperm.mem_iff.mpr mem)
    calls    := sound.calls
    switches := sound.switches
    waiting  := fun u mem => (sound.waiting u (List.mem_of_mem_eraseP mem)).of_eq rfl rfl rfl
    ended    := by
      intro e mem
      simp only [Session.finish, List.mem_append, List.mem_singleton] at mem
      cases mem with
      | inl mem => exact sound.ended e mem
      | inr h   => exact h ▸ ⟨t.target, target, fate⟩
    seen     := sound.seen }

-- A node that waits has not been hit before now.
theorem Waiting.le_firstHit {time : Nat} (w : p.Waiting s t) (first : p.FirstHit t.id time) :
    s.now ≤ time := by
  have ⟨c, mem, hits, hc⟩ := first.hit
  exact hc ▸ w.unhit c mem hits

theorem Waiting.fate_settled (w : p.Waiting s t) (due : t.due p.dispatcher s.now ≤ s.now) :
    p.Fate t.target t.id (Node.collect t.target.mount s.now
      (p.dispatcher.conclude t.target s.now (p.dispatcher.settle t.target).1)) := by
  have now : p.due t.target = s.now := Nat.le_antisymm (w.due_eq ▸ due) w.due
  rw [Dispatcher.conclude, Node.collect_conclude, ← now]
  exact .settled fun time first => now ▸ w.le_firstHit first

theorem Waiting.fate_cancelled (w : p.Waiting s t) (on : s.isOn t.id = true) :
    p.Fate t.target t.id
      (Node.collect t.target.mount s.now (p.dispatcher.conclude t.target s.now .cancelled)) := by
  rw [Dispatcher.conclude, Node.collect_conclude]
  exact .cancelled ⟨w.on on, w.unhit⟩ w.due

theorem Sound.stop (sound : p.Sound s) (mem : t ∈ s.live) (on : s.isOn t.id = true) :
    p.Sound (s.finish p.dispatcher t .cancelled) :=
  have w := sound.waiting t mem
  sound.finish mem rfl w.target (w.fate_cancelled on)

theorem Sound.advance (sound : p.Sound s) (mem : t ∈ s.live) :
    p.Sound (s.advance p.dispatcher t) := by
  have w := sound.waiting t mem
  have ⟨u, mem', id⟩ := mem_begin_id mem
  have sound' := sound.begin mem
  simp only [Session.advance, begin_now, begin_isOn]
  split
  case isTrue due =>
    refine sound'.finish mem' id w.target ?_
    rw [begin_now]
    exact w.fate_settled due
  case isFalse =>
    split
    case isTrue on =>
      refine sound'.finish mem' id w.target ?_
      rw [begin_now]
      exact w.fate_cancelled on
    case isFalse => exact sound'

theorem Sound.poll (sound : p.Sound s) (first : Branch) (mem : t ∈ s.live) :
    p.Sound (s.poll p.dispatcher first t) := by
  cases first with
  | source => exact sound.advance mem
  | switch =>
    simp only [Session.poll]
    split
    case isTrue on => exact sound.stop mem on
    case isFalse   => exact sound.advance mem

-- A request that reaches a task turns its switch now; one that does not leaves it as it is.
theorem Waiting.call {c : Cancellation} (w : p.Waiting s t) (sound : p.Sound s)
    (mem : c ∈ s.calls) (due : c.time ≤ s.now) : p.Waiting (s.call c) t := by
  have hon : (s.call c).isOn t.id = true ↔ s.isOn t.id = true ∨ c.hits p.targets t.id :=
    Cancellation.turn_on sound.switches (sound.isOn_lt w)
  exact {
    target := w.target
    begun  := w.begun
    due    := w.due
    unhit  := w.unhit
    off    := by
      intro h c' mem' hits'
      have ⟨off, unhit⟩ := not_or.mp (mt hon.mpr (by simp [h]))
      have ne : c' ≠ c := fun hc => unhit (hc ▸ hits')
      exact (List.mem_erase_of_ne ne).mpr (w.off (by simpa using off) c' mem' hits')
    on     := by
      intro h
      cases hon.mp h with
      | inl on   => exact w.on on
      | inr hits =>
        have := w.unhit c (sound.calls mem) hits
        have := sound.after
        exact ⟨c, sound.calls mem, hits, by simp only [Session.call]; omega⟩ }

theorem Sound.call {c : Cancellation} (sound : p.Sound s) (mem : c ∈ s.calls)
    (due : c.time ≤ s.now) : p.Sound (s.call c) where
  after    := sound.after
  account  := sound.account
  mounts   := sound.mounts
  calls    := fun _ mem => sound.calls (List.mem_of_mem_erase mem)
  switches := Cancellation.turn_index.trans sound.switches
  waiting  := fun t mem' => (sound.waiting t mem').call sound mem due
  ended    := sound.ended
  seen     := sound.seen

theorem lookup_filter_ne {α : Type} {l : List (Nat × α)} {i j : Nat} (ne : j ≠ i) :
    (l.filter (·.1 != i)).lookup j = l.lookup j := by
  induction l with
  | nil => rfl
  | cons a l hi =>
    have ⟨k, v⟩ := a
    by_cases hk : k = i
    case pos => simp [hk, hi, List.lookup_cons, beq_eq_false_iff_ne.mpr ne]
    case neg => simp [hk, hi, List.lookup_cons]

-- What a join gives is a fate of the task that ended first.
theorem Sound.join_eq (sound : p.Sound s) {e : Nat × Except String Report}
    {ended : List (Nat × Except String Report)} (h : s.ended = e :: ended) :
    ∃ r mounts, p.Comes e.1 r ∧
      (∀ i, i ≠ e.1 → mounts.lookup i = s.mounts.lookup i) ∧
      s.join = Session.deliver r { s with ended, mounts } := by
  have ⟨target, htarget, fate⟩ := sound.ended e (by simp [h])
  cases e with
  | mk id ending =>
    cases ending with
    | ok r =>
      refine ⟨r, s.mounts, ⟨target, htarget, fate⟩, fun _ _ => rfl, ?_⟩
      simp only [join, h]
    | error message =>
      have hmount : s.mounts.lookup id = some target.mount := by
        simp [sound.mounts id (by simp [h]), htarget]
      refine ⟨_, s.mounts.filter (·.1 != id), ⟨target, htarget, fate⟩,
        fun _ ne => lookup_filter_ne ne, ?_⟩
      simp only [join, h, hmount]
      rfl

theorem Sound.join (sound : p.Sound s) (ended : s.ended ≠ []) : p.Sound s.join := by
  have ⟨e, ended, h⟩ := List.exists_cons_of_ne_nil ended
  have ⟨r, mounts, comes, hmounts, hjoin⟩ := sound.join_eq h
  have ⟨taken, perm, reports⟩ := sound.account
  have nodup := sound.ids_nodup
  rw [h] at perm nodup
  rw [hjoin]
  exact {
    after    := sound.after
    account  := by
      refine ⟨taken ++ [e.1], ?_, List.rel_append reports (.cons comes .nil)⟩
      refine (List.perm_iff_count.mpr fun i => ?_).trans perm
      simp only [Session.deliver, List.map_cons, List.count_append, List.count_cons,
        List.count_nil]
      omega
    mounts   := by
      intro i mem
      have notin : e.1 ∉ _ := (List.nodup_cons.mp (List.perm_middle.nodup_iff.mp nodup)).1
      have mem' : i ∈ s.live.map (·.id) ++ s.ended.map (·.1) := by
        rw [h]
        exact List.mem_append.mpr ((List.mem_append.mp mem).imp_right (List.mem_cons_of_mem _))
      have ne : i ≠ e.1 := fun hi => notin (hi ▸ mem)
      exact (hmounts i ne).trans (sound.mounts i mem')
    calls    := sound.calls
    switches := sound.switches
    waiting  := fun t mem => (sound.waiting t mem).of_eq rfl rfl rfl
    ended    := fun e mem => sound.ended e (h ▸ List.mem_cons_of_mem _ mem)
    seen     := congrArg (· ++ _) sound.seen }

-- Time passes to where the first thing is due, so it passes over nothing.
theorem wake_le {time : Nat} (wake : s.wake? p.dispatcher = some time) :
    (∀ t ∈ s.live, time ≤ t.due p.dispatcher s.now) ∧ ∀ c ∈ s.calls, time ≤ c.time := by
  have ⟨_, least⟩ := List.min?_eq_some_iff.mp wake
  simp only [List.mem_append, List.mem_map] at least
  exact ⟨fun t mem => least _ (.inl ⟨t, mem, rfl⟩), fun c mem => least _ (.inr ⟨c, mem, rfl⟩)⟩

theorem Sound.tick {time : Nat} (sound : p.Sound s) (quiet : s.Quiet p.dispatcher)
    (wake : s.wake? p.dispatcher = some time) : p.Sound { s with now := time } := by
  have ⟨hdue, hcall⟩ := wake_le wake
  have later : s.now ≤ time := by
    cases mem_of_wake wake with
    | inl h =>
      have ⟨t, mem, due⟩ := h
      have := (sound.waiting t mem).due
      rw [← (sound.waiting t mem).due_eq, due] at this
      exact this
    | inr h =>
      have ⟨c, mem, due⟩ := h
      exact due ▸ Nat.le_of_lt (quiet.early c mem)
  exact {
    after    := Nat.le_trans sound.after later
    account  := sound.account
    mounts   := sound.mounts
    calls    := sound.calls
    switches := sound.switches
    waiting  := by
      intro t mem
      have w := sound.waiting t mem
      have off : s.isOn t.id = false := by
        simpa using fun on => quiet.waiting t mem (.inr (.inr on))
      have ⟨b, hb⟩ := Option.ne_none_iff_exists'.mp fun hb => quiet.waiting t mem (.inl hb)
      exact {
        target := w.target
        begun  := by simpa [hb] using w.begun
        due    := w.due_eq ▸ hdue t mem
        unhit  := fun c mem' hits => by
          have := hcall c (w.off off c mem' hits)
          simp only
          omega
        off    := w.off
        on     := fun on => by simp [isOn] at on off; simp [off] at on }
    ended    := by simp [quiet.taken]
    seen     := sound.seen }

theorem Sound.step (sound : p.Sound s) : Step p.dispatcher s s' → p.Sound s'
  | .poll first mem _ => sound.poll first mem
  | .call mem due     => sound.call mem due
  | .join ended       => sound.join ended
  | .tick quiet wake  => sound.tick quiet wake

theorem Sound.execution (sound : p.Sound s)
    (e : Relation.ReflTransGen (Step p.dispatcher) s s') : p.Sound s' := by
  induction e with
  | refl       => exact sound
  | tail _ e hi => exact hi.step e

end TextCharts.Plan
