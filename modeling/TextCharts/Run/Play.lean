import TextCharts.Run.Session

namespace TextCharts

-- What is left to be done for a task: its source is to be asked, it is to end and to be taken.
def Task.weight (t : Task) : Nat :=
  match t.begun with
  | none => 3
  | some _ => 2

def Task.total : List Task → Nat
  | [] => 0
  | t :: l => t.weight + total l

theorem Task.total_append {l₁ l₂ : List Task} : total (l₁ ++ l₂) = total l₁ + total l₂ := by
  induction l₁ with
  | nil         => simp [total]
  | cons t l hi => simp only [List.cons_append, total, hi, Nat.add_assoc]

namespace Session

variable {d : Dispatcher} {s s' : Session} {t : Task}

def weight (s : Session) : Nat :=
  Task.total s.live + s.ended.length + s.calls.length

theorem quiet_iff :
    s.Quiet d ↔ s.ended = [] ∧ (∀ t ∈ s.live, ¬s.Ready d t) ∧ ∀ c ∈ s.calls, s.now < c.time where
  mp  := fun ⟨taken, waiting, early⟩ => ⟨taken, waiting, early⟩
  mpr := fun ⟨taken, waiting, early⟩ => ⟨taken, waiting, early⟩

instance : Decidable (s.Quiet d) :=
  decidable_of_iff _ quiet_iff.symm

def measure (d : Dispatcher) (s : Session) : Nat :=
  2 * s.weight + if s.Quiet d then 1 else 0

theorem weight_begun_le (t : Task) (time : Nat) :
    { t with begun := some time }.weight ≤ t.weight := by
  simp only [Task.weight]
  split <;> omega

-- Asking a source can only lower weights, and lowers that of a task that had not asked.
theorem total_begun_le (id time : Nat) (l : List Task) :
    Task.total (l.map fun u => if u.id = id then { u with begun := some time } else u) ≤
      Task.total l := by
  induction l with
  | nil => simp
  | cons u l hi =>
    have hu := weight_begun_le u time
    simp only [List.map_cons, Task.total]
    split <;> omega

theorem total_begun_lt (time : Nat) {l : List Task} (mem : t ∈ l) (h : t.begun = none) :
    Task.total (l.map fun u => if u.id = t.id then { u with begun := some time } else u) <
      Task.total l := by
  induction l with
  | nil => cases mem
  | cons u l hi =>
    simp only [List.map_cons, Task.total]
    cases mem with
    | head =>
      have hl := total_begun_le t.id time l
      simp only [if_true]
      simp only [Task.weight, h] at hl ⊢
      omega
    | tail _ mem =>
      have hl := hi mem
      have hu := weight_begun_le u time
      split <;> omega

theorem total_eraseP_lt {id : Nat} {l : List Task} (mem : ∃ u ∈ l, u.id = id) :
    Task.total (l.eraseP (·.id == id)) + 2 ≤ Task.total l := by
  have ⟨u, mem, hu⟩ := mem
  have ⟨v, l₁, l₂, _, _, hl, he⟩ := List.exists_of_eraseP mem (p := (·.id == id)) (by simp [hu])
  have hv : 2 ≤ v.weight := by simp only [Task.weight]; split <;> omega
  rw [he, hl]
  simp only [Task.total_append, Task.total]
  omega

theorem begin_weight_le : (s.begin t).weight ≤ s.weight := by
  simp only [begin, weight]
  split
  · exact Nat.le_refl _
  · have := total_begun_le t.id s.now s.live
    simp only at *
    omega

theorem begin_weight_lt (mem : t ∈ s.live) (h : t.begun = none) :
    (s.begin t).weight < s.weight := by
  have := total_begun_lt s.now mem h
  simp only [begin, weight, h]
  omega

theorem begin_now : (s.begin t).now = s.now := by
  simp only [begin]
  split <;> rfl

theorem begin_isOn {id : Nat} : (s.begin t).isOn id = s.isOn id := by
  simp only [begin]
  split <;> rfl

theorem mem_begin_id (mem : t ∈ s.live) : ∃ u ∈ (s.begin t).live, u.id = t.id := by
  simp only [begin]
  split
  · exact ⟨t, mem, rfl⟩
  · exact ⟨_, List.mem_map.mpr ⟨t, mem, rfl⟩, by simp⟩

theorem finish_weight_lt {cause : Node.Cause} (mem : ∃ u ∈ s.live, u.id = t.id) :
    (s.finish d t cause).weight < s.weight := by
  have := total_eraseP_lt mem
  simp only [finish, weight, List.length_append, List.length_singleton]
  omega

theorem advance_weight_lt (mem : t ∈ s.live) (ready : s.Ready d t) :
    (s.advance d t).weight < s.weight := by
  have hle := begin_weight_le (s := s) (t := t)
  have hmem := mem_begin_id mem
  simp only [advance, begin_now, begin_isOn]
  split
  · exact Nat.lt_of_lt_of_le (finish_weight_lt hmem) hle
  · split
    · exact Nat.lt_of_lt_of_le (finish_weight_lt hmem) hle
    · cases ready with
      | inl h => exact begin_weight_lt mem h
      | inr h => cases h <;> contradiction

theorem poll_weight_lt (first : Branch) (mem : t ∈ s.live) (ready : s.Ready d t) :
    (s.poll d first t).weight < s.weight := by
  cases first with
  | source => exact advance_weight_lt mem ready
  | switch =>
    simp only [poll]
    split
    · exact finish_weight_lt ⟨t, mem, rfl⟩
    · exact advance_weight_lt mem ready

theorem call_weight_lt {c : Cancellation} (mem : c ∈ s.calls) : (s.call c).weight < s.weight := by
  have := List.length_pos_of_mem mem
  simp only [call, weight, List.length_erase_of_mem mem]
  omega

theorem join_weight_lt (ended : s.ended ≠ []) : s.join.weight < s.weight := by
  simp only [join]
  split
  · contradiction
  · simp_all [deliver, weight]
  · split <;> simp_all [deliver, weight]

theorem mem_of_wake {time : Nat} (wake : s.wake? d = some time) :
    (∃ t ∈ s.live, t.due d s.now = time) ∨ ∃ c ∈ s.calls, c.time = time := by
  simpa using List.min?_mem wake

-- Time stops where something is due.
theorem tick_not_quiet {time : Nat} (quiet : s.Quiet d) (wake : s.wake? d = some time) :
    ¬Quiet d { s with now := time } := by
  intro quiet'
  cases mem_of_wake wake with
  | inl h =>
    have ⟨t, mem, due⟩ := h
    have hb : t.begun ≠ none := fun hb => quiet.waiting t mem (.inl hb)
    have ⟨b, hb⟩ := Option.ne_none_iff_exists'.mp hb
    refine quiet'.waiting t mem (.inr (.inl ?_))
    simp only [Task.due, hb, Option.getD_some] at due ⊢
    exact Nat.le_of_eq due
  | inr h =>
    have ⟨c, mem, due⟩ := h
    exact Nat.lt_irrefl _ (due ▸ quiet'.early c mem)

-- A step that does something is worth more than the rest that it may bring about.
theorem measure_lt_of_weight_lt (h : s'.weight < s.weight) : s'.measure d < s.measure d := by
  simp only [measure]
  split <;> split <;> omega

theorem Step.measure_lt : Step d s s' → s'.measure d < s.measure d
  | .poll first mem ready => measure_lt_of_weight_lt (poll_weight_lt first mem ready)
  | .call mem _           => measure_lt_of_weight_lt (call_weight_lt mem)
  | .join ended           => measure_lt_of_weight_lt (join_weight_lt ended)
  | .tick quiet h         => by
    have hq := tick_not_quiet quiet h
    simp only [measure, weight, if_pos quiet, if_neg hq]
    omega

theorem next?_step (h : s.next? d = some s') : Step d s s' := by
  simp only [next?] at h
  split at h
  case h_1 ended =>
    cases h
    exact .join (by simp [ended])
  case h_2 taken =>
    split at h
    case h_1 hf =>
      cases h
      exact .poll .source (List.mem_of_find?_eq_some hf) (by simpa using List.find?_some hf)
    case h_2 idle =>
      have waiting : ∀ t ∈ s.live, ¬s.Ready d t := by simpa using idle
      split at h
      case h_1 hf =>
        cases h
        exact .call (List.mem_of_find?_eq_some hf) (by simpa using List.find?_some hf)
      case h_2 none =>
        have ⟨_, wake, hs⟩ := Option.map_eq_some_iff.mp h
        cases hs
        exact .tick ⟨taken, waiting, by simpa using none⟩ wake

def play (d : Dispatcher) (s : Session) : Session :=
  match _h : s.next? d with
  | none => s
  | some s' => s'.play d
termination_by s.measure d
decreasing_by exact (next?_step _h).measure_lt

end Session
end TextCharts
