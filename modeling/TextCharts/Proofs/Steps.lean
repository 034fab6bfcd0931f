namespace TextCharts

variable {ε α β : Type} {first : Except ε α} {next : α → Except ε β} {b : β} {e : ε}

theorem bind_eq_ok : first >>= next = .ok b ↔ ∃ a, first = .ok a ∧ next a = .ok b := by
  cases first <;> simp [bind, Except.bind]

theorem bind_eq_error_iff : first >>= next = .error e ↔
    first = .error e ∨ ∃ a, first = .ok a ∧ next a = .error e := by
  cases first <;> simp [bind, Except.bind]

section

variable {ε' : Type} {rename : ε → ε'} {a : α} {e' : ε'}

theorem mapError_eq_ok : first.mapError rename = .ok a ↔ first = .ok a := by
  cases first with
  | error e => change Except.error _ = _ ↔ _; simp
  | ok a'   => change Except.ok _ = _ ↔ _; simp

theorem mapError_eq_error :
    first.mapError rename = .error e' ↔ ∃ e, first = .error e ∧ rename e = e' := by
  cases first with
  | error e => change Except.error _ = _ ↔ _; simp
  | ok a'   => change Except.ok _ = _ ↔ _; simp

end

-- What is done with the result may as well be done by the last step.
theorem bind_eq_map {γ : Type} {next' : α → Except ε γ} {f : γ → β}
    (h : ∀ a, next a = (next' a).map f) : first >>= next = (first >>= next').map f := by
  cases first with
  | error => rfl
  | ok a  => exact h a

-- Of the faults that may be present, the one that comes before the others.
def First : List (ε → Prop) → ε → Prop
  | [], _             => False
  | fault :: later, e => fault e ∨ (∀ e', ¬fault e') ∧ First later e

variable {fault : ε → Prop} {later : List (ε → Prop)}

theorem first_of_absent (absent : ∀ e', ¬fault e') :
    First (fault :: later) e ↔ First later e := by
  simp [First, absent]

theorem first_of_present {e' : ε} (present : fault e') :
    First (fault :: later) e ↔ fault e := by
  simp only [First, or_iff_left_iff_imp]
  exact fun ⟨absent, _⟩ => (absent e' present).elim

theorem bind_eq_error (here : ∀ e, first = .error e ↔ fault e)
    (there : ∀ a, first = .ok a → (next a = .error e ↔ First later e)) :
    first >>= next = .error e ↔ First (fault :: later) e := by
  cases first with
  | error e' =>
    rw [first_of_present ((here e').mp rfl), ← here]
    simp [bind, Except.bind]
  | ok a     =>
    rw [first_of_absent fun e' present => nomatch (here e').mpr present]
    exact there a rfl

theorem exists_first_iff {faults : List (ε → Prop)} :
    (∃ e, First faults e) ↔ ∃ fault ∈ faults, ∃ e, fault e := by
  induction faults with
  | nil                   => simp [First]
  | cons fault later hi =>
    by_cases present : ∃ e, fault e
    case pos =>
      have ⟨e, he⟩ := present
      exact ⟨fun _ => ⟨fault, by simp, present⟩, fun _ => ⟨e, .inl he⟩⟩
    case neg =>
      have absent := not_exists.mp present
      simp [first_of_absent absent, hi, absent]

theorem First.exists_mem {faults : List (ε → Prop)} (first : First faults e) :
    ∃ fault ∈ faults, fault e := by
  induction faults with
  | nil                => cases first
  | cons fault rest hi =>
    rcases first with present | ⟨_, later⟩
    · exact ⟨fault, List.mem_cons_self, present⟩
    · have ⟨fault', mem, present⟩ := hi later
      exact ⟨fault', List.mem_cons_of_mem _ mem, present⟩

-- What may go wrong does not, if and only if all ends well.
theorem exists_ok_iff {result : Except ε α} {faults : List (ε → Prop)}
    (refused : ∀ e, result = .error e ↔ First faults e) :
    (∃ a, result = .ok a) ↔ ∀ fault ∈ faults, ∀ e, ¬fault e := by
  have none : (∀ fault ∈ faults, ∀ e, ¬fault e) ↔ ¬∃ e, First faults e := by
    simp [exists_first_iff]
  rw [none]
  cases result <;> simp [← refused]

end TextCharts
