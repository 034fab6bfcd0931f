import TextCharts.Render.Options

namespace TextCharts.Options

inductive IsNumber : Json → Float → Prop
  | number (n : Json.Number) : IsNumber (.number n) n.toDouble

inductive IsNatural : Json → Nat → Prop
  | natural (n : Nat) : IsNatural (.number (.integer n)) n

inductive Asks {α : Type} (Is : Json → α → Prop) : Option Json → Option α → Prop
  | absent                                       : Asks Is none none
  | null                                         : Asks Is (some .null) none
  | value {value : Json} {a : α} (is : Is value a) : Asks Is (some value) (some a)

-- An option that is neither nothing nor what it has to be.
def Misfit {α : Type} (kind : OptionKind) (Is : Json → α → Prop) (options : Options) (key : String)
    (e : DrawError) : Prop :=
  (∀ a, ¬Asks Is (options.get? key) a) ∧ e = .badOption key kind

variable {α : Type} {Is : Json → α → Prop} {read : Json → Option α} {kind : OptionKind}
variable {options : Options} {key : String} {value : Json} {a : Option α} {e : DrawError}

-- Reading gives what a value is, and null is nothing.
structure Reads (read : Json → Option α) (Is : Json → α → Prop) : Prop where
  some_iff : ∀ value a, read value = some a ↔ Is value a
  null     : read .null = none

theorem reads_number : Reads Json.asDouble? IsNumber where
  some_iff value x := by
    constructor
    case mp =>
      intro h
      cases value <;> cases h
      exact .number _
    case mpr =>
      intro ⟨n⟩
      rfl
  null := rfl

theorem reads_natural : Reads Json.asNat? IsNatural where
  some_iff value n := by
    constructor
    case mp =>
      intro h
      simp only [Json.asNat?] at h
      split at h
      · cases h
        exact .natural n
      · contradiction
    case mpr =>
      intro ⟨n⟩
      rfl
  null := rfl

theorem Reads.asks_value_iff (reads : Reads read Is) (ne : value ≠ .null) :
    Asks Is (some value) a ↔ ∃ b, read value = some b ∧ a = some b := by
  constructor
  case mp =>
    intro asks
    cases asks with
    | null     => contradiction
    | value is => exact ⟨_, (reads.some_iff _ _).mpr is, rfl⟩
  case mpr =>
    intro ⟨b, hb, ha⟩
    exact ha ▸ .value ((reads.some_iff _ _).mp hb)

theorem Reads.asks_null_iff (reads : Reads read Is) : Asks Is (some .null) a ↔ a = none := by
  constructor
  case mp =>
    intro asks
    cases asks with
    | null     => rfl
    | value is => exact absurd ((reads.some_iff _ _).mpr is) (by simp [reads.null])
  case mpr => exact fun ha => ha ▸ .null

-- An option asks for one thing at most.
theorem Reads.asks_unique {given : Option Json} {b : Option α} (reads : Reads read Is)
    (asks : Asks Is given a) (asks' : Asks Is given b) : a = b := by
  cases asks with
  | absent   => cases asks'; rfl
  | null     => exact (reads.asks_null_iff.mp asks').symm
  | value is =>
    cases asks' with
    | null      => exact reads.asks_null_iff.mp (.value is)
    | value is' => exact ((reads.some_iff _ _).mpr is).symm.trans ((reads.some_iff _ _).mpr is')

theorem asks_absent_iff : Asks Is none a ↔ a = none :=
  ⟨fun asks => by cases asks; rfl, fun ha => ha ▸ .absent⟩

theorem Reads.read?_eq_ok_iff (reads : Reads read Is) :
    options.read? kind read key = .ok a ↔ Asks Is (options.get? key) a := by
  simp only [read?]
  split
  case h_1 h          => simp [h, asks_absent_iff, eq_comm]
  case h_2 h          => simp [h, reads.asks_null_iff, eq_comm]
  case h_3 value ne h =>
    rw [h, reads.asks_value_iff ne]
    cases read value <;> simp [eq_comm]

theorem Reads.read?_eq_error_iff (reads : Reads read Is) :
    options.read? kind read key = .error e ↔ Misfit kind Is options key e := by
  have fault (e' : DrawError) (h : options.read? kind read key = .error e') :
      e' = .badOption key kind := by
    simp only [read?] at h
    split at h
    · cases h
    · cases h
    · split at h <;> cases h
      rfl
  have asks (a : Option α) : Asks Is (options.get? key) a ↔ options.read? kind read key = .ok a :=
    reads.read?_eq_ok_iff.symm
  simp only [Misfit, asks]
  cases h : options.read? kind read key with
  | ok a     => simp
  | error e' => simp [fault e' h, eq_comm]

theorem exists_asks_iff :
    (∃ a, Asks Is (options.get? key) a) ↔ ∀ e, ¬Misfit kind Is options key e := by
  constructor
  case mp  => exact fun ⟨a, asks⟩ _ fault => fault.1 a asks
  case mpr =>
    intro absent
    exact Classical.byContradiction fun none => absent _ ⟨not_exists.mp none, rfl⟩

end TextCharts.Options
