import TextCharts.Proofs.Render.Packages
import TextCharts.Proofs.Run.Stages
import TextCharts.Proofs.Text.Bytes

namespace TextCharts

namespace Registry

-- Registers one renderer after the other.
def ofHistory (history : List (String × Factory)) : Registry :=
  history.foldl (fun r call => r.register call.1 call.2) {}

-- The renderer that was registered under a name after all others of this name.
def LastUnder (history : List (String × Factory)) (name : String) (factory : Factory) : Prop :=
  ∃ before after, history = before ++ (name, factory) :: after ∧ ∀ call ∈ after, call.1 ≠ name

variable {r : Registry} {name other : String} {factory factory' : Factory}
  {entries : List (String × Factory)} {history : List (String × Factory)}

theorem mem_insert :
    other ∈ (insert name factory entries).map (·.1) ↔
      other = name ∨ other ∈ entries.map (·.1) := by
  induction entries with
  | nil              => simp [insert]
  | cons entry _ hi  =>
    simp only [insert]
    split
    · simp
    · split
      case isTrue same => simp [same]
      case isFalse     => simp only [List.map_cons, List.mem_cons, hi, or_left_comm]

theorem insert_pairwise (ascending : (entries.map (·.1)).Pairwise (· < ·)) :
    ((insert name factory entries).map (·.1)).Pairwise (· < ·) := by
  induction entries with
  | nil                => simp [insert]
  | cons entry rest hi =>
    have ⟨least, ascending'⟩ := List.pairwise_cons.mp ascending
    simp only [insert]
    split
    case isTrue lt =>
      refine List.pairwise_cons.mpr ⟨fun other mem => ?_, ascending⟩
      cases mem with
      | head       => exact lt
      | tail _ mem => exact String.lt_trans lt (least other mem)
    case isFalse nlt =>
      split
      case isTrue same   => simpa [same] using ascending
      case isFalse apart =>
        refine List.pairwise_cons.mpr ⟨fun other mem => ?_, hi ascending'⟩
        cases mem_insert.mp mem with
        | inl same => exact same ▸ Std.lt_of_le_of_ne (String.not_lt.mp nlt) (Ne.symm apart)
        | inr mem  => exact least other mem

theorem find?_insert :
    (insert name factory entries).find? (·.1 == other) =
      if other = name then some (name, factory) else entries.find? (·.1 == other) := by
  induction entries with
  | nil                => grind [insert]
  | cons entry rest hi => grind [insert]

theorem mem_names_register :
    other ∈ (r.register name factory).names ↔ other = name ∨ other ∈ r.names :=
  mem_insert

theorem find?_register : (r.register name factory).find? other =
    if other = name then some factory else r.find? other := by
  simp only [find?, register, find?_insert]
  split <;> rfl

theorem ofHistory_append (call : String × Factory) :
    ofHistory (history ++ [call]) = (ofHistory history).register call.1 call.2 := by
  simp [ofHistory]

theorem mem_names_ofHistory :
    name ∈ (ofHistory history).names ↔ ∃ factory, (name, factory) ∈ history := by
  induction history using List.reverseRecOn with
  | nil                              => simp [ofHistory, names]
  | append_singleton history call hi =>
    rw [ofHistory_append, mem_names_register, hi, or_comm]
    simp [Prod.ext_iff, exists_or]

theorem ofHistory_pairwise : (ofHistory history).names.Pairwise (· < ·) := by
  induction history using List.reverseRecOn with
  | nil                              => exact .nil
  | append_singleton history call hi =>
    rw [ofHistory_append]
    exact insert_pairwise hi

theorem ofHistory_nodup : (ofHistory history).names.Nodup := by
  apply ofHistory_pairwise.imp
  rintro name _ lt rfl
  exact String.lt_irrefl name lt

-- A registry is searched from the last registration on.
theorem find?_ofHistory :
    (ofHistory history).find? name = (history.reverse.find? (·.1 == name)).map (·.2) := by
  induction history using List.reverseRecOn with
  | nil                              => rfl
  | append_singleton history call hi =>
    rw [ofHistory_append, find?_register, List.reverse_append, List.reverse_singleton,
      List.singleton_append, List.find?_cons, hi]
    by_cases same : name = call.1
    case pos => simp [same]
    case neg => simp [same, beq_eq_false_iff_ne.mpr (Ne.symm same)]

theorem lastUnder_iff : LastUnder history name factory ↔
    history.reverse.find? (·.1 == name) = some (name, factory) := by
  rw [List.find?_eq_some_iff_append]
  constructor
  case mp  =>
    rintro ⟨before, after, rfl, none⟩
    exact ⟨by simp, after.reverse, before.reverse, by simp, by simpa using none⟩
  case mpr =>
    rintro ⟨_, after, before, reversed, none⟩
    refine ⟨before.reverse, after.reverse, ?_, by simpa using none⟩
    simpa using congrArg List.reverse reversed

theorem find?_ofHistory_eq_some_iff :
    (ofHistory history).find? name = some factory ↔ LastUnder history name factory := by
  rw [find?_ofHistory, lastUnder_iff, Option.map_eq_some_iff]
  constructor
  case mp  =>
    rintro ⟨call, found, rfl⟩
    have named : call.1 = name := by simpa using List.find?_some found
    exact named ▸ found
  case mpr => exact fun found => ⟨_, found, rfl⟩

-- The renderers that are always there have been registered, and can be made for every mount.
theorem builtin_eq (terminal : Nat) (style : Style) : builtin terminal style =
    ofHistory ((builtins terminal style).map fun entry => (entry.1, fun _ => .ok entry.2)) :=
  rfl

theorem mem_builtins {terminal : Nat} {style : Style} {name : String} {factory : Factory}
    {mount : Mount} {renderer : Renderer}
    (found : (builtin terminal style).find? name = some factory)
    (made : factory mount = .ok renderer) : (name, renderer) ∈ builtins terminal style := by
  rw [builtin_eq, find?_ofHistory_eq_some_iff] at found
  have ⟨_, _, split, _⟩ := found
  have mem : (name, factory) ∈
      (builtins terminal style).map fun entry => (entry.1, fun _ => .ok entry.2) :=
    split ▸ List.mem_append_right _ List.mem_cons_self
  have ⟨_, listed, same⟩ := List.mem_map.mp mem
  cases same
  cases made
  exact listed

section

variable {mount : Mount} {made : Except String Renderer} {e : NodeError}

theorem exists_resolve_iff : (∃ made, r.resolve name mount = .ok made) ↔ name ∈ r.names := by
  simp only [resolve_eq_ok_iff]
  rw [← not_iff_not, ← find?_eq_none_iff]
  simp [Option.eq_none_iff_forall_ne_some]

-- A node draws with what its name is resolved to.
theorem draw_eq {target : Target} {body : String} : Node.draw r target body =
    (r.resolve target.config.renderer target.mount).mapError .fault >>= fun made =>
      made.mapError .breakdown >>= fun renderer =>
        (renderer (Table.parse target.config.dialect body)
          target.config.options).outcome.mapError .fault := by
  simp only [Node.draw]
  refine congrArg _ (funext fun made => congrArg _ (funext fun renderer => ?_))
  simp only [Drawing.outcome]
  cases (renderer (Table.parse target.config.dialect body) target.config.options).ending <;> rfl

end

-- What a registry knows of its history, and what becomes of the names that it is asked for.
structure Records (history : List (String × Factory)) (r : Registry) : Prop where
  listed    : ∀ name, name ∈ r.names ↔ ∃ factory, (name, factory) ∈ history
  ascending : r.names.Pairwise (Text.bytes · < Text.bytes ·)
  distinct  : r.names.Nodup
  contained : ∀ name, r.contains name = true ↔ name ∈ r.names
  resolves  : ∀ name mount, (∃ made, r.resolve name mount = .ok made) ↔ name ∈ r.names
  made      : ∀ name mount made, r.resolve name mount = .ok made ↔
    ∃ factory, LastUnder history name factory ∧ factory mount = made
  unknown   : ∀ name mount e, r.resolve name mount = .error e ↔
    name ∉ r.names ∧ .noRenderer name = e
  packages  : ∀ package, r.hasPackage package = true ↔
    ∃ name ∈ r.names, ∃ last : String, '.' ∉ last.toList ∧ name = package ++ "." ++ last
  drawn     : ∀ target body, Node.draw r target body =
    (r.resolve target.config.renderer target.mount).mapError .fault >>= fun made =>
      made.mapError .breakdown >>= fun renderer =>
        (renderer (Table.parse target.config.dialect body)
          target.config.options).outcome.mapError .fault

theorem ofHistory_records (history : List (String × Factory)) :
    Records history (ofHistory history) where
  listed _    := mem_names_ofHistory
  ascending   := ofHistory_pairwise.imp Text.bytes_lt_of_lt
  distinct    := ofHistory_nodup
  contained _ := List.contains_iff_mem
  resolves _ _ := exists_resolve_iff
  made _ _ _  := by simp only [resolve_eq_ok_iff, find?_ofHistory_eq_some_iff]
  unknown _ _ _ := resolve_eq_error_iff
  packages _  := hasPackage_iff
  drawn _ _   := draw_eq

example : let r := ofHistory [("a.b.C", fun _ => .error "first"), ("D", fun _ => .error "only"),
      ("a.b.C", fun _ => .error "last")]
    r.names = ["D", "a.b.C"] ∧ r.hasPackage "a.b" ∧ ¬r.hasPackage "a" ∧ ¬r.hasPackage "" := by
  decide

end Registry
end TextCharts
