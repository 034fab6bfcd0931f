import Mathlib.Data.List.Induction
import Mathlib.Data.Set.Basic
import Mathlib.Order.Bounds.Basic
import Mathlib.Order.Nat
import TextCharts.Page.Target

namespace TextCharts

variable {items more : List String} {item item' : String}

theorem firstSeen_append_singleton : firstSeen (items ++ [item]) =
    if item ∈ firstSeen items then firstSeen items else firstSeen items ++ [item] := by
  simp [firstSeen]

theorem mem_firstSeen : item ∈ firstSeen items ↔ item ∈ items := by
  induction items using List.reverseRecOn with
  | nil                            => rfl
  | append_singleton items last hi =>
    rw [firstSeen_append_singleton]
    split <;> grind

theorem nodup_firstSeen : (firstSeen items).Nodup := by
  induction items using List.reverseRecOn with
  | nil                            => exact .nil
  | append_singleton items last hi =>
    rw [firstSeen_append_singleton]
    split
    case isTrue      => exact hi
    case isFalse new =>
      refine List.nodup_append.mpr ⟨hi, List.pairwise_singleton _ _, ?_⟩
      rintro item mem other last rfl
      exact new (List.mem_singleton.mp last ▸ mem)

-- What was seen before changes nothing.
theorem firstSeen_append_of_seen (seen : ∀ item ∈ more, item ∈ items) :
    firstSeen (items ++ more) = firstSeen items := by
  induction more using List.reverseRecOn with
  | nil                           => simp
  | append_singleton more last hi =>
    have ⟨before, last⟩ := List.forall_mem_append.mp seen
    rw [← List.append_assoc, firstSeen_append_singleton, hi before, if_pos]
    exact mem_firstSeen.mpr (last _ List.mem_cons_self)

-- Without repetition everything is new.
theorem firstSeen_of_nodup (nodup : items.Nodup) : firstSeen items = items := by
  induction items using List.reverseRecOn with
  | nil                            => rfl
  | append_singleton items last hi =>
    have ⟨before, _, apart⟩ := List.nodup_append.mp nodup
    rw [firstSeen_append_singleton, hi before, if_neg]
    exact fun seen => apart last seen last List.mem_cons_self rfl

theorem sublist_or_of_mem (mem : item ∈ items) (mem' : item' ∈ items) (ne : item ≠ item') :
    [item, item'].Sublist items ∨ [item', item].Sublist items := by
  obtain ⟨before, after, rfl⟩ := List.append_of_mem mem
  simp only [List.mem_append, List.mem_cons, ne.symm, false_or] at mem'
  cases mem' with
  | inl earlier =>
    right
    exact (List.singleton_sublist.mpr earlier).append
      (List.singleton_sublist.mpr List.mem_cons_self)
  | inr later =>
    left
    exact .trans (.cons_cons item (List.singleton_sublist.mpr later))
      (List.sublist_append_right before _)

-- The positions of the targets that cite a package.
def citing (targets : List Target) (package : String) : Set Nat :=
  { position | ∃ target, targets[position]? = some target ∧ target.config.package = some package }

-- The first target that cites the one package stands before the first one that cites the other.
def CitedBefore (targets : List Target) (package package' : String) : Prop :=
  ∃ first first', IsLeast (citing targets package) first ∧
    IsLeast (citing targets package') first' ∧ first < first'

variable {targets others : List Target} {target : Target} {package package' : String}
  {position : Nat}

theorem lt_length_of_mem_citing (mem : position ∈ citing targets package) :
    position < targets.length := by
  obtain ⟨_, place, _⟩ := mem
  exact (List.getElem?_eq_some_iff.mp place).1

theorem mem_citing_append (lt : position < targets.length) :
    position ∈ citing (targets ++ others) package ↔ position ∈ citing targets package := by
  simp only [citing, Set.mem_ofPred_eq, List.getElem?_append_left lt]

-- Who comes first is not changed by those who come after all.
theorem isLeast_citing_append (least : IsLeast (citing targets package) position) :
    IsLeast (citing (targets ++ others) package) position := by
  have lt := lt_length_of_mem_citing least.1
  refine ⟨(mem_citing_append lt).mpr least.1, fun later mem => ?_⟩
  by_cases before : later < targets.length
  case pos => exact least.2 ((mem_citing_append before).mp mem)
  case neg => omega

theorem isLeast_citing_last (new : citing targets package = ∅)
    (cites : target.config.package = some package) :
    IsLeast (citing (targets ++ [target]) package) targets.length := by
  refine ⟨⟨target, by simp, cites⟩, fun earlier mem => ?_⟩
  by_contra before
  have mem := (mem_citing_append (Nat.not_le.mp before)).mp mem
  simp [new] at mem

theorem mem_packages :
    package ∈ packages targets ↔ ∃ target ∈ targets, target.config.package = some package := by
  rw [packages, mem_firstSeen, List.mem_filterMap]

theorem citing_nonempty : (citing targets package).Nonempty ↔ package ∈ packages targets := by
  rw [mem_packages]
  constructor
  case mp =>
    intro ⟨position, target, place, cites⟩
    exact ⟨target, List.mem_of_getElem? place, cites⟩
  case mpr =>
    intro ⟨target, mem, cites⟩
    have ⟨position, place⟩ := List.getElem?_of_mem mem
    exact ⟨position, target, place, cites⟩

theorem exists_isLeast_citing (mem : package ∈ packages targets) :
    ∃ first, IsLeast (citing targets package) first := by
  classical
  exact ⟨_, (citing_nonempty.mpr mem).isLeast_natFind⟩

namespace CitedBefore

theorem append (before : CitedBefore targets package package') :
    CitedBefore (targets ++ others) package package' := by
  obtain ⟨first, first', least, least', lt⟩ := before
  exact ⟨first, first', isLeast_citing_append least, isLeast_citing_append least', lt⟩

theorem mem (before : CitedBefore targets package package') :
    package ∈ packages targets ∧ package' ∈ packages targets := by
  obtain ⟨_, _, least, least', _⟩ := before
  exact ⟨citing_nonempty.mp ⟨_, least.1⟩, citing_nonempty.mp ⟨_, least'.1⟩⟩

theorem asymm (before : CitedBefore targets package package') :
    ¬CitedBefore targets package' package := by
  obtain ⟨first, first', least, least', lt⟩ := before
  rintro ⟨second', second, other', other, lt'⟩
  cases least.unique other
  cases least'.unique other'
  omega

end CitedBefore

theorem packages_append_singleton : packages (targets ++ [target]) =
    target.config.package.elim (packages targets) fun package =>
      if package ∈ packages targets then packages targets else packages targets ++ [package] := by
  cases cites : target.config.package with
  | none         => simp [packages, cites]
  | some package =>
    simp only [packages, List.filterMap_append, List.filterMap_cons, cites, List.filterMap_nil]
    exact firstSeen_append_singleton

theorem packages_pairwise : (packages targets).Pairwise (CitedBefore targets) := by
  induction targets using List.reverseRecOn with
  | nil                                => exact .nil
  | append_singleton targets target hi =>
    have kept : (packages targets).Pairwise (CitedBefore (targets ++ [target])) :=
      hi.imp CitedBefore.append
    rw [packages_append_singleton]
    cases cites : target.config.package with
    | none         => exact kept
    | some package =>
      simp only [Option.elim_some]
      split
      case isTrue      => exact kept
      case isFalse new =>
        refine List.pairwise_append.mpr ⟨kept, List.pairwise_singleton _ _, ?_⟩
        intro seen mem _ last
        cases List.mem_singleton.mp last
        have ⟨first, least⟩ := exists_isLeast_citing mem
        rw [← citing_nonempty, Set.not_nonempty_iff_eq_empty] at new
        exact ⟨first, _, isLeast_citing_append least, isLeast_citing_last new cites,
          lt_length_of_mem_citing least.1⟩

theorem sublist_packages_iff :
    [package, package'].Sublist (packages targets) ↔ CitedBefore targets package package' := by
  have ordered {package package' : String} (sublist : [package, package'].Sublist _) :=
    List.pairwise_iff_forall_sublist.mp (@packages_pairwise targets) sublist
  constructor
  case mp  => exact ordered
  case mpr =>
    intro before
    have ne : package ≠ package' := fun same => (same ▸ before).asymm (same ▸ before)
    cases sublist_or_of_mem before.mem.1 before.mem.2 ne with
    | inl sublist => exact sublist
    | inr sublist => exact absurd (ordered sublist) before.asymm

theorem packages_append_of_cited (cited : ∀ target ∈ others, ∀ package,
    target.config.package = some package → package ∈ packages targets) :
    packages (targets ++ others) = packages targets := by
  rw [packages, List.filterMap_append]
  refine firstSeen_append_of_seen fun package mem => ?_
  have ⟨target, mem, cites⟩ := List.mem_filterMap.mp mem
  exact mem_firstSeen.mp (cited target mem package cites)

-- A listing of the packages that targets cite.
structure Lists (targets : List Target) (listed : List String) : Prop where
  nodup   : listed.Nodup
  mem     : ∀ package,
    package ∈ listed ↔ ∃ target ∈ targets, target.config.package = some package
  ordered : ∀ package package',
    [package, package'].Sublist listed ↔ CitedBefore targets package package'
  settled : ∀ others : List Target,
    (∀ target ∈ others, ∀ package, target.config.package = some package → package ∈ listed) →
      packages (targets ++ others) = listed

-- The packages are listed as they are cited first, and what is listed stays as it is.
theorem packages_lists :
    (∀ targets, Lists targets (packages targets)) ∧
      ∀ items, firstSeen (firstSeen items) = firstSeen items := by
  refine ⟨fun targets => ?listed, fun items => firstSeen_of_nodup nodup_firstSeen⟩
  case listed =>
    exact {
      nodup       := nodup_firstSeen
      mem _       := mem_packages
      ordered _ _ := sublist_packages_iff
      settled _   := packages_append_of_cited }

example : firstSeen ["charts", "charts", "tables", "charts"] = ["charts", "tables"] := by
  decide

end TextCharts
