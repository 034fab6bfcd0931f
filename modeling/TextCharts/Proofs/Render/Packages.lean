import TextCharts.Page.Target
import TextCharts.Render.Loader

namespace TextCharts

-- What `dropWhile` leaves starts with the first character of its kind.
theorem dropWhile_ne_eq_cons {dot : Char} {l rest : List Char}
    (h : l.dropWhile (· != '.') = dot :: rest) :
    ∃ run, '.' ∉ run ∧ l = run ++ '.' :: rest := by
  have hdot : dot = '.' := by
    have := List.head?_dropWhile_not (· != '.') l
    simpa [h] using this
  subst hdot
  refine ⟨l.takeWhile (· != '.'), fun mem => ?_, ?_⟩
  · have := List.all_eq_true.mp List.all_takeWhile _ mem
    simp at this
  · rw [← h, List.takeWhile_append_dropWhile]

theorem packageOf?_eq_some_iff {name package : String} :
    packageOf? name = some package ↔
      ∃ last : String, '.' ∉ last.toList ∧ name = package ++ "." ++ last := by
  constructor
  case mp =>
    intro h
    simp only [packageOf?] at h
    split at h
    case h_1 => contradiction
    case h_2 dot rest hd =>
      have ⟨run, dotless, hrun⟩ := dropWhile_ne_eq_cons hd
      have hname := congrArg List.reverse hrun
      refine ⟨.ofList run.reverse, by simpa using dotless, String.toList_inj.mp ?_⟩
      rw [List.reverse_reverse] at hname
      rw [hname, ← Option.some.inj h]
      simp
  case mpr =>
    intro ⟨last, dotless, hname⟩
    have hrev : name.toList.reverse = last.toList.reverse ++ '.' :: package.toList.reverse := by
      simp [hname]
    have hall : ∀ c ∈ last.toList.reverse, (c != '.') = true := fun c mem =>
      bne_iff_ne.mpr fun hc => dotless (hc ▸ List.mem_reverse.mp mem)
    simp only [packageOf?, hrev, List.dropWhile_append_of_pos hall]
    simp

example : [packageOf? "a.b.C", packageOf? ".C", packageOf? "a.b.", packageOf? "C"] =
    [some "a.b", some "", some "a.b", none] := by
  decide

namespace Registry

variable {r : Registry} {package : String} {targets : List Target}

-- Some name is the package, a dot and a last part without dots.
def Offers (r : Registry) (package : String) : Prop :=
  ∃ name ∈ r.names, ∃ last : String, '.' ∉ last.toList ∧ name = package ++ "." ++ last

theorem hasPackage_iff : r.hasPackage package = true ↔ r.Offers package := by
  simp [hasPackage, Offers, packageOf?_eq_some_iff]

-- A target may do without a package.
def Serves (r : Registry) (target : Target) : Prop :=
  ∀ package, target.config.package = some package → r.Offers package

theorem not_serves_iff {target : Target} :
    (target.config.package.any fun package => !r.hasPackage package) = true ↔
      ∃ package, target.config.package = some package ∧ ¬r.Offers package := by
  simp [Option.any_eq_true, ← hasPackage_iff]

theorem serves_iff {target : Target} :
    (target.config.package.any fun package => !r.hasPackage package) = false ↔
      r.Serves target := by
  cases h : target.config.package <;> simp [Serves, h, ← hasPackage_iff]

-- Keeping only the first of equal texts does not change what is found first.
theorem find?_firstSeen {p : String → Bool} {items : List String} :
    (firstSeen items).find? p = items.find? p := by
  -- By induction from any texts seen before.
  suffices h : ∀ seen : List String, (items.foldl (fun seen item =>
      if seen.contains item then seen else seen ++ [item]) seen).find? p =
        (seen ++ items).find? p from h []
  induction items with
  | nil => simp
  | cons item items hi =>
    intro seen
    simp only [List.foldl_cons, hi]
    split
    case isFalse => simp
    case isTrue known =>
      simp only [List.find?_append, List.find?_cons]
      cases hf : seen.find? p with
      | some _ => rfl
      | none   => simp [List.find?_eq_none.mp hf item (List.contains_iff_mem.mp known)]

theorem find?_packages {p : String → Bool} :
    (packages targets).find? p =
      (targets.find? (·.config.package.any p)).bind (·.config.package) := by
  rw [packages, find?_firstSeen, List.find?_filterMap]

-- A first target that asks for a package that is not offered.
structure Lacks (r : Registry) (targets : List Target) (package : String) : Prop where
  first   : ∃ before target after, targets = before ++ target :: after ∧
    (∀ t ∈ before, r.Serves t) ∧ target.config.package = some package
  refused : ¬r.Offers package

theorem loader_of_serves (serves : ∀ t ∈ targets, r.Serves t) :
    r.loader (packages targets) = {} := by
  have hf : (packages targets).find? (fun q => !r.hasPackage q) = none := by
    rw [find?_packages, List.find?_eq_none.mpr fun t mem => by simp [serves_iff.mpr (serves t mem)]]
    rfl
  simp only [loader, hf]

theorem loader_of_lacks (lacks : r.Lacks targets package) :
    r.loader (packages targets) = { result := .error (.unknownPackage package) } := by
  have ⟨⟨before, t, after, htargets, served, asks⟩, refused⟩ := lacks
  have hf : (packages targets).find? (fun q => !r.hasPackage q) = some package := by
    have found : targets.find? (·.config.package.any fun q => !r.hasPackage q) = some t :=
      List.find?_eq_some_iff_append.mpr ⟨not_serves_iff.mpr ⟨package, asks, refused⟩, before, after,
        htargets, fun u mem => by simp [serves_iff.mpr (served u mem)]⟩
    rw [find?_packages, found, Option.bind_some, asks]
  simp only [loader, hf]

theorem exists_lacks (unserved : ¬∀ t ∈ targets, r.Serves t) :
    ∃ package, r.Lacks targets package := by
  cases hf : targets.find? (·.config.package.any fun q => !r.hasPackage q) with
  | none =>
    refine absurd (fun t mem => serves_iff.mp ?_) unserved
    simpa using List.find?_eq_none.mp hf t mem
  | some t =>
    have ⟨lack, before, after, htargets, served⟩ := List.find?_eq_some_iff_append.mp hf
    have ⟨package, asks, refused⟩ := not_serves_iff.mp lack
    refine ⟨package, ⟨before, t, after, htargets, fun u mem => serves_iff.mp ?_, asks⟩, refused⟩
    simpa using served u mem

end Registry
end TextCharts
