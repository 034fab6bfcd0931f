import TextCharts.Page.Discovery
import TextCharts.Proofs.Page.Config

namespace TextCharts

open Target

variable {elements : List Html.Element} {c : Candidate} {target : Target}

theorem getElem?_filterMap {α β : Type} {f : α → Option β} {l : List α} {k : Nat} :
    (l.filterMap f)[k]? = (l.filter fun a => (f a).isSome)[k]?.bind f := by
  induction l generalizing k with
  | nil       => simp
  | cons a l hi =>
    cases h : f a with
    | none   => simp [h, hi]
    | some b => cases k <;> simp [h, hi]

-- The elements that ask for a drawing, in the order of the page.
def tagged (elements : List Html.Element) : List Html.Element :=
  elements.filter fun e => (e.attributes.lookup "data-csv-props").isSome

-- An element is counted whatever its options are.
theorem mem_candidates : c ∈ candidates elements ↔
    ∃ e, (tagged elements)[c.mount.index]? = some e ∧
      e.attributes.lookup "id" = c.mount.id ∧
        e.attributes.lookup "data-csv-props" = some c.props := by
  have kept : tagged elements = elements.filter fun e => e.props?.isSome := by
    simp [tagged, Html.Element.props?, propsAttribute]
  have props (e : Html.Element) : e.props? = some (c.mount.id, c.props) ↔
      e.attributes.lookup "id" = c.mount.id ∧
        e.attributes.lookup "data-csv-props" = some c.props := by
    simp only [Html.Element.props?, propsAttribute, Option.map_eq_some_iff, Prod.mk.injEq]
    grind
  have ⟨⟨index, id⟩, text⟩ := c
  simp only [candidates, List.mem_map, Prod.exists, List.mem_zipIdx_iff_getElem?,
    getElem?_filterMap, ← kept, Option.bind_eq_some_iff, ← props]
  grind

theorem candidates_pairwise :
    (candidates elements).Pairwise (·.mount.index < ·.mount.index) := by
  have numbers := List.zipIdx_map_snd 0 (elements.filterMap Html.Element.props?)
  have rising := numbers ▸ List.pairwise_lt_range'
  exact List.pairwise_map.mpr (List.pairwise_map.mp rising)

theorem Candidate.target?_eq_some_iff : c.target? = some target ↔
    target.mount = c.mount ∧ Config.ofText c.props = .ok target.config := by
  cases target
  simp only [Candidate.target?]
  split <;> grind

theorem mem_discoverIn : target ∈ discoverIn elements ↔
    ∃ e props, (tagged elements)[target.mount.index]? = some e ∧
      e.attributes.lookup "id" = target.mount.id ∧
        e.attributes.lookup "data-csv-props" = some props ∧
          Config.ofText props = .ok target.config := by
  simp only [discoverIn, List.mem_filterMap, mem_candidates, Candidate.target?_eq_some_iff]
  constructor
  case mp =>
    intro ⟨c, ⟨e, he, id, props⟩, mount, read⟩
    exact ⟨e, c.props, mount ▸ he, mount ▸ id, props, read⟩
  case mpr =>
    intro ⟨e, props, he, id, hprops, read⟩
    exact ⟨⟨target.mount, props⟩, ⟨e, he, id, hprops⟩, rfl, read⟩

theorem discoverIn_pairwise :
    (discoverIn elements).Pairwise (·.mount.index < ·.mount.index) := by
  refine candidates_pairwise.filterMap _ fun c c' lt target h target' h' => ?_
  rw [(Candidate.target?_eq_some_iff.mp h).1, (Candidate.target?_eq_some_iff.mp h').1]
  exact lt

-- What is found among elements: each target is the element of its number, the numbers rise, and a
-- number is left out only for a fault.
structure Finds (elements : List Html.Element) (targets : List Target) : Prop where
  found   : ∀ target, target ∈ targets ↔
    ∃ e props, (tagged elements)[target.mount.index]? = some e ∧
      e.attributes.lookup "id" = target.mount.id ∧
        e.attributes.lookup "data-csv-props" = some props ∧ target.config.Configures props
  ordered : targets.Pairwise (·.mount.index < ·.mount.index)
  skipped : ∀ k e props, (tagged elements)[k]? = some e →
    e.attributes.lookup "data-csv-props" = some props →
      ((∀ target ∈ targets, target.mount.index ≠ k) ↔ ∃ fault, First (Config.faults props) fault)

theorem discoverIn_finds : Finds elements (discoverIn elements) where
  found   := fun target => by simp only [mem_discoverIn, Config.ofText_eq_ok_iff]
  ordered := discoverIn_pairwise
  skipped := by
    intro k e props he hprops
    simp only [← Config.ofText_eq_error_iff]
    constructor
    case mp =>
      intro skipped
      cases read : Config.ofText props with
      | error fault => exact ⟨fault, rfl⟩
      | ok config   =>
        have found : { mount := ⟨k, e.attributes.lookup "id"⟩, config } ∈ discoverIn elements :=
          mem_discoverIn.mpr ⟨e, props, he, rfl, hprops, read⟩
        exact absurd rfl (skipped _ found)
    case mpr =>
      rintro ⟨fault, failed⟩ target found rfl
      have ⟨e', props', he', _, hprops', read⟩ := mem_discoverIn.mp found
      cases he.symm.trans he'
      cases hprops.symm.trans hprops'
      rw [failed] at read
      cases read

-- What pages and the texts in them are read as.
theorem discover_finds :
    (∀ page, Finds (Html.elements page) (discover page)) ∧
      (∀ text config, Config.ofText text = .ok config ↔ config.Configures text) ∧
        ∀ text e, Config.ofText text = .error e ↔ First (Config.faults text) e :=
  ⟨fun _ => discoverIn_finds, fun _ _ => Config.ofText_eq_ok_iff,
    fun _ _ => Config.ofText_eq_error_iff⟩

end TextCharts
