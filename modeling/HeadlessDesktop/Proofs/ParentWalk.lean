import HeadlessDesktop.Proofs.LinkDecision
import Mathlib.Logic.Relation

/-! The walk over parent links in a registry whose links may be anything: they may run in circles,
lead from a widget to itself, or to an id that was never issued. The walk finds exactly what the
links lead to, and to cut it off changes no answer. -/
namespace HeadlessDesktop.Registry

/-- A link leads from a widget to its parent, which need not be a widget. -/
def LinksTo (registry : Registry) (below above : WidgetId) : Prop :=
  ∃ widget, registry.lookup? below = some widget ∧ widget.parent = above

theorem exists_climb_iff (registry : Registry) (start goal : WidgetId) :
    (∃ hops, registry.climb hops start = some goal) ↔
      Relation.ReflTransGen registry.LinksTo start goal := by
  constructor
  · rintro ⟨hops, hclimb⟩
    induction hops generalizing start with
    | zero =>
      cases hclimb
      exact .refl
    | succ hops ih =>
      cases hlookup : registry.lookup? start with
      | none =>
        rw [climb_succ_of_none _ hlookup] at hclimb
        contradiction
      | some widget =>
        rw [climb_succ _ hlookup] at hclimb
        exact .head ⟨widget, hlookup, rfl⟩ (ih widget.parent hclimb)
  · intro hleads
    induction hleads using Relation.ReflTransGen.head_induction_on with
    | refl => exact ⟨0, rfl⟩
    | head hlink _ ih =>
      obtain ⟨widget, hlookup, rfl⟩ := hlink
      obtain ⟨hops, hclimb⟩ := ih
      exact ⟨hops + 1, by rw [climb_succ _ hlookup, hclimb]⟩

def withParents (registry : Registry) (parents : WidgetId → WidgetId) : Registry :=
  let assigned := registry.toList.map fun widget => widget.setParent (parents widget.id)
  { registry with widgets := assigned.toArray }

@[simp] theorem size_withParents (registry : Registry) (parents : WidgetId → WidgetId) :
    (registry.withParents parents).size = registry.size := by
  simp [withParents, size, toList]

theorem getElem?_withParents (registry : Registry) (parents : WidgetId → WidgetId) (place : Nat) :
    (registry.withParents parents).widgets[place]? =
      registry.widgets[place]?.map fun widget => widget.setParent (parents widget.id) := by
  simp [withParents, toList]

theorem lookup?_withParents (registry : Registry) (parents : WidgetId → WidgetId)
    (id : WidgetId) :
    (registry.withParents parents).lookup? id =
      (registry.lookup? id).map fun widget => widget.setParent (parents widget.id) := by
  have hnext : (registry.withParents parents).next = registry.next := rfl
  unfold lookup?
  rw [hnext]
  split
  · rfl
  · exact registry.getElem?_withParents parents _

theorem Dense.withParents {registry : Registry} (dense : registry.Dense)
    (parents : WidgetId → WidgetId) : (registry.withParents parents).Dense where
  next_toNat := by
    rw [size_withParents]
    exact dense.next_toNat
  id_toNat := by
    intro place widget h
    rw [getElem?_withParents, Option.map_eq_some_iff] at h
    obtain ⟨old, hold, rfl⟩ := h
    exact dense.id_toNat place old hold

theorem Dense.linksTo_withParents {registry : Registry} (dense : registry.Dense)
    (parents : WidgetId → WidgetId) :
    (registry.withParents parents).LinksTo =
      fun below above => registry.IsIssued below ∧ parents below = above := by
  funext below above
  apply propext
  unfold LinksTo IsIssued
  rw [← dense.isSome_lookup?_iff_lt, lookup?_withParents]
  cases hlookup : registry.lookup? below with
  | none => simp
  | some widget =>
    rw [← dense.id_of_lookup? hlookup]
    simp [Widget.setParent]

/-- Whatever parents are assigned to the widgets of a dense registry, the walk up from a start
finds an id exactly if it is no null and links lead to it, each from an issued id. A later cut-off
would give the same answers. -/
theorem walk_finds_ancestors (registry : Registry) (dense : registry.Dense)
    (parents : WidgetId → WidgetId) (child start : WidgetId) :
    let linked := registry.withParents parents
    (linked.isAncestorOrSelf child start = true ↔
      child ≠ 0 ∧ Relation.ReflTransGen
        (fun below above => registry.IsIssued below ∧ parents below = above) start child) ∧
      ∀ steps, registry.size < steps →
        linked.meets child steps start = linked.isAncestorOrSelf child start := by
  intro linked
  have hlinked : linked.Dense := dense.withParents parents
  constructor
  · rw [hlinked.isAncestorOrSelf_iff, exists_climb_iff, dense.linksTo_withParents]
  · intro steps hsteps
    have hsize : linked.size < steps := by rwa [size_withParents]
    apply Bool.eq_iff_iff.mpr
    rw [hlinked.meets_iff_of_size_lt hsize, hlinked.isAncestorOrSelf_iff]

def threeWidgets : Registry :=
  ({} : Registry).workAll
    [.operate (.allocate .window), .operate (.allocate .button), .operate (.allocate .button)]

theorem threeWidgets_dense : threeWidgets.Dense :=
  grounded_empty.dense.workAll _ (by decide)

/-- In the first assignment a way leads through all widgets and on to an id that was never issued,
where a walk of one step less does not arrive. In the second one ways run in circles. -/
theorem walk_finds_ancestors_stranger :
    let chain (id : WidgetId) : WidgetId := if id = 3 then 9 else id + 1
    let circles (id : WidgetId) : WidgetId := if id = 1 then 2 else if id = 2 then 1 else id
    threeWidgets.Dense ∧ threeWidgets.size = 3 ∧
      ((threeWidgets.withParents chain).isAncestorOrSelf 9 1 = true ∧
        (threeWidgets.withParents chain).meets 9 3 1 = false) ∧
      (threeWidgets.withParents circles).isAncestorOrSelf 1 2 = true ∧
      (threeWidgets.withParents circles).isAncestorOrSelf 3 1 = false ∧
      (threeWidgets.withParents circles).meets 3 1000000 1 = false := by
  intro chain circles
  have dense := threeWidgets_dense
  have hissued (id : WidgetId) (h : 1 ≤ id ∧ id < 4) : threeWidgets.IsIssued id := h
  have harrives := (walk_finds_ancestors threeWidgets dense chain 9 1).1.mpr
    ⟨by decide, .head ⟨hissued 1 (by decide), rfl⟩
      (.head ⟨hissued 2 (by decide), rfl⟩ (.single ⟨hissued 3 (by decide), rfl⟩))⟩
  have hreturns := (walk_finds_ancestors threeWidgets dense circles 1 2).1.mpr
    ⟨by decide, .single ⟨hissued 2 (by decide), rfl⟩⟩
  have hlost : (threeWidgets.withParents circles).isAncestorOrSelf 3 1 = false := by decide
  have hcut := (walk_finds_ancestors threeWidgets dense circles 3 1).2 1000000 (by decide)
  exact ⟨dense, rfl, ⟨harrives, by decide⟩, hreturns, hlost, hcut.trans hlost⟩

end HeadlessDesktop.Registry
