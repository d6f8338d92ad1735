import HeadlessDesktop.Desktop.Bench
import HeadlessDesktop.Proofs.WidgetHistory
import Mathlib.Data.List.Nodup

/-! The lists of children. No accepted link leads to an id that was never issued, so that every
widget stands in the list of its parent, and those without a parent in the list of none. Only a
widget that is its own parent stands in no list, and where cycles are refused there is none. -/
namespace HeadlessDesktop

open Backend Bench

namespace Registry

/-- Ids are dense, and the parent of a widget is none or has been issued. -/
structure Anchored (registry : Registry) : Prop where
  dense : registry.Dense
  parent_le : ∀ (id : WidgetId) (widget : Widget), registry.lookup? id = some widget →
    widget.parent.toNat ≤ registry.size

theorem anchored_empty : Anchored {} where
  dense := grounded_empty.dense
  parent_le := by
    intro id widget h
    simp [lookup?] at h

theorem Anchored.of_change {registry after : Registry} (anchored : registry.Anchored)
    (dense : after.Dense) (hsize : registry.size ≤ after.size)
    (hparent : ∀ id widget, after.lookup? id = some widget →
      widget.parent.toNat ≤ registry.size ∨
        ∃ old, registry.lookup? id = some old ∧ old.parent = widget.parent) :
    after.Anchored where
  dense := dense
  parent_le := by
    intro id widget h
    rcases hparent id widget h with hle | ⟨old, hold, hsame⟩
    · exact Nat.le_trans hle hsize
    · rw [← hsame]
      exact Nat.le_trans (anchored.parent_le id old hold) hsize

theorem Anchored.allocateWith {registry : Registry} (anchored : registry.Anchored)
    (build : WidgetId → Option Widget) (room : registry.size + 2 < UInt64.size)
    (detached : (registry.allocateWith build).2.parent = 0) :
    (registry.allocateWith build).1.Anchored := by
  refine anchored.of_change (anchored.dense.allocateWith build room) (by simp) ?_
  intro id widget h
  rw [anchored.dense.lookup?_allocateWith build room] at h
  split at h
  · cases Option.some.inj h
    rw [detached]
    exact .inl (Nat.zero_le _)
  · exact .inr ⟨widget, h, rfl⟩

theorem Anchored.modify {registry : Registry} (anchored : registry.Anchored) (id : WidgetId)
    (change : Widget → Widget) (keepsId : ∀ widget, (change widget).id = widget.id)
    (hparent : ∀ widget, (change widget).parent.toNat ≤ registry.size ∨
      (change widget).parent = widget.parent) :
    (registry.modify id change).Anchored := by
  refine anchored.of_change (anchored.dense.modify id change keepsId) (by simp) ?_
  intro other widget h
  rw [lookup?_modify] at h
  split at h
  · obtain ⟨old, hold, rfl⟩ := Option.map_eq_some_iff.mp h
    exact (hparent old).imp_right fun hsame => ⟨old, hold, hsame.symm⟩
  · exact .inr ⟨widget, h, rfl⟩

theorem Anchored.relink {registry : Registry} (anchored : registry.Anchored) (policy : Policy)
    (child parent : WidgetId) : (registry.relink policy child parent).Anchored := by
  unfold Registry.relink
  split
  · rename_i linked hlink
    obtain ⟨hcheck, rfl⟩ := (setParent_eq_ok_iff ..).mp hlink
    have hknown : parent.toNat ≤ registry.size := by
      rcases ((checkLink_eq_ok_iff ..).mp hcheck).2 with rfl | ⟨hparent, -⟩
      · exact Nat.zero_le _
      · exact ((anchored.dense.isSome_lookup?_iff parent).mp hparent).2
    exact anchored.modify child _ (fun _ => rfl) fun _ => .inl hknown
  · exact anchored

theorem Anchored.obey {registry : Registry} (anchored : registry.Anchored) (policy : Policy)
    (call : Call) (room : (registry.obey policy call).size + 1 < UInt64.size) :
    (registry.obey policy call).Anchored := by
  rw [size_obey] at room
  cases call with
  | windowNew title width height =>
    refine anchored.allocateWith _ room ?_
    simp [Registry.allocateWith, Widget.newWindow]
  | buttonNew label =>
    refine anchored.allocateWith _ room ?_
    simp [Registry.allocateWith, Widget.newButton]
  | setParent child parent => exact anchored.relink policy child parent
  | setTitle handle title => exact anchored.modify handle _ (fun _ => rfl) fun _ => .inr rfl
  | init args => exact anchored
  | display handle => exact anchored
  | main => exact anchored
  | mainQuit => exact anchored

theorem Anchored.foldl_obey {registry : Registry} (anchored : registry.Anchored) (policy : Policy)
    (calls : List Call) (room : registry.size + calls.countP Call.creates + 1 < UInt64.size) :
    (calls.foldl (Registry.obey policy) registry).Anchored := by
  induction calls generalizing registry with
  | nil => exact anchored
  | cons call rest ih =>
    rw [List.countP_cons] at room
    have hsize := registry.size_obey policy call
    rw [List.foldl_cons]
    exact ih (anchored.obey policy call (by omega)) (by omega)

/-! ### The lists -/

theorem Dense.pairwise_id {registry : Registry} (dense : registry.Dense) :
    registry.toList.Pairwise fun first second => first.id < second.id := by
  rw [List.pairwise_iff_getElem]
  intro i j hi hj hlt
  have hid (place : Nat) (hplace : place < registry.toList.length) :
      registry.toList[place].id.toNat = place + 1 := by
    apply dense.id_toNat place
    rw [← Array.getElem?_toList]
    exact List.getElem?_eq_getElem hplace
  rw [UInt64.lt_iff_toNat_lt, hid i hi, hid j hj]
  omega

theorem Dense.nodup_toList {registry : Registry} (dense : registry.Dense) :
    registry.toList.Nodup := by
  refine dense.pairwise_id.imp ?_
  rintro first _ hlt rfl
  exact UInt64.lt_irrefl _ hlt

theorem mem_children {registry : Registry} {id : WidgetId} {widget : Widget} :
    widget ∈ registry.children id ↔
      widget ∈ registry.toList ∧ widget.parent = id ∧ widget.id ≠ id := by
  simp [children]

def families (registry : Registry) : List Widget :=
  (List.range (registry.size + 1)).flatMap fun number => registry.children (UInt64.ofNat number)

theorem Anchored.mem_families {registry : Registry} (anchored : registry.Anchored)
    {widget : Widget} :
    widget ∈ registry.families ↔ widget ∈ registry.toList ∧ widget.parent ≠ widget.id := by
  simp only [families, List.mem_flatMap, List.mem_range, mem_children]
  constructor
  · rintro ⟨number, -, hmem, hparent, hid⟩
    exact ⟨hmem, fun heq => hid (heq ▸ hparent)⟩
  · rintro ⟨hmem, hne⟩
    have hle := anchored.parent_le _ _ (anchored.dense.lookup?_id hmem)
    refine ⟨widget.parent.toNat, Nat.lt_succ_of_le hle, hmem, ?_, ?_⟩
    · rw [UInt64.ofNat_toNat]
    · rw [UInt64.ofNat_toNat]
      exact hne.symm

theorem Dense.nodup_families {registry : Registry} (dense : registry.Dense) :
    registry.families.Nodup := by
  have hroom : registry.size + 1 < UInt64.size := by
    rw [← dense.next_toNat]
    exact registry.next.toNat_lt
  refine List.nodup_flatMap.mpr ⟨fun number _ => dense.nodup_toList.filter _, ?_⟩
  -- Different numbers up to the size are different ids, and a widget has one parent only.
  refine List.nodup_range.imp_of_mem ?_
  intro first second hfirst hsecond hne widget hwidget hother
  rw [List.mem_range] at hfirst hsecond
  have hsame : UInt64.ofNat first = UInt64.ofNat second :=
    (mem_children.mp hwidget).2.1.symm.trans (mem_children.mp hother).2.1
  apply hne
  rw [← UInt64.toNat_ofNat_of_lt' (show first < UInt64.size by omega), hsame,
    UInt64.toNat_ofNat_of_lt' (by omega)]

theorem Anchored.children_eq_nil {registry : Registry} (anchored : registry.Anchored)
    {id : WidgetId} (h : registry.size < id.toNat) : registry.children id = [] := by
  refine List.eq_nil_iff_forall_not_mem.mpr fun widget hwidget => ?_
  obtain ⟨hmem, rfl, -⟩ := mem_children.mp hwidget
  have hle := anchored.parent_le _ _ (anchored.dense.lookup?_id hmem)
  omega

theorem Acyclic.parent_ne_id {registry : Registry} (acyclic : registry.Acyclic)
    (dense : registry.Dense) {widget : Widget} (h : widget ∈ registry.toList) :
    widget.parent ≠ widget.id := by
  intro hself
  apply acyclic.irreflexive widget.id 1 Nat.one_pos
  rw [climb_succ 0 (dense.lookup?_id h), climb_zero, hself]

end Registry

namespace Stub

/-- Whatever a host calls, the lists of children share the widgets out: each widget stands once in
the list of its parent, unless it is its own. The bound leaves out only runs that create more
widgets than there are ids. -/
theorem children_share_out (tracing : Tracing) (policy : Policy) (calls : List Call)
    (room : calls.countP Call.creates + 1 < UInt64.size) :
    let stub := obeyAll { tracing, policy } calls
    let registry := stub.registry
    registry.families.Perm
      (registry.toList.filter fun widget => widget.parent ≠ widget.id) ∧
    registry.families.Nodup ∧
    (∀ id, (registry.children id).Pairwise fun first second => first.id < second.id) ∧
    (∀ (bench : Bench) (id : WidgetId), bench.stub = stub →
      bench.find (.childOf id) = registry.children id) ∧
    (∀ id, registry.size < id.toNat → registry.children id = []) ∧
    (policy = .rejectCycles → registry.families.Perm registry.toList) := by
  intro stub registry
  have hempty : ({} : Registry).size = 0 := rfl
  have anchored : registry.Anchored := by
    have hrun := Registry.anchored_empty.foldl_obey policy calls (by omega)
    rwa [← (obeyAll_follows { tracing, policy } calls).1] at hrun
  have hnodup : registry.families.Nodup := anchored.dense.nodup_families
  have hperm : registry.families.Perm
      (registry.toList.filter fun widget => widget.parent ≠ widget.id) := by
    refine (List.perm_ext_iff_of_nodup hnodup (anchored.dense.nodup_toList.filter _)).mpr ?_
    intro widget
    rw [List.mem_filter, decide_eq_true_eq]
    exact anchored.mem_families
  refine ⟨hperm, hnodup, ?_, ?_, ?_, ?_⟩
  · exact fun id => anchored.dense.pairwise_id.filter _
  · rintro bench id hbench
    rw [Bench.find, hbench]
    rfl
  · exact fun id => anchored.children_eq_nil
  · rintro rfl
    have hgrounded := Registry.grounded_empty.foldl_obey calls (by omega)
    rw [← (obeyAll_follows { tracing, policy := .rejectCycles } calls).1] at hgrounded
    have hall : (registry.toList.filter fun widget => widget.parent ≠ widget.id) =
        registry.toList := by
      refine List.filter_eq_self.mpr fun widget hwidget => ?_
      exact decide_eq_true (hgrounded.acyclic.parent_ne_id anchored.dense hwidget)
    rwa [hall] at hperm

/-- A widget under itself, two under each other, one below them, and a link to nowhere; and what
is left of it where cycles are refused. -/
theorem children_share_out_knot :
    let calls : List Call :=
      [.windowNew "w" 3 4, .buttonNew "a", .buttonNew "b", .buttonNew "c", .setParent 2 1,
        .setParent 3 3, .setParent 1 4, .setParent 4 1, .setParent 2 9]
    let knot := (obeyAll {} calls).registry
    let tree := (obeyAll { policy := .rejectCycles } calls).registry
    let bench : Bench := { facade := { Facade.new none with active := .stub (obeyAll {} calls) } }
    calls.countP Call.creates + 1 < UInt64.size ∧
    bench.find (.childOf 1) = knot.children 1 ∧
    knot.families.map (·.id) = [2, 4, 1] ∧
    knot.families.Perm (knot.toList.filter fun widget => widget.parent ≠ widget.id) ∧
    tree.families.map (·.id) = [3, 4, 2, 1] ∧ tree.families.Perm tree.toList := by
  intro calls knot tree bench
  have hroom : calls.countP Call.creates + 1 < UInt64.size := by decide
  obtain ⟨hknot, -, -, hfind, -⟩ := children_share_out none .permissive calls hroom
  obtain ⟨-, -, -, -, -, htree⟩ := children_share_out none .rejectCycles calls hroom
  exact ⟨hroom, hfind bench 1 rfl, by decide, hknot, by decide, htree rfl⟩

end Stub

end HeadlessDesktop
