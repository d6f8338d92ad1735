import HeadlessDesktop.Proofs.FaithfulTrace
import HeadlessDesktop.Proofs.RegistryHistory

/-! What a resolver decides about a link. Whatever was done to the widgets before, by resolvers
of either policy and past them, a link is refused exactly if one of its ends is missing or if
it would close a cycle that the policy forbids; a refused link changes nothing, and an accepted
one changes one parent and leaves one record. -/
namespace HeadlessDesktop

open Text (Raw)
open Trace

namespace Registry

def IsIssued (registry : Registry) (id : WidgetId) : Prop := 1 ≤ id ∧ id < registry.next

inductive Work
  | operate (operation : Operation)
  | link (policy : Policy) (child parent : WidgetId)

def Work.allocates : Work → Bool
  | .operate operation => operation.allocates
  | .link _ _ _ => false

def work (registry : Registry) : Work → Registry
  | .operate operation => registry.operate operation
  | .link policy child parent => registry.relink policy child parent

def workAll (registry : Registry) (works : List Work) : Registry := works.foldl work registry

theorem size_work (registry : Registry) (work : Work) :
    (registry.work work).size = registry.size + if work.allocates then 1 else 0 := by
  cases work with
  | operate operation => exact registry.size_operate operation
  | link policy child parent => exact registry.size_relink policy child parent

theorem Dense.work {registry : Registry} (dense : registry.Dense) (work : Work)
    (room : (registry.work work).size + 1 < UInt64.size) : (registry.work work).Dense := by
  cases work with
  | operate operation =>
    have hroom : registry.HasRoom [operation] := by
      refine ⟨dense, ?_⟩
      rw [size_work] at room
      rw [List.countP_cons, List.countP_nil, Nat.zero_add]
      exact room
    exact hroom.dense_operate
  | link policy child parent => exact dense.relink policy child parent

theorem Dense.workAll {registry : Registry} (dense : registry.Dense) (works : List Work)
    (room : registry.size + works.countP Work.allocates + 1 < UInt64.size) :
    (registry.workAll works).Dense := by
  induction works generalizing registry with
  | nil => exact dense
  | cons work rest ih =>
    have hsize := registry.size_work work
    rw [List.countP_cons] at room
    apply ih (dense.work work (by omega))
    omega

theorem Dense.checkLink_eq_error_iff {registry : Registry} (dense : registry.Dense)
    (policy : Policy) (child parent : WidgetId) (error : LinkError) :
    registry.checkLink policy child parent = .error error ↔
      .unknownChild child = error ∧ ¬ registry.IsIssued child ∨
      .unknownParent parent = error ∧ registry.IsIssued child ∧
        ¬ (parent = 0 ∨ registry.IsIssued parent) ∨
      .cycle child parent = error ∧ registry.IsIssued child ∧
        (parent = 0 ∨ registry.IsIssued parent) ∧ policy = .rejectCycles ∧ parent ≠ 0 ∧
        (registry.modify child (·.setParent parent)).IsOwnAncestor child := by
  unfold checkLink IsIssued
  simp only [← dense.isSome_lookup?_iff_lt]
  cases hchild : registry.lookup? child with
  | none => simp
  | some widget =>
    by_cases hzero : parent = 0
    · simp [hzero]
    · cases hparent : registry.lookup? parent with
      | none => simp [hzero]
      | some above =>
        have hcycle : (registry.modify child (·.setParent parent)).IsOwnAncestor child ↔
            registry.isAncestorOrSelf child parent = true := by
          rw [dense.isAncestorOrSelf_iff, isOwnAncestor_setParent_iff parent hchild]
          exact (and_iff_right (ne_zero_of_lookup? hchild)).symm
        rw [hcycle]
        by_cases hcloses : policy = .rejectCycles ∧ registry.isAncestorOrSelf child parent = true
        · simp [hzero, hcloses]
        · simp [hzero, hcloses]

end Registry

def Tracer.handed (tracer : Tracer) (record : Record) : Tracer :=
  if tracer.enabled then
    { tracer with
      seq := tracer.seq + 1
      sinks := tracer.sinks.map fun sink =>
        (sink.emit { record with seq := tracer.seq + 1, time := tracer.clock }).1 }
  else tracer

theorem Tracing.fst_widget (tracing : Tracing) (op : Raw) (widget : Widget) :
    (tracing.widget op (some widget)).1 =
      tracing.map (·.handed { op, widget := some widget }) := by
  cases tracing with
  | none => rfl
  | some tracer =>
    change some (tracer.emit _).1 = some (tracer.handed _)
    unfold Tracer.emit Tracer.handed
    split
    · simp only [Tracer.deliver_sinks, Tracer.stamp]
    · rfl

structure Resolver where
  registry : Registry
  tracing : Tracing := none
  policy : Policy := .permissive

namespace Resolver

def setParent (resolver : Resolver) (child parent : WidgetId) :
    Except LinkError (List Report) × Resolver :=
  match link resolver.registry resolver.tracing resolver.policy child parent with
  | .ok (registry, tracing, reports) => (.ok reports, { resolver with registry, tracing })
  | .error error => (.error error, resolver)

theorem setParent_of_error {resolver : Resolver} {child parent : WidgetId} {error : LinkError}
    (h : resolver.registry.checkLink resolver.policy child parent = .error error) :
    resolver.setParent child parent = (.error error, resolver) := by
  unfold setParent link Registry.setParent
  rw [h]
  rfl

theorem fst_setParent_eq_error_iff (resolver : Resolver) (child parent : WidgetId)
    (error : LinkError) :
    (resolver.setParent child parent).1 = .error error ↔
      resolver.registry.checkLink resolver.policy child parent = .error error := by
  cases hcheck : resolver.registry.checkLink resolver.policy child parent with
  | error why =>
    rw [setParent_of_error hcheck]
    simp
  | ok checked =>
    unfold setParent link Registry.setParent
    rw [hcheck]
    exact ⟨nofun, nofun⟩

theorem snd_setParent_of_ok {resolver : Resolver} {child parent : WidgetId}
    {reports : List Report} (h : (resolver.setParent child parent).1 = .ok reports) :
    ∃ widget, resolver.registry.lookup? child = some widget ∧
      (resolver.setParent child parent).2 =
        { resolver with
          registry := resolver.registry.modify child (·.setParent parent)
          tracing := resolver.tracing.map
            (·.handed { op := "set_parent", widget := some { widget with parent } }) } := by
  cases hcheck : resolver.registry.checkLink resolver.policy child parent with
  | error why =>
    rw [setParent_of_error hcheck] at h
    contradiction
  | ok checked =>
    obtain ⟨hchild, -⟩ := (Registry.checkLink_eq_ok_iff ..).mp hcheck
    obtain ⟨widget, hwidget⟩ := Option.isSome_iff_exists.mp hchild
    have hfound := Registry.lookup?_setParent_self parent hwidget
    have htraced := resolver.tracing.fst_widget "set_parent" (widget.setParent parent)
    refine ⟨widget, hwidget, ?_⟩
    unfold setParent link Registry.setParent
    rw [hcheck]
    simp only [bind, Except.bind, pure, Except.pure, hfound, htraced]
    rfl

/-- In whatever state the widgets are, a link is refused exactly for a child that was never
issued, else for such a parent, else, where cycles are refused, because the child would become
its own ancestor. Then nothing has changed at all. Otherwise the child has its new parent, and
all else is as it was but for one record of the child as it is now. The bound leaves out only
runs that allocate more widgets than there are ids. -/
theorem links_decided (works : List Registry.Work)
    (room : works.countP Registry.Work.allocates + 1 < UInt64.size) (tracing : Tracing)
    (policy : Policy) (child parent : WidgetId) :
    let registry := ({} : Registry).workAll works
    let resolver : Resolver := { registry, tracing, policy }
    let result := resolver.setParent child parent
    (result.1 = .error (.unknownChild child) ↔ ¬ registry.IsIssued child) ∧
    (result.1 = .error (.unknownParent parent) ↔
      registry.IsIssued child ∧ ¬ (parent = 0 ∨ registry.IsIssued parent)) ∧
    (result.1 = .error (.cycle child parent) ↔
      registry.IsIssued child ∧ (parent = 0 ∨ registry.IsIssued parent) ∧
        policy = .rejectCycles ∧ parent ≠ 0 ∧
        (registry.modify child (·.setParent parent)).IsOwnAncestor child) ∧
    (∀ error, result.1 = .error error →
      (error = .unknownChild child ∨ error = .unknownParent parent ∨ error = .cycle child parent) ∧
        result.2 = resolver) ∧
    ∀ reports, result.1 = .ok reports →
      ∃ widget, registry.lookup? child = some widget ∧
        (∀ id, result.2.registry.lookup? id =
          if id = child then some { widget with parent } else registry.lookup? id) ∧
        result.2.registry.size = registry.size ∧ result.2.registry.next = registry.next ∧
        result.2.policy = policy ∧
        result.2.tracing =
          tracing.map (·.handed { op := "set_parent", widget := some { widget with parent } }) := by
  intro registry resolver result
  have hempty : ({} : Registry).size = 0 := rfl
  have dense : registry.Dense := Registry.grounded_empty.dense.workAll works (by omega)
  have herror (error : LinkError) := (resolver.fst_setParent_eq_error_iff child parent error).trans
    (dense.checkLink_eq_error_iff policy child parent error)
  refine ⟨?_, ?_, ?_, ?_, ?_⟩
  · refine (herror _).trans ?_
    simp
  · refine (herror _).trans ?_
    simp
  · refine (herror _).trans ?_
    simp
  · intro error hrefused
    have hcheck := (resolver.fst_setParent_eq_error_iff child parent error).mp hrefused
    constructor
    · rcases (herror error).mp hrefused with ⟨rfl, -⟩ | ⟨rfl, -⟩ | ⟨rfl, -⟩
      · exact Or.inl rfl
      · exact Or.inr (Or.inl rfl)
      · exact Or.inr (Or.inr rfl)
    · change (resolver.setParent child parent).2 = resolver
      rw [setParent_of_error hcheck]
  · intro reports haccepted
    obtain ⟨widget, hwidget, hafter⟩ := snd_setParent_of_ok haccepted
    refine ⟨widget, hwidget, ?_, ?_, ?_, ?_, ?_⟩
    · intro id
      rw [hafter, Registry.lookup?_modify]
      split
      · rename_i heq
        rw [heq, hwidget]
        rfl
      · rfl
    · rw [hafter, Registry.size_modify]
    · rw [hafter, Registry.next_modify]
    · rw [hafter]
    · rw [hafter]

def knotted : List Registry.Work :=
  [.operate (.allocate .window), .operate (.allocate .button), .operate (.allocate .button),
    .link .permissive 1 2, .link .permissive 2 1, .link .permissive 3 2]

theorem links_decided_knotted :
    let tracer : Tracer := { sinks := [.memory {}] }
    let resolver : Resolver :=
      { registry := ({} : Registry).workAll knotted
        tracing := some tracer
        policy := .rejectCycles }
    knotted.countP Registry.Work.allocates + 1 < UInt64.size ∧
    ((resolver.setParent 1 3).1 = .error (.cycle 1 3) ∧ (resolver.setParent 1 3).2 = resolver) ∧
    (resolver.setParent 3 1).1 = .ok [] ∧
    (resolver.setParent 3 1).2.tracing =
      some (tracer.handed
        { op := "set_parent", widget := some { id := 3, kind := .button, parent := 1 } }) := by
  intro tracer resolver
  have hroom : knotted.countP Registry.Work.allocates + 1 < UInt64.size := by decide
  obtain ⟨-, -, hcycle, hrefused, -⟩ := links_decided knotted hroom (some tracer) .rejectCycles 1 3
  obtain ⟨-, -, -, -, haccepted⟩ := links_decided knotted hroom (some tracer) .rejectCycles 3 1
  have herror : (resolver.setParent 1 3).1 = .error (.cycle 1 3) := by
    apply hcycle.mpr
    exact ⟨⟨by decide, by decide⟩, Or.inr ⟨by decide, by decide⟩, rfl, by decide, 3, by decide, rfl⟩
  have hok : (resolver.setParent 3 1).1 = .ok [] := by decide
  obtain ⟨widget, hwidget, -, -, -, -, htracing⟩ := haccepted [] hok
  cases hwidget
  exact ⟨hroom, ⟨herror, (hrefused _ herror).2⟩, hok, htracing⟩

end Resolver

end HeadlessDesktop
