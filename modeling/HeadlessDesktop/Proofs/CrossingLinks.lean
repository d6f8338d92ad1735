import HeadlessDesktop.Proofs.Ancestry
import HeadlessDesktop.Widget.Linking
import Mathlib.Logic.Relation

/-! Links made at the same time. A call looks first and writes later; in between another
call may put its child above its parent, and then the write closes a cycle. A call that is
late in this way is the only one that does. -/
namespace HeadlessDesktop.Linking

/-- Whether a call is about to write a link that its walk, if it were made now, would
refuse. -/
def Call.isLate (registry : Registry) (call : Call) : Bool :=
  call.point = .writing && registry.isAncestorOrSelf call.child call.parent

def Call.Known (registry : Registry) (call : Call) : Prop :=
  match call.point with
  | .entering | .refused _ => True
  | .foundChild => (registry.lookup? call.child).isSome
  | .walking _ _ | .writing | .linked =>
    (registry.lookup? call.child).isSome ∧
      (call.parent = 0 ∨ (registry.lookup? call.parent).isSome)

/-- What the rest of a walk has to find out: whether the child stands above the parent. -/
def Call.Undecided (registry : Registry) (call : Call) : Prop :=
  match call.point with
  | .walking left id =>
    registry.isAncestorOrSelf call.child call.parent = registry.meets call.child left id
  | .writing => registry.isAncestorOrSelf call.child call.parent = false
  | .entering | .foundChild | .linked | .refused _ => True

theorem step?_registry {policy : Policy} {registry after : Registry} {call : Call}
    {point : Point} (h : step? policy registry call = some (after, point)) :
    (call.point = .writing ∧ after = registry.modify call.child (·.setParent call.parent)) ∨
      (call.point ≠ .writing ∧ after = registry) := by
  unfold step? at h
  split at h <;> simp_all

theorem Call.Known.modify {registry : Registry} {call : Call} (known : call.Known registry)
    (id : WidgetId) (change : Widget → Widget) : call.Known (registry.modify id change) := by
  unfold Known at known ⊢
  simpa using known

theorem Call.Known.step {policy : Policy} {registry after : Registry} {call : Call}
    {point : Point} (known : call.Known registry)
    (h : step? policy registry call = some (after, point)) :
    ({ call with point } : Call).Known after := by
  obtain ⟨child, parent, stand⟩ := call
  cases stand with
  | entering =>
    obtain ⟨rfl, rfl⟩ := Prod.mk.inj (Option.some.inj h)
    dsimp only
    by_cases hchild : (registry.lookup? child).isNone
    · rw [if_pos hchild]
      trivial
    · rw [if_neg hchild]
      have hsome : (registry.lookup? child).isSome :=
        Option.isNone_eq_false_iff.mp (eq_false_of_ne_true hchild)
      by_cases hzero : parent = 0
      · rw [if_pos hzero]
        exact ⟨hsome, Or.inl hzero⟩
      · rw [if_neg hzero]
        exact hsome
  | foundChild =>
    obtain ⟨rfl, rfl⟩ := Prod.mk.inj (Option.some.inj h)
    dsimp only
    by_cases hparent : (registry.lookup? parent).isNone
    · rw [if_pos hparent]
      trivial
    · rw [if_neg hparent]
      have hsome : (registry.lookup? parent).isSome :=
        Option.isNone_eq_false_iff.mp (eq_false_of_ne_true hparent)
      cases policy with
      | permissive => exact ⟨known, Or.inr hsome⟩
      | rejectCycles => exact ⟨known, Or.inr hsome⟩
  | walking left id =>
    obtain ⟨rfl, rfl⟩ := Prod.mk.inj (Option.some.inj h)
    unfold stepWalk
    split
    · exact known
    · split
      · exact known
      · split
        · trivial
        · split
          · exact known
          · exact known
  | writing =>
    obtain ⟨rfl, rfl⟩ := Prod.mk.inj (Option.some.inj h)
    have hlinked : Known registry ⟨child, parent, .linked⟩ := known
    exact hlinked.modify child _
  | linked => exact absurd h (by simp [step?])
  | refused error => exact absurd h (by simp [step?])

theorem Call.undecided_stepWalk {registry : Registry} {call : Call} {left : Nat}
    {id : WidgetId}
    (h : registry.isAncestorOrSelf call.child call.parent = registry.meets call.child left id) :
    ({ call with point := stepWalk registry call left id } : Call).Undecided registry := by
  cases left with
  | zero => exact h
  | succ left =>
    unfold Registry.meets at h
    by_cases hzero : id = 0
    · have hpoint : stepWalk registry call (left + 1) id = .writing := by simp [stepWalk, hzero]
      rw [hpoint]
      rwa [if_pos hzero] at h
    · rw [if_neg hzero] at h
      by_cases hmet : id = call.child
      · have hpoint : stepWalk registry call (left + 1) id =
            .refused (.cycle call.child call.parent) := by
          simp only [stepWalk, if_neg hzero, if_pos hmet]
        rw [hpoint]
        trivial
      · rw [if_neg hmet] at h
        cases hlookup : registry.lookup? id with
        | none =>
          have hpoint : stepWalk registry call (left + 1) id = .writing := by
            simp [stepWalk, hzero, hmet, hlookup]
          rw [hpoint]
          rwa [hlookup] at h
        | some widget =>
          have hpoint : stepWalk registry call (left + 1) id = .walking left widget.parent := by
            simp [stepWalk, hzero, hmet, hlookup]
          rw [hpoint]
          rwa [hlookup] at h

theorem Call.Undecided.step {registry after : Registry} {call : Call} {point : Point}
    (undecided : call.Undecided registry)
    (h : step? .rejectCycles registry call = some (after, point)) :
    ({ call with point } : Call).Undecided registry := by
  obtain ⟨child, parent, stand⟩ := call
  cases stand with
  | entering =>
    obtain ⟨-, rfl⟩ := Prod.mk.inj (Option.some.inj h)
    dsimp only
    split
    · trivial
    · split
      · rename_i hzero
        change registry.isAncestorOrSelf child parent = false
        rw [hzero]
        rfl
      · trivial
  | foundChild =>
    obtain ⟨-, rfl⟩ := Prod.mk.inj (Option.some.inj h)
    dsimp only
    split
    · trivial
    · exact rfl
  | walking left id =>
    obtain ⟨-, rfl⟩ := Prod.mk.inj (Option.some.inj h)
    exact undecided_stepWalk undecided
  | writing =>
    obtain ⟨-, rfl⟩ := Prod.mk.inj (Option.some.inj h)
    trivial
  | linked => exact absurd h (by simp [step?])
  | refused error => exact absurd h (by simp [step?])

namespace System

def isLate (system : System) : Action → Bool
  | .link _ _ => false
  | .step number => system.calls[number]?.any (·.isLate system.registry)

inductive Timely (policy : Policy) (registry : Registry) : System → Prop
  | initial : Timely policy registry { registry }
  | act {system next : System} (action : Action) :
    Timely policy registry system → system.act? policy action = some next →
      system.isLate action = false → Timely policy registry next

def Quiet (policy : Policy) : System → System → Prop :=
  Relation.ReflTransGen fun system next =>
    (∃ action, system.act? policy action = some next) ∧ next.registry = system.registry

/-- The graph has no cycle yet, and no call has got further than it may. -/
structure Sound (system : System) : Prop where
  grounded : system.registry.Grounded
  known : ∀ (number : Nat) (call : Call), system.calls[number]? = some call →
    call.Known system.registry

theorem act?_cases {policy : Policy} {system next : System} {action : Action}
    (h : system.act? policy action = some next) :
    (∃ child parent, action = .link child parent ∧
      next = { system with calls := system.calls ++ [{ child, parent }] }) ∨
    ∃ number call registry point, action = .step number ∧
      system.calls[number]? = some call ∧
      step? policy system.registry call = some (registry, point) ∧
      next = { registry, calls := system.calls.set number { call with point } } := by
  cases action with
  | link child parent => exact Or.inl ⟨child, parent, rfl, (Option.some.inj h).symm⟩
  | step number =>
    obtain ⟨call, hcall, h⟩ := Option.bind_eq_some_iff.mp h
    obtain ⟨⟨registry, point⟩, hstep, h⟩ := Option.bind_eq_some_iff.mp h
    exact Or.inr ⟨number, call, registry, point, rfl, hcall, hstep, (Option.some.inj h).symm⟩

theorem isLate_step {system : System} {number : Nat} {call : Call}
    (h : system.calls[number]? = some call) :
    system.isLate (.step number) = call.isLate system.registry := by
  simp [isLate, h]

theorem Sound.known_act {policy : Policy} {system next : System} {action : Action}
    (sound : system.Sound) (h : system.act? policy action = some next) (number : Nat)
    (call : Call) (hcall : next.calls[number]? = some call) : call.Known next.registry := by
  obtain ⟨child, parent, -, rfl⟩ | ⟨moved, before, registry, point, -, hbefore, hstep, rfl⟩ :=
    act?_cases h
  · rw [List.getElem?_append] at hcall
    split at hcall
    · exact sound.known number call hcall
    · rw [List.mem_singleton.mp (List.mem_of_getElem? hcall)]
      trivial
  · rw [List.getElem?_set] at hcall
    split at hcall
    · split at hcall
      · cases Option.some.inj hcall
        exact (sound.known moved before hbefore).step hstep
      · exact absurd hcall (by simp)
    · have hknown := sound.known number call hcall
      obtain ⟨-, rfl⟩ | ⟨-, rfl⟩ := step?_registry hstep
      · exact hknown.modify before.child _
      · exact hknown

theorem Sound.act {system next : System} {action : Action} (sound : system.Sound)
    (h : system.act? .rejectCycles action = some next) (timely : system.isLate action = false) :
    next.Sound where
  known := sound.known_act h
  grounded := by
    obtain ⟨child, parent, -, rfl⟩ | ⟨number, call, registry, point, rfl, hcall, hstep, rfl⟩ :=
      act?_cases h
    · exact sound.grounded
    · obtain ⟨hpoint, rfl⟩ | ⟨-, rfl⟩ := step?_registry hstep
      · have hknown := sound.known number call hcall
        unfold Call.Known at hknown
        rw [hpoint] at hknown
        obtain ⟨hchild, hparent⟩ := hknown
        obtain ⟨widget, hwidget⟩ := Option.isSome_iff_exists.mp hchild
        refine sound.grounded.setParent hwidget hparent fun hops hclimb => ?_
        have hmeets := (sound.grounded.dense.isAncestorOrSelf_iff call.child call.parent).mpr
          ⟨Registry.ne_zero_of_lookup? hwidget, hops, hclimb⟩
        rw [isLate_step hcall, Call.isLate, hmeets, hpoint] at timely
        exact absurd timely (by decide)
      · exact sound.grounded

theorem Sound.not_acyclic_of_isLate {system next : System} {action : Action}
    (sound : system.Sound) (h : system.act? .rejectCycles action = some next)
    (late : system.isLate action = true) : ¬ next.registry.Acyclic := by
  obtain ⟨child, parent, rfl, rfl⟩ | ⟨number, call, registry, point, rfl, hcall, hstep, rfl⟩ :=
    act?_cases h
  · exact absurd late (by simp [isLate])
  · rw [isLate_step hcall, Call.isLate, Bool.and_eq_true, decide_eq_true_iff] at late
    obtain ⟨hpoint, hmeets⟩ := late
    have hknown := sound.known number call hcall
    unfold Call.Known at hknown
    rw [hpoint] at hknown
    obtain ⟨hchild, -⟩ := hknown
    obtain ⟨widget, hwidget⟩ := Option.isSome_iff_exists.mp hchild
    obtain ⟨-, hops, hclimb⟩ :=
      (sound.grounded.dense.isAncestorOrSelf_iff call.child call.parent).mp hmeets
    obtain ⟨-, rfl⟩ | ⟨hother, -⟩ := step?_registry hstep
    · exact Registry.not_acyclic_setParent hwidget hclimb
    · exact absurd hpoint hother

theorem Timely.sound {registry : Registry} {system : System} (grounded : registry.Grounded)
    (timely : Timely .rejectCycles registry system) : system.Sound := by
  induction timely with
  | initial => exact ⟨grounded, by simp⟩
  | act action _ hact hlate ih => exact ih.act hact hlate

theorem Quiet.undecided {start system : System} {number : Nat} {call : Call}
    (quiet : Quiet .rejectCycles start system) (hcall : start.calls[number]? = some call)
    (undecided : call.Undecided start.registry) :
    ∃ later, system.calls[number]? = some later ∧ later.Undecided system.registry := by
  induction quiet with
  | refl => exact ⟨call, hcall, undecided⟩
  | tail _ hstep ih =>
    obtain ⟨⟨action, hact⟩, hsame⟩ := hstep
    obtain ⟨later, hlater, hopen⟩ := ih
    rw [hsame]
    obtain ⟨child, parent, -, rfl⟩ | ⟨moved, before, registry, point, -, hbefore, hmove, rfl⟩ :=
      act?_cases hact
    · exact ⟨later, by rw [List.getElem?_append_left (List.getElem?_eq_some_iff.mp hlater).1,
        hlater], hopen⟩
    · by_cases heq : moved = number
      · subst heq
        have hcurrent : later = before := Option.some.inj (hlater.symm.trans hbefore)
        subst hcurrent
        refine ⟨{ later with point }, ?_, hopen.step hmove⟩
        rw [List.getElem?_set_self (List.getElem?_eq_some_iff.mp hlater).1]
      · exact ⟨later, by rw [List.getElem?_set_ne heq, hlater], hopen⟩

/-- As long as no call is late the graph has no cycle, and the next step closes one exactly
if it is late. A call is late only if some link changed after it had begun to look. -/
theorem acyclic_while_timely {registry : Registry} {system : System}
    (grounded : registry.Grounded) (timely : Timely .rejectCycles registry system) :
    system.registry.Acyclic ∧
      (∀ action next, system.act? .rejectCycles action = some next →
        (next.registry.Acyclic ↔ system.isLate action = false)) ∧
      ∀ start number call, Quiet .rejectCycles start system →
        start.calls[number]? = some call →
        call.point = .entering ∨ call.point = .foundChild →
          system.isLate (.step number) = false := by
  have sound := timely.sound grounded
  refine ⟨sound.grounded.acyclic, fun action next hact => ⟨fun hacyclic => ?_, fun hlate => ?_⟩, ?_⟩
  · exact eq_false_of_ne_true fun hlate =>
      sound.not_acyclic_of_isLate hact hlate hacyclic
  · exact (sound.act hact hlate).grounded.acyclic
  · intro start number call quiet hcall hpoint
    have hopen : call.Undecided start.registry := by
      unfold Call.Undecided
      rcases hpoint with hpoint | hpoint
      · rw [hpoint]
        trivial
      · rw [hpoint]
        trivial
    obtain ⟨later, hlater, hdone⟩ := quiet.undecided hcall hopen
    rw [isLate_step hlater, Call.isLate]
    by_cases hwriting : later.point = .writing
    · unfold Call.Undecided at hdone
      rw [hwriting] at hdone
      change system.registry.isAncestorOrSelf _ _ = false at hdone
      simp [hdone]
    · simp [hwriting]

def follow? (policy : Policy) (system : System) : List Action → Option System
  | [] => some system
  | action :: rest =>
    if system.isLate action then none
    else (system.act? policy action).bind fun next => next.follow? policy rest

theorem Timely.follow? {policy : Policy} {registry : Registry} {system last : System}
    (timely : Timely policy registry system) (actions : List Action)
    (h : system.follow? policy actions = some last) : Timely policy registry last := by
  induction actions generalizing system with
  | nil => exact Option.some.inj h ▸ timely
  | cons action rest ih =>
    unfold System.follow? at h
    split at h
    · exact absurd h (by simp)
    · rename_i hlate
      obtain ⟨next, hact, h⟩ := Option.bind_eq_some_iff.mp h
      exact ih (timely.act action hact (eq_false_of_ne_true hlate)) h

theorem Timely.reachable {policy : Policy} {registry : Registry} {system : System}
    (timely : Timely policy registry system) : Reachable policy registry system := by
  induction timely with
  | initial => exact .initial
  | act action _ hact _ ih => exact .act action ih hact

def twoWidgets : Registry := ((({} : Registry).allocate .window).1.allocate .window).1

theorem twoWidgets_grounded : twoWidgets.Grounded :=
  (Registry.grounded_empty.allocateWith _ (by decide) rfl).allocateWith _ (by decide) rfl

/-- The first call is to put one under two and has walked. Then the second puts two under one,
all at once; the first is still to write. -/
def crossing : System where
  registry := twoWidgets.modify 2 (·.setParent 1)
  calls := [⟨1, 2, .writing⟩, ⟨2, 1, .linked⟩]

theorem crossing_timely : Timely .rejectCycles twoWidgets crossing :=
  Timely.initial.follow?
    [.link 1 2, .step 0, .step 0, .step 0, .step 0, .link 2 1, .step 1, .step 1, .step 1,
      .step 1, .step 1] rfl

theorem crossing_is_late :
    crossing.isLate (.step 0) = true ∧
      ∀ next, crossing.act? .rejectCycles (.step 0) = some next → ¬ next.registry.Acyclic := by
  have hlate : crossing.isLate (.step 0) = true := rfl
  refine ⟨hlate, fun next hact hacyclic => ?_⟩
  have h := (acyclic_while_timely twoWidgets_grounded crossing_timely).2.1 _ next hact
  rw [h.mp hacyclic] at hlate
  exact absurd hlate (by decide)

/-- Refusing cycles does not keep calls that cross from closing one. -/
theorem crossing_closes_cycle :
    ¬ ∀ system, Reachable .rejectCycles twoWidgets system → system.registry.Acyclic := by
  intro hall
  have hacyclic := hall _ (.act (.step 0) crossing_timely.reachable rfl)
  exact hacyclic.irreflexive 1 2 (by decide) rfl

end System

end HeadlessDesktop.Linking
