import HeadlessDesktop.Proofs.DenseRegistry
import Mathlib.Data.Fintype.Card

/-! The graph of parent links. A way up is followed link by link; where every way comes to
its end no widget stands above itself, ways are no longer than there are widgets, and the
walk that guards a new link misses nothing. -/
namespace HeadlessDesktop.Registry

/-- The id that stands `hops` links above; none if the way leads over an id that names no
widget. -/
def climb (registry : Registry) : (hops : Nat) → (id : WidgetId) → Option WidgetId
  | 0, id => some id
  | hops + 1, id => (registry.lookup? id).bind fun widget => registry.climb hops widget.parent

def IsOwnAncestor (registry : Registry) (id : WidgetId) : Prop :=
  ∃ hops, 0 < hops ∧ registry.climb hops id = some id

/-- Following parents from any widget ends at none after no more links than there are
widgets, and no widget is its own ancestor. -/
structure Acyclic (registry : Registry) : Prop where
  ends : ∀ widget ∈ registry.toList,
    ∃ hops ≤ registry.size, registry.climb hops widget.id = some 0
  irreflexive : ∀ (id : WidgetId) (hops : Nat), 0 < hops → registry.climb hops id ≠ some id

/-- What linking keeps up: ids are dense, and every way up comes to its end. -/
structure Grounded (registry : Registry) : Prop where
  dense : registry.Dense
  ends : ∀ (id : WidgetId) (widget : Widget), registry.lookup? id = some widget →
    ∃ hops, registry.climb hops id = some 0

@[simp] theorem climb_zero (registry : Registry) (id : WidgetId) :
    registry.climb 0 id = some id := rfl

theorem climb_succ {registry : Registry} {id : WidgetId} {widget : Widget} (hops : Nat)
    (h : registry.lookup? id = some widget) :
    registry.climb (hops + 1) id = registry.climb hops widget.parent := by
  rw [climb, h]
  rfl

theorem climb_succ_of_none {registry : Registry} {id : WidgetId} (hops : Nat)
    (h : registry.lookup? id = none) : registry.climb (hops + 1) id = none := by
  rw [climb, h]
  rfl

theorem climb_add (registry : Registry) (first second : Nat) (id : WidgetId) :
    registry.climb (first + second) id =
      (registry.climb first id).bind (registry.climb second) := by
  induction first generalizing id with
  | zero => simp
  | succ first ih =>
    rw [Nat.succ_add_eq_add_succ, Nat.add_succ]
    cases hlookup : registry.lookup? id with
    | none => rw [climb_succ_of_none _ hlookup, climb_succ_of_none _ hlookup]; rfl
    | some widget => rw [climb_succ _ hlookup, climb_succ _ hlookup, ih]

theorem climb_end_unique {registry : Registry} {id : WidgetId} {first second : Nat}
    (hfirst : registry.climb first id = some 0) (hsecond : registry.climb second id = some 0) :
    first = second := by
  have step (low high : Nat) (hlow : registry.climb low id = some 0)
      (hhigh : registry.climb high id = some 0) : high ≤ low := by
    by_contra hlt
    obtain ⟨more, rfl⟩ : ∃ more, high = low + (more + 1) := ⟨high - low - 1, by omega⟩
    rw [climb_add, hlow, Option.bind_some,
      climb_succ_of_none _ registry.lookup?_zero] at hhigh
    exact absurd hhigh (by simp)
  exact Nat.le_antisymm (step second first hsecond hfirst) (step first second hfirst hsecond)

theorem climb_ne_self {registry : Registry} {id : WidgetId} {top hops : Nat}
    (hend : registry.climb top id = some 0) (hpos : 0 < hops) :
    registry.climb hops id ≠ some id := by
  intro hself
  have hlong : registry.climb (hops + top) id = some 0 := by
    rw [climb_add, hself, Option.bind_some, hend]
  have heq := climb_end_unique hlong hend
  omega

theorem climb_rest {registry : Registry} {id middle target : WidgetId} {top hops : Nat}
    (hend : registry.climb top id = some target) (hle : hops ≤ top)
    (hmiddle : registry.climb hops id = some middle) :
    registry.climb (top - hops) middle = some target := by
  rw [← Nat.add_sub_cancel' hle, climb_add, hmiddle, Option.bind_some] at hend
  simpa using hend

theorem exists_climb_of_le {registry : Registry} {id target : WidgetId} {top hops : Nat}
    (hend : registry.climb top id = some target) (hle : hops ≤ top) :
    ∃ middle, registry.climb hops id = some middle := by
  rw [← Nat.add_sub_cancel' hle, climb_add] at hend
  obtain ⟨middle, hmiddle, -⟩ := Option.bind_eq_some_iff.mp hend
  exact ⟨middle, hmiddle⟩

theorem exists_lookup?_of_lt {registry : Registry} {id middle target : WidgetId} {top hops : Nat}
    (hend : registry.climb top id = some target) (hlt : hops < top)
    (hmiddle : registry.climb hops id = some middle) :
    ∃ widget, registry.lookup? middle = some widget := by
  have hrest := climb_rest hend (Nat.le_of_lt hlt) hmiddle
  obtain ⟨more, hmore⟩ : ∃ more, top - hops = more + 1 := ⟨top - hops - 1, by omega⟩
  rw [hmore] at hrest
  cases hlookup : registry.lookup? middle with
  | none => rw [climb_succ_of_none _ hlookup] at hrest; exact absurd hrest (by simp)
  | some widget => exact ⟨widget, rfl⟩

theorem exists_first_climb {registry : Registry} {id target : WidgetId} {hops : Nat}
    (hclimb : registry.climb hops id = some target) :
    ∃ first, registry.climb first id = some target ∧
      ∀ earlier < first, registry.climb earlier id ≠ some target := by
  induction hops using Nat.strong_induction_on with
  | h hops ih =>
    by_cases hfirst : ∀ earlier < hops, registry.climb earlier id ≠ some target
    · exact ⟨hops, hclimb, hfirst⟩
    · simp only [not_forall, not_not] at hfirst
      obtain ⟨earlier, hlt, hearlier⟩ := hfirst
      exact ih earlier hlt hearlier

/-- The widgets on a way that has not come to its goal before are different ones, since the
way could leave out what lies between two visits to one. So it is no longer than there are
widgets. -/
theorem Dense.first_climb_le_size {registry : Registry} (dense : registry.Dense)
    {id target : WidgetId} {top : Nat} (hend : registry.climb top id = some target)
    (hfirst : ∀ earlier < top, registry.climb earlier id ≠ some target) :
    top ≤ registry.size := by
  have hall : ∀ hops : Fin top, ∃ middle widget,
      registry.climb hops.val id = some middle ∧ registry.lookup? middle = some widget := by
    intro hops
    obtain ⟨middle, hmiddle⟩ := exists_climb_of_le hend (Nat.le_of_lt hops.isLt)
    obtain ⟨widget, hwidget⟩ := exists_lookup?_of_lt hend hops.isLt hmiddle
    exact ⟨middle, widget, hmiddle, hwidget⟩
  choose middle widget hmiddle hwidget using hall
  let place : Fin top → Fin registry.size := fun hops =>
    ⟨placeOf (middle hops), dense.placeOf_lt (hwidget hops)⟩
  have distinct (low high : Fin top) (hlt : low.val < high.val) : place low ≠ place high := by
    intro heq
    have hplace : placeOf (middle low) = placeOf (middle high) := Fin.mk.inj heq
    have hsame : middle low = middle high :=
      placeOf_inj _ _ (ne_zero_of_lookup? (hwidget low)) (ne_zero_of_lookup? (hwidget high)) hplace
    have hshort : registry.climb (low.val + (top - high.val)) id = some target := by
      rw [climb_add, hmiddle low, Option.bind_some, hsame]
      exact climb_rest hend (Nat.le_of_lt high.isLt) (hmiddle high)
    exact hfirst _ (by omega) hshort
  have hinj : Function.Injective place := by
    intro low high heq
    by_contra hne
    rcases Nat.lt_or_gt_of_ne (Fin.val_ne_of_ne hne) with hlt | hlt
    · exact distinct low high hlt heq
    · exact distinct high low hlt heq.symm
  simpa using Fintype.card_le_of_injective place hinj

theorem Dense.climb_end_le_size {registry : Registry} (dense : registry.Dense)
    {id : WidgetId} {top : Nat} (hend : registry.climb top id = some 0) :
    top ≤ registry.size := by
  apply dense.first_climb_le_size hend
  intro earlier hlt hearlier
  exact Nat.ne_of_lt hlt (climb_end_unique hearlier hend)

theorem Grounded.exists_end {registry : Registry} (grounded : registry.Grounded)
    {id : WidgetId} (h : id = 0 ∨ (registry.lookup? id).isSome) :
    ∃ hops, registry.climb hops id = some 0 := by
  rcases h with rfl | h
  · exact ⟨0, rfl⟩
  · obtain ⟨widget, hwidget⟩ := Option.isSome_iff_exists.mp h
    exact grounded.ends id widget hwidget

theorem Grounded.acyclic {registry : Registry} (grounded : registry.Grounded) :
    registry.Acyclic where
  ends := by
    intro widget hwidget
    obtain ⟨hops, hend⟩ := grounded.ends _ _ (grounded.dense.lookup?_id hwidget)
    exact ⟨hops, grounded.dense.climb_end_le_size hend, hend⟩
  irreflexive := by
    intro id hops hpos hself
    cases hlookup : registry.lookup? id with
    | none =>
      obtain ⟨more, rfl⟩ : ∃ more, hops = more + 1 := ⟨hops - 1, by omega⟩
      rw [climb_succ_of_none _ hlookup] at hself
      exact absurd hself (by simp)
    | some widget =>
      obtain ⟨top, hend⟩ := grounded.ends id widget hlookup
      exact climb_ne_self hend hpos hself

theorem meets_iff (registry : Registry) (child : WidgetId) (steps : Nat) (start : WidgetId) :
    registry.meets child steps start = true ↔
      child ≠ 0 ∧ ∃ hops < steps, registry.climb hops start = some child := by
  induction steps generalizing start with
  | zero => simp [meets]
  | succ steps ih =>
    unfold meets
    by_cases hzero : start = 0
    · subst hzero
      simp only [if_true, Bool.false_eq_true, false_iff, not_and]
      rintro hchild ⟨hops, -, hclimb⟩
      cases hops with
      | zero => exact hchild (Option.some.inj hclimb).symm
      | succ hops =>
        rw [climb_succ_of_none _ registry.lookup?_zero] at hclimb
        exact absurd hclimb (by simp)
    · rw [if_neg hzero]
      by_cases hself : start = child
      · rw [if_pos hself]
        simp only [true_iff]
        exact ⟨hself ▸ hzero, 0, by omega, by rw [hself]; rfl⟩
      · rw [if_neg hself]
        -- The first widget is not the child, so the way to the child has a first link.
        have hfirst : registry.climb 0 start ≠ some child := fun h => hself (Option.some.inj h)
        cases hlookup : registry.lookup? start with
        | none =>
          simp only [Bool.false_eq_true, false_iff, not_and]
          rintro - ⟨hops, -, hclimb⟩
          cases hops with
          | zero => exact hfirst hclimb
          | succ hops =>
            rw [climb_succ_of_none _ hlookup] at hclimb
            exact absurd hclimb (by simp)
        | some widget =>
          simp only [ih]
          refine and_congr_right fun _ => ⟨?_, ?_⟩
          · rintro ⟨hops, hlt, hclimb⟩
            exact ⟨hops + 1, by omega, by rw [climb_succ _ hlookup, hclimb]⟩
          · rintro ⟨hops, hlt, hclimb⟩
            cases hops with
            | zero => exact absurd hclimb hfirst
            | succ hops =>
              rw [climb_succ _ hlookup] at hclimb
              exact ⟨hops, by omega, hclimb⟩

theorem Dense.meets_iff_of_size_lt {registry : Registry} (dense : registry.Dense) {steps : Nat}
    (hsteps : registry.size < steps) (child start : WidgetId) :
    registry.meets child steps start = true ↔
      child ≠ 0 ∧ ∃ hops, registry.climb hops start = some child := by
  rw [meets_iff]
  refine and_congr_right fun hchild => ⟨fun ⟨hops, _, hclimb⟩ => ⟨hops, hclimb⟩, ?_⟩
  rintro ⟨hops, hclimb⟩
  obtain ⟨first, hfirst, havoids⟩ := exists_first_climb hclimb
  have hshort := dense.first_climb_le_size hfirst havoids
  exact ⟨first, by omega, hfirst⟩

theorem Dense.isAncestorOrSelf_iff {registry : Registry} (dense : registry.Dense)
    (child start : WidgetId) :
    registry.isAncestorOrSelf child start = true ↔
      child ≠ 0 ∧ ∃ hops, registry.climb hops start = some child :=
  dense.meets_iff_of_size_lt (Nat.lt_succ_self _) child start

theorem lookup?_setParent_self {registry : Registry} {child : WidgetId} {widget : Widget}
    (parent : WidgetId) (h : registry.lookup? child = some widget) :
    (registry.modify child (·.setParent parent)).lookup? child =
      some (widget.setParent parent) := by
  rw [lookup?_modify, if_pos rfl, h]
  rfl

theorem lookup?_setParent_of_ne (registry : Registry) {child id : WidgetId}
    (parent : WidgetId) (h : id ≠ child) :
    (registry.modify child (·.setParent parent)).lookup? id = registry.lookup? id := by
  rw [lookup?_modify, if_neg h]

theorem climb_congr_of_avoids {registry other : Registry} {child : WidgetId}
    (hsame : ∀ id, id ≠ child →
      (other.lookup? id).map Widget.parent = (registry.lookup? id).map Widget.parent)
    (hops : Nat) (id : WidgetId)
    (avoids : ∀ earlier < hops, registry.climb earlier id ≠ some child) :
    other.climb hops id = registry.climb hops id := by
  induction hops generalizing id with
  | zero => rfl
  | succ hops ih =>
    have hne : id ≠ child := fun h => avoids 0 (by omega) (congrArg some h)
    have hparent := hsame id hne
    cases hlookup : registry.lookup? id with
    | none =>
      rw [hlookup, Option.map_none, Option.map_eq_none_iff] at hparent
      rw [climb_succ_of_none _ hlookup, climb_succ_of_none _ hparent]
    | some widget =>
      rw [hlookup, Option.map_some, Option.map_eq_some_iff] at hparent
      obtain ⟨changed, hchanged, hparent⟩ := hparent
      rw [climb_succ _ hlookup, climb_succ _ hchanged, hparent]
      refine ih widget.parent fun earlier hlt h => ?_
      exact avoids (earlier + 1) (by omega) (by rw [climb_succ _ hlookup, h])

theorem climb_setParent_of_avoids (registry : Registry) (child parent : WidgetId)
    (hops : Nat) (id : WidgetId)
    (avoids : ∀ earlier < hops, registry.climb earlier id ≠ some child) :
    (registry.modify child (·.setParent parent)).climb hops id = registry.climb hops id := by
  refine climb_congr_of_avoids (fun other hne => ?_) hops id avoids
  rw [lookup?_setParent_of_ne registry parent hne]

theorem isOwnAncestor_setParent_iff {registry : Registry} {child : WidgetId} {widget : Widget}
    (parent : WidgetId) (hchild : registry.lookup? child = some widget) :
    (registry.modify child (·.setParent parent)).IsOwnAncestor child ↔
      ∃ hops, registry.climb hops parent = some child := by
  have hnew (hops : Nat) :
      (registry.modify child (·.setParent parent)).climb (hops + 1) child =
        (registry.modify child (·.setParent parent)).climb hops parent :=
    climb_succ hops (lookup?_setParent_self parent hchild)
  constructor
  · rintro ⟨hops, hpos, hself⟩
    obtain ⟨more, rfl⟩ : ∃ more, hops = more + 1 := ⟨hops - 1, by omega⟩
    rw [hnew] at hself
    obtain ⟨first, hfirst, havoids⟩ := exists_first_climb hself
    refine ⟨first, ?_⟩
    rw [← hfirst]
    refine climb_congr_of_avoids (fun other hne => ?_) first parent havoids
    rw [lookup?_setParent_of_ne registry parent hne]
  · rintro ⟨hops, hclimb⟩
    obtain ⟨first, hfirst, havoids⟩ := exists_first_climb hclimb
    refine ⟨first + 1, Nat.succ_pos _, ?_⟩
    rw [hnew, climb_setParent_of_avoids _ _ _ _ _ havoids, hfirst]

/-- A change keeps ways ending if whatever is found after it was found before or has a way
that ends, and each widget either has such a way by now or the parent it had. -/
theorem Grounded.of_change {registry after : Registry} (grounded : registry.Grounded)
    (dense : after.Dense)
    (hfound : ∀ id widget, after.lookup? id = some widget →
      (∃ hops, after.climb hops id = some 0) ∨ (registry.lookup? id).isSome)
    (hkept : ∀ id widget, registry.lookup? id = some widget →
      (∃ hops, after.climb hops id = some 0) ∨
        ∃ changed, after.lookup? id = some changed ∧ changed.parent = widget.parent) :
    after.Grounded where
  dense := dense
  ends := by
    have hall (hops : Nat) (id : WidgetId) (hend : registry.climb hops id = some 0) :
        ∃ more, after.climb more id = some 0 := by
      induction hops generalizing id with
      | zero => exact ⟨0, hend⟩
      | succ hops ih =>
        cases hlookup : registry.lookup? id with
        | none => rw [climb_succ_of_none _ hlookup] at hend; exact absurd hend (by simp)
        | some widget =>
          rcases hkept id widget hlookup with hdone | ⟨changed, hchanged, hparent⟩
          · exact hdone
          · rw [climb_succ _ hlookup] at hend
            obtain ⟨more, hmore⟩ := ih widget.parent hend
            exact ⟨more + 1, by rw [climb_succ _ hchanged, hparent, hmore]⟩
    intro id widget hid
    rcases hfound id widget hid with hdone | hold
    · exact hdone
    · obtain ⟨hops, hend⟩ := grounded.exists_end (Or.inr hold)
      exact hall hops id hend

theorem Grounded.setParent {registry : Registry} (grounded : registry.Grounded)
    {child parent : WidgetId} {widget : Widget} (hchild : registry.lookup? child = some widget)
    (hparent : parent = 0 ∨ (registry.lookup? parent).isSome)
    (avoids : ∀ hops, registry.climb hops parent ≠ some child) :
    (registry.modify child (·.setParent parent)).Grounded := by
  obtain ⟨top, hend⟩ := grounded.exists_end hparent
  have hnew : (registry.modify child (·.setParent parent)).climb (top + 1) child = some 0 := by
    rw [climb_succ _ (lookup?_setParent_self parent hchild)]
    change (registry.modify child (·.setParent parent)).climb top parent = some 0
    rw [climb_setParent_of_avoids _ _ _ _ _ fun hops _ => avoids hops, hend]
  refine grounded.of_change (grounded.dense.modify child _ fun _ => rfl) ?_ ?_
  · intro id found hfound
    rw [← isSome_lookup?_modify registry child id (·.setParent parent), hfound]
    exact Or.inr rfl
  · -- Every other way is as it was, up to the child if it leads there.
    intro id found hfound
    by_cases heq : id = child
    · exact Or.inl ⟨top + 1, heq ▸ hnew⟩
    · exact Or.inr ⟨found, (lookup?_setParent_of_ne registry parent heq).trans hfound, rfl⟩

theorem not_acyclic_setParent {registry : Registry} {child parent : WidgetId} {widget : Widget}
    (hchild : registry.lookup? child = some widget) {hops : Nat}
    (hclimb : registry.climb hops parent = some child) :
    ¬ (registry.modify child (·.setParent parent)).Acyclic := by
  intro acyclic
  obtain ⟨hops, hpos, hself⟩ := (isOwnAncestor_setParent_iff parent hchild).mpr ⟨hops, hclimb⟩
  exact acyclic.irreflexive child hops hpos hself

theorem Grounded.modify {registry : Registry} (grounded : registry.Grounded) (id : WidgetId)
    (change : Widget → Widget) (keepsId : ∀ widget, (change widget).id = widget.id)
    (keepsParent : ∀ widget, (change widget).parent = widget.parent) :
    (registry.modify id change).Grounded := by
  refine grounded.of_change (grounded.dense.modify id change keepsId) ?_ ?_
  · intro other found hfound
    rw [← isSome_lookup?_modify registry id other change, hfound]
    exact Or.inr rfl
  · intro other widget hother
    right
    rw [lookup?_modify, hother, Option.map_some]
    split
    · exact ⟨_, rfl, keepsParent widget⟩
    · exact ⟨widget, rfl, rfl⟩

theorem Grounded.allocateWith {registry : Registry} (grounded : registry.Grounded)
    (build : WidgetId → Option Widget) (room : registry.size + 2 < UInt64.size)
    (detached : (registry.allocateWith build).2.parent = 0) :
    (registry.allocateWith build).1.Grounded := by
  have hlookup := grounded.dense.lookup?_allocateWith build room
  refine grounded.of_change (grounded.dense.allocateWith build room) ?_ ?_
  · intro id found hfound
    rw [hlookup] at hfound
    split at hfound
    · rename_i heq
      have hnew := hlookup id
      rw [if_pos heq] at hnew
      exact Or.inl ⟨1, by rw [climb_succ _ hnew, climb_zero, detached]⟩
    · exact Or.inr (by rw [hfound]; rfl)
  · intro id widget hold
    have hnext : id ≠ registry.next := by
      intro heq
      have hlt := grounded.dense.placeOf_lt hold
      have hnat := toNat_eq_placeOf_add_one id (ne_zero_of_lookup? hold)
      rw [heq, grounded.dense.next_toNat] at hnat
      rw [heq] at hlt
      omega
    exact Or.inr ⟨widget, by rw [hlookup, if_neg hnext, hold], rfl⟩

theorem grounded_empty : Grounded {} where
  dense :=
    { next_toNat := rfl
      id_toNat := by intro place widget h; simp at h }
  ends := by
    intro id widget h
    simp [lookup?] at h

theorem checkLink_eq_ok_iff (registry : Registry) (policy : Policy)
    (child parent : WidgetId) :
    registry.checkLink policy child parent = .ok () ↔
      (registry.lookup? child).isSome ∧
        (parent = 0 ∨ (registry.lookup? parent).isSome ∧
          (policy = .rejectCycles → registry.isAncestorOrSelf child parent = false)) := by
  unfold checkLink
  cases registry.lookup? child with
  | none => simp
  | some widget =>
    by_cases hzero : parent = 0
    · simp [hzero]
    · cases registry.lookup? parent with
      | none => simp [hzero]
      | some above => simp [hzero]

theorem setParent_eq_ok_iff (registry after : Registry) (policy : Policy)
    (child parent : WidgetId) :
    registry.setParent policy child parent = .ok after ↔
      registry.checkLink policy child parent = .ok () ∧
        after = registry.modify child (·.setParent parent) := by
  unfold setParent
  cases registry.checkLink policy child parent with
  | error error => simp [bind, Except.bind]
  | ok checked =>
    simp only [bind, Except.bind, pure, Except.pure, Except.ok.injEq, true_and]
    exact eq_comm

theorem Grounded.of_setParent {registry after : Registry} (grounded : registry.Grounded)
    {child parent : WidgetId} (h : registry.setParent .rejectCycles child parent = .ok after) :
    after.Grounded := by
  obtain ⟨hcheck, rfl⟩ := (setParent_eq_ok_iff ..).mp h
  obtain ⟨hchild, hlink⟩ := (checkLink_eq_ok_iff ..).mp hcheck
  obtain ⟨widget, hwidget⟩ := Option.isSome_iff_exists.mp hchild
  have hne : child ≠ 0 := ne_zero_of_lookup? hwidget
  have hparent : parent = 0 ∨ (registry.lookup? parent).isSome := hlink.imp_right And.left
  refine grounded.setParent hwidget hparent fun hops hclimb => ?_
  have hmeets := (grounded.dense.isAncestorOrSelf_iff child parent).mpr ⟨hne, hops, hclimb⟩
  rcases hlink with rfl | ⟨-, hfree⟩
  · -- The walk from none meets nobody.
    simp [isAncestorOrSelf, meets] at hmeets
  · rw [hfree rfl] at hmeets
    exact absurd hmeets (by simp)

end HeadlessDesktop.Registry
