import HeadlessDesktop.Proofs.StubCalls

/-! What the widgets of the stub owe to the calls. Each creation hands out the next handle, and
from then on a widget shows how it was created, the last title that it was given and the last
parent that was accepted for it; no other call leaves a mark on it. -/
namespace HeadlessDesktop

open Backend
open Text (Raw)

namespace Registry

@[simp] theorem lookup?_next (registry : Registry) : registry.lookup? registry.next = none :=
  if_pos (Or.inr (UInt64.le_refl _))

theorem Dense.isSome_lookup?_iff {registry : Registry} (dense : registry.Dense) (id : WidgetId) :
    (registry.lookup? id).isSome ↔ 1 ≤ id.toNat ∧ id.toNat ≤ registry.size := by
  by_cases hid : id = 0
  · subst hid
    simp
  · have hplace := toNat_eq_placeOf_add_one id hid
    rw [dense.lookup?_eq id hid, isSome_getElem?]
    change placeOf id < registry.size ↔ _
    omega

theorem Dense.relink {registry : Registry} (dense : registry.Dense) (policy : Policy)
    (child parent : WidgetId) : (registry.relink policy child parent).Dense := by
  unfold Registry.relink
  split
  · rename_i linked hlink
    obtain ⟨-, rfl⟩ := (setParent_eq_ok_iff ..).mp hlink
    exact dense.modify child _ fun _ => rfl
  · exact dense

theorem Dense.obey {registry : Registry} (dense : registry.Dense) (policy : Policy) (call : Call)
    (room : (registry.obey policy call).size + 1 < UInt64.size) :
    (registry.obey policy call).Dense := by
  rw [size_obey] at room
  cases call with
  | windowNew title width height => exact dense.allocateWith _ room
  | buttonNew label => exact dense.allocateWith _ room
  | setParent child parent => exact dense.relink policy child parent
  | setTitle handle title => exact dense.modify handle _ fun _ => rfl
  | init args => exact dense
  | display handle => exact dense
  | main => exact dense
  | mainQuit => exact dense

def changed (policy : Policy) (registry : Registry) (id : WidgetId) (call : Call)
    (widget : Widget) : Widget :=
  match call with
  | .setTitle target title => if target = id then widget.setTitle title else widget
  | .setParent child parent =>
    if child = id ∧ (registry.setParent policy child parent).isOk then widget.setParent parent
    else widget
  | _ => widget

theorem Dense.lookup?_allocateWith_of_some {registry : Registry} (dense : registry.Dense)
    (build : WidgetId → Option Widget) (room : registry.size + 2 < UInt64.size) {id : WidgetId}
    {widget : Widget} (h : registry.lookup? id = some widget) :
    (registry.allocateWith build).1.lookup? id = some widget := by
  rw [dense.lookup?_allocateWith build room, if_neg ?_, h]
  rintro rfl
  simp at h

theorem lookup?_relink (policy : Policy) (registry : Registry) (child parent id : WidgetId) :
    (registry.relink policy child parent).lookup? id =
      if child = id ∧ (registry.setParent policy child parent).isOk then
        (registry.lookup? id).map (·.setParent parent)
      else registry.lookup? id := by
  unfold relink
  cases hlink : registry.setParent policy child parent with
  | error error => simp [Except.isOk, Except.toBool]
  | ok linked =>
    obtain ⟨-, rfl⟩ := (setParent_eq_ok_iff ..).mp hlink
    simp [lookup?_modify, Except.isOk, Except.toBool, eq_comm]

theorem Dense.lookup?_obey {registry : Registry} (dense : registry.Dense) (policy : Policy)
    (call : Call) (room : (registry.obey policy call).size + 1 < UInt64.size) {id : WidgetId}
    {widget : Widget} (h : registry.lookup? id = some widget) :
    (registry.obey policy call).lookup? id = some (registry.changed policy id call widget) := by
  rw [size_obey] at room
  cases call with
  | windowNew title width height => exact dense.lookup?_allocateWith_of_some _ room h
  | buttonNew label => exact dense.lookup?_allocateWith_of_some _ room h
  | setParent child parent =>
    change (registry.relink policy child parent).lookup? id = _
    simp only [lookup?_relink, h, changed]
    split <;> rfl
  | setTitle target title =>
    change (registry.modify target (·.setTitle title)).lookup? id = _
    simp only [lookup?_modify, h, changed, eq_comm]
    split <;> rfl
  | init args => exact h
  | display handle => exact h
  | main => exact h
  | mainQuit => exact h

end Registry

namespace Stub

/-! ### Runs -/

@[simp] theorem obeyAll_nil (stub : Stub) : stub.obeyAll [] = stub := rfl

@[simp] theorem obeyAll_cons (stub : Stub) (call : Call) (rest : List Call) :
    stub.obeyAll (call :: rest) = (stub.obey call).obeyAll rest := rfl

theorem obeyAll_append (stub : Stub) (first second : List Call) :
    stub.obeyAll (first ++ second) = (stub.obeyAll first).obeyAll second :=
  List.foldl_append

theorem size_obey (stub : Stub) (call : Call) :
    (stub.obey call).registry.size = stub.registry.size + if call.creates then 1 else 0 := by
  rw [(stub.obey_follows call).1, Registry.size_obey]

theorem size_obeyAll (stub : Stub) (calls : List Call) :
    (stub.obeyAll calls).registry.size = stub.registry.size + calls.countP Call.creates := by
  induction calls generalizing stub with
  | nil => rfl
  | cons call rest ih =>
    rw [obeyAll_cons, ih, size_obey, List.countP_cons]
    omega

theorem dense_obey {stub : Stub} (dense : stub.registry.Dense) (call : Call)
    (room : (stub.obey call).registry.size + 1 < UInt64.size) :
    (stub.obey call).registry.Dense := by
  rw [(stub.obey_follows call).1] at room ⊢
  exact dense.obey stub.policy call room

/-- A stub with dense ids, and with ids for all that some calls create. -/
structure HasRoom (stub : Stub) (calls : List Call) : Prop where
  dense : stub.registry.Dense
  room : stub.registry.size + calls.countP Call.creates + 1 < UInt64.size

namespace HasRoom

variable {stub : Stub}

theorem empty (tracing : Tracing) (policy : Policy) {calls : List Call}
    (room : calls.countP Call.creates + 1 < UInt64.size) :
    HasRoom { tracing, policy } calls where
  dense := Registry.grounded_empty.dense
  room := by
    change 0 + _ + 1 < _
    omega

theorem obey {call : Call} {rest : List Call} (h : stub.HasRoom (call :: rest)) :
    (stub.obey call).HasRoom rest := by
  have hroom := h.room
  have hsize := stub.size_obey call
  rw [List.countP_cons] at hroom
  exact ⟨dense_obey h.dense call (by omega), by omega⟩

theorem obeyAll {first second : List Call} (h : stub.HasRoom (first ++ second)) :
    (stub.obeyAll first).HasRoom second := by
  induction first generalizing stub with
  | nil => exact h
  | cons call rest ih => exact ih h.obey

theorem before {first second : List Call} (h : stub.HasRoom (first ++ second)) :
    stub.HasRoom first where
  dense := h.dense
  room := by
    have hroom := h.room
    rw [List.countP_append] at hroom
    omega

theorem isSome_lookup?_iff {calls : List Call} (h : stub.HasRoom calls) (handle : Handle) :
    ((stub.obeyAll calls).lookup? handle).isSome ↔
      1 ≤ handle.toNat ∧ handle.toNat ≤ stub.registry.size + calls.countP Call.creates := by
  have hdone : (stub.obeyAll calls).HasRoom [] := obeyAll (by simpa using h)
  rw [← size_obeyAll]
  exact hdone.dense.isSome_lookup?_iff handle

end HasRoom

/-! ### What a call does to one widget -/

def accepts (stub : Stub) (child parent : Handle) : Bool :=
  (link stub.registry stub.tracing stub.policy child parent).isOk

theorem accepts_eq (stub : Stub) (child parent : Handle) :
    stub.accepts child parent = (stub.registry.setParent stub.policy child parent).isOk := by
  unfold accepts link
  cases stub.registry.setParent stub.policy child parent <;> rfl

theorem accepts_iff (stub : Stub) (child parent : Handle) :
    stub.accepts child parent ↔
      (stub.lookup? child).isSome ∧
        (parent = 0 ∨ (stub.lookup? parent).isSome ∧
          (stub.policy = .rejectCycles →
            stub.registry.isAncestorOrSelf child parent = false)) := by
  unfold lookup?
  rw [accepts_eq, ← Registry.checkLink_eq_ok_iff]
  unfold Registry.setParent
  cases stub.registry.checkLink stub.policy child parent <;>
    simp [bind, Except.bind, Except.isOk, Except.toBool, pure, Except.pure]

def titleFor? (handle : Handle) : Call → Option Raw
  | .setTitle target title => if target = handle then some title else none
  | _ => none

def parentFor? (stub : Stub) (handle : Handle) : Call → Option Handle
  | .setParent child parent =>
    if child = handle ∧ stub.accepts child parent then some parent else none
  | _ => none

def handle? (stub : Stub) : Call → Option Handle
  | .windowNew title width height => some (stub.windowNew title width height).1
  | .buttonNew label => some (stub.buttonNew label).1
  | _ => none

/-- A widget as its creation, the titles and the parents that it was given leave it. A window has
no label, and sizes are not negative; the title of a button is its label too, and it has no
size. -/
def portrait (handle : Handle) (creation : Call) (titles : List Raw) (parents : List Handle) :
    Widget :=
  match creation with
  | .windowNew title width height =>
    { id := handle
      kind := .window
      title := titles.getLastD title
      label := ""
      width := if width < 0 then 0 else width
      height := if height < 0 then 0 else height
      parent := parents.getLastD 0 }
  | .buttonNew label =>
    { id := handle
      kind := .button
      title := titles.getLastD ""
      label := titles.getLastD label
      width := 0
      height := 0
      parent := parents.getLastD 0 }
  | _ => {}

theorem lookup?_obey {stub : Stub} {call : Call} {rest : List Call}
    (hroom : stub.HasRoom (call :: rest)) {handle : Handle} {widget : Widget}
    (h : stub.lookup? handle = some widget) :
    (stub.obey call).lookup? handle =
      some (stub.registry.changed stub.policy handle call widget) := by
  have hregistry := (stub.obey_follows call).1
  have hsize := hroom.obey.room
  unfold lookup?
  rw [hregistry] at hsize ⊢
  exact hroom.dense.lookup?_obey stub.policy call (by omega) h

theorem changed_portrait (stub : Stub) (handle : Handle) (call : Call) {creation : Call}
    (hcreation : creation.creates) (titles : List Raw) (parents : List Handle) :
    stub.registry.changed stub.policy handle call (portrait handle creation titles parents) =
      portrait handle creation (titles ++ (titleFor? handle call).toList)
        (parents ++ (stub.parentFor? handle call).toList) := by
  cases call with
  | setTitle target title =>
    by_cases htarget : target = handle
    · cases creation <;> simp_all [Registry.changed, titleFor?, parentFor?, portrait,
        Widget.setTitle, Kind.window, Kind.button, Call.creates]
    · simp [Registry.changed, titleFor?, parentFor?, htarget]
  | setParent child parent =>
    by_cases hlink : child = handle ∧ stub.accepts child parent
    · obtain ⟨rfl, haccepts⟩ := hlink
      cases creation <;> simp_all [Registry.changed, titleFor?, parentFor?, portrait,
        Widget.setParent, ← accepts_eq, Call.creates]
    · simp [Registry.changed, titleFor?, parentFor?, ← accepts_eq, hlink]
  | _ => simp [Registry.changed, titleFor?, parentFor?]

theorem lookup?_creation {stub : Stub} {creation : Call} {rest : List Call}
    (hroom : stub.HasRoom (creation :: rest)) (hcreation : creation.creates) :
    stub.handle? creation = some stub.registry.next ∧
      (stub.obey creation).lookup? stub.registry.next =
        some (portrait stub.registry.next creation [] []) := by
  have room := hroom.room
  rw [List.countP_cons, if_pos hcreation] at room
  have hnew (build : WidgetId → Option Widget) :
      (stub.registry.allocateWith build).2.id = stub.registry.next ∧
        (stub.registry.allocateWith build).1.lookup? stub.registry.next =
          some (stub.registry.allocateWith build).2 := by
    refine ⟨Registry.id_allocateWith stub.registry build, ?_⟩
    rw [hroom.dense.lookup?_allocateWith build (by omega), if_pos rfl]
  cases creation with
  | windowNew title width height =>
    obtain ⟨hid, hwidget⟩ := hnew fun id => some (Widget.newWindow id title width height)
    refine ⟨congrArg some hid, hwidget.trans ?_⟩
    simp [Registry.allocateWith, Widget.newWindow, portrait, Widget.clampSize]
  | buttonNew label =>
    obtain ⟨hid, hwidget⟩ := hnew fun id => some (Widget.newButton id label)
    refine ⟨congrArg some hid, hwidget.trans ?_⟩
    simp [Registry.allocateWith, Widget.newButton, portrait]
  | _ => simp [Call.creates] at hcreation

/-! ### What a run does to one widget -/

def titlesGiven (handle : Handle) (calls : List Call) : List Raw :=
  calls.filterMap (titleFor? handle)

def parentsGiven (handle : Handle) (stub : Stub) : List Call → List Handle
  | [] => []
  | call :: rest =>
    (stub.parentFor? handle call).toList ++ parentsGiven handle (stub.obey call) rest

@[simp] theorem parentsGiven_nil (handle : Handle) (stub : Stub) :
    stub.parentsGiven handle [] = [] := rfl

@[simp] theorem parentsGiven_cons (handle : Handle) (stub : Stub) (call : Call)
    (rest : List Call) :
    stub.parentsGiven handle (call :: rest) =
      (stub.parentFor? handle call).toList ++ (stub.obey call).parentsGiven handle rest := rfl

theorem parentsGiven_append (handle : Handle) (stub : Stub) (first second : List Call) :
    stub.parentsGiven handle (first ++ second) =
      stub.parentsGiven handle first ++ (stub.obeyAll first).parentsGiven handle second := by
  induction first generalizing stub with
  | nil => rfl
  | cons call rest ih => simp [ih]

theorem titlesGiven_cons (handle : Handle) (call : Call) (rest : List Call) :
    titlesGiven handle (call :: rest) =
      (titleFor? handle call).toList ++ titlesGiven handle rest := by
  unfold titlesGiven
  rw [List.filterMap_cons]
  cases titleFor? handle call <;> rfl

theorem HasRoom.isSome_lookup?_obeyAll {stub : Stub} {calls : List Call}
    (hroom : stub.HasRoom calls) {handle : Handle} (h : (stub.lookup? handle).isSome) :
    ((stub.obeyAll calls).lookup? handle).isSome := by
  have hnow := (hroom.dense.isSome_lookup?_iff handle).mp h
  rw [hroom.isSome_lookup?_iff]
  omega

theorem lookup?_obeyAll {stub : Stub} {calls : List Call} (hroom : stub.HasRoom calls)
    {handle : Handle} {creation : Call} (hcreation : creation.creates) {titles : List Raw}
    {parents : List Handle}
    (h : stub.lookup? handle = some (portrait handle creation titles parents)) :
    (stub.obeyAll calls).lookup? handle =
      some (portrait handle creation (titles ++ titlesGiven handle calls)
        (parents ++ stub.parentsGiven handle calls)) := by
  induction calls generalizing stub titles parents with
  | nil => simpa [titlesGiven] using h
  | cons call rest ih =>
    have hstep := lookup?_obey hroom h
    rw [changed_portrait stub handle call hcreation] at hstep
    rw [obeyAll_cons, ih hroom.obey hstep, titlesGiven_cons, parentsGiven_cons,
      List.append_assoc, List.append_assoc]

theorem parentFor?_eq_some {stub : Stub} {handle parent : Handle} {call : Call}
    (h : stub.parentFor? handle call = some parent) :
    (stub.lookup? handle).isSome ∧ (parent = 0 ∨ (stub.lookup? parent).isSome) := by
  cases call with
  | setParent child target =>
    simp only [parentFor?, Option.ite_none_right_eq_some, Option.some.injEq] at h
    obtain ⟨⟨rfl, haccepts⟩, rfl⟩ := h
    obtain ⟨hchild, hparent⟩ := (accepts_iff ..).mp haccepts
    exact ⟨hchild, hparent.imp_right And.left⟩
  | _ => simp [parentFor?] at h

theorem of_mem_parentsGiven {stub : Stub} {calls : List Call} (hroom : stub.HasRoom calls)
    {handle parent : Handle} (h : parent ∈ stub.parentsGiven handle calls) :
    ((stub.obeyAll calls).lookup? handle).isSome ∧
      (parent = 0 ∨ ((stub.obeyAll calls).lookup? parent).isSome) := by
  induction calls generalizing stub with
  | nil => simp at h
  | cons call rest ih =>
    rw [parentsGiven_cons, List.mem_append, Option.mem_toList] at h
    rcases h with h | h
    · obtain ⟨hhandle, hparent⟩ := parentFor?_eq_some h
      exact ⟨hroom.isSome_lookup?_obeyAll hhandle,
        hparent.imp_right hroom.isSome_lookup?_obeyAll⟩
    · exact ih hroom.obey h

theorem parentsGiven_of_unknown {stub : Stub} {calls : List Call} (hroom : stub.HasRoom calls)
    {handle : Handle} (h : (stub.obeyAll calls).lookup? handle = none) :
    stub.parentsGiven handle calls = [] := by
  apply List.eq_nil_iff_forall_not_mem.mpr
  intro parent hparent
  simpa [h] using (of_mem_parentsGiven hroom hparent).1

theorem parentsGiven_creation {stub : Stub} {before after : List Call} {creation : Call}
    (hroom : stub.HasRoom (before ++ creation :: after)) (hcreation : creation.creates) :
    stub.parentsGiven (stub.obeyAll before).registry.next (before ++ creation :: after) =
      ((stub.obeyAll before).obey creation).parentsGiven (stub.obeyAll before).registry.next
        after := by
  rw [parentsGiven_append, parentsGiven_cons,
    parentsGiven_of_unknown hroom.before (Registry.lookup?_next _)]
  cases creation <;> simp_all [parentFor?, Call.creates]

theorem getLastD_parentsGiven {stub : Stub} {calls : List Call} (hroom : stub.HasRoom calls)
    (handle : Handle) :
    let parent := (stub.parentsGiven handle calls).getLastD 0
    parent = 0 ∨ ((stub.obeyAll calls).lookup? parent).isSome := by
  rcases List.eq_nil_or_concat (stub.parentsGiven handle calls) with
    hnone | ⟨others, parent, hsome⟩
  · exact .inl (by rw [hnone]; rfl)
  · have hmem : parent ∈ stub.parentsGiven handle calls := by simp [hsome]
    simpa [hsome] using (of_mem_parentsGiven hroom hmem).2

theorem parent_portrait (handle : Handle) {creation : Call} (hcreation : creation.creates)
    (titles : List Raw) (parents : List Handle) :
    (portrait handle creation titles parents).parent = parents.getLastD 0 := by
  cases creation <;> simp_all [portrait, Call.creates]

/-- The widgets of a stub can be read off the calls that it received, whatever handles they name.
The bound leaves out only runs that create more widgets than there are ids. -/
theorem widgets_follow_calls (tracing : Tracing) (policy : Policy) (calls : List Call)
    (room : calls.countP Call.creates + 1 < UInt64.size) :
    let start : Stub := { tracing, policy }
    let final := start.obeyAll calls
    (∀ handle, (final.lookup? handle).isSome ↔
      1 ≤ handle.toNat ∧ handle.toNat ≤ calls.countP Call.creates) ∧
    ∀ before creation after, calls = before ++ creation :: after → creation.creates →
      ∃ handle widget, (start.obeyAll before).handle? creation = some handle ∧
        handle.toNat = before.countP Call.creates + 1 ∧
        final.lookup? handle = some widget ∧
        widget = portrait handle creation (titlesGiven handle after)
          (start.parentsGiven handle calls) ∧
        (widget.parent = 0 ∨ (final.lookup? widget.parent).isSome) := by
  intro start final
  have hroom : start.HasRoom calls := .empty tracing policy room
  refine ⟨fun handle => ?_, ?_⟩
  · have hissued := hroom.isSome_lookup?_iff handle
    rwa [show start.registry.size = 0 from rfl, Nat.zero_add] at hissued
  rintro before creation after rfl hcreation
  have hthen : (start.obeyAll before).HasRoom (creation :: after) := hroom.obeyAll
  obtain ⟨hhandle, hnew⟩ := lookup?_creation hthen hcreation
  let handle := (start.obeyAll before).registry.next
  have hfinal : final.lookup? handle = some (portrait handle creation (titlesGiven handle after)
      (start.parentsGiven handle (before ++ creation :: after))) := by
    change (start.obeyAll _).lookup? handle = _
    rw [parentsGiven_creation hroom hcreation, obeyAll_append, obeyAll_cons]
    exact lookup?_obeyAll hthen.obey hcreation hnew
  refine ⟨handle, _, hhandle, ?_, hfinal, rfl, ?_⟩
  · have hsize := size_obeyAll start before
    rw [show start.registry.size = 0 from rfl, Nat.zero_add] at hsize
    rw [← hsize]
    exact hthen.dense.next_toNat
  · rw [parent_portrait handle hcreation]
    exact getLastD_parentsGiven hroom handle

theorem widgets_follow_calls_button :
    let before : List Call := [.setTitle 2 "early", .windowNew "w" (-3) 4]
    let after : List Call :=
      [.setParent 2 1, .setParent 1 2, .setParent 2 9, .setTitle 2 "c", .setTitle 9 "x"]
    let calls := before ++ .buttonNew "b" :: after
    let start : Stub := { policy := .rejectCycles }
    calls.countP Call.creates + 1 < UInt64.size ∧
      titlesGiven 2 after = [.text "c"] ∧ start.parentsGiven 2 calls = [1] ∧
      (start.obeyAll calls).lookup? 1 =
        some { id := 1, kind := .window, title := "w", width := 0, height := 4 } ∧
      ∃ handle widget, (start.obeyAll before).handle? (.buttonNew "b") = some handle ∧
        handle.toNat = before.countP Call.creates + 1 ∧
        (start.obeyAll calls).lookup? handle = some widget ∧
        widget = portrait handle (.buttonNew "b") (titlesGiven handle after)
          (start.parentsGiven handle calls) ∧
        (widget.parent = 0 ∨ ((start.obeyAll calls).lookup? widget.parent).isSome) :=
  ⟨by decide, by decide +kernel, by decide, by decide +kernel,
    (widgets_follow_calls none .rejectCycles _ (by decide)).2 _ _ _ rfl rfl⟩

/-- A title given before the widget is created is not its title, though it is the last one
given. -/
theorem early_title_is_lost :
    let calls : List Call := [.setTitle 1 "early", .windowNew "w" 3 4]
    titlesGiven 1 calls = [.text "early"] ∧
      ((obeyAll {} calls).lookup? 1).map (·.title) = some (.text "w") ∧
      ((obeyAll {} calls).lookup? 1).map (·.title) ≠ (titlesGiven 1 calls).getLast? := by
  decide +kernel

end Stub

end HeadlessDesktop
