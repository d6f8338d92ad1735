import HeadlessDesktop.Proofs.WidgetHistory

/-! Any work on a registry: allocations with builders that may misbehave, and changes to single
widgets. The ids that were handed out stay dense, and each goes on naming the widget that its
allocation returned. -/
namespace HeadlessDesktop

inductive Widget.Edit
  | title (title : Text.Raw)
  | label (label : Text.Raw)
  | parent (parent : WidgetId)
deriving DecidableEq, Repr

namespace Widget

def edit (widget : Widget) : Edit → Widget
  | .title title => widget.setTitle title
  | .label label => widget.setLabel label
  | .parent parent => widget.setParent parent

/-- The part of a widget that is settled with its creation. -/
def fixed (widget : Widget) : WidgetId × Kind × Int64 × Int64 :=
  (widget.id, widget.kind, widget.width, widget.height)

@[simp] theorem fixed_edit (widget : Widget) (edit : Edit) :
    (widget.edit edit).fixed = widget.fixed := by
  cases edit <;> rfl

@[simp] theorem fixed_foldl_edit (widget : Widget) (edits : List Edit) :
    (edits.foldl Widget.edit widget).fixed = widget.fixed := by
  induction edits generalizing widget with
  | nil => rfl
  | cons edit rest ih => simp [ih]

end Widget

namespace Registry

inductive Operation
  | allocate (kind : Kind)
  | allocateWith (build : WidgetId → Option Widget)
  | edit (id : WidgetId) (edit : Widget.Edit)

namespace Operation

def allocates : Operation → Bool
  | .edit _ _ => false
  | _ => true

def offer? : Operation → WidgetId → Option Widget
  | .allocate kind, id => some { id, kind }
  | .allocateWith build, id => build id
  | .edit _ _, _ => none

def editOf? (id : WidgetId) : Operation → Option Widget.Edit
  | .edit target change => if target = id then some change else none
  | _ => none

end Operation

def operate (registry : Registry) : Operation → Registry
  | .allocate kind => (registry.allocate kind).1
  | .allocateWith build => (registry.allocateWith build).1
  | .edit id edit => registry.modify id (·.edit edit)

def returned? (registry : Registry) : Operation → Option Widget
  | .allocate kind => some (registry.allocate kind).2
  | .allocateWith build => some (registry.allocateWith build).2
  | .edit _ _ => none

def operateAll (registry : Registry) (operations : List Operation) : Registry :=
  operations.foldl operate registry

@[simp] theorem operateAll_cons (registry : Registry) (operation : Operation)
    (rest : List Operation) :
    registry.operateAll (operation :: rest) = (registry.operate operation).operateAll rest := rfl

theorem operateAll_append (registry : Registry) (first second : List Operation) :
    registry.operateAll (first ++ second) = (registry.operateAll first).operateAll second :=
  List.foldl_append

variable {registry : Registry} {operation : Operation} {rest : List Operation}

/-! ### One operation -/

theorem allocateWith_of_returned? {made : Widget} (h : registry.returned? operation = some made) :
    operation.allocates ∧
      registry.allocateWith operation.offer? = (registry.operate operation, made) := by
  cases operation with
  | allocate kind =>
    obtain rfl := Option.some.inj h
    exact ⟨rfl, rfl⟩
  | allocateWith build =>
    obtain rfl := Option.some.inj h
    exact ⟨rfl, rfl⟩
  | edit id edit => contradiction

theorem size_operate (registry : Registry) (operation : Operation) :
    (registry.operate operation).size =
      registry.size + if operation.allocates then 1 else 0 := by
  cases operation with
  | allocate kind => exact registry.size_allocateWith _
  | allocateWith build => exact registry.size_allocateWith build
  | edit id edit => exact registry.size_modify id _

theorem size_operateAll (registry : Registry) (operations : List Operation) :
    (registry.operateAll operations).size =
      registry.size + operations.countP Operation.allocates := by
  induction operations generalizing registry with
  | nil => rfl
  | cons operation rest ih =>
    rw [operateAll_cons, ih, size_operate, List.countP_cons]
    omega

/-- A registry with dense ids, and with ids for all that some operations allocate. -/
structure HasRoom (registry : Registry) (operations : List Operation) : Prop where
  dense : registry.Dense
  room : registry.size + operations.countP Operation.allocates + 1 < UInt64.size

theorem HasRoom.of_allocates (h : registry.HasRoom (operation :: rest))
    (hallocates : operation.allocates) : registry.size + 2 < UInt64.size := by
  have hroom := h.room
  rw [List.countP_cons_of_pos hallocates] at hroom
  omega

theorem HasRoom.dense_operate (h : registry.HasRoom (operation :: rest)) :
    (registry.operate operation).Dense := by
  cases operation with
  | allocate kind => exact h.dense.allocateWith _ (h.of_allocates rfl)
  | allocateWith build => exact h.dense.allocateWith build (h.of_allocates rfl)
  | edit id edit => exact h.dense.modify id _ fun widget => by cases edit <;> rfl

theorem HasRoom.operate (h : registry.HasRoom (operation :: rest)) :
    (registry.operate operation).HasRoom rest where
  dense := h.dense_operate
  room := by
    have hroom := h.room
    rw [List.countP_cons] at hroom
    rw [size_operate]
    omega

theorem HasRoom.operateAll {first second : List Operation}
    (h : registry.HasRoom (first ++ second)) : (registry.operateAll first).HasRoom second := by
  induction first generalizing registry with
  | nil => exact h
  | cons operation more ih => exact ih h.operate

theorem HasRoom.lookup?_operate (h : registry.HasRoom (operation :: rest)) {id : WidgetId}
    {widget : Widget} (hfound : registry.lookup? id = some widget) :
    (registry.operate operation).lookup? id =
      some ((operation.editOf? id).toList.foldl Widget.edit widget) := by
  cases operation with
  | allocate kind =>
    exact h.dense.lookup?_allocateWith_of_some _ (h.of_allocates rfl) hfound
  | allocateWith build =>
    exact h.dense.lookup?_allocateWith_of_some build (h.of_allocates rfl) hfound
  | edit target edit =>
    change (registry.modify target (·.edit edit)).lookup? id = _
    rw [lookup?_modify, hfound]
    by_cases htarget : target = id
    · simp [Operation.editOf?, htarget]
    · simp [Operation.editOf?, htarget, Ne.symm htarget]

/-! ### All operations -/

theorem HasRoom.lookup?_operateAll {operations : List Operation} (h : registry.HasRoom operations)
    {id : WidgetId} {widget : Widget} (hfound : registry.lookup? id = some widget) :
    (registry.operateAll operations).lookup? id =
      some ((operations.filterMap (Operation.editOf? id)).foldl Widget.edit widget) := by
  induction operations generalizing registry widget with
  | nil => exact hfound
  | cons operation rest ih =>
    rw [operateAll_cons, ih h.operate (h.lookup?_operate hfound), List.filterMap_cons]
    cases operation.editOf? id <;> rfl

/-- What is offered is taken if it carries its id; else an empty generic widget stands in. -/
def Takes (offered : Option Widget) (made : Widget) : Prop :=
  offered = some made ∨
    (∀ widget, offered = some widget → widget.id ≠ made.id) ∧
      made = ⟨made.id, .generic, "", "", 0, 0, 0⟩

theorem takes_allocateWith (registry : Registry) (build : WidgetId → Option Widget) :
    Takes (build registry.next) (registry.allocateWith build).2 := by
  cases hbuilt : build registry.next with
  | none =>
    right
    simp [allocateWith, hbuilt]
  | some widget =>
    by_cases hid : widget.id = registry.next
    · left
      simp [allocateWith, hbuilt, hid]
    · right
      simp [allocateWith, hbuilt, hid]

theorem HasRoom.of_returned? (h : registry.HasRoom (operation :: rest)) {made : Widget}
    (hmade : registry.returned? operation = some made) :
    made.id.toNat = registry.size + 1 ∧ Takes (operation.offer? made.id) made ∧
      (registry.operate operation).lookup? made.id = some made := by
  obtain ⟨hallocates, hcreated⟩ := allocateWith_of_returned? hmade
  have hid : made.id = registry.next := by
    rw [← registry.id_allocateWith operation.offer?, hcreated]
  have htakes := registry.takes_allocateWith operation.offer?
  have hfound := h.dense.lookup?_allocateWith operation.offer? (h.of_allocates hallocates) made.id
  rw [hcreated] at htakes hfound
  refine ⟨?_, ?_, ?_⟩
  · rw [hid, h.dense.next_toNat]
  · rwa [hid]
  · rw [hfound, if_pos hid]

theorem Dense.isSome_lookup?_iff_lt (dense : registry.Dense) (id : WidgetId) :
    (registry.lookup? id).isSome ↔ 1 ≤ id ∧ id < registry.next := by
  rw [dense.isSome_lookup?_iff, UInt64.le_iff_toNat_le, UInt64.lt_iff_toNat_lt, dense.next_toNat]
  change _ ↔ 1 ≤ _ ∧ _
  omega

theorem get_eq_ok_iff (registry : Registry) (id : WidgetId) (widget : Widget) :
    registry.get id = .ok widget ↔ registry.lookup? id = some widget := by
  unfold get
  cases registry.lookup? id <;> simp

theorem get_eq_error_iff (registry : Registry) (id : WidgetId) (message : String) :
    registry.get id = .error message ↔
      registry.lookup? id = none ∧ message = notFoundMessage := by
  unfold get
  cases registry.lookup? id <;> simp [eq_comm]

/-- Whatever is done to a new registry, its ids are dense and its widgets stay the ones that were
allocated. The bound leaves out only runs that allocate more widgets than there are ids. -/
theorem ids_dense_and_stable (operations : List Operation)
    (room : operations.countP Operation.allocates + 1 < UInt64.size) :
    let final := ({} : Registry).operateAll operations
    final.size = operations.countP Operation.allocates ∧
    final.next.toNat = final.size + 1 ∧
    (∀ place widget, final.toList[place]? = some widget → widget.id.toNat = place + 1) ∧
    (∀ id, (final.lookup? id).isSome ↔ 1 ≤ id ∧ id < final.next) ∧
    (∀ id, 1 ≤ id → id < final.next → (id - 1).toNat < final.widgets.size) ∧
    (∀ id widget, final.get id = .ok widget ↔ final.lookup? id = some widget) ∧
    (∀ id, final.get id = .error notFoundMessage ↔ ¬ (1 ≤ id ∧ id < final.next)) ∧
    ∀ before operation after made, operations = before ++ operation :: after →
      (({} : Registry).operateAll before).returned? operation = some made →
      made.id.toNat = before.countP Operation.allocates + 1 ∧
      Takes (operation.offer? made.id) made ∧
      ∃ widget, final.lookup? made.id = some widget ∧
        widget = (after.filterMap (Operation.editOf? made.id)).foldl Widget.edit made ∧
        widget.fixed = made.fixed := by
  intro final
  have hempty : ({} : Registry).size = 0 := rfl
  have hroom : ({} : Registry).HasRoom operations :=
    ⟨grounded_empty.dense, by omega⟩
  have hsize : final.size = operations.countP Operation.allocates := by
    rw [size_operateAll, hempty, Nat.zero_add]
  have hdone : final.HasRoom [] := HasRoom.operateAll (by simpa using hroom)
  have hdense := hdone.dense
  have hfound := hdense.isSome_lookup?_iff_lt
  refine ⟨hsize, hdense.next_toNat, ?_, hfound, ?_, final.get_eq_ok_iff, ?_, ?_⟩
  · intro place widget hwidget
    exact hdense.id_toNat place widget (by simpa [toList] using hwidget)
  · intro id hlow hhigh
    obtain ⟨widget, hwidget⟩ := Option.isSome_iff_exists.mp ((hfound id).mpr ⟨hlow, hhigh⟩)
    exact hdense.placeOf_lt hwidget
  · intro id
    rw [get_eq_error_iff, ← hfound]
    simp
  · rintro before operation after made rfl hmade
    have hnow := hroom.operateAll
    obtain ⟨hid, htakes, hnew⟩ := hnow.of_returned? hmade
    rw [size_operateAll, hempty, Nat.zero_add] at hid
    refine ⟨hid, htakes, _, ?_, rfl, Widget.fixed_foldl_edit made _⟩
    change (operateAll _ (before ++ operation :: after)).lookup? made.id = _
    rw [operateAll_append, operateAll_cons]
    exact hnow.operate.lookup?_operateAll hnew

theorem ids_dense_and_stable_builders :
    let before : List Operation :=
      [.edit 1 (.title "early"), .allocateWith fun _ => some (.newWindow 7 "w" 3 4),
        .allocateWith fun _ => none, .edit 3 (.title "early")]
    let operation : Operation := .allocateWith fun id => some (.newWindow id "w" 3 4)
    let after : List Operation :=
      [.edit 3 (.title "t"), .allocate .button, .edit 4 (.label "b"), .edit 3 (.parent 9)]
    let operations := before ++ operation :: after
    let final := ({} : Registry).operateAll operations
    operations.countP Operation.allocates + 1 < UInt64.size ∧
      final.size = 4 ∧ final.toList.map (·.kind) = [.generic, .generic, .window, .button] ∧
      ∃ widget, final.lookup? 3 = some widget ∧
        widget = [Widget.Edit.title "t", .parent 9].foldl Widget.edit (.newWindow 3 "w" 3 4) ∧
        widget.fixed = (3, .window, 3, 4) := by
  intro before operation after operations final
  have hroom : operations.countP Operation.allocates + 1 < UInt64.size := by decide
  obtain ⟨hsize, -, -, -, -, -, -, hstable⟩ := ids_dense_and_stable operations hroom
  obtain ⟨-, -, widget, hfound, hedited, hfixed⟩ :=
    hstable before operation after (.newWindow 3 "w" 3 4) rfl rfl
  exact ⟨hroom, hsize, by decide, widget, hfound, hedited, hfixed⟩

end Registry

end HeadlessDesktop
