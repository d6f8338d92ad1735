import HeadlessDesktop.Widget.Parenting

/-! What a lookup finds after a change to the registry. In a dense registry the ids are
those from one up to the number of widgets, so that an id and a place in the list name the
same widget. -/
namespace HeadlessDesktop.Registry

structure Dense (registry : Registry) : Prop where
  next_toNat : registry.next.toNat = registry.size + 1
  id_toNat : ∀ (place : Nat) (widget : Widget),
    registry.widgets[place]? = some widget → widget.id.toNat = place + 1

def placeOf (id : WidgetId) : Nat := (id - 1).toNat

theorem toNat_eq_placeOf_add_one (id : WidgetId) (hid : id ≠ 0) :
    id.toNat = placeOf id + 1 := by
  have hpos : 1 ≤ id.toNat := by
    have hne : id.toNat ≠ 0 := fun h => hid (UInt64.toNat_inj.mp h)
    omega
  have hone : (1 : WidgetId) ≤ id := UInt64.le_iff_toNat_le.mpr hpos
  unfold placeOf
  rw [UInt64.toNat_sub_of_le _ _ hone]
  change id.toNat = id.toNat - 1 + 1
  omega

theorem placeOf_inj (left right : WidgetId) (hleft : left ≠ 0) (hright : right ≠ 0)
    (h : placeOf left = placeOf right) : left = right := by
  have hl := toNat_eq_placeOf_add_one left hleft
  have hr := toNat_eq_placeOf_add_one right hright
  exact UInt64.toNat_inj.mp (by omega)

@[simp] theorem lookup?_zero (registry : Registry) : registry.lookup? 0 = none := by
  simp [lookup?]

theorem ne_zero_of_lookup? {registry : Registry} {id : WidgetId} {widget : Widget}
    (h : registry.lookup? id = some widget) : id ≠ 0 := by
  rintro rfl
  simp at h

theorem Dense.lookup?_eq {registry : Registry} (dense : registry.Dense) (id : WidgetId)
    (hid : id ≠ 0) : registry.lookup? id = registry.widgets[placeOf id]? := by
  unfold lookup?
  by_cases hnext : registry.next ≤ id
  · rw [if_pos (Or.inr hnext)]
    have hle := UInt64.le_iff_toNat_le.mp hnext
    rw [dense.next_toNat, toNat_eq_placeOf_add_one id hid] at hle
    exact (Array.getElem?_eq_none (by unfold size at hle; omega)).symm
  · rw [if_neg (by simp [hid, hnext])]
    rfl

theorem Dense.placeOf_lt {registry : Registry} (dense : registry.Dense) {id : WidgetId}
    {widget : Widget} (h : registry.lookup? id = some widget) :
    placeOf id < registry.size := by
  rw [dense.lookup?_eq id (ne_zero_of_lookup? h)] at h
  exact (Array.getElem?_eq_some_iff.mp h).1

theorem Dense.lookup?_id {registry : Registry} (dense : registry.Dense) {widget : Widget}
    (h : widget ∈ registry.toList) : registry.lookup? widget.id = some widget := by
  obtain ⟨place, hplace⟩ := List.mem_iff_getElem?.mp h
  have hwidget : registry.widgets[place]? = some widget := by
    simpa [toList] using hplace
  have hnat := dense.id_toNat place widget hwidget
  have hid : widget.id ≠ 0 := by
    intro hzero
    rw [hzero] at hnat
    exact absurd hnat (by simp)
  rw [dense.lookup?_eq _ hid]
  rw [toNat_eq_placeOf_add_one _ hid] at hnat
  rw [show placeOf widget.id = place by omega]
  exact hwidget

@[simp] theorem size_modify (registry : Registry) (id : WidgetId)
    (change : Widget → Widget) : (registry.modify id change).size = registry.size := by
  unfold modify
  split
  · rfl
  · simp [size]

@[simp] theorem next_modify (registry : Registry) (id : WidgetId)
    (change : Widget → Widget) : (registry.modify id change).next = registry.next := by
  unfold modify
  split <;> rfl

theorem lookup?_modify (registry : Registry) (id other : WidgetId)
    (change : Widget → Widget) :
    (registry.modify id change).lookup? other =
      if other = id then (registry.lookup? other).map change else registry.lookup? other := by
  by_cases hguard : id = 0 ∨ registry.next ≤ id
  · have hnone : registry.lookup? id = none := if_pos hguard
    unfold modify
    rw [if_pos hguard]
    split
    · rename_i heq
      rw [heq, hnone]
      rfl
    · rfl
  · unfold lookup? modify
    rw [if_neg hguard]
    by_cases hother : other = 0 ∨ registry.next ≤ other
    · simp [hother]
    · simp only [hother, if_false, Array.getElem?_modify]
      by_cases heq : other = id
      · simp [heq]
      · have hplace : (id - 1).toNat ≠ (other - 1).toNat := by
          intro h
          exact heq (placeOf_inj other id (by simp_all) (by simp_all) h.symm)
        simp [heq, hplace]

@[simp] theorem isSome_lookup?_modify (registry : Registry) (id other : WidgetId)
    (change : Widget → Widget) :
    ((registry.modify id change).lookup? other).isSome = (registry.lookup? other).isSome := by
  rw [lookup?_modify]
  split
  · exact Option.isSome_map
  · rfl

theorem Dense.modify {registry : Registry} (dense : registry.Dense) (id : WidgetId)
    (change : Widget → Widget) (keeps : ∀ widget, (change widget).id = widget.id) :
    (registry.modify id change).Dense where
  next_toNat := by rw [next_modify, size_modify, dense.next_toNat]
  id_toNat := by
    intro place widget h
    unfold Registry.modify at h
    split at h
    · exact dense.id_toNat place widget h
    · simp only [Array.getElem?_modify] at h
      split at h
      · obtain ⟨old, hold, rfl⟩ := Option.map_eq_some_iff.mp h
        rw [keeps]
        exact dense.id_toNat place old hold
      · exact dense.id_toNat place widget h

@[simp] theorem size_allocateWith (registry : Registry) (build : WidgetId → Option Widget) :
    (registry.allocateWith build).1.size = registry.size + 1 := by
  simp [allocateWith, size]

theorem id_allocateWith (registry : Registry) (build : WidgetId → Option Widget) :
    (registry.allocateWith build).2.id = registry.next := by
  unfold allocateWith
  dsimp only
  split
  · split
    · assumption
    · rfl
  · rfl

theorem Dense.allocateWith {registry : Registry} (dense : registry.Dense)
    (build : WidgetId → Option Widget) (room : registry.size + 2 < UInt64.size) :
    (registry.allocateWith build).1.Dense where
  next_toNat := by
    rw [size_allocateWith]
    change (registry.next + 1).toNat = _
    rw [UInt64.toNat_add, dense.next_toNat]
    change (registry.size + 1 + 1) % UInt64.size = _
    exact Nat.mod_eq_of_lt room
  id_toNat := by
    intro place widget h
    change (registry.widgets.push (registry.allocateWith build).2)[place]? = _ at h
    rw [Array.getElem?_push] at h
    split at h
    · rename_i hplace
      cases Option.some.inj h
      rw [id_allocateWith, dense.next_toNat, hplace]
      rfl
    · exact dense.id_toNat place widget h

theorem Dense.lookup?_allocateWith {registry : Registry} (dense : registry.Dense)
    (build : WidgetId → Option Widget) (room : registry.size + 2 < UInt64.size) (id : WidgetId) :
    (registry.allocateWith build).1.lookup? id =
      if id = registry.next then some (registry.allocateWith build).2
      else registry.lookup? id := by
  by_cases hid : id = 0
  · have hnext : (0 : WidgetId) ≠ registry.next := by
      intro h
      have hzero := dense.next_toNat
      rw [← h] at hzero
      exact absurd hzero (by simp)
    subst hid
    rw [if_neg hnext, lookup?_zero, lookup?_zero]
  · rw [(dense.allocateWith build room).lookup?_eq id hid, dense.lookup?_eq id hid]
    change (registry.widgets.push (registry.allocateWith build).2)[placeOf id]? = _
    have hplace : placeOf id = registry.widgets.size ↔ id = registry.next := by
      have hnat := toNat_eq_placeOf_add_one id hid
      have hnext : registry.next.toNat = registry.widgets.size + 1 := dense.next_toNat
      rw [← UInt64.toNat_inj]
      omega
    rw [Array.getElem?_push]
    by_cases heq : id = registry.next
    · rw [if_pos heq, if_pos (hplace.mpr heq)]
    · rw [if_neg heq, if_neg fun h => heq (hplace.mp h)]

end HeadlessDesktop.Registry
