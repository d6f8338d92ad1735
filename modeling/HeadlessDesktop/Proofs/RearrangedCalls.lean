import HeadlessDesktop.Proofs.StubCalls

/-! Calls that may change places. A title, a link and a display each bear on one aspect of one
widget at most, so that where cycles are allowed the order matters only among the calls that set
the same aspect. -/
namespace HeadlessDesktop

open Backend

section Order

variable {σ α κ : Type} {step : σ → α → σ}

theorem foldl_move_front {a : α} {front back : List α}
    (hswap : ∀ b ∈ front, ∀ state, step (step state b) a = step (step state a) b) (state : σ) :
    (front ++ a :: back).foldl step state = (front ++ back).foldl step (step state a) := by
  induction front generalizing state with
  | nil => rfl
  | cons b others ih =>
    have hothers := ih fun c hc => hswap c (List.mem_cons_of_mem b hc)
    simp only [List.cons_append, List.foldl_cons, hothers, hswap b List.mem_cons_self]

theorem foldl_eq_of_perm_of_filter [DecidableEq κ] {key : α → Option κ} {first second : List α}
    (hperm : first.Perm second)
    (hcomm : ∀ a ∈ first, ∀ b ∈ first, (∀ k, key a = some k → key b ≠ some k) →
      ∀ state, step (step state a) b = step (step state b) a)
    (horder : ∀ k, first.filter (key · = some k) = second.filter (key · = some k)) (state : σ) :
    first.foldl step state = second.foldl step state := by
  induction first generalizing second state with
  | nil => rw [hperm.nil_eq]
  | cons a rest ih =>
    have hmem : a ∈ second := hperm.subset List.mem_cons_self
    obtain ⟨front, back, rfl, hfirst⟩ := List.eq_append_cons_of_mem hmem
    have hrest : rest.Perm (front ++ back) := (hperm.trans List.perm_middle).cons_inv
    -- Of the items with its key `a` comes first in one run, so nothing with that key stands
    -- before it in the other.
    have hfront : ∀ k, key a = some k → front.filter (key · = some k) = [] := by
      intro k hk
      have hsame := horder k
      rw [List.filter_cons_of_pos (by simpa using hk), List.filter_append] at hsame
      cases hfilter : front.filter (key · = some k) with
      | nil => rfl
      | cons b others =>
        rw [hfilter, List.cons_append, List.cons.injEq] at hsame
        have hb : b ∈ front := List.mem_of_mem_filter (hfilter ▸ List.mem_cons_self)
        exact absurd (hsame.1 ▸ hb) hfirst
    have hswap : ∀ b ∈ front, ∀ state, step (step state b) a = step (step state a) b := by
      intro b hb state
      have hlater : b ∈ rest := hrest.symm.subset (List.mem_append_left back hb)
      apply (hcomm a List.mem_cons_self b (List.mem_cons_of_mem a hlater) _ state).symm
      intro k hk hkb
      have hfound : b ∈ front.filter (key · = some k) := by simp [hb, hkb]
      simp [hfront k hk] at hfound
    rw [foldl_move_front hswap, List.foldl_cons]
    apply ih hrest
    · intro b hb c hc
      exact hcomm b (List.mem_cons_of_mem a hb) c (List.mem_cons_of_mem a hc)
    · intro k
      have hsame := horder k
      by_cases ha : key a = some k
      · simpa [List.filter_append, List.filter_cons, ha, hfront k ha] using hsame
      · simpa [List.filter_append, List.filter_cons, ha] using hsame

end Order

namespace Backend

/-- What a call may set: the title or the parent of one widget. -/
inductive Aspect
  | title (handle : Handle)
  | parent (child : Handle)
deriving DecidableEq, Repr

namespace Call

def aspect? : Call → Option Aspect
  | .setTitle handle _ => some (.title handle)
  | .setParent child _ => some (.parent child)
  | _ => none

def sets (aspect : Aspect) (call : Call) : Bool := call.aspect? = some aspect

def isEdit : Call → Bool
  | .setTitle _ _ | .setParent _ _ | .display _ => true
  | _ => false

end Call

end Backend

namespace Registry

theorem getElem?_widgets_modify (registry : Registry) (id : WidgetId) (change : Widget → Widget)
    (place : Nat) :
    (registry.modify id change).widgets[place]? =
      if (id ≠ 0 ∧ ¬ registry.next ≤ id) ∧ placeOf id = place then
        registry.widgets[place]?.map change
      else registry.widgets[place]? := by
  unfold modify
  by_cases hguard : id = 0 ∨ registry.next ≤ id
  · rw [if_pos hguard, if_neg (by tauto)]
  · have hknown : id ≠ 0 ∧ ¬ registry.next ≤ id := by tauto
    simp [hknown, Array.getElem?_modify, placeOf]

theorem modify_comm (registry : Registry) {left right : WidgetId} {f g : Widget → Widget}
    (h : left = right → ∀ widget, g (f widget) = f (g widget)) :
    (registry.modify left f).modify right g = (registry.modify right g).modify left f := by
  have hwidgets : ((registry.modify left f).modify right g).widgets =
      ((registry.modify right g).modify left f).widgets := by
    apply Array.ext_getElem?
    intro place
    simp only [getElem?_widgets_modify, next_modify]
    split_ifs with hright hleft hleft
    · have hsame : left = right :=
        placeOf_inj left right hleft.1.1 hright.1.1 (hleft.2.trans hright.2.symm)
      simp only [Option.map_map]
      congr 1
      funext widget
      exact h hsame widget
    · rfl
    · rfl
    · rfl
  have hnext : ((registry.modify left f).modify right g).next =
      ((registry.modify right g).modify left f).next := by simp
  exact (Registry.mk.injEq ..).mpr ⟨hnext, hwidgets⟩

def edit? (registry : Registry) : Call → Option (WidgetId × (Widget → Widget))
  | .setTitle handle title => some (handle, (·.setTitle title))
  | .setParent child parent =>
    if (registry.lookup? child).isSome ∧ (parent = 0 ∨ (registry.lookup? parent).isSome) then
      some (child, (·.setParent parent))
    else none
  | _ => none

def edited (registry : Registry) (edit : Option (WidgetId × (Widget → Widget))) : Registry :=
  edit.elim registry fun (id, change) => registry.modify id change

theorem edit?_edited (registry : Registry) (edit : Option (WidgetId × (Widget → Widget)))
    (call : Call) : (registry.edited edit).edit? call = registry.edit? call := by
  cases edit with
  | none => rfl
  | some edit => cases call <;> simp [edited, edit?]

theorem edit?_eq_some {registry : Registry} {call : Call} {id : WidgetId}
    {change : Widget → Widget} (h : registry.edit? call = some (id, change)) :
    (call.aspect? = some (.title id) ∧ ∃ title, change = (·.setTitle title)) ∨
      (call.aspect? = some (.parent id) ∧ ∃ parent, change = (·.setParent parent)) := by
  cases call with
  | setTitle handle title =>
    simp only [edit?, Option.some.injEq, Prod.mk.injEq] at h
    exact .inl ⟨by rw [← h.1]; rfl, title, h.2.symm⟩
  | setParent child parent =>
    simp only [edit?, Option.ite_none_right_eq_some, Option.some.injEq, Prod.mk.injEq] at h
    exact .inr ⟨by rw [← h.2.1]; rfl, parent, h.2.2.symm⟩
  | _ => simp [edit?] at h

theorem relink_permissive (registry : Registry) (child parent : WidgetId) :
    registry.relink .permissive child parent =
      registry.edited (registry.edit? (.setParent child parent)) := by
  have hcheck := registry.checkLink_eq_ok_iff .permissive child parent
  unfold relink
  cases hlink : registry.setParent .permissive child parent with
  | ok linked =>
    obtain ⟨hok, rfl⟩ := (setParent_eq_ok_iff ..).mp hlink
    have hknown := hcheck.mp hok
    simp_all [edit?, edited]
  | error why =>
    have hrefused : registry.checkLink .permissive child parent ≠ .ok () := by
      intro hok
      simp [(setParent_eq_ok_iff ..).mpr ⟨hok, rfl⟩] at hlink
    have hunknown : ¬ ((registry.lookup? child).isSome ∧
        (parent = 0 ∨ (registry.lookup? parent).isSome)) := by simpa [hcheck] using hrefused
    simp [edit?, edited, hunknown]

theorem obey_of_isEdit (registry : Registry) {call : Call} (h : call.isEdit) :
    registry.obey .permissive call = registry.edited (registry.edit? call) := by
  cases call with
  | setParent child parent => exact registry.relink_permissive child parent
  | setTitle handle title => rfl
  | display handle => rfl
  | _ => simp [Call.isEdit] at h

theorem obey_comm (registry : Registry) {a b : Call} (ha : a.isEdit) (hb : b.isEdit)
    (h : ∀ aspect, a.aspect? = some aspect → b.aspect? ≠ some aspect) :
    (registry.obey .permissive a).obey .permissive b =
      (registry.obey .permissive b).obey .permissive a := by
  simp only [obey_of_isEdit _ ha, obey_of_isEdit _ hb, edit?_edited]
  cases hleft : registry.edit? a with
  | none => rfl
  | some left =>
    cases hright : registry.edit? b with
    | none => rfl
    | some right =>
      apply registry.modify_comm
      intro hid widget
      rcases edit?_eq_some hleft with ⟨hleft, title, hf⟩ | ⟨hleft, parent, hf⟩ <;>
        rcases edit?_eq_some hright with ⟨hright, title', hg⟩ | ⟨hright, parent', hg⟩
      · exact absurd (hid ▸ hright) (h _ hleft)
      · simp [hf, hg, Widget.setTitle, Widget.setParent]
      · simp [hf, hg, Widget.setTitle, Widget.setParent]
      · exact absurd (hid ▸ hright) (h _ hleft)

theorem foldl_obey_of_order {first second : List Call} (hperm : first.Perm second)
    (hedits : ∀ call ∈ first, call.isEdit)
    (horder : ∀ aspect, first.filter (·.sets aspect) = second.filter (·.sets aspect))
    (registry : Registry) :
    first.foldl (obey .permissive) registry = second.foldl (obey .permissive) registry := by
  apply foldl_eq_of_perm_of_filter hperm _ horder
  intro a ha b hb haspects state
  exact state.obey_comm (hedits a ha) (hedits b hb) haspects

end Registry

namespace Stub

/-- Titles, links and displays, with whatever handles, leave the same widgets in every order that
keeps the titles of each widget and the links of each widget in theirs. -/
theorem rearranged_calls_agree (stub : Stub) (hpolicy : stub.policy = .permissive)
    (first second : List Call) (hedits : ∀ call ∈ first, call.isEdit)
    (hperm : first.Perm second)
    (horder : ∀ aspect, first.filter (·.sets aspect) = second.filter (·.sets aspect)) :
    (stub.obeyAll first).registry = (stub.obeyAll second).registry := by
  rw [(stub.obeyAll_follows first).1, (stub.obeyAll_follows second).1, hpolicy]
  exact Registry.foldl_obey_of_order hperm hedits horder stub.registry

theorem rearranged_calls_agree_cycle :
    let stub := obeyAll {} [.windowNew "w" 3 4, .buttonNew "b"]
    let first : List Call :=
      [.setTitle 2 "c", .setParent 2 1, .display 9, .setTitle 2 "d", .setParent 1 2,
        .setTitle 7 "lost", .setParent 2 8]
    let second : List Call :=
      [.setParent 1 2, .setTitle 7 "lost", .setParent 2 1, .setTitle 2 "c", .setParent 2 8,
        .setTitle 2 "d", .display 9]
    stub.policy = .permissive ∧ (∀ call ∈ first, call.isEdit) ∧ first.Perm second ∧
      (∀ aspect, first.filter (·.sets aspect) = second.filter (·.sets aspect)) ∧
      (stub.obeyAll first).registry.toList =
        [{ id := 1, kind := .window, title := "w", width := 3, height := 4, parent := 2 },
          { id := 2, kind := .button, title := "d", label := "d", parent := 1 }] ∧
      (stub.obeyAll first).registry = (stub.obeyAll second).registry := by
  intro stub first second
  have hedits : ∀ call ∈ first, call.isEdit := by decide
  have hperm : first.Perm second := by decide
  have horder : ∀ aspect, first.filter (·.sets aspect) = second.filter (·.sets aspect) := by
    intro aspect
    cases aspect <;> simp [first, second, List.filter_cons, Call.sets, Call.aspect?] <;> grind
  exact ⟨rfl, hedits, hperm, horder, by decide,
    rearranged_calls_agree stub rfl first second hedits hperm horder⟩

end Stub

end HeadlessDesktop
