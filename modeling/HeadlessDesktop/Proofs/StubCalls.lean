import HeadlessDesktop.Backend.Scripted
import HeadlessDesktop.Backend.Stub
import HeadlessDesktop.Proofs.Ancestry

/-! Runs of calls on the stub. What a call does to the widgets does not depend on the trace
or on the loop, so that a run on the stub is a run on its registry; where cycles are refused
no run closes one. -/
namespace HeadlessDesktop

open Backend

namespace Registry

def relink (policy : Policy) (registry : Registry) (child parent : WidgetId) : Registry :=
  match registry.setParent policy child parent with
  | .ok linked => linked
  | .error _ => registry

def obey (policy : Policy) (registry : Registry) : Call → Registry
  | .windowNew title width height =>
    (registry.allocateWith fun id => some (Widget.newWindow id title width height)).1
  | .buttonNew label => (registry.allocateWith fun id => some (Widget.newButton id label)).1
  | .setParent child parent => registry.relink policy child parent
  | .setTitle handle title => registry.modify handle (·.setTitle title)
  | .init _ | .display _ | .main | .mainQuit => registry

theorem relink_null (policy : Policy) (registry : Registry) (parent : WidgetId) :
    registry.relink policy 0 parent = registry := by
  simp [relink, setParent, checkLink, bind, Except.bind]

theorem size_relink (policy : Policy) (registry : Registry) (child parent : WidgetId) :
    (registry.relink policy child parent).size = registry.size := by
  unfold relink
  split
  · rename_i linked hlink
    obtain ⟨-, rfl⟩ := (setParent_eq_ok_iff ..).mp hlink
    exact registry.size_modify child _
  · rfl

theorem size_obey (policy : Policy) (registry : Registry) (call : Call) :
    (registry.obey policy call).size = registry.size + if call.creates then 1 else 0 := by
  cases call with
  | windowNew title width height => exact registry.size_allocateWith _
  | buttonNew label => exact registry.size_allocateWith _
  | setParent child parent => exact registry.size_relink policy child parent
  | setTitle handle title => exact registry.size_modify handle _
  | init args => rfl
  | display handle => rfl
  | main => rfl
  | mainQuit => rfl

theorem Grounded.relink {registry : Registry} (grounded : registry.Grounded)
    (child parent : WidgetId) : (registry.relink .rejectCycles child parent).Grounded := by
  unfold Registry.relink
  split
  · rename_i linked hlink
    exact grounded.of_setParent hlink
  · exact grounded

theorem Grounded.obey {registry : Registry} (grounded : registry.Grounded) (call : Call)
    (room : (registry.obey .rejectCycles call).size + 1 < UInt64.size) :
    (registry.obey .rejectCycles call).Grounded := by
  rw [size_obey] at room
  cases call with
  | windowNew title width height =>
    refine grounded.allocateWith _ room ?_
    simp [Registry.allocateWith, Widget.newWindow]
  | buttonNew label =>
    refine grounded.allocateWith _ room ?_
    simp [Registry.allocateWith, Widget.newButton]
  | setParent child parent => exact grounded.relink child parent
  | setTitle handle title => exact grounded.modify handle _ (fun _ => rfl) fun _ => rfl
  | init args => exact grounded
  | display handle => exact grounded
  | main => exact grounded
  | mainQuit => exact grounded

theorem Grounded.foldl_obey {registry : Registry} (grounded : registry.Grounded)
    (calls : List Call) (room : registry.size + calls.countP Call.creates + 1 < UInt64.size) :
    (calls.foldl (Registry.obey .rejectCycles) registry).Grounded := by
  induction calls generalizing registry with
  | nil => exact grounded
  | cons call rest ih =>
    rw [List.countP_cons] at room
    have hsize := registry.size_obey .rejectCycles call
    rw [List.foldl_cons]
    exact ih (grounded.obey call (by omega)) (by omega)

end Registry

namespace Stub

/-- The stub after a call; a main call that blocks is left blocked. -/
def obey (stub : Stub) : Call → Stub
  | .init args => (stub.init args).1
  | .windowNew title width height => (stub.windowNew title width height).2.1
  | .buttonNew label => (stub.buttonNew label).2.1
  | .setParent child parent => (stub.setParent child parent).1
  | .display handle => (stub.display handle).1
  | .setTitle handle title => (stub.setTitle handle title).1
  | .main => stub.startMain.2.1
  | .mainQuit => stub.mainQuit.1

def obeyAll (stub : Stub) (calls : List Call) : Stub := calls.foldl obey stub

/-- A stub has the widgets `registry` and the policy of `stub`. -/
def Follows (stub after : Stub) (registry : Registry) : Prop :=
  after.registry = registry ∧ after.policy = stub.policy

theorem finishMain_follows (stub : Stub) : stub.Follows stub.finishMain.1 stub.registry := by
  unfold finishMain
  split <;> exact ⟨rfl, rfl⟩

theorem setParent_follows (stub : Stub) (child parent : Handle) :
    stub.Follows (stub.setParent child parent).1
      (stub.registry.relink stub.policy child parent) := by
  unfold setParent
  by_cases hnull : child = 0
  · rw [if_pos hnull, hnull, Registry.relink_null]
    exact ⟨rfl, rfl⟩
  · rw [if_neg hnull]
    unfold link Registry.relink
    cases stub.registry.setParent stub.policy child parent with
    | error error => exact ⟨rfl, rfl⟩
    | ok linked => exact ⟨rfl, rfl⟩

theorem obey_follows (stub : Stub) (call : Call) :
    stub.Follows (stub.obey call) (stub.registry.obey stub.policy call) := by
  cases call with
  | init args =>
    change stub.Follows (stub.init args).1 stub.registry
    unfold init
    split <;> exact ⟨rfl, rfl⟩
  | windowNew title width height => exact ⟨rfl, rfl⟩
  | buttonNew label => exact ⟨rfl, rfl⟩
  | setParent child parent => exact stub.setParent_follows child parent
  | display handle =>
    change stub.Follows (stub.display handle).1 stub.registry
    unfold display
    split <;> exact ⟨rfl, rfl⟩
  | setTitle handle title => exact ⟨rfl, rfl⟩
  | main =>
    change stub.Follows stub.startMain.2.1 stub.registry
    unfold startMain
    split
    · exact ⟨rfl, rfl⟩
    · exact stub.finishMain_follows
  | mainQuit =>
    change stub.Follows stub.mainQuit.1 stub.registry
    unfold mainQuit
    split <;> exact ⟨rfl, rfl⟩

theorem obeyAll_follows (stub : Stub) (calls : List Call) :
    stub.Follows (stub.obeyAll calls)
      (calls.foldl (Registry.obey stub.policy) stub.registry) := by
  unfold obeyAll
  induction calls generalizing stub with
  | nil => exact ⟨rfl, rfl⟩
  | cons call rest ih =>
    obtain ⟨hregistry, hpolicy⟩ := stub.obey_follows call
    obtain ⟨hrest, hkept⟩ := ih (stub.obey call)
    rw [hregistry, hpolicy] at hrest
    exact ⟨hrest, hkept.trans hpolicy⟩

/-- Whatever a host calls, with whatever handles, no widget comes to stand above itself.
The bound leaves out only runs that create more widgets than there are ids. -/
theorem parents_acyclic (tracing : Tracing) (calls : List Call)
    (room : calls.countP Call.creates + 1 < UInt64.size) :
    (obeyAll { tracing, policy := .rejectCycles } calls).registry.Acyclic := by
  have hempty : ({} : Registry).size = 0 := rfl
  have hgrounded := Registry.grounded_empty.foldl_obey calls (by omega)
  rw [← (obeyAll_follows { tracing, policy := .rejectCycles } calls).1] at hgrounded
  exact hgrounded.acyclic

/-- Three widgets in a chain whose top is then offered its own grandchild as a parent. -/
theorem parents_acyclic_chain :
    let calls : List Call :=
      [.windowNew "w" 1 1, .buttonNew "a", .buttonNew "b", .setParent 2 1, .setParent 3 2,
        .setParent 1 3, .setParent 0 1, .setParent 2 9]
    calls.countP Call.creates + 1 < UInt64.size ∧
      (obeyAll { policy := .rejectCycles } calls).registry.Acyclic ∧
      (obeyAll { policy := .rejectCycles } calls).registry.climb 3 3 = some 0 :=
  ⟨by decide, parents_acyclic none _ (by decide), by decide⟩

end Stub

end HeadlessDesktop
