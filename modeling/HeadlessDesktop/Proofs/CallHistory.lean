import HeadlessDesktop.Proofs.LoopSteps

/-! What a call has told follows from where it stands. The history of all calls is so much
the interleaving of what each of them tells, and no call tells a thing twice. -/
namespace HeadlessDesktop.Loop

/-- What a call has told on its way, apart from its waiting. -/
def Call.told : Call → List Event
  | .run (.blocked _ _) | .run (.woken _) => [.start]
  | .run (.stopped _) | .run (.cleared _) => [.start, .stop]
  | .run .returned => [.start, .stop, .finished]
  | .run .refused => [.refused]
  | .quit (.returned sawRunning) | .timed (.returned sawRunning) => [.quit sawRunning]
  | _ => []

def Call.sawRunning : Call → Bool
  | .quit (.returned sawRunning) | .timed (.returned sawRunning) => sawRunning
  | _ => false

def Call.sawIdle : Call → Bool
  | .quit (.returned sawRunning) | .timed (.returned sawRunning) => !sawRunning
  | _ => false

namespace Call

theorem told_of_isNew {call : Call} (h : call.isNew = true) : call.told = [] := by
  unfold isNew at h
  split at h
  all_goals first | rfl | contradiction

theorem told_of_isPatient {call : Call} (h : call.isPatient = true) : call.told = [] := by
  unfold isPatient at h
  split at h
  · rfl
  · contradiction
  · unfold told
    split
    all_goals first | rfl | simp_all
  · contradiction
  · contradiction

theorem nodup_told (call : Call) : call.told.Nodup := by
  unfold told
  split
  all_goals simp

theorem quit_true_mem_told (call : Call) :
    Event.quit true ∈ call.told ↔ call.sawRunning = true := by
  unfold told sawRunning
  split
  all_goals simp

theorem isNew_of_sawIdle {call : Call} (h : call.sawIdle = true) : call.isNew = false := by
  unfold sawIdle at h
  split at h
  · rfl
  · rfl
  · contradiction

theorem isPatient_of_sawIdle {call : Call} (h : call.sawIdle = true) :
    call.isPatient = false := by
  unfold sawIdle at h
  split at h
  · rfl
  · rfl
  · contradiction

theorem sawRunning_of_sawIdle {call : Call} (h : call.sawIdle = true) :
    call.sawRunning = false := by
  unfold sawIdle at h
  split at h
  · exact Bool.not_eq_true' _ |>.mp h
  · exact Bool.not_eq_true' _ |>.mp h
  · contradiction

theorem told_of_callStep {controller after : Controller} {call later : Call}
    {events : List Event} (hstep : CallStep controller call events after later) :
    later.told = call.told ++ events.filter (!·.isOfWait) := by
  cases hstep with
  | refuse => rfl
  | queue => rfl
  | start => rfl
  | retry => rfl
  | wake => rfl
  | stop => rfl
  | clear => rfl
  | finish => rfl
  | quit => rfl
  | timedQuit => rfl
  | aside hcall hlater hevents =>
    have hnone : events.filter (!·.isOfWait) = [] :=
      List.filter_eq_nil_iff.mpr fun event h => by simp [hevents event h]
    rw [told_of_isPatient hcall, told_of_isPatient hlater, hnone]
    rfl

end Call

namespace System

def toldBy (system : System) (number : Nat) : List Event :=
  (system.history.filter fun entry => entry.1 = number ∧ entry.2.isOfWait = false).map Prod.snd

theorem toldBy_move (system : System) (number : Nat) (events : List Event)
    (controller : Controller) (later : Call) (other : Nat) :
    (system.move number events controller later).toldBy other =
      system.toldBy other ++ if other = number then events.filter (!·.isOfWait) else [] := by
  unfold toldBy move
  rw [List.filter_append, List.map_append]
  congr 1
  rw [List.filter_map, List.map_map]
  by_cases heq : other = number
  · rw [if_pos heq]
    simp [Function.comp_def, heq]
  · rw [if_neg heq]
    simp [Function.comp_def, Ne.symm heq]

theorem Reachable.toldBy_eq {system : System} (reachable : system.Reachable) (number : Nat) :
    system.toldBy number = (system.calls[number]?.map Call.told).getD [] := by
  induction reachable with
  | initial => rfl
  | @act system next action _ hact ih =>
    obtain ⟨call, hnew, rfl⟩ | ⟨moved, call, events, controller, later, hcall, hstep, rfl⟩ :=
      act?_cases hact
    · change system.toldBy number = _
      rw [ih, calls_add]
      split
      · rename_i heq
        rw [heq, List.getElem?_eq_none (Nat.le_refl _)]
        exact (Call.told_of_isNew hnew).symm
      · rfl
    · rw [toldBy_move, ih, calls_move hcall]
      split
      · rename_i heq
        rw [heq, hcall]
        exact (Call.told_of_callStep hstep).symm
      · rw [List.append_nil]

theorem Reachable.mem_history_iff {system : System} (reachable : system.Reachable)
    {number : Nat} {event : Event} (hevent : event.isOfWait = false) :
    (number, event) ∈ system.history ↔
      ∃ call, system.calls[number]? = some call ∧ event ∈ call.told := by
  have htold : event ∈ system.toldBy number ↔ (number, event) ∈ system.history := by
    simp [toldBy, hevent]
  rw [← htold, reachable.toldBy_eq]
  cases system.calls[number]? with
  | none => simp
  | some call => simp

theorem Reachable.count_history {system : System} (reachable : system.Reachable)
    {event : Event} (hevent : event.isOfWait = false) :
    (system.history.map Prod.snd).count event =
      system.calls.countP fun call => decide (event ∈ call.told) := by
  induction reachable with
  | initial => rfl
  | @act system next action _ hact ih =>
    obtain ⟨call, hnew, rfl⟩ | ⟨number, call, events, controller, later, hcall, hstep, rfl⟩ :=
      act?_cases hact
    · change _ = (system.calls ++ [call]).countP _
      rw [List.countP_append, ← ih]
      simp [Call.told_of_isNew hnew, add]
    · obtain ⟨hnumber, hget⟩ := List.getElem?_eq_some_iff.mp hcall
      have hcount : later.told.count event = call.told.count event + events.count event := by
        rw [Call.told_of_callStep hstep, List.count_append, List.count_filter (by simp [hevent])]
      rw [call.nodup_told.count, later.nodup_told.count] at hcount
      have hbefore := List.boole_getElem_le_countP (p := fun call => decide (event ∈ call.told))
        hnumber
      simp only [hget, decide_eq_true_eq] at hbefore
      simp only [move, List.map_append, List.map_map, List.count_append, Function.comp_def,
        List.map_id', List.countP_set hnumber, hget, decide_eq_true_eq]
      omega

end System

end HeadlessDesktop.Loop
