import HeadlessDesktop.Loop.Controller

/-! What can happen at one step of the loop, whichever call takes it. A run starts, waits,
stops and returns; a quit takes its turn; all else leaves the loop alone. -/
namespace HeadlessDesktop.Loop

def Event.isOfWait : Event → Bool
  | .watching | .passed | .gaveUp => true
  | _ => false

def Call.isNew : Call → Bool
  | .run .entering | .quit .entering | .wait .entering | .timed (.waiting .entering) => true
  | _ => false

/-- Calls that only wait: no run, and no quit that has taken its turn or has only that to
take. -/
def Call.isPatient : Call → Bool
  | .wait _ => true
  | .timed (.returned _) => false
  | .timed _ => true
  | .run _ | .quit _ => false

namespace Controller

def start (controller : Controller) : Controller :=
  { controller with
    running := true
    done := some controller.fresh
    finished := some (controller.fresh + 1)
    fresh := controller.fresh + 2 }.release (some controller.started)

def clear (controller : Controller) (finished : Latch) : Controller :=
  if controller.finished = some finished then { controller with finished := none }
  else controller

end Controller

theorem turnQuit_of_idle {controller : Controller} (hidle : controller.running = false) :
    turnQuit controller = controller := by
  unfold turnQuit
  rw [hidle]
  rfl

inductive CallStep (controller : Controller) : Call → List Event → Controller → Call → Prop
  | refuse (hrunning : controller.running = true) :
    CallStep controller (.run .entering) [.refused] controller (.run .refused)
  | queue {previous : Latch} (hidle : controller.running = false)
    (htaken : controller.finished = some previous) :
    CallStep controller (.run .entering) [] controller (.run (.behind previous))
  | start (hidle : controller.running = false) (hfree : controller.finished = none) :
    CallStep controller (.run .entering) [.start] controller.start
      (.run (.blocked controller.fresh (controller.fresh + 1)))
  | retry {previous : Latch} (hover : controller.isReleased previous = true) :
    CallStep controller (.run (.behind previous)) [] controller (.run .entering)
  | wake {done finished : Latch} (htold : controller.isReleased done = true) :
    CallStep controller (.run (.blocked done finished)) [] controller (.run (.woken finished))
  | stop {finished : Latch} :
    CallStep controller (.run (.woken finished)) [.stop] controller (.run (.stopped finished))
  | clear {finished : Latch} :
    CallStep controller (.run (.stopped finished)) [] (controller.clear finished)
      (.run (.cleared finished))
  | finish {finished : Latch} :
    CallStep controller (.run (.cleared finished)) [.finished]
      (controller.release (some finished)) (.run .returned)
  | quit :
    CallStep controller (.quit .entering) [.quit controller.running] (turnQuit controller)
      (.quit (.returned controller.running))
  | timedQuit :
    CallStep controller (.timed .due) [.quit controller.running] (turnQuit controller)
      (.timed (.returned controller.running))
  | aside {call later : Call} {events : List Event} (hcall : call.isPatient = true)
    (hlater : later.isPatient = true) (hevents : ∀ event ∈ events, event.isOfWait = true) :
    CallStep controller call events controller later

theorem callStep_of_enterRun {controller after : Controller} {point : RunPoint}
    {events : List Event} (h : enterRun controller = (after, point, events)) :
    CallStep controller (.run .entering) events after (.run point) := by
  unfold enterRun at h
  split at h
  · rename_i hrunning
    cases h
    exact .refuse hrunning
  · rename_i hrunning
    have hidle := eq_false_of_ne_true hrunning
    split at h
    · rename_i previous htaken
      cases h
      exact .queue hidle htaken
    · rename_i hfree
      cases h
      exact .start hidle hfree

theorem callStep_of_stepRun {controller after : Controller} {point later : RunPoint}
    {events : List Event} (h : stepRun controller point = some (after, later, events)) :
    CallStep controller (.run point) events after (.run later) := by
  cases point with
  | entering => exact callStep_of_enterRun (Option.some.inj h)
  | behind previous =>
    simp only [stepRun, Option.ite_none_right_eq_some] at h
    cases h.2
    exact .retry h.1
  | blocked done finished =>
    simp only [stepRun, Option.ite_none_right_eq_some] at h
    cases h.2
    exact .wake h.1
  | woken finished => cases h; exact .stop
  | stopped finished => cases h; exact .clear
  | cleared finished => cases h; exact .finish
  | returned => cases h
  | refused => cases h

theorem stepWait_isOfWait {controller : Controller} {point later : WaitPoint}
    {events : List Event} (h : stepWait controller point = some (later, events)) :
    ∀ event ∈ events, event.isOfWait = true := by
  unfold stepWait at h
  split at h <;> grind [Event.isOfWait]

theorem callStep_of_stepTimed {controller after : Controller} {point later : TimedPoint}
    {events : List Event} (h : stepTimed controller point = some (after, later, events)) :
    CallStep controller (.timed point) events after (.timed later) := by
  unfold stepTimed at h
  split at h
  · cases h
    exact .aside rfl rfl (by simp)
  · cases h
    exact .aside rfl rfl (by simp)
  · obtain ⟨⟨wait, seen⟩, hwait, h⟩ := Option.map_eq_some_iff.mp h
    cases h
    exact .aside rfl rfl (stepWait_isOfWait hwait)
  · cases h
    exact .aside rfl rfl (by simp)
  · cases h
    exact .timedQuit
  · cases h
  · cases h

theorem callStep_of_stepCall {controller after : Controller} {call later : Call}
    {events : List Event} (h : stepCall controller call = some (after, later, events)) :
    CallStep controller call events after later := by
  cases call with
  | run point =>
    obtain ⟨⟨after, later, events⟩, hstep, h⟩ := Option.map_eq_some_iff.mp h
    cases h
    exact callStep_of_stepRun hstep
  | quit point =>
    cases point with
    | entering => cases h; exact .quit
    | returned sawRunning => cases h
  | wait point =>
    obtain ⟨⟨later, events⟩, hstep, h⟩ := Option.map_eq_some_iff.mp h
    cases h
    exact .aside rfl rfl (stepWait_isOfWait hstep)
  | timed point =>
    obtain ⟨⟨after, later, events⟩, hstep, h⟩ := Option.map_eq_some_iff.mp h
    cases h
    exact callStep_of_stepTimed hstep

theorem callStep_of_cancelCall (controller : Controller) {call later : Call}
    {events : List Event} (h : cancelCall call = some (later, events)) :
    CallStep controller call events controller later := by
  unfold cancelCall at h
  split at h
  all_goals cases h
  all_goals exact .aside rfl rfl (by simp [Event.isOfWait])

namespace System

def move (system : System) (number : Nat) (events : List Event) (controller : Controller)
    (later : Call) : System where
  controller := controller
  calls := system.calls.set number later
  history := system.history ++ events.map (number, ·)

theorem act?_cases {system next : System} {action : Action}
    (h : system.act? action = some next) :
    (∃ call, call.isNew = true ∧ next = system.add call) ∨
    ∃ number call events controller later, system.calls[number]? = some call ∧
      CallStep system.controller call events controller later ∧
      next = system.move number events controller later := by
  cases action with
  | run => exact Or.inl ⟨_, rfl, (Option.some.inj h).symm⟩
  | quit => exact Or.inl ⟨_, rfl, (Option.some.inj h).symm⟩
  | wait => exact Or.inl ⟨_, rfl, (Option.some.inj h).symm⟩
  | timed => exact Or.inl ⟨_, rfl, (Option.some.inj h).symm⟩
  | step number =>
    obtain ⟨call, hcall, h⟩ := Option.bind_eq_some_iff.mp h
    obtain ⟨⟨controller, later, events⟩, hstep, h⟩ := Option.bind_eq_some_iff.mp h
    exact Or.inr ⟨number, call, events, controller, later, hcall, callStep_of_stepCall hstep,
      (Option.some.inj h).symm⟩
  | cancel number =>
    obtain ⟨call, hcall, h⟩ := Option.bind_eq_some_iff.mp h
    obtain ⟨⟨later, events⟩, hstep, h⟩ := Option.bind_eq_some_iff.mp h
    exact Or.inr ⟨number, call, events, system.controller, later, hcall,
      callStep_of_cancelCall _ hstep, (Option.some.inj h).symm⟩

theorem calls_move {system : System} {number : Nat} {call : Call}
    (hcall : system.calls[number]? = some call) (events : List Event) (controller : Controller)
    (later : Call) (other : Nat) :
    (system.move number events controller later).calls[other]? =
      if other = number then some later else system.calls[other]? := by
  change (system.calls.set number later)[other]? = _
  by_cases heq : other = number
  · rw [if_pos heq, heq, List.getElem?_set_self (List.getElem?_eq_some_iff.mp hcall).1]
  · rw [if_neg heq, List.getElem?_set_ne (Ne.symm heq)]

theorem calls_add (system : System) (call : Call) (other : Nat) :
    (system.add call).calls[other]? =
      if other = system.calls.length then some call else system.calls[other]? := by
  change (system.calls ++ [call])[other]? = _
  by_cases heq : other = system.calls.length
  · rw [if_pos heq, heq, List.getElem?_concat_length]
  · rw [if_neg heq, List.getElem?_append]
    split
    · rfl
    · rw [List.getElem?_eq_none (by simp; omega), List.getElem?_eq_none (by omega)]

theorem act?_calls {system next : System} {action : Action} {number : Nat} {call : Call}
    (hact : system.act? action = some next) (hcall : next.calls[number]? = some call) :
    call.isNew = true ∨ system.calls[number]? = some call ∨
      (action = .step number ∧ ∃ earlier controller events, system.calls[number]? = some earlier ∧
        stepCall system.controller earlier = some (controller, call, events)) ∨
      (action = .cancel number ∧ ∃ earlier events, system.calls[number]? = some earlier ∧
        cancelCall earlier = some (call, events)) := by
  have hadd (made : Call) (hnew : made.isNew = true)
      (h : (system.add made).calls[number]? = some call) :
      call.isNew = true ∨ system.calls[number]? = some call := by
    rw [calls_add] at h
    split at h
    · cases h
      exact Or.inl hnew
    · exact Or.inr h
  cases action with
  | run =>
    cases hact
    exact (hadd _ rfl hcall).imp_right Or.inl
  | quit =>
    cases hact
    exact (hadd _ rfl hcall).imp_right Or.inl
  | wait =>
    cases hact
    exact (hadd _ rfl hcall).imp_right Or.inl
  | timed =>
    cases hact
    exact (hadd _ rfl hcall).imp_right Or.inl
  | step moved =>
    obtain ⟨earlier, hearlier, hact⟩ := Option.bind_eq_some_iff.mp hact
    obtain ⟨⟨controller, later, events⟩, hstep, hact⟩ := Option.bind_eq_some_iff.mp hact
    cases hact
    change (system.move moved events controller later).calls[number]? = _ at hcall
    rw [calls_move hearlier] at hcall
    split at hcall
    · rename_i heq
      cases hcall
      subst heq
      exact Or.inr (Or.inr (Or.inl ⟨rfl, earlier, controller, events, hearlier, hstep⟩))
    · exact Or.inr (Or.inl hcall)
  | cancel moved =>
    obtain ⟨earlier, hearlier, hact⟩ := Option.bind_eq_some_iff.mp hact
    obtain ⟨⟨later, events⟩, hcancel, hact⟩ := Option.bind_eq_some_iff.mp hact
    cases hact
    change (system.move moved events system.controller later).calls[number]? = _ at hcall
    rw [calls_move hearlier] at hcall
    split at hcall
    · rename_i heq
      cases hcall
      subst heq
      exact Or.inr (Or.inr (Or.inr ⟨rfl, earlier, events, hearlier, hcancel⟩))
    · exact Or.inr (Or.inl hcall)

def follow? (system : System) : List Action → Option System
  | [] => some system
  | action :: rest => (system.act? action).bind fun next => next.follow? rest

theorem Reachable.follow? {system last : System} (reachable : system.Reachable)
    (actions : List Action) (h : system.follow? actions = some last) : last.Reachable := by
  induction actions generalizing system with
  | nil => exact Option.some.inj h ▸ reachable
  | cons action rest ih =>
    obtain ⟨next, hact, hrest⟩ := Option.bind_eq_some_iff.mp h
    exact ih (reachable.act action hact) hrest

/-- A quit that comes too early, a run and the quit that ends it, a run that goes behind the
first and a quit that comes too late; then the second run starts and a third is refused. -/
def restarted : System where
  controller :=
    { running := true
      done := some 4
      started := 3
      finished := some 5
      fresh := 6
      released := [3, 2, 1, 0] }
  calls :=
    [.quit (.returned false), .run .returned, .quit (.returned true), .run (.blocked 4 5),
      .quit (.returned false), .run .refused]
  history :=
    [(0, .quit false), (1, .start), (2, .quit true), (4, .quit false), (1, .stop),
      (1, .finished), (3, .start), (5, .refused)]

theorem restarted_reachable : restarted.Reachable :=
  Reachable.initial.follow?
    [.quit, .step 0, .run, .step 1, .quit, .step 2, .step 1, .run, .step 3, .quit, .step 4,
      .step 1, .step 1, .step 1, .step 3, .step 3, .run, .step 5] rfl

end System

end HeadlessDesktop.Loop
