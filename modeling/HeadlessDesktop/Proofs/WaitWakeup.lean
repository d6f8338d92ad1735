import HeadlessDesktop.Proofs.LatchSafety
import Mathlib.Data.List.Induction

/-! Waits for the loop to run. A wait that comes back without giving up has the loop running
at some moment since it looked, and no start is missed: the latch at which a wait stands is
released by the next start and stays so, whatever quits and starts follow. -/
namespace HeadlessDesktop.Loop

/-- Where a wait stands, be it a call of its own or the first part of a timed quit. -/
def Call.waitPoint? : Call → Option WaitPoint
  | .wait point | .timed (.waiting point) => some point
  | _ => none

def Controller.IsAwaited (controller : Controller) (latch : Latch) : Prop :=
  controller.running = false ∧ controller.started = latch

inductive WaitStep (controller : Controller) : WaitPoint → WaitPoint → Prop
  | find (hrunning : controller.running = true) : WaitStep controller .entering .passed
  | watch (hidle : controller.running = false) :
    WaitStep controller .entering (.watching controller.started)
  | wake {started : Latch} (hreleased : started ∈ controller.released) :
    WaitStep controller (.watching started) .passed

namespace Controller

theorem subset_release (controller : Controller) (latch : Option Latch) :
    controller.released ⊆ (controller.release latch).released := by
  unfold release
  split
  · split
    · exact List.Subset.refl _
    · exact List.subset_cons_self _ _
  · exact List.Subset.refl _

theorem mem_release (controller : Controller) (latch : Latch) :
    latch ∈ (controller.release (some latch)).released := by
  unfold release
  dsimp only
  split
  · rename_i hreleased
    exact List.contains_iff_mem.mp hreleased
  · exact List.mem_cons_self

theorem subset_turnQuit (controller : Controller) :
    controller.released ⊆ (turnQuit controller).released := by
  unfold turnQuit
  split
  · exact { controller with running := false }.subset_release controller.done
  · exact List.Subset.refl _

end Controller

namespace CallStep

variable {controller after : Controller} {call later : Call} {events : List Event}

theorem released_subset (hstep : CallStep controller call events after later) :
    controller.released ⊆ after.released := by
  cases hstep with
  | refuse => exact List.Subset.refl _
  | queue => exact List.Subset.refl _
  | start =>
    exact Controller.subset_release
      { controller with
        running := true
        done := some controller.fresh
        finished := some (controller.fresh + 1)
        fresh := controller.fresh + 2 } (some controller.started)
  | retry => exact List.Subset.refl _
  | wake => exact List.Subset.refl _
  | stop => exact List.Subset.refl _
  | @clear finished =>
    unfold Controller.clear
    split
    · exact List.Subset.refl _
    · exact List.Subset.refl _
  | finish => exact Controller.subset_release _ _
  | quit => exact controller.subset_turnQuit
  | timedQuit => exact controller.subset_turnQuit
  | aside => exact List.Subset.refl _

theorem isAwaited (hstep : CallStep controller call events after later) {latch : Latch}
    (h : controller.IsAwaited latch) :
    (after.running = true ∧ latch ∈ after.released) ∨
      (after.IsAwaited latch ∧ Event.start ∉ events) := by
  obtain ⟨hidle, rfl⟩ := h
  cases hstep with
  | refuse => exact Or.inr ⟨⟨hidle, rfl⟩, by simp⟩
  | queue => exact Or.inr ⟨⟨hidle, rfl⟩, by simp⟩
  | start =>
    obtain ⟨released, misused, hstart, -⟩ := controller.start_eq
    have hmem : controller.started ∈ controller.start.released := Controller.mem_release _ _
    have hrunning : controller.start.running = true := by rw [hstart]
    exact Or.inl ⟨hrunning, hmem⟩
  | retry => exact Or.inr ⟨⟨hidle, rfl⟩, by simp⟩
  | wake => exact Or.inr ⟨⟨hidle, rfl⟩, by simp⟩
  | stop => exact Or.inr ⟨⟨hidle, rfl⟩, by simp⟩
  | @clear finished =>
    refine Or.inr ⟨?_, by simp⟩
    unfold Controller.clear
    split
    · exact ⟨hidle, rfl⟩
    · exact ⟨hidle, rfl⟩
  | @finish finished =>
    obtain ⟨released, misused, hrelease, -⟩ := controller.release_eq finished
    refine Or.inr ⟨?_, by simp⟩
    rw [hrelease]
    exact ⟨hidle, rfl⟩
  | quit =>
    rw [turnQuit_of_idle hidle]
    exact Or.inr ⟨⟨hidle, rfl⟩, by simp⟩
  | timedQuit =>
    rw [turnQuit_of_idle hidle]
    exact Or.inr ⟨⟨hidle, rfl⟩, by simp⟩
  | aside _ _ hevents =>
    refine Or.inr ⟨⟨hidle, rfl⟩, ?_⟩
    intro hstart
    exact absurd (hevents _ hstart) (by decide)

end CallStep

theorem waitStep_of_stepWait {controller : Controller} {point later : WaitPoint}
    {events : List Event} (h : stepWait controller point = some (later, events)) :
    WaitStep controller point later := by
  cases point with
  | entering =>
    simp only [stepWait] at h
    split at h
    · rename_i hrunning
      cases h
      exact .find hrunning
    · rename_i hidle
      cases h
      exact .watch (eq_false_of_ne_true hidle)
  | watching started =>
    simp only [stepWait, Option.ite_none_right_eq_some] at h
    cases h.2
    exact .wake (List.contains_iff_mem.mp h.1)
  | passed => cases h
  | gaveUp => cases h

theorem waitStep_of_stepCall {controller after : Controller} {call later : Call}
    {events : List Event} {point : WaitPoint}
    (hstep : stepCall controller call = some (after, later, events))
    (hlater : later.waitPoint? = some point) :
    ∃ earlier, call.waitPoint? = some earlier ∧ WaitStep controller earlier point := by
  cases call with
  | run standing =>
    obtain ⟨⟨after, later, events⟩, -, h⟩ := Option.map_eq_some_iff.mp hstep
    cases h
    cases hlater
  | quit standing =>
    obtain ⟨⟨after, later, events⟩, -, h⟩ := Option.map_eq_some_iff.mp hstep
    cases h
    cases hlater
  | wait standing =>
    obtain ⟨⟨later, events⟩, hwait, h⟩ := Option.map_eq_some_iff.mp hstep
    cases h
    cases hlater
    exact ⟨standing, rfl, waitStep_of_stepWait hwait⟩
  | timed standing =>
    obtain ⟨⟨after, later, events⟩, htimed, h⟩ := Option.map_eq_some_iff.mp hstep
    cases h
    unfold stepTimed at htimed
    split at htimed
    · cases htimed
      cases hlater
    · cases htimed
      cases hlater
    · obtain ⟨⟨wait, seen⟩, hwait, h⟩ := Option.map_eq_some_iff.mp htimed
      cases h
      cases hlater
      exact ⟨_, rfl, waitStep_of_stepWait hwait⟩
    · cases htimed
      cases hlater
    · cases htimed
      cases hlater
    · cases htimed
    · cases htimed

namespace System

def waitPoint? (system : System) (number : Nat) : Option WaitPoint :=
  system.calls[number]?.bind Call.waitPoint?

theorem act?_waitPoint? {system next : System} {action : Action} {number : Nat}
    {point : WaitPoint} (hact : system.act? action = some next)
    (hpoint : next.waitPoint? number = some point) :
    point = .entering ∨ point = .gaveUp ∨ system.waitPoint? number = some point ∨
      action = .step number ∧ ∃ earlier, system.waitPoint? number = some earlier ∧
        WaitStep system.controller earlier point := by
  obtain ⟨call, hcall, hpoint⟩ := Option.bind_eq_some_iff.mp hpoint
  have hthere {standing : Call} {standsAt : WaitPoint} (h : system.calls[number]? = some standing)
      (hstanding : standing.waitPoint? = some standsAt) :
      system.waitPoint? number = some standsAt := by
    unfold waitPoint?
    rw [h]
    exact hstanding
  rcases act?_calls hact hcall with hnew | hstood |
    ⟨hstepped, earlier, controller, events, hearlier, hstep⟩ | ⟨-, earlier, events, -, hcancel⟩
  · refine Or.inl ?_
    unfold Call.isNew at hnew
    split at hnew
    all_goals cases hnew
    all_goals cases hpoint
    all_goals rfl
  · exact Or.inr (Or.inr (Or.inl (hthere hstood hpoint)))
  · obtain ⟨before, hbefore, hwait⟩ := waitStep_of_stepCall hstep hpoint
    exact Or.inr (Or.inr (Or.inr ⟨hstepped, before, hthere hearlier hbefore, hwait⟩))
  · refine Or.inr (Or.inl ?_)
    unfold cancelCall at hcancel
    split at hcancel
    all_goals cases hcancel
    all_goals cases hpoint
    all_goals rfl

theorem act?_released {system next : System} {action : Action}
    (hact : system.act? action = some next) :
    system.controller.released ⊆ next.controller.released := by
  obtain ⟨call, -, rfl⟩ | ⟨number, call, events, controller, later, -, hstep, rfl⟩ :=
    act?_cases hact
  · exact List.Subset.refl _
  · exact hstep.released_subset

theorem act?_isAwaited {system next : System} {action : Action} {latch : Latch}
    (hact : system.act? action = some next) (h : system.controller.IsAwaited latch) :
    (next.controller.running = true ∧ latch ∈ next.controller.released) ∨
      (next.controller.IsAwaited latch ∧
        ∀ run, (run, .start) ∈ next.history → (run, .start) ∈ system.history) := by
  obtain ⟨call, -, rfl⟩ | ⟨number, call, events, controller, later, -, hstep, rfl⟩ :=
    act?_cases hact
  · exact Or.inr ⟨h, fun run hrun => hrun⟩
  · refine (hstep.isAwaited h).imp_right fun ⟨hawaited, hstart⟩ => ⟨hawaited, ?_⟩
    intro run hrun
    rcases List.mem_append.mp hrun with hrun | hrun
    · exact hrun
    · obtain ⟨event, hevent, heq⟩ := List.mem_map.mp hrun
      cases heq
      exact absurd hevent hstart

theorem follow?_released {system later : System} (actions : List Action)
    (hactions : system.follow? actions = some later) :
    system.controller.released ⊆ later.controller.released := by
  induction actions generalizing system with
  | nil =>
    cases hactions
    exact List.Subset.refl _
  | cons action rest ih =>
    obtain ⟨next, hact, hrest⟩ := Option.bind_eq_some_iff.mp hactions
    exact List.Subset.trans (act?_released hact) (ih hrest)

theorem follow?_isAwaited {system later : System} {latch : Latch} (actions : List Action)
    (hactions : system.follow? actions = some later) (h : system.controller.IsAwaited latch) :
    latch ∈ later.controller.released ∨
      ∀ run, (run, .start) ∈ later.history → (run, .start) ∈ system.history := by
  induction actions generalizing system with
  | nil =>
    cases hactions
    exact Or.inr fun run hrun => hrun
  | cons action rest ih =>
    obtain ⟨next, hact, hrest⟩ := Option.bind_eq_some_iff.mp hactions
    rcases act?_isAwaited hact h with ⟨-, hreleased⟩ | ⟨hawaited, hstarts⟩
    · exact Or.inl (follow?_released rest hrest hreleased)
    · exact (ih hrest hawaited).imp_right fun hlater run hrun => hstarts run (hlater run hrun)

theorem follow?_append (system : System) (actions more : List Action) :
    system.follow? (actions ++ more) = (system.follow? actions).bind (·.follow? more) := by
  induction actions generalizing system with
  | nil => rfl
  | cons action rest ih =>
    simp only [List.cons_append, follow?, Option.bind_assoc]
    congr 1
    funext next
    exact ih next

theorem follow?_concat {system last : System} {actions : List Action} {action : Action} :
    system.follow? (actions ++ [action]) = some last ↔
      ∃ before, system.follow? actions = some before ∧ before.act? action = some last := by
  rw [follow?_append, Option.bind_eq_some_iff]
  simp [follow?]

theorem Reachable.watched {system : System} (reachable : system.Reachable) {number : Nat}
    {latch : Latch} (hpoint : system.waitPoint? number = some (.watching latch)) :
    latch ∈ system.controller.released ∨ system.controller.IsAwaited latch := by
  induction reachable with
  | initial => cases hpoint
  | @act system next action reachable hact ih =>
    have hbefore : latch ∈ system.controller.released ∨ system.controller.IsAwaited latch := by
      rcases act?_waitPoint? hact hpoint with h | h | hstood | ⟨-, earlier, -, hwait⟩
      · cases h
      · cases h
      · exact ih hstood
      · cases hwait with
        | watch hidle => exact Or.inr ⟨hidle, rfl⟩
    rcases hbefore with hreleased | hawaited
    · exact Or.inl (act?_released hact hreleased)
    · exact (act?_isAwaited hact hawaited).imp And.right And.left

theorem Reachable.not_mem_released {system : System} (reachable : system.Reachable)
    {latch : Latch} (h : system.controller.IsAwaited latch) :
    latch ∉ system.controller.released := by
  obtain ⟨hidle, rfl⟩ := h
  rw [reachable.latched.started_iff, hidle]
  simp

def after? (actions : List Action) (count : Nat) : Option System :=
  ({} : System).follow? (actions.take count)

def LooksAt (actions : List Action) (number moment : Nat) : Prop :=
  actions[moment]? = some (.step number) ∧
    ∃ system, after? actions moment = some system ∧ system.waitPoint? number = some .entering

def RunsAt (actions : List Action) (moment : Nat) : Prop :=
  ∃ system, after? actions moment = some system ∧ system.controller.running = true

def PassesAt (actions : List Action) (number moment : Nat) : Prop :=
  actions[moment]? = some (.step number) ∧
    ∃ before after, after? actions moment = some before ∧
      before.waitPoint? number ≠ some .passed ∧
      after? actions (moment + 1) = some after ∧ after.waitPoint? number = some .passed

section Moments

variable {actions : List Action} {number moment : Nat}

theorem after?_append (more : List Action) (hmoment : moment ≤ actions.length) :
    after? (actions ++ more) moment = after? actions moment := by
  unfold after?
  rw [List.take_append_of_le_length hmoment]

theorem after?_length : after? actions actions.length = ({} : System).follow? actions := by
  unfold after?
  rw [List.take_length]

theorem after?_concat (action : Action) :
    after? (actions ++ [action]) (actions.length + 1) =
      ({} : System).follow? (actions ++ [action]) := by
  unfold after?
  rw [List.take_of_length_le (by simp)]

theorem LooksAt.lt_length (h : LooksAt actions number moment) : moment < actions.length :=
  (List.getElem?_eq_some_iff.mp h.1).1

theorem LooksAt.append (more : List Action) (h : LooksAt actions number moment) :
    LooksAt (actions ++ more) number moment := by
  have hlt := h.lt_length
  unfold LooksAt
  rw [List.getElem?_append_left hlt, after?_append more (Nat.le_of_lt hlt)]
  exact h

theorem RunsAt.append (more : List Action) (hmoment : moment ≤ actions.length)
    (h : RunsAt actions moment) : RunsAt (actions ++ more) moment := by
  unfold RunsAt
  rw [after?_append more hmoment]
  exact h

theorem PassesAt.append (more : List Action) (h : PassesAt actions number moment) :
    PassesAt (actions ++ more) number moment := by
  have hlt : moment < actions.length := (List.getElem?_eq_some_iff.mp h.1).1
  unfold PassesAt
  rw [List.getElem?_append_left hlt, after?_append more (Nat.le_of_lt hlt),
    after?_append more hlt]
  exact h

end Moments

/-- A wait that watches has looked, and the loop has run since or the latch is awaited. -/
def WatchedSince (actions : List Action) (system : System) (number : Nat) (latch : Latch) :
    Prop :=
  ∃ look, LooksAt actions number look ∧
    (system.controller.IsAwaited latch ∨
      ∃ moment, look ≤ moment ∧ moment ≤ actions.length ∧ RunsAt actions moment)

/-- A wait has come back, and the loop ran at some moment since it looked. -/
def PassedWhileRunning (actions : List Action) (number : Nat) : Prop :=
  ∃ look moment back, look ≤ moment ∧ moment ≤ back ∧ LooksAt actions number look ∧
    RunsAt actions moment ∧ PassesAt actions number back

theorem PassedWhileRunning.append {actions : List Action} {number : Nat} (more : List Action)
    (h : PassedWhileRunning actions number) : PassedWhileRunning (actions ++ more) number := by
  obtain ⟨look, moment, back, hlook, hback, hlooks, hruns, hpasses⟩ := h
  have hlt : back < actions.length := (List.getElem?_eq_some_iff.mp hpasses.1).1
  exact ⟨look, moment, back, hlook, hback, hlooks.append more,
    hruns.append more (Nat.le_trans hback (Nat.le_of_lt hlt)), hpasses.append more⟩

section Act

variable {actions : List Action} {action : Action} {system next : System} {number : Nat}

theorem WatchedSince.act {latch : Latch}
    (hactions : ({} : System).follow? (actions ++ [action]) = some next)
    (hact : system.act? action = some next)
    (h : WatchedSince actions system number latch) :
    WatchedSince (actions ++ [action]) next number latch := by
  obtain ⟨look, hlook, hsince⟩ := h
  refine ⟨look, hlook.append [action], ?_⟩
  rcases hsince with hawaited | ⟨moment, hmoment, hle, hruns⟩
  · rcases act?_isAwaited hact hawaited with ⟨hrunning, -⟩ | ⟨hawaited, -⟩
    · refine Or.inr ⟨actions.length + 1, ?_, by simp, next, ?_, hrunning⟩
      · exact Nat.le_succ_of_le (Nat.le_of_lt hlook.lt_length)
      · rw [after?_concat, hactions]
    · exact Or.inl hawaited
  · exact Or.inr ⟨moment, hmoment, by simp; omega, hruns.append [action] hle⟩

theorem WatchedSince.watch (hbefore : ({} : System).follow? actions = some system)
    (hactions : ({} : System).follow? (actions ++ [.step number]) = some next)
    (hact : system.act? (.step number) = some next)
    (hpoint : system.waitPoint? number = some .entering)
    (hidle : system.controller.running = false) :
    WatchedSince (actions ++ [.step number]) next number system.controller.started := by
  have hlook : LooksAt (actions ++ [.step number]) number actions.length := by
    refine ⟨by simp, system, ?_, hpoint⟩
    rw [after?_append _ (Nat.le_refl _), after?_length, hbefore]
  refine ⟨actions.length, hlook, ?_⟩
  rcases act?_isAwaited hact ⟨hidle, rfl⟩ with ⟨hrunning, -⟩ | ⟨hawaited, -⟩
  · exact Or.inr ⟨actions.length + 1, Nat.le_succ _, by simp, next,
      by rw [after?_concat, hactions], hrunning⟩
  · exact Or.inl hawaited

theorem passesAt_concat (hbefore : ({} : System).follow? actions = some system)
    (hactions : ({} : System).follow? (actions ++ [.step number]) = some next)
    (hpoint : system.waitPoint? number ≠ some .passed)
    (hpassed : next.waitPoint? number = some .passed) :
    PassesAt (actions ++ [.step number]) number actions.length := by
  refine ⟨by simp, system, next, ?_, hpoint, ?_, hpassed⟩
  · rw [after?_append _ (Nat.le_refl _), after?_length, hbefore]
  · rw [after?_concat, hactions]

end Act

/-- By induction on the actions, the last one split off: how a wait came to where it stands. -/
theorem waits_since (actions : List Action) {system : System}
    (hactions : ({} : System).follow? actions = some system) (number : Nat) :
    (∀ latch, system.waitPoint? number = some (.watching latch) →
      WatchedSince actions system number latch) ∧
    (system.waitPoint? number = some .passed → PassedWhileRunning actions number) := by
  induction actions using List.reverseRecOn generalizing system with
  | nil =>
    cases hactions
    exact ⟨nofun, nofun⟩
  | append_singleton actions action ih =>
    obtain ⟨before, hbefore, hact⟩ := follow?_concat.mp hactions
    obtain ⟨hwatching, hpassed⟩ := ih hbefore
    have reachable : before.Reachable := Reachable.initial.follow? actions hbefore
    constructor
    · intro latch hpoint
      rcases act?_waitPoint? hact hpoint with h | h | hstood | ⟨rfl, earlier, hearlier, hwait⟩
      · cases h
      · cases h
      · exact (hwatching latch hstood).act hactions hact
      · cases hwait with
        | watch hidle => exact .watch hbefore hactions hact hearlier hidle
    · intro hpoint
      rcases act?_waitPoint? hact hpoint with h | h | hstood | ⟨rfl, earlier, hearlier, hwait⟩
      · cases h
      · cases h
      · exact (hpassed hstood).append [action]
      · have hpasses := passesAt_concat hbefore hactions
          (by rw [hearlier]; cases hwait <;> simp) hpoint
        cases hwait with
        | find hrunning =>
          have hthere : after? (actions ++ [.step number]) actions.length = some before := by
            rw [after?_append _ (Nat.le_refl _), after?_length, hbefore]
          exact ⟨actions.length, actions.length, actions.length, Nat.le_refl _, Nat.le_refl _,
            ⟨by simp, before, hthere, hearlier⟩, ⟨before, hthere, hrunning⟩, hpasses⟩
        | @wake latch hreleased =>
          obtain ⟨look, hlook, hawaited | ⟨moment, hmoment, hle, hruns⟩⟩ :=
            hwatching latch hearlier
          · exact absurd hreleased (reachable.not_mem_released hawaited)
          · exact ⟨look, moment, actions.length, hmoment, hle, hlook.append _,
              hruns.append _ hle, hpasses⟩

theorem step?_of_watching {system : System} {number : Nat} {latch : Latch}
    (hpoint : system.waitPoint? number = some (.watching latch))
    (hreleased : system.controller.isReleased latch = true) :
    ∃ next, system.step? number = some next ∧ next.waitPoint? number = some .passed := by
  obtain ⟨call, hcall, hpoint⟩ := Option.bind_eq_some_iff.mp hpoint
  have hstep : ∃ later events, stepCall system.controller call =
      some (system.controller, later, events) ∧ later.waitPoint? = some .passed := by
    cases call with
    | run point => cases hpoint
    | quit point => cases hpoint
    | wait point =>
      cases hpoint
      exact ⟨.wait .passed, [.passed], by simp [stepCall, stepWait, hreleased], rfl⟩
    | timed point =>
      cases point with
      | waiting wait =>
        cases hpoint
        exact ⟨.timed (.waiting .passed), [.passed],
          by simp [stepCall, stepTimed, stepWait, hreleased], rfl⟩
      | counting => cases hpoint
      | due => cases hpoint
      | returned sawRunning => cases hpoint
      | cancelled => cases hpoint
  obtain ⟨later, events, hstep, hlater⟩ := hstep
  refine ⟨system.move number events system.controller later, ?_, ?_⟩
  · simp [step?, hcall, hstep, move]
  · unfold waitPoint?
    rw [calls_move hcall, if_pos rfl]
    exact hlater

/-- In every execution a wait passes only if the loop ran at some moment from its look to its
return; and a start after its look releases the latch it watches, for good, so that it can
pass whatever happened in between. -/
theorem waits_follow_starts (actions : List Action) {system : System}
    (hactions : ({} : System).follow? actions = some system) (number : Nat) :
    (system.waitPoint? number = some .passed →
      ∃ look moment back, look ≤ moment ∧ moment ≤ back ∧ LooksAt actions number look ∧
        RunsAt actions moment ∧ PassesAt actions number back) ∧
    ∀ latch more later run, system.waitPoint? number = some (.watching latch) →
      system.follow? more = some later →
      (run, .start) ∉ system.history → (run, .start) ∈ later.history →
      later.controller.isReleased latch = true ∧
        (later.waitPoint? number = some (.watching latch) →
          ∃ next, later.step? number = some next ∧ next.waitPoint? number = some .passed) := by
  refine ⟨(waits_since actions hactions number).2, ?_⟩
  intro latch more later run hpoint hmore hbefore hafter
  have reachable : system.Reachable := Reachable.initial.follow? actions hactions
  have hmem : latch ∈ later.controller.released := by
    rcases reachable.watched hpoint with hreleased | hawaited
    · exact follow?_released more hmore hreleased
    · rcases follow?_isAwaited more hmore hawaited with hreleased | hstarts
      · exact hreleased
      · exact absurd (hstarts run hafter) hbefore
  have hreleased : later.controller.isReleased latch = true := List.contains_iff_mem.mpr hmem
  exact ⟨hreleased, fun hstill => step?_of_watching hstill hreleased⟩

theorem short_run_is_seen :
    (∃ look moment back, look ≤ moment ∧ moment ≤ back ∧
      LooksAt [.wait, .step 0, .run, .step 1, .quit, .step 2, .step 0] 0 look ∧
      RunsAt [.wait, .step 0, .run, .step 1, .quit, .step 2, .step 0] moment ∧
      PassesAt [.wait, .step 0, .run, .step 1, .quit, .step 2, .step 0] 0 back) ∧
    ∃ later, ({} : System).follow? [.wait, .step 0, .run, .step 1, .quit, .step 2] =
      some later ∧ later.controller.running = false ∧ later.controller.isReleased 0 = true :=
  ⟨(waits_follow_starts [.wait, .step 0, .run, .step 1, .quit, .step 2, .step 0] rfl 0).1 rfl,
    _, rfl, rfl, ((waits_follow_starts [.wait, .step 0] rfl 0).2 0
      [.run, .step 1, .quit, .step 2] _ 1 rfl rfl (by decide) (by decide)).1⟩

end System

end HeadlessDesktop.Loop
