import HeadlessDesktop.Proofs.RunQuitMatching
import HeadlessDesktop.Proofs.WaitWakeup

/-! Timed quits. A timed quit waits until the loop runs, so of a single run it is never lost: it
takes its turn after the start and not before, and once it has, the run is woken, by it or by
another quit. -/
namespace HeadlessDesktop.Loop

def Call.isRun (call : Call) : Bool := call.runPoint?.isSome

def RunPoint.isAwake : RunPoint → Bool
  | .woken _ | .stopped _ | .cleared _ | .returned => true
  | _ => false

def TimedPoint.hasPassed : TimedPoint → Bool
  | .waiting .passed | .counting | .due | .returned _ => true
  | _ => false

def TimedPoint.isDropped : TimedPoint → Bool
  | .waiting .gaveUp | .cancelled => true
  | _ => false

inductive TimedStep (controller : Controller) : TimedPoint → TimedPoint → Prop
  | wait {earlier later : WaitPoint} (hwait : WaitStep controller earlier later) :
    TimedStep controller (.waiting earlier) (.waiting later)
  | count : TimedStep controller (.waiting .passed) .counting
  | leave : TimedStep controller (.waiting .gaveUp) .cancelled
  | ring : TimedStep controller .counting .due
  | quit : TimedStep controller .due (.returned controller.running)

theorem timedStep_of_stepTimed {controller after : Controller} {point later : TimedPoint}
    {events : List Event} (h : stepTimed controller point = some (after, later, events)) :
    TimedStep controller point later := by
  unfold stepTimed at h
  split at h
  · cases h
    exact .count
  · cases h
    exact .leave
  · obtain ⟨⟨wait, seen⟩, hwait, h⟩ := Option.map_eq_some_iff.mp h
    cases h
    exact .wait (waitStep_of_stepWait hwait)
  · cases h
    exact .ring
  · cases h
    exact .quit
  · cases h
  · cases h

theorem timedStep_of_stepCall {controller after : Controller} {call : Call} {later : TimedPoint}
    {events : List Event} (h : stepCall controller call = some (after, .timed later, events)) :
    ∃ earlier, call = .timed earlier ∧ TimedStep controller earlier later := by
  cases call with
  | run point => simp [stepCall] at h
  | quit point => simp [stepCall] at h
  | wait point => simp [stepCall] at h
  | timed point =>
    obtain ⟨⟨after, later, events⟩, hstep, h⟩ := Option.map_eq_some_iff.mp h
    cases h
    exact ⟨point, rfl, timedStep_of_stepTimed hstep⟩

theorem dropped_of_cancelCall {call : Call} {later : TimedPoint} {events : List Event}
    (h : cancelCall call = some (.timed later, events)) : later.isDropped = true := by
  unfold cancelCall at h
  split at h
  all_goals cases h
  all_goals rfl

theorem Call.exists_run_of_told {call : Call} (h : Event.start ∈ call.told) :
    ∃ point, call = .run point := by
  cases call with
  | run point => exact ⟨point, rfl⟩
  | quit point => cases point <;> simp [told] at h
  | wait point => simp [told] at h
  | timed point => cases point <;> simp [told] at h

theorem RunPoint.of_told {point : RunPoint} (h : Event.start ∈ (Call.run point).told) :
    ((∃ done finished, point = .blocked done finished) ∨ point.isAwake = true) ∧
      (point = .returned ∨ point.finished?.isSome = true) := by
  cases point with
  | blocked done finished => exact ⟨Or.inl ⟨done, finished, rfl⟩, Or.inr rfl⟩
  | woken finished => exact ⟨Or.inr rfl, Or.inr rfl⟩
  | stopped finished => exact ⟨Or.inr rfl, Or.inr rfl⟩
  | cleared finished => exact ⟨Or.inr rfl, Or.inr rfl⟩
  | returned => exact ⟨Or.inr rfl, Or.inl rfl⟩
  | _ => simp [Call.told] at h

theorem CallStep.isRun {controller after : Controller} {call later : Call} {events : List Event}
    (hstep : CallStep controller call events after later) : later.isRun = call.isRun := by
  cases hstep with
  | aside hcall hlater =>
    unfold Call.isRun
    rw [call.isPatient_runPoint? hcall, later.isPatient_runPoint? hlater]
  | _ => rfl

namespace System

theorem act?_timed {system next : System} {action : Action} {number : Nat} {point : TimedPoint}
    (hact : system.act? action = some next) (hcall : next.calls[number]? = some (.timed point)) :
    point = .waiting .entering ∨ system.calls[number]? = some (.timed point) ∨
      (∃ earlier, system.calls[number]? = some (.timed earlier) ∧
        TimedStep system.controller earlier point) ∨
      action = .cancel number ∧ point.isDropped = true := by
  rcases act?_calls hact hcall with hnew | hstood |
    ⟨-, earlier, controller, events, hearlier, hstep⟩ | ⟨hcancel, earlier, events, -, hstep⟩
  · unfold Call.isNew at hnew
    split at hnew
    all_goals grind
  · exact Or.inr (Or.inl hstood)
  · obtain ⟨standing, rfl, htimed⟩ := timedStep_of_stepCall hstep
    exact Or.inr (Or.inr (Or.inl ⟨standing, hearlier, htimed⟩))
  · exact Or.inr (Or.inr (Or.inr ⟨hcancel, dropped_of_cancelCall hstep⟩))

/-! ### Starts -/

theorem act?_history {system next : System} {action : Action}
    (hact : system.act? action = some next) : system.history <+: next.history := by
  obtain ⟨call, -, rfl⟩ | ⟨number, call, events, controller, later, -, -, rfl⟩ := act?_cases hact
  · exact List.prefix_refl _
  · exact List.prefix_append _ _

theorem LeadsTo.of_follow? {system later : System} (actions : List Action)
    (hactions : system.follow? actions = some later) : LeadsTo system later := by
  induction actions generalizing system with
  | nil =>
    cases hactions
    exact .refl
  | cons action rest ih =>
    obtain ⟨next, hact, hrest⟩ := Option.bind_eq_some_iff.mp hactions
    exact .head ⟨action, hact⟩ (ih hrest)

theorem LeadsTo.history {system later : System} (h : LeadsTo system later) :
    system.history <+: later.history := by
  induction h with
  | refl => exact List.prefix_refl _
  | tail _ hact ih =>
    obtain ⟨action, hact⟩ := hact
    exact ih.trans (act?_history hact)

def HasStarted (system : System) : Prop := ∃ run, (run, .start) ∈ system.history

theorem HasStarted.act {system next : System} {action : Action} (h : system.HasStarted)
    (hact : system.act? action = some next) : next.HasStarted := by
  obtain ⟨run, hrun⟩ := h
  exact ⟨run, (act?_history hact).subset hrun⟩

theorem Reachable.exists_blocked {system : System} (reachable : system.Reachable)
    (hrunning : system.controller.running = true) :
    ∃ (run : Nat) (done finished : Latch),
      system.calls[run]? = some (.run (.blocked done finished)) := by
  obtain ⟨rounds, stage, tracks⟩ := reachable.tracks
  obtain ⟨run, done, finished, rfl⟩ := tracks.holds.stage_eq_running hrunning
  obtain ⟨point, hpoint, hsuits⟩ := tracks.holds.holder run rfl
  cases hsuits
  exact ⟨run, done, finished, calls_of_runPoint? hpoint⟩

theorem Reachable.hasStarted_of_told {system : System} (reachable : system.Reachable) {run : Nat}
    {point : RunPoint} (hcall : system.calls[run]? = some (.run point))
    (htold : Event.start ∈ (Call.run point).told) : system.HasStarted :=
  ⟨run, (reachable.mem_history_iff rfl).mpr ⟨_, hcall, htold⟩⟩

theorem Reachable.hasStarted_of_running {system : System} (reachable : system.Reachable)
    (hrunning : system.controller.running = true) : system.HasStarted := by
  obtain ⟨run, done, finished, hcall⟩ := reachable.exists_blocked hrunning
  exact reachable.hasStarted_of_told hcall (by simp [Call.told])

theorem Reachable.hasStarted_of_released {system : System} (reachable : system.Reachable)
    {latch : Latch} (hreleased : latch ∈ system.controller.released) : system.HasStarted := by
  induction reachable with
  | initial => exact absurd hreleased List.not_mem_nil
  | @act system next action reachable hact ih =>
    by_cases hbefore : latch ∈ system.controller.released
    · exact (ih hbefore).act hact
    have hquit (h : latch ∈ (turnQuit system.controller).released) : system.HasStarted := by
      apply reachable.hasStarted_of_running
      by_contra hidle
      rw [turnQuit_of_idle (eq_false_of_ne_true hidle)] at h
      exact hbefore h
    obtain ⟨call, -, rfl⟩ | ⟨number, call, events, controller, later, hcall, hstep, rfl⟩ :=
      act?_cases hact
    · exact absurd hreleased hbefore
    · cases hstep with
      | start => exact ⟨number, List.mem_append_right _ (by simp)⟩
      | finish => exact (reachable.hasStarted_of_told hcall (by simp [Call.told])).act hact
      | clear => exact (reachable.hasStarted_of_told hcall (by simp [Call.told])).act hact
      | quit => exact (hquit hreleased).act hact
      | timedQuit => exact (hquit hreleased).act hact
      | _ => exact absurd hreleased hbefore

theorem Reachable.hasStarted_of_timed {system : System} (reachable : system.Reachable)
    {number : Nat} {point : TimedPoint} (hcall : system.calls[number]? = some (.timed point))
    (hpassed : point.hasPassed = true) : system.HasStarted := by
  induction reachable generalizing point with
  | initial => exact absurd hcall (by simp)
  | @act system next action reachable hact ih =>
    rcases act?_timed hact hcall with rfl | hstood | ⟨earlier, hearlier, hstep⟩ | ⟨-, hdropped⟩
    · contradiction
    · exact (ih hstood hpassed).act hact
    · cases hstep with
      | wait hwait =>
        cases hwait with
        | find hrunning => exact (reachable.hasStarted_of_running hrunning).act hact
        | watch => contradiction
        | wake hreleased => exact (reachable.hasStarted_of_released hreleased).act hact
      | count => exact (ih hearlier rfl).act hact
      | leave => contradiction
      | ring => exact (ih hearlier rfl).act hact
      | quit => exact (ih hearlier rfl).act hact
    · unfold TimedPoint.isDropped at hdropped
      split at hdropped
      all_goals contradiction

/-! ### One run -/

theorem countP_move {system : System} {number : Nat} {call later : Call}
    (hcall : system.calls[number]? = some call) (hkind : later.isRun = call.isRun)
    (events : List Event) (controller : Controller) :
    (system.move number events controller later).calls.countP Call.isRun =
      system.calls.countP Call.isRun := by
  obtain ⟨hnumber, hget⟩ := List.getElem?_eq_some_iff.mp hcall
  have hbefore := List.boole_getElem_le_countP (p := Call.isRun) hnumber
  simp only [move, List.countP_set hnumber, hget, hkind] at hbefore ⊢
  omega

theorem act?_countP {system next : System} {action : Action}
    (hact : system.act? action = some next) :
    next.calls.countP Call.isRun = system.calls.countP Call.isRun + [action].count .run := by
  have hadd (call : Call) : (system.add call).calls.countP Call.isRun =
      system.calls.countP Call.isRun + [call].countP Call.isRun := List.countP_append
  cases action with
  | run =>
    cases hact
    exact hadd _
  | quit =>
    cases hact
    exact hadd _
  | wait =>
    cases hact
    exact hadd _
  | timed =>
    cases hact
    exact hadd _
  | step number =>
    obtain ⟨call, hcall, hact⟩ := Option.bind_eq_some_iff.mp hact
    obtain ⟨⟨controller, later, events⟩, hstep, hact⟩ := Option.bind_eq_some_iff.mp hact
    cases hact
    exact countP_move hcall (callStep_of_stepCall hstep).isRun events controller
  | cancel number =>
    obtain ⟨call, hcall, hact⟩ := Option.bind_eq_some_iff.mp hact
    obtain ⟨⟨later, events⟩, hstep, hact⟩ := Option.bind_eq_some_iff.mp hact
    cases hact
    exact countP_move hcall (callStep_of_cancelCall system.controller hstep).isRun events _

theorem follow?_countP {system later : System} (actions : List Action)
    (hactions : system.follow? actions = some later) :
    later.calls.countP Call.isRun = system.calls.countP Call.isRun + actions.count .run := by
  induction actions generalizing system with
  | nil =>
    cases hactions
    rfl
  | cons action rest ih =>
    obtain ⟨next, hact, hrest⟩ := Option.bind_eq_some_iff.mp hactions
    have hcons : (action :: rest).count .run = [action].count .run + rest.count .run := by
      rw [List.count_cons, List.count_singleton, Nat.add_comm]
    rw [ih hrest, act?_countP hact, hcons, Nat.add_assoc]

theorem eq_of_countP_le_one {calls : List Call} (hone : calls.countP Call.isRun ≤ 1)
    {run other : Nat} {point later : RunPoint} (hrun : calls[run]? = some (.run point))
    (hother : calls[other]? = some (.run later)) : other = run := by
  induction calls generalizing run other with
  | nil => simp at hrun
  | cons call rest ih =>
    have hmore {number : Nat} {point : RunPoint} (h : rest[number]? = some (.run point)) :
        0 < rest.countP Call.isRun :=
      List.countP_pos_iff.mpr ⟨_, List.mem_of_getElem? h, rfl⟩
    have hself (point : RunPoint) : (Call.run point).isRun = true := rfl
    rw [List.countP_cons] at hone
    cases run with
    | zero =>
      cases other with
      | zero => rfl
      | succ other =>
        cases hrun
        have hlater := hmore hother
        rw [if_pos (hself _)] at hone
        omega
    | succ run =>
      cases other with
      | zero =>
        cases hother
        have hlater := hmore hrun
        rw [if_pos (hself _)] at hone
        omega
      | succ other => rw [ih (by omega) hrun hother]

theorem Reachable.count_start {system : System} (reachable : system.Reachable) :
    (system.history.map Prod.snd).count .start =
      (system.history.map Prod.snd).count (.quit true) + system.controller.running.toNat := by
  obtain ⟨rounds, stage, tracks⟩ := reachable.tracks
  rw [tracks.logged.count_start, stage.isUntold_turn, ← tracks.holds.running]

theorem Reachable.count_start_le {system : System} (reachable : system.Reachable) :
    (system.history.map Prod.snd).count .start ≤ system.calls.countP Call.isRun := by
  rw [reachable.count_history rfl]
  refine List.countP_mono_left fun call _ htold => ?_
  obtain ⟨point, rfl⟩ := Call.exists_run_of_told (of_decide_eq_true htold)
  rfl

theorem Reachable.idle_of_quit {system : System} (reachable : system.Reachable)
    (hone : system.calls.countP Call.isRun ≤ 1) {quit : Nat}
    (hquit : (quit, .quit true) ∈ system.history) : system.controller.running = false := by
  have hcount : 0 < (system.history.map Prod.snd).count (.quit true) :=
    List.count_pos_iff.mpr (List.mem_map_of_mem hquit)
  have hstarts := reachable.count_start
  have hruns := reachable.count_start_le
  cases hrunning : system.controller.running with
  | false => rfl
  | true =>
    rw [hrunning, Bool.toNat_true] at hstarts
    omega

theorem Reachable.exists_quit_of_idle {system : System} (reachable : system.Reachable)
    (hstarted : system.HasStarted) (hidle : system.controller.running = false) :
    ∃ quit, (quit, .quit true) ∈ system.history := by
  obtain ⟨run, hrun⟩ := hstarted
  have hcount : 0 < (system.history.map Prod.snd).count .start :=
    List.count_pos_iff.mpr (List.mem_map_of_mem hrun)
  rw [reachable.count_start, hidle, Bool.toNat_false, Nat.add_zero, List.count_pos_iff] at hcount
  obtain ⟨⟨quit, event⟩, hquit, rfl⟩ := List.mem_map.mp hcount
  exact ⟨quit, hquit⟩

/-! ### The turn of a timed quit -/

theorem Reachable.turn_of_timed {system : System} (reachable : system.Reachable) {number : Nat}
    {saw : Bool} (hcall : system.calls[number]? = some (.timed (.returned saw))) :
    ∃ before : System, before.Reachable ∧ before.HasStarted ∧
      before.controller.running = saw ∧
      before.history ++ [(number, .quit saw)] <+: system.history := by
  obtain ⟨before, previous, events, controller, hbefore, hprevious, hstep, hleads⟩ :=
    reachable.last_step hcall rfl
  cases hstep with
  | timedQuit =>
    exact ⟨before, hbefore, hbefore.hasStarted_of_timed hprevious rfl, rfl, hleads.history⟩
  | aside _ hlater _ => contradiction

theorem Reachable.returned_of_quit {system : System} (reachable : system.Reachable) {number : Nat}
    {point : TimedPoint} {saw : Bool} (hcall : system.calls[number]? = some (.timed point))
    (hquit : (number, .quit saw) ∈ system.history) : point = .returned saw := by
  obtain ⟨call, hfound, htold⟩ := (reachable.mem_history_iff rfl).mp hquit
  rw [hcall] at hfound
  cases hfound
  cases point with
  | returned sawRunning =>
    simp [Call.told] at htold
    rw [htold]
  | _ => simp [Call.told] at htold

/-! ### The run that is woken -/

def BlocksAt (actions : List Action) (run : Nat) (done : Latch) (moment : Nat) : Prop :=
  ∃ system finished, after? actions moment = some system ∧
    system.calls[run]? = some (.run (.blocked done finished))

theorem BlocksAt.append {actions : List Action} {run : Nat} {done : Latch} {moment : Nat}
    (more : List Action) (hmoment : moment ≤ actions.length)
    (h : BlocksAt actions run done moment) : BlocksAt (actions ++ more) run done moment := by
  unfold BlocksAt
  rw [after?_append more hmoment]
  exact h

def WokenFrom (actions : List Action) (system : System) (run : Nat) : Prop :=
  ∃ done moment, moment ≤ actions.length ∧ BlocksAt actions run done moment ∧
    done ∈ system.controller.released

theorem WokenFrom.act {actions : List Action} {action : Action} {system next : System} {run : Nat}
    (h : WokenFrom actions system run) (hact : system.act? action = some next) :
    WokenFrom (actions ++ [action]) next run := by
  obtain ⟨done, moment, hmoment, hblocks, hreleased⟩ := h
  refine ⟨done, moment, ?_, hblocks.append [action] hmoment, act?_released hact hreleased⟩
  rw [List.length_append]
  omega

theorem wokenFrom_of_isAwake (actions : List Action) {system : System}
    (hactions : ({} : System).follow? actions = some system) {run : Nat} {point : RunPoint}
    (hcall : system.calls[run]? = some (.run point)) (hawake : point.isAwake = true) :
    WokenFrom actions system run := by
  induction actions using List.reverseRecOn generalizing system point with
  | nil =>
    cases hactions
    exact absurd hcall (by simp)
  | append_singleton actions action ih =>
    obtain ⟨before, hbefore, hact⟩ := follow?_concat.mp hactions
    rcases act?_calls hact hcall with hnew | hstood |
      ⟨-, earlier, controller, events, hearlier, hstep⟩ | ⟨-, earlier, events, -, hstep⟩
    · cases point <;> contradiction
    · exact (ih hbefore hstood hawake).act hact
    · have hcases := callStep_of_stepCall hstep
      cases hcases with
      | @wake done finished htold =>
        have hblocks : BlocksAt actions run done actions.length :=
          ⟨before, finished, by rw [after?_length, hbefore], hearlier⟩
        exact WokenFrom.act ⟨done, actions.length, Nat.le_refl _, hblocks,
          List.contains_iff_mem.mp htold⟩ hact
      | stop => exact (ih hbefore hearlier rfl).act hact
      | clear => exact (ih hbefore hearlier rfl).act hact
      | finish => exact (ih hbefore hearlier rfl).act hact
      | _ => contradiction
    · unfold cancelCall at hstep
      split at hstep
      all_goals cases hstep

theorem Reachable.idle_of_returned {system : System} (reachable : system.Reachable)
    (hone : system.calls.countP Call.isRun ≤ 1) {number : Nat} {saw : Bool}
    (hcall : system.calls[number]? = some (.timed (.returned saw))) :
    system.controller.running = false := by
  obtain ⟨before, hbefore, hstarted, hsaw, hhistory⟩ := reachable.turn_of_timed hcall
  cases saw with
  | true =>
    have hquit : (number, .quit true) ∈ system.history := hhistory.subset (by simp)
    exact reachable.idle_of_quit hone hquit
  | false =>
    -- The loop had started and was idle: another quit had found it running.
    obtain ⟨quit, hquit⟩ := hbefore.exists_quit_of_idle hstarted hsaw
    exact reachable.idle_of_quit hone (hhistory.subset (List.mem_append_left _ hquit))

theorem run_released (actions : List Action) {system : System}
    (hactions : ({} : System).follow? actions = some system)
    (hidle : system.controller.running = false) {run : Nat}
    (hstart : (run, .start) ∈ system.history) :
    ∃ done moment, BlocksAt actions run done moment ∧
      system.controller.isReleased done = true ∧
      (system.calls[run]? = some (.run .returned) ∨ (system.step? run).isSome = true) := by
  have reachable : system.Reachable := Reachable.initial.follow? actions hactions
  obtain ⟨call, hcall, htold⟩ := (reachable.mem_history_iff rfl).mp hstart
  obtain ⟨point, rfl⟩ := Call.exists_run_of_told htold
  obtain ⟨hstanding, hgoing⟩ := RunPoint.of_told htold
  have hgoes : system.calls[run]? = some (.run .returned) ∨ (system.step? run).isSome = true := by
    rcases hgoing with rfl | howned
    · exact Or.inl hcall
    · have hwoken := reachable.wokenOrRunning (runPoint?_of_calls hcall) howned
      exact Or.inr (isSome_step?_of_run hcall (RunPoint.isSome_stepRun hidle hwoken))
  rcases hstanding with ⟨done, finished, rfl⟩ | hawake
  · have hblocks : BlocksAt actions run done actions.length :=
      ⟨system, finished, by rw [after?_length, hactions], hcall⟩
    rcases reachable.wokenOrRunning (runPoint?_of_calls hcall) rfl with hreleased | ⟨hrunning, -⟩
    · exact ⟨done, _, hblocks, hreleased, hgoes⟩
    · rw [hidle] at hrunning
      contradiction
  · obtain ⟨done, moment, -, hblocks, hreleased⟩ :=
      wokenFrom_of_isAwake actions hactions hcall hawake
    exact ⟨done, moment, hblocks, List.contains_iff_mem.mpr hreleased, hgoes⟩

/-! ### Timed quits that are dropped -/

theorem cancel_mem_of_isDropped (actions : List Action) {system : System}
    (hactions : ({} : System).follow? actions = some system) {number : Nat} {point : TimedPoint}
    (hcall : system.calls[number]? = some (.timed point)) (hdropped : point.isDropped = true) :
    .cancel number ∈ actions := by
  induction actions using List.reverseRecOn generalizing system point with
  | nil =>
    cases hactions
    exact absurd hcall (by simp)
  | append_singleton actions action ih =>
    obtain ⟨before, hbefore, hact⟩ := follow?_concat.mp hactions
    rcases act?_timed hact hcall with rfl | hstood | ⟨earlier, hearlier, hstep⟩ | ⟨rfl, -⟩
    · contradiction
    · exact List.mem_append_left _ (ih hbefore hstood hdropped)
    · cases hstep with
      | leave => exact List.mem_append_left _ (ih hbefore hearlier rfl)
      | wait hwait => cases hwait <;> contradiction
      | _ => contradiction
    · exact List.mem_append_right _ List.mem_cons_self

def CancelledEarly (actions : List Action) (number : Nat) : Prop :=
  ∃ moment system, actions[moment]? = some (.cancel number) ∧
    after? actions moment = some system ∧ ¬system.HasStarted

theorem exists_after? {actions : List Action} {system : System}
    (hactions : ({} : System).follow? actions = some system) (moment : Nat) :
    ∃ earlier, after? actions moment = some earlier ∧
      earlier.follow? (actions.drop moment) = some system := by
  rw [← List.take_append_drop moment actions, follow?_append] at hactions
  exact Option.bind_eq_some_iff.mp hactions

theorem cancelledEarly_of_running (actions : List Action) {system : System}
    (hactions : ({} : System).follow? actions = some system)
    (hone : system.calls.countP Call.isRun ≤ 1) (hrunning : system.controller.running = true)
    {number : Nat} (hcancel : .cancel number ∈ actions)
    (hfree : ∀ moment, actions[moment]? = some (.cancel number) →
      ¬∃ run done, BlocksAt actions run done moment) : CancelledEarly actions number := by
  have reachable : system.Reachable := Reachable.initial.follow? actions hactions
  obtain ⟨moment, hmoment⟩ := List.getElem?_of_mem hcancel
  obtain ⟨earlier, hearlier, hrest⟩ := exists_after? hactions moment
  have hbefore : earlier.Reachable := Reachable.initial.follow? _ hearlier
  refine ⟨moment, earlier, hmoment, hearlier, fun hstarted => ?_⟩
  -- A run had started, and none stood blocked: it had been told to stop, and no other follows.
  have hidle : earlier.controller.running = false := by
    apply eq_false_of_ne_true
    intro hrunning
    obtain ⟨run, done, finished, hcall⟩ := hbefore.exists_blocked hrunning
    exact hfree moment hmoment ⟨run, done, earlier, finished, hearlier, hcall⟩
  obtain ⟨quit, hquit⟩ := hbefore.exists_quit_of_idle hstarted hidle
  have hlater := (LeadsTo.of_follow? _ hrest).history.subset hquit
  have hover := reachable.idle_of_quit hone hlater
  rw [hrunning] at hover
  contradiction

/-! ### Timed quits that are due -/

/-- By so many steps of its own a call tells the loop to stop. -/
def QuitsWithin (system : System) (number limit : Nat) : Prop :=
  ∃ count ≤ limit, ∃ later, system.follow? (List.replicate count (.step number)) = some later ∧
    (number, .quit true) ∈ later.history ∧ later.controller.running = false

theorem QuitsWithin.step {system next : System} {number limit : Nat}
    (h : next.QuitsWithin number limit) (hstep : system.step? number = some next) :
    system.QuitsWithin number (limit + 1) := by
  obtain ⟨count, hcount, later, hlater, hquit, hidle⟩ := h
  refine ⟨count + 1, Nat.succ_le_succ hcount, later, ?_, hquit, hidle⟩
  rw [List.replicate_succ, follow?, act?, hstep, Option.bind_some, hlater]

theorem running_turnQuit (controller : Controller) : (turnQuit controller).running = false := by
  unfold turnQuit
  split
  · unfold Controller.release
    split
    · split <;> rfl
    · rfl
  · rename_i hidle
    exact eq_false_of_ne_true hidle

section Due

variable {system : System} {number limit : Nat}

theorem QuitsWithin.mono {more : Nat} (h : system.QuitsWithin number limit) (hle : limit ≤ more) :
    system.QuitsWithin number more := by
  obtain ⟨count, hcount, later, hlater⟩ := h
  exact ⟨count, Nat.le_trans hcount hle, later, hlater⟩

theorem QuitsWithin.of_step {point later : TimedPoint} {events : List Event}
    (hlater : ∀ next : System, next.calls[number]? = some (.timed later) →
      next.controller.running = true → next.QuitsWithin number limit)
    (hcall : system.calls[number]? = some (.timed point))
    (hrunning : system.controller.running = true)
    (hstep : stepTimed system.controller point = some (system.controller, later, events)) :
    system.QuitsWithin number (limit + 1) := by
  have hnext : system.step? number =
      some (system.move number events system.controller (.timed later)) := by
    simp [step?, hcall, stepCall, hstep, move]
  have hmoved : (system.move number events system.controller (.timed later)).calls[number]? =
      some (.timed later) := by
    rw [calls_move hcall, if_pos rfl]
  exact (hlater _ hmoved hrunning).step hnext

theorem quitsWithin_of_due (hcall : system.calls[number]? = some (.timed .due))
    (hrunning : system.controller.running = true) : system.QuitsWithin number 1 := by
  have hnext : system.step? number = some (system.move number [.quit true]
      (turnQuit system.controller) (.timed (.returned true))) := by
    simp [step?, hcall, stepCall, stepTimed, hrunning, move]
  refine QuitsWithin.step ⟨0, Nat.le_refl 0, _, rfl, ?_, running_turnQuit _⟩ hnext
  exact List.mem_append_right _ List.mem_cons_self

theorem quitsWithin_of_counting (hcall : system.calls[number]? = some (.timed .counting))
    (hrunning : system.controller.running = true) : system.QuitsWithin number 2 :=
  .of_step (fun _ => quitsWithin_of_due) hcall hrunning rfl

theorem quitsWithin_of_passed (hcall : system.calls[number]? = some (.timed (.waiting .passed)))
    (hrunning : system.controller.running = true) : system.QuitsWithin number 3 :=
  .of_step (fun _ => quitsWithin_of_counting) hcall hrunning rfl

theorem quitsWithin_of_entering (hcall : system.calls[number]? = some (.timed (.waiting .entering)))
    (hrunning : system.controller.running = true) : system.QuitsWithin number 4 := by
  have hstep : stepTimed system.controller (.waiting .entering) =
      some (system.controller, .waiting .passed, [.passed]) := by
    simp [stepTimed, stepWait, hrunning]
  exact .of_step (fun _ => quitsWithin_of_passed) hcall hrunning hstep

theorem quitsWithin_of_watching {latch : Latch}
    (hcall : system.calls[number]? = some (.timed (.waiting (.watching latch))))
    (hreleased : latch ∈ system.controller.released)
    (hrunning : system.controller.running = true) : system.QuitsWithin number 4 := by
  have hstep : stepTimed system.controller (.waiting (.watching latch)) =
      some (system.controller, .waiting .passed, [.passed]) := by
    simp [stepTimed, stepWait, Controller.isReleased, hreleased]
  exact .of_step (fun _ => quitsWithin_of_passed) hcall hrunning hstep

end Due

theorem Reachable.quitsWithin {system : System} (reachable : system.Reachable)
    (hone : system.calls.countP Call.isRun ≤ 1) (hrunning : system.controller.running = true)
    {number : Nat} {point : TimedPoint} (hcall : system.calls[number]? = some (.timed point))
    (hkept : point.isDropped = false) : system.QuitsWithin number 4 := by
  cases point with
  | waiting wait =>
    cases wait with
    | entering => exact quitsWithin_of_entering hcall hrunning
    | watching latch =>
      have hpoint : system.waitPoint? number = some (.watching latch) := by
        unfold waitPoint?
        rw [hcall]
        rfl
      rcases reachable.watched hpoint with hreleased | ⟨hidle, -⟩
      · exact quitsWithin_of_watching hcall hreleased hrunning
      · rw [hrunning] at hidle
        contradiction
    | passed => exact (quitsWithin_of_passed hcall hrunning).mono (by decide)
    | gaveUp => contradiction
  | counting => exact (quitsWithin_of_counting hcall hrunning).mono (by decide)
  | due => exact (quitsWithin_of_due hcall hrunning).mono (by decide)
  | returned saw =>
    have hidle := reachable.idle_of_returned hone hcall
    rw [hrunning] at hidle
    contradiction
  | cancelled => contradiction

/-- With one run at most, a timed quit takes its turn only after that run has started; from then
on the loop is idle and the latch of the run is released. As long as the loop runs, a timed quit
that was not cancelled before the start, nor while the run is blocked, is yet to come and waits
for nobody. -/
theorem timed_quit_ends_run (actions : List Action) {system : System}
    (hactions : ({} : System).follow? actions = some system) (hone : actions.count .run ≤ 1)
    (number : Nat) {point : TimedPoint} (hcall : system.calls[number]? = some (.timed point)) :
    (∀ saw, (number, .quit saw) ∈ system.history →
      system.controller.running = false ∧
      ∃ main done moment,
        (∀ (other : Nat) (later : RunPoint), system.calls[other]? = some (.run later) →
          other = main) ∧
        [(main, .start), (number, .quit saw)].Sublist system.history ∧
        BlocksAt actions main done moment ∧
        system.controller.isReleased done = true ∧
        (system.calls[main]? = some (.run .returned) ∨ (system.step? main).isSome = true)) ∧
    ((∀ moment, actions[moment]? = some (.cancel number) →
        ¬∃ main done, BlocksAt actions main done moment) →
      system.controller.running = true →
      CancelledEarly actions number ∨ system.QuitsWithin number 4) := by
  have reachable : system.Reachable := Reachable.initial.follow? actions hactions
  have hruns : system.calls.countP Call.isRun ≤ 1 := by
    rw [follow?_countP actions hactions]
    simpa using hone
  constructor
  · intro saw hquit
    have hreturned := reachable.returned_of_quit hcall hquit
    rw [hreturned] at hcall
    have hidle := reachable.idle_of_returned hruns hcall
    obtain ⟨before, -, ⟨main, hmain⟩, -, hhistory⟩ := reachable.turn_of_timed hcall
    have horder : [(main, .start), (number, .quit saw)].Sublist system.history :=
      ((List.singleton_sublist.mpr hmain).append_right [(number, .quit saw)]).trans
        hhistory.sublist
    have hstart : (main, .start) ∈ system.history := horder.subset List.mem_cons_self
    obtain ⟨done, moment, hblocks, hreleased, hgoes⟩ := run_released actions hactions hidle hstart
    refine ⟨hidle, main, done, moment, ?_, horder, hblocks, hreleased, hgoes⟩
    intro other later hother
    obtain ⟨call, hfound, htold⟩ := (reachable.mem_history_iff rfl).mp hstart
    obtain ⟨standing, rfl⟩ := Call.exists_run_of_told htold
    exact eq_of_countP_le_one hruns hfound hother
  · intro hfree hrunning
    cases hdropped : point.isDropped with
    | true =>
      have hcancel := cancel_mem_of_isDropped actions hactions hcall hdropped
      exact Or.inl (cancelledEarly_of_running actions hactions hruns hrunning hcancel hfree)
    | false => exact Or.inr (reachable.quitsWithin hruns hrunning hcall hdropped)

/-- A timed quit that watches before the run starts, and takes its turn after another quit has
stopped the run; and one that is yet to come. -/
theorem timed_quit_ends_run_overtaken :
    (∃ system, ({} : System).follow? [.timed, .step 0, .run, .step 1, .quit, .step 2, .step 0,
        .step 0, .step 0, .step 0] = some system ∧
      (0, .quit false) ∈ system.history ∧ system.controller.running = false ∧
      ∃ main, [(main, .start), (0, .quit false)].Sublist system.history ∧
        (system.calls[main]? = some (.run .returned) ∨ (system.step? main).isSome = true)) ∧
    ∃ system, ({} : System).follow? [.timed, .step 0, .run, .step 1] = some system ∧
      system.controller.running = true ∧ system.QuitsWithin 0 4 := by
  constructor
  · obtain ⟨hidle, main, -, -, -, horder, -, -, hgoes⟩ := (timed_quit_ends_run [.timed, .step 0,
      .run, .step 1, .quit, .step 2, .step 0, .step 0, .step 0, .step 0] rfl (by decide) 0
      rfl).1 false (by decide)
    exact ⟨_, rfl, by decide, hidle, main, horder, hgoes⟩
  · refine ⟨_, rfl, rfl, ?_⟩
    refine ((timed_quit_ends_run [.timed, .step 0, .run, .step 1] rfl (by decide) 0 rfl).2 ?_
      rfl).resolve_left ?_
    · intro moment hcancel
      exact absurd (List.mem_of_getElem? hcancel) (by decide)
    · rintro ⟨moment, earlier, hcancel, -⟩
      exact absurd (List.mem_of_getElem? hcancel) (by decide)

end System

end HeadlessDesktop.Loop
