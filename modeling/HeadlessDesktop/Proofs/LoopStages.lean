import HeadlessDesktop.Proofs.HookLog

/-! The stages of the loop. At most one run holds the loop, from its start until it makes
room for the next, and where it stands, what the controller holds and which hooks were
called agree at every step of every interleaving. -/
namespace HeadlessDesktop.Loop

/-- Who holds the loop, and with which latches. -/
inductive Stage
  | idle
  | running (run : Nat) (done finished : Latch)
  | quitting (run quit : Nat) (finished : Latch)
  | stopping (run : Nat) (finished : Latch)
deriving DecidableEq, Repr

namespace Stage

def isRunning : Stage → Bool
  | .running _ _ _ => true
  | .idle | .quitting _ _ _ | .stopping _ _ => false

def done? : Stage → Option Latch
  | .running _ done _ => some done
  | .idle | .quitting _ _ _ | .stopping _ _ => none

def finished? : Stage → Option Latch
  | .idle => none
  | .running _ _ finished | .quitting _ _ finished | .stopping _ finished => some finished

def run? : Stage → Option Nat
  | .idle => none
  | .running run _ _ | .quitting run _ _ | .stopping run _ => some run

def turn : Stage → Turn
  | .idle | .stopping _ _ => .free
  | .running run _ _ => .started run
  | .quitting run quit _ => .told run quit

/-- Where the run that holds the loop may stand. -/
inductive Suits : Stage → RunPoint → Prop
  | waits {run : Nat} {done finished : Latch} :
    Suits (.running run done finished) (.blocked done finished)
  | told {run quit : Nat} {done finished : Latch} :
    Suits (.quitting run quit finished) (.blocked done finished)
  | woken {run quit : Nat} {finished : Latch} :
    Suits (.quitting run quit finished) (.woken finished)
  | stopped {run : Nat} {finished : Latch} :
    Suits (.stopping run finished) (.stopped finished)

end Stage

def RunPoint.isActive : RunPoint → Bool
  | .blocked _ _ | .woken _ | .stopped _ => true
  | _ => false

def RunPoint.finished? : RunPoint → Option Latch
  | .blocked _ finished | .woken finished | .stopped finished | .cleared finished => some finished
  | _ => none

def Call.runPoint? : Call → Option RunPoint
  | .run point => some point
  | _ => none

def System.runPoint? (system : System) (number : Nat) : Option RunPoint :=
  system.calls[number]?.bind Call.runPoint?

structure Holds (system : System) (stage : Stage) : Prop where
  running : system.controller.running = stage.isRunning
  done : system.controller.done = stage.done?
  finished : system.controller.finished = stage.finished?
  holder : ∀ number, stage.run? = some number →
    ∃ point, system.runPoint? number = some point ∧ stage.Suits point
  others : ∀ number point, system.runPoint? number = some point →
    stage.run? ≠ some number → point.isActive = false
  started_lt : system.controller.started < system.controller.fresh
  released_lt : ∀ latch ∈ system.controller.released, latch < system.controller.fresh
  owned_lt : ∀ number point latch, system.runPoint? number = some point →
    point.finished? = some latch → latch < system.controller.fresh
  done_lt : ∀ latch, stage.done? = some latch → latch < system.controller.fresh
  done_waits : ∀ latch, stage.done? = some latch → latch ∉ system.controller.released
  done_unowned : ∀ latch number point, stage.done? = some latch →
    system.runPoint? number = some point → point.finished? ≠ some latch

theorem System.runPoint?_of_calls {system : System} {number : Nat} {call : Call}
    (h : system.calls[number]? = some call) : system.runPoint? number = call.runPoint? := by
  simp [runPoint?, h]

theorem System.runPoint?_move {system : System} {number : Nat} {call : Call}
    (hcall : system.calls[number]? = some call) (events : List Event) (controller : Controller)
    (later : Call) (other : Nat) :
    (system.move number events controller later).runPoint? other =
      if other = number then later.runPoint? else system.runPoint? other := by
  unfold runPoint?
  rw [calls_move hcall]
  split <;> rfl

theorem System.runPoint?_add (system : System) (call : Call) (other : Nat) :
    (system.add call).runPoint? other =
      if other = system.calls.length then call.runPoint? else system.runPoint? other := by
  unfold runPoint?
  rw [calls_add]
  split <;> rfl

theorem Call.isNew_runPoint? {call : Call} {point : RunPoint} (hnew : call.isNew = true)
    (h : call.runPoint? = some point) : point = .entering := by
  unfold isNew at hnew
  split at hnew
  · exact (Option.some.inj h).symm
  all_goals contradiction

theorem Call.isPatient_runPoint? {call : Call} (h : call.isPatient = true) :
    call.runPoint? = none := by
  cases call with
  | run point => contradiction
  | quit point => contradiction
  | wait point => rfl
  | timed point => rfl

theorem Stage.isUntold_turn (stage : Stage) : stage.turn.isUntold = stage.isRunning := by
  cases stage with
  | idle => rfl
  | running run done finished => rfl
  | quitting run quit finished => rfl
  | stopping run finished => rfl

theorem Stage.Suits.isActive {stage : Stage} {point : RunPoint} (h : stage.Suits point) :
    point.isActive = true := by
  cases h with
  | waits => rfl
  | told => rfl
  | woken => rfl
  | stopped => rfl

theorem Controller.release_eq (controller : Controller) (latch : Latch) :
    ∃ released misused, controller.release (some latch) = { controller with released, misused } ∧
      ∀ other ∈ released, other = latch ∨ other ∈ controller.released := by
  unfold release
  dsimp only
  split
  · exact ⟨controller.released, true, rfl, fun _ h => Or.inr h⟩
  · exact ⟨latch :: controller.released, controller.misused, rfl, fun _ h => List.mem_cons.mp h⟩

theorem Controller.start_eq (controller : Controller) :
    ∃ released misused, controller.start =
        { controller with
          running := true
          done := some controller.fresh
          finished := some (controller.fresh + 1)
          fresh := controller.fresh + 2
          released
          misused } ∧
      ∀ other ∈ released, other = controller.started ∨ other ∈ controller.released := by
  obtain ⟨released, misused, hstart, hreleased⟩ := Controller.release_eq
    { controller with
      running := true
      done := some controller.fresh
      finished := some (controller.fresh + 1)
      fresh := controller.fresh + 2 } controller.started
  exact ⟨released, misused, hstart, hreleased⟩

theorem turnQuit_eq {controller : Controller} {done : Latch} (hrunning : controller.running = true)
    (hdone : controller.done = some done) :
    ∃ released misused, turnQuit controller =
        { controller with
          running := false
          done := none
          started := controller.fresh
          fresh := controller.fresh + 1
          released
          misused } ∧
      ∀ other ∈ released, other = done ∨ other ∈ controller.released := by
  obtain ⟨released, misused, hquit, hreleased⟩ :=
    Controller.release_eq { controller with running := false } done
  refine ⟨released, misused, ?_, hreleased⟩
  unfold turnQuit
  rw [if_pos hrunning, hdone]
  simp only [hdone] at hquit
  rw [hquit]

namespace Holds

theorem suits_of_isActive {system : System} {stage : Stage} (holds : Holds system stage)
    {number : Nat} {point : RunPoint} (hpoint : system.runPoint? number = some point)
    (hactive : point.isActive = true) : stage.run? = some number ∧ stage.Suits point := by
  by_cases hrun : stage.run? = some number
  · obtain ⟨held, hheld, hsuits⟩ := holds.holder number hrun
    rw [hpoint] at hheld
    cases hheld
    exact ⟨hrun, hsuits⟩
  · rw [holds.others number point hpoint hrun] at hactive
    exact absurd hactive (by simp)

theorem not_holder_of_not_isActive {system : System} {stage : Stage}
    (holds : Holds system stage) {number : Nat} {point : RunPoint}
    (hpoint : system.runPoint? number = some point) (hinactive : point.isActive = false) :
    stage.run? ≠ some number := by
  intro hrun
  obtain ⟨held, hheld, hsuits⟩ := holds.holder number hrun
  rw [hpoint] at hheld
  cases hheld
  rw [hsuits.isActive] at hinactive
  exact absurd hinactive (by simp)

theorem not_holder_of_not_run {system : System} {stage : Stage} (holds : Holds system stage)
    {number : Nat} (hpoint : system.runPoint? number = none) : stage.run? ≠ some number := by
  intro hrun
  obtain ⟨held, hheld, -⟩ := holds.holder number hrun
  rw [hpoint] at hheld
  exact absurd hheld (by simp)

theorem initial : Holds {} .idle where
  running := rfl
  done := rfl
  finished := rfl
  holder := by simp [Stage.run?]
  others := by simp [System.runPoint?]
  started_lt := by decide
  released_lt := by simp
  owned_lt := by simp [System.runPoint?]
  done_lt := by simp [Stage.done?]
  done_waits := by simp [Stage.done?]
  done_unowned := by simp [Stage.done?]

theorem add {system : System} {stage : Stage} (holds : Holds system stage) {call : Call}
    (hnew : call.isNew = true) : Holds (system.add call) stage := by
  have hpoint (number : Nat) (point : RunPoint)
      (h : (system.add call).runPoint? number = some point) :
      point = .entering ∨ system.runPoint? number = some point := by
    rw [System.runPoint?_add] at h
    split at h
    · exact Or.inl (call.isNew_runPoint? hnew h)
    · exact Or.inr h
  exact
    { running := holds.running
      done := holds.done
      finished := holds.finished
      holder := by
        intro number hrun
        obtain ⟨point, hheld, hsuits⟩ := holds.holder number hrun
        refine ⟨point, ?_, hsuits⟩
        rw [System.runPoint?_add, if_neg ?_, hheld]
        rintro rfl
        simp [System.runPoint?] at hheld
      others := by
        intro number point h hrun
        rcases hpoint number point h with rfl | h
        · rfl
        · exact holds.others number point h hrun
      started_lt := holds.started_lt
      released_lt := holds.released_lt
      owned_lt := by
        intro number point latch h hlatch
        rcases hpoint number point h with rfl | h
        · exact absurd hlatch (by simp [RunPoint.finished?])
        · exact holds.owned_lt number point latch h hlatch
      done_lt := holds.done_lt
      done_waits := holds.done_waits
      done_unowned := by
        intro latch number point hdone h
        rcases hpoint number point h with rfl | h
        · simp [RunPoint.finished?]
        · exact holds.done_unowned latch number point hdone h }

theorem stay {system : System} {stage : Stage} (holds : Holds system stage) {number : Nat}
    {call later : Call} (hcall : system.calls[number]? = some call) (events : List Event)
    (released : List Latch) (misused : Bool)
    (hreleased : ∀ latch ∈ released, latch ∈ system.controller.released ∨
      latch < system.controller.fresh ∧ stage.done? ≠ some latch)
    (hholder : stage.run? = some number →
      ∃ point, later.runPoint? = some point ∧ stage.Suits point)
    (hother : stage.run? ≠ some number →
      ∀ point, later.runPoint? = some point → point.isActive = false)
    (howned : ∀ point latch, later.runPoint? = some point → point.finished? = some latch →
      ∃ old, call.runPoint? = some old ∧ old.finished? = some latch) :
    Holds (system.move number events { system.controller with released, misused } later)
      stage := by
  -- Whatever latch a run is to release after the step, some run was to release before.
  have hbefore (other : Nat) (point : RunPoint) (latch : Latch)
      (h : (system.move number events { system.controller with released, misused }
        later).runPoint? other = some point) (hlatch : point.finished? = some latch) :
      ∃ old, system.runPoint? other = some old ∧ old.finished? = some latch := by
    rw [System.runPoint?_move hcall] at h
    split at h
    · rename_i heq
      rw [heq, System.runPoint?_of_calls hcall]
      exact howned point latch h hlatch
    · exact ⟨point, h, hlatch⟩
  exact
    { running := holds.running
      done := holds.done
      finished := holds.finished
      holder := by
        intro other hrun
        rw [System.runPoint?_move hcall]
        split
        · rename_i heq
          exact hholder (heq ▸ hrun)
        · exact holds.holder other hrun
      others := by
        intro other point h hrun
        rw [System.runPoint?_move hcall] at h
        split at h
        · rename_i heq
          exact hother (heq ▸ hrun) point h
        · exact holds.others other point h hrun
      started_lt := holds.started_lt
      released_lt := by
        intro latch hlatch
        rcases hreleased latch hlatch with h | h
        · exact holds.released_lt latch h
        · exact h.1
      owned_lt := by
        intro other point latch h hlatch
        obtain ⟨old, hold, hfinished⟩ := hbefore other point latch h hlatch
        exact holds.owned_lt other old latch hold hfinished
      done_lt := holds.done_lt
      done_waits := by
        intro latch hdone hlatch
        rcases hreleased latch hlatch with h | h
        · exact holds.done_waits latch hdone h
        · exact h.2 hdone
      done_unowned := by
        intro latch other point hdone h hlatch
        obtain ⟨old, hold, hfinished⟩ := hbefore other point latch h hlatch
        exact holds.done_unowned latch other old hdone hold hfinished }

theorem start {system : System} (holds : Holds system .idle) {number : Nat}
    (hcall : system.calls[number]? = some (.run .entering)) (events : List Event) :
    Holds (system.move number events system.controller.start
        (.run (.blocked system.controller.fresh (system.controller.fresh + 1))))
      (.running number system.controller.fresh (system.controller.fresh + 1)) := by
  obtain ⟨released, misused, hstart, hreleased⟩ := system.controller.start_eq
  have hold (latch : Latch) (hlatch : latch ∈ released) : latch < system.controller.fresh := by
    rcases hreleased latch hlatch with rfl | h
    · exact holds.started_lt
    · exact holds.released_lt latch h
  rw [hstart]
  exact
    { running := rfl
      done := rfl
      finished := rfl
      holder := by
        intro other hrun
        cases hrun
        rw [System.runPoint?_move hcall, if_pos rfl]
        exact ⟨_, rfl, .waits⟩
      others := by
        intro other point h hrun
        rw [System.runPoint?_move hcall] at h
        split at h
        · rename_i heq
          exact absurd (congrArg some heq.symm) hrun
        · exact holds.others other point h (by simp [Stage.run?])
      started_lt := Nat.lt_of_lt_of_le holds.started_lt (Nat.le_add_right _ 2)
      released_lt := fun latch h => Nat.lt_of_lt_of_le (hold latch h) (Nat.le_add_right _ 2)
      owned_lt := by
        intro other point latch h hlatch
        rw [System.runPoint?_move hcall] at h
        split at h
        · cases h
          cases hlatch
          exact Nat.lt_succ_self _
        · exact Nat.lt_of_lt_of_le (holds.owned_lt other point latch h hlatch)
            (Nat.le_add_right _ 2)
      done_lt := by
        intro latch hdone
        cases hdone
        exact Nat.lt_add_of_pos_right (by decide)
      done_waits := by
        intro latch hdone hlatch
        cases hdone
        exact Nat.lt_irrefl _ (hold _ hlatch)
      done_unowned := by
        intro latch other point hdone h hlatch
        cases hdone
        rw [System.runPoint?_move hcall] at h
        split at h
        · cases h
          exact absurd (Option.some.inj hlatch) (Nat.succ_ne_self _)
        · exact Nat.lt_irrefl _ (holds.owned_lt other point _ h hlatch) }

theorem quit {system : System} {run : Nat} {done finished : Latch}
    (holds : Holds system (.running run done finished)) {number : Nat} {call later : Call}
    (hcall : system.calls[number]? = some call) (hnotRun : call.runPoint? = none)
    (hlater : later.runPoint? = none) (events : List Event) :
    Holds (system.move number events (turnQuit system.controller) later)
      (.quitting run number finished) := by
  obtain ⟨released, misused, hturn, hreleased⟩ := turnQuit_eq holds.running holds.done
  have hpoint (other : Nat) (point : RunPoint)
      (h : (system.move number events (turnQuit system.controller) later).runPoint? other =
        some point) : system.runPoint? other = some point := by
    rw [System.runPoint?_move hcall] at h
    split at h
    · rw [hlater] at h
      exact absurd h (by simp)
    · exact h
  rw [hturn] at hpoint ⊢
  exact
    { running := rfl
      done := rfl
      finished := holds.finished
      holder := by
        intro other hrun
        cases hrun
        obtain ⟨point, hheld, hsuits⟩ := holds.holder run rfl
        rw [System.runPoint?_move hcall, if_neg ?_]
        · cases hsuits
          exact ⟨_, hheld, .told⟩
        · rintro rfl
          rw [System.runPoint?_of_calls hcall, hnotRun] at hheld
          exact absurd hheld (by simp)
      others := fun other point h hrun => holds.others other point (hpoint other point h) hrun
      started_lt := Nat.lt_succ_self _
      released_lt := by
        intro latch hlatch
        rcases hreleased latch hlatch with rfl | h
        · exact Nat.lt_succ_of_lt (holds.done_lt latch rfl)
        · exact Nat.lt_succ_of_lt (holds.released_lt latch h)
      owned_lt := fun other point latch h hlatch =>
        Nat.lt_succ_of_lt (holds.owned_lt other point latch (hpoint other point h) hlatch)
      done_lt := by simp [Stage.done?]
      done_waits := by simp [Stage.done?]
      done_unowned := by simp [Stage.done?] }

theorem advance {system : System} {stage : Stage} (holds : Holds system stage) (after : Stage)
    (later : RunPoint) {number : Nat} {point : RunPoint} {controller : Controller}
    (hcall : system.calls[number]? = some (.run point)) (hrun : stage.run? = some number)
    (hlatch : later.finished? = point.finished?)
    (hholder : ∀ other, after.run? = some other → other = number ∧ after.Suits later)
    (hother : after.run? ≠ some number → later.isActive = false)
    (hidle : stage.isRunning = false ∧ after.isRunning = false)
    (hdone : stage.done? = none ∧ after.done? = none)
    (hcontroller : controller = { system.controller with finished := after.finished? })
    (events : List Event) :
    Holds (system.move number events controller (.run later)) after := by
  subst hcontroller
  exact
    { running := by rw [hidle.2, ← hidle.1, ← holds.running]; rfl
      done := by rw [hdone.2, ← hdone.1, ← holds.done]; rfl
      finished := rfl
      holder := by
        intro other hheld
        obtain ⟨rfl, hsuits⟩ := hholder other hheld
        rw [System.runPoint?_move hcall, if_pos rfl]
        exact ⟨later, rfl, hsuits⟩
      others := by
        intro other standing h hfree
        rw [System.runPoint?_move hcall] at h
        split at h
        · rename_i heq
          cases h
          exact hother (heq ▸ hfree)
        · rename_i hne
          refine holds.others other standing h ?_
          rw [hrun]
          exact fun heq => hne (Option.some.inj heq).symm
      started_lt := holds.started_lt
      released_lt := holds.released_lt
      owned_lt := by
        intro other standing latch h hfinished
        rw [System.runPoint?_move hcall] at h
        split at h
        · cases h
          exact holds.owned_lt number point latch (System.runPoint?_of_calls hcall)
            (hlatch ▸ hfinished)
        · exact holds.owned_lt other standing latch h hfinished
      done_lt := by simp [hdone.2]
      done_waits := by simp [hdone.2]
      done_unowned := by simp [hdone.2] }

theorem quitting_of_released {system : System} {stage : Stage} (holds : Holds system stage)
    {number : Nat} {done finished : Latch}
    (hcall : system.calls[number]? = some (.run (.blocked done finished)))
    (htold : system.controller.isReleased done = true) :
    ∃ quit, stage = .quitting number quit finished := by
  obtain ⟨hrun, hsuits⟩ := holds.suits_of_isActive (System.runPoint?_of_calls hcall) rfl
  cases hsuits with
  | waits => exact absurd (List.contains_iff_mem.mp htold) (holds.done_waits done rfl)
  | @told run quit =>
    cases hrun
    exact ⟨quit, rfl⟩

theorem quitting_of_woken {system : System} {stage : Stage} (holds : Holds system stage)
    {number : Nat} {finished : Latch}
    (hcall : system.calls[number]? = some (.run (.woken finished))) :
    ∃ quit, stage = .quitting number quit finished := by
  obtain ⟨hrun, hsuits⟩ := holds.suits_of_isActive (System.runPoint?_of_calls hcall) rfl
  cases hsuits with
  | @woken run quit =>
    cases hrun
    exact ⟨quit, rfl⟩

theorem stopping_of_stopped {system : System} {stage : Stage} (holds : Holds system stage)
    {number : Nat} {finished : Latch}
    (hcall : system.calls[number]? = some (.run (.stopped finished))) :
    stage = .stopping number finished := by
  obtain ⟨hrun, hsuits⟩ := holds.suits_of_isActive (System.runPoint?_of_calls hcall) rfl
  cases hsuits with
  | stopped =>
    cases hrun
    rfl

theorem stage_eq_idle {system : System} {stage : Stage} (holds : Holds system stage)
    (hfree : system.controller.finished = none) : stage = .idle := by
  rw [holds.finished] at hfree
  cases stage with
  | idle => rfl
  | running run done finished => cases hfree
  | quitting run quit finished => cases hfree
  | stopping run finished => cases hfree

theorem stage_eq_running {system : System} {stage : Stage} (holds : Holds system stage)
    (hrunning : system.controller.running = true) :
    ∃ run done finished, stage = .running run done finished := by
  rw [holds.running] at hrunning
  cases stage with
  | idle => cases hrunning
  | running run done finished => exact ⟨run, done, finished, rfl⟩
  | quitting run quit finished => cases hrunning
  | stopping run finished => cases hrunning

theorem pass {system : System} {stage : Stage} (holds : Holds system stage) {number : Nat}
    {call later : Call} (hcall : system.calls[number]? = some call)
    (hbefore : call.runPoint?.any RunPoint.isActive = false)
    (hafter : later.runPoint?.any RunPoint.isActive = false)
    (hlatch : later.runPoint?.bind RunPoint.finished? = none) (events : List Event) :
    Holds (system.move number events system.controller later) stage := by
  have hnotHolder : stage.run? ≠ some number := by
    have hpoint := System.runPoint?_of_calls hcall
    cases hcase : call.runPoint? with
    | none => exact holds.not_holder_of_not_run (hpoint.trans hcase)
    | some point =>
      have hinactive : point.isActive = false := by simpa [hcase] using hbefore
      exact holds.not_holder_of_not_isActive (hpoint.trans hcase) hinactive
  refine holds.stay hcall events _ _ (fun _ h => Or.inl h) (fun h => absurd h hnotHolder) ?_ ?_
  · intro _ point h
    simpa [h] using hafter
  · intro point latch h hfinished
    have hnone : point.finished? = none := by simpa [h] using hlatch
    rw [hnone] at hfinished
    exact absurd hfinished (by simp)

end Holds

/-- The stage of the loop and the hooks called so far agree. -/
structure Tracks (system : System) (rounds : List (Nat × Nat)) (stage : Stage) : Prop where
  holds : Holds system stage
  logged : Logged system.history rounds stage.turn

namespace Tracks

theorem quit {system : System} {rounds : List (Nat × Nat)} {stage : Stage}
    (tracks : Tracks system rounds stage) {number : Nat} {call later : Call}
    (hcall : system.calls[number]? = some call) (hnotRun : call.runPoint? = none)
    (hlater : later.runPoint? = none) (hnew : (number, .quit true) ∉ system.history) :
    ∃ rounds stage, Tracks (system.move number [.quit system.controller.running]
      (turnQuit system.controller) later) rounds stage := by
  cases hrunning : system.controller.running with
  | true =>
    obtain ⟨run, done, finished, rfl⟩ := tracks.holds.stage_eq_running hrunning
    exact ⟨rounds, .quitting run number finished,
      tracks.holds.quit hcall hnotRun hlater _, tracks.logged.tell number hnew⟩
  | false =>
    rw [turnQuit_of_idle hrunning]
    refine ⟨rounds, stage, tracks.holds.pass hcall ?_ ?_ ?_ _, tracks.logged.idle number ?_⟩
    · rw [hnotRun]; rfl
    · rw [hlater]; rfl
    · rw [hlater]; rfl
    · rw [stage.isUntold_turn, ← tracks.holds.running, hrunning]

theorem step {system : System} {rounds : List (Nat × Nat)} {stage : Stage}
    (tracks : Tracks system rounds stage) (reachable : system.Reachable) {number : Nat}
    {call later : Call} {events : List Event} {controller : Controller}
    (hcall : system.calls[number]? = some call)
    (hstep : CallStep system.controller call events controller later) :
    ∃ rounds stage, Tracks (system.move number events controller later) rounds stage := by
  obtain ⟨holds, logged⟩ := tracks
  have hhistory (event : Event) (hevent : event.isOfWait = false) :
      (number, event) ∈ system.history ↔ event ∈ call.told := by
    rw [reachable.mem_history_iff hevent, hcall]
    simp
  cases hstep with
  | refuse hrunning =>
    exact ⟨rounds, stage, holds.pass hcall rfl rfl rfl _, logged.aside number rfl (by decide)⟩
  | queue hidle htaken =>
    exact ⟨rounds, stage, holds.pass hcall rfl rfl rfl _, by simpa [System.move] using logged⟩
  | start hidle hfree =>
    obtain rfl := holds.stage_eq_idle hfree
    exact ⟨rounds, _, holds.start hcall _,
      logged.start number (by simp [hhistory .start rfl, Call.told])⟩
  | retry hover =>
    exact ⟨rounds, stage, holds.pass hcall rfl rfl rfl _, by simpa [System.move] using logged⟩
  | @wake done finished htold =>
    obtain ⟨quit, rfl⟩ := holds.quitting_of_released hcall htold
    refine ⟨rounds, .quitting number quit finished, ?_, by simpa [System.move] using logged⟩
    refine holds.stay hcall [] _ _ (fun _ h => Or.inl h) (fun _ => ⟨_, rfl, .woken⟩)
      (fun hother => absurd rfl hother) ?_
    rintro point latch ⟨⟩ hlatch
    exact ⟨_, rfl, hlatch⟩
  | @stop finished =>
    obtain ⟨quit, rfl⟩ := holds.quitting_of_woken hcall
    refine ⟨rounds ++ [(number, quit)], .stopping number finished, ?_, logged.stop⟩
    have hfinished : system.controller.finished = some finished := holds.finished
    refine holds.advance (.stopping number finished) (.stopped finished) hcall rfl rfl ?_
      (fun h => absurd rfl h) ⟨rfl, rfl⟩ ⟨rfl, rfl⟩ ?_ _
    · rintro other ⟨⟩; exact ⟨rfl, .stopped⟩
    · change system.controller = { system.controller with finished := some finished }
      rw [← hfinished]
  | @clear finished =>
    obtain rfl := holds.stopping_of_stopped hcall
    refine ⟨rounds, .idle, ?_, by simpa [System.move, Stage.turn] using logged⟩
    have hfinished : system.controller.finished = some finished := holds.finished
    refine holds.advance .idle (.cleared finished) hcall rfl rfl ?_ (fun _ => rfl)
      ⟨rfl, rfl⟩ ⟨rfl, rfl⟩ ?_ _
    · rintro other ⟨⟩
    · unfold Controller.clear
      rw [if_pos hfinished]
      rfl
  | @finish finished =>
    obtain ⟨released, misused, hrelease, hreleased⟩ :=
      system.controller.release_eq finished
    have hpoint := System.runPoint?_of_calls hcall
    have hnotHolder := holds.not_holder_of_not_isActive hpoint rfl
    rw [hrelease]
    refine ⟨rounds, stage, ?_, logged.finish number (by simp [hhistory .stop rfl, Call.told])⟩
    refine holds.stay hcall _ _ _ (fun latch h => ?_) (fun h => absurd h hnotHolder) ?_ ?_
    · rcases hreleased latch h with rfl | h
      · exact Or.inr ⟨holds.owned_lt number _ latch hpoint rfl,
          fun hdone => holds.done_unowned latch number _ hdone hpoint rfl⟩
      · exact Or.inl h
    · rintro - point ⟨⟩; rfl
    · rintro point latch ⟨⟩ ⟨⟩
  | quit =>
    exact Tracks.quit ⟨holds, logged⟩ hcall rfl rfl (by simp [hhistory (.quit true) rfl, Call.told])
  | timedQuit =>
    exact Tracks.quit ⟨holds, logged⟩ hcall rfl rfl (by simp [hhistory (.quit true) rfl, Call.told])
  | aside hpatient hlater hevents =>
    refine ⟨rounds, stage, holds.pass hcall ?_ ?_ ?_ _, ?_⟩
    · rw [call.isPatient_runPoint? hpatient]; rfl
    · rw [later.isPatient_runPoint? hlater]; rfl
    · rw [later.isPatient_runPoint? hlater]; rfl
    · exact logged.asides number events hevents

end Tracks

theorem System.Reachable.tracks {system : System} (reachable : system.Reachable) :
    ∃ rounds stage, Tracks system rounds stage := by
  induction reachable with
  | initial => exact ⟨[], .idle, Holds.initial, Logged.nil⟩
  | act action reachable hact ih =>
    obtain ⟨rounds, stage, tracks⟩ := ih
    obtain ⟨call, hnew, rfl⟩ | ⟨number, call, events, controller, later, hcall, hstep, rfl⟩ :=
      System.act?_cases hact
    · exact ⟨rounds, stage, tracks.holds.add hnew, tracks.logged⟩
    · exact tracks.step reachable hcall hstep

end HeadlessDesktop.Loop
