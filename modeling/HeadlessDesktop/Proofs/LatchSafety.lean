import HeadlessDesktop.Proofs.LoopStages

/-! Latches of the loop. Each is released once, by the one call that has it to release, and
whoever waits at a latch has someone who will release it. So an idle loop never hangs: a run
or a quit that is not over can go on, or waits for a run that can. -/
namespace HeadlessDesktop.Loop

def Call.isOver : Call → Bool
  | .run .returned | .run .refused => true
  | .quit (.returned _) => true
  | .wait .passed | .wait .gaveUp => true
  | .timed (.returned _) | .timed .cancelled => true
  | _ => false

def Call.isWait : Call → Bool
  | .wait _ | .timed (.waiting _) | .timed .counting => true
  | _ => false

def RunPoint.WokenOrRunning (controller : Controller) : RunPoint → Prop
  | .blocked done _ =>
    controller.isReleased done = true ∨ controller.running = true ∧ controller.done = some done
  | .woken _ | .stopped _ | .cleared _ => True
  | _ => False

/-- The latch that a call is to release when it is over. -/
def Call.owned? (call : Call) : Option Latch := call.runPoint?.bind RunPoint.finished?

namespace System

def owned? (system : System) (number : Nat) : Option Latch :=
  (system.runPoint? number).bind RunPoint.finished?

theorem owned?_of_calls {system : System} {number : Nat} {call : Call}
    (h : system.calls[number]? = some call) : system.owned? number = call.owned? := by
  unfold owned? Call.owned?
  rw [runPoint?_of_calls h]

theorem owned?_move {system : System} {number : Nat} {call : Call}
    (hcall : system.calls[number]? = some call) (events : List Event) (controller : Controller)
    (later : Call) (other : Nat) :
    (system.move number events controller later).owned? other =
      if other = number then later.owned? else system.owned? other := by
  unfold owned?
  rw [runPoint?_move hcall]
  split <;> rfl

theorem owned?_move_of_eq {system : System} {number : Nat} {call later : Call}
    (hcall : system.calls[number]? = some call) (howned : later.owned? = call.owned?)
    (events : List Event) (controller : Controller) (other : Nat) :
    (system.move number events controller later).owned? other = system.owned? other := by
  rw [owned?_move hcall]
  split
  · rename_i heq
    rw [howned, heq, owned?_of_calls hcall]
  · rfl

theorem owned?_add {system : System} {call : Call} (hnew : call.isNew = true) (other : Nat) :
    (system.add call).owned? other = system.owned? other := by
  unfold owned?
  rw [runPoint?_add]
  split
  · rename_i heq
    have hnone : system.runPoint? other = none := by simp [runPoint?, heq]
    rw [hnone]
    cases hpoint : call.runPoint? with
    | none => rfl
    | some point => rw [call.isNew_runPoint? hnew hpoint]; rfl
  · rfl

end System

/-- What is true of the latches at every step: none was misused, the start latch is released
while the loop runs, and those who wait have someone to wait for. -/
structure Latched (system : System) : Prop where
  sound : system.controller.misused = false
  nodup : system.controller.released.Nodup
  started_iff : system.controller.started ∈ system.controller.released ↔
    system.controller.running = true
  started_unowned : ∀ number, system.owned? number ≠ some system.controller.started
  owned_shut : ∀ number latch, system.owned? number = some latch →
    latch ∉ system.controller.released
  owned_inj : ∀ number other latch, system.owned? number = some latch →
    system.owned? other = some latch → number = other
  blocked : ∀ number done finished, system.runPoint? number = some (.blocked done finished) →
    done ∈ system.controller.released ∨ system.controller.done = some done
  behind : ∀ number previous, system.runPoint? number = some (.behind previous) →
    previous ∈ system.controller.released ∨ ∃ owner, system.owned? owner = some previous

theorem Controller.release_of_not_mem {controller : Controller} {latch : Latch}
    (hshut : latch ∉ controller.released) :
    controller.release (some latch) =
      { controller with released := latch :: controller.released } := by
  have hfalse : controller.isReleased latch = false := by simpa [isReleased] using hshut
  simp [release, hfalse]

namespace Holds

theorem lt_fresh_of_owned? {system : System} {stage : Stage} (holds : Holds system stage)
    {number : Nat} {latch : Latch} (howned : system.owned? number = some latch) :
    latch < system.controller.fresh := by
  obtain ⟨point, hpoint, hlatch⟩ := Option.bind_eq_some_iff.mp howned
  exact holds.owned_lt number point latch hpoint hlatch

theorem done_eq_none {system : System} {stage : Stage} (holds : Holds system stage)
    (hidle : system.controller.running = false) : system.controller.done = none := by
  have hrunning := holds.running
  rw [hidle] at hrunning
  rw [holds.done]
  cases stage with
  | running run done finished => contradiction
  | idle => rfl
  | quitting run quit finished => rfl
  | stopping run finished => rfl

/-- Whoever holds the latch that new runs go behind is a run that will release it. -/
theorem exists_owner {system : System} {stage : Stage} (holds : Holds system stage)
    {previous : Latch} (htaken : system.controller.finished = some previous) :
    ∃ owner, system.owned? owner = some previous := by
  have hstage := holds.finished
  rw [htaken] at hstage
  cases hrun : stage.run? with
  | none =>
    cases stage with
    | idle => contradiction
    | running run done finished => contradiction
    | quitting run quit finished => contradiction
    | stopping run finished => contradiction
  | some owner =>
    obtain ⟨point, hpoint, hsuits⟩ := holds.holder owner hrun
    refine ⟨owner, ?_⟩
    unfold System.owned?
    rw [hpoint, hstage]
    cases hsuits with
    | waits => rfl
    | told => rfl
    | woken => rfl
    | stopped => rfl

end Holds

namespace Latched

theorem initial : Latched {} where
  sound := rfl
  nodup := List.nodup_nil
  started_iff := by simp
  started_unowned := by simp [System.owned?, System.runPoint?]
  owned_shut := by simp
  owned_inj := by simp [System.owned?, System.runPoint?]
  blocked := by simp [System.runPoint?]
  behind := by simp [System.runPoint?]

theorem add {system : System} (latched : Latched system) {call : Call}
    (hnew : call.isNew = true) : Latched (system.add call) := by
  have hpoint (number : Nat) (point : RunPoint) (hleft : point ≠ .entering)
      (h : (system.add call).runPoint? number = some point) :
      system.runPoint? number = some point := by
    rw [System.runPoint?_add] at h
    split at h
    · exact absurd (call.isNew_runPoint? hnew h) hleft
    · exact h
  have howned (number : Nat) : (system.add call).owned? number = system.owned? number :=
    System.owned?_add hnew number
  exact
    { sound := latched.sound
      nodup := latched.nodup
      started_iff := latched.started_iff
      started_unowned := fun number h =>
        latched.started_unowned number ((howned number).symm.trans h)
      owned_shut := fun number latch h =>
        latched.owned_shut number latch ((howned number).symm.trans h)
      owned_inj := by simpa only [howned] using latched.owned_inj
      blocked := fun number done finished h =>
        latched.blocked number done finished (hpoint number _ (by simp) h)
      behind := by
        intro number previous h
        simp only [howned]
        exact latched.behind number previous (hpoint number _ (by simp) h) }

theorem keep {system : System} (latched : Latched system) {number : Nat} {call later : Call}
    (hcall : system.calls[number]? = some call) (events : List Event) (finished : Option Latch)
    (howned : later.owned? = call.owned?)
    (hblocked : ∀ done finished, later.runPoint? ≠ some (.blocked done finished))
    (hbehind : ∀ previous, later.runPoint? = some (.behind previous) →
      ∃ owner, system.owned? owner = some previous) :
    Latched (system.move number events { system.controller with finished } later) := by
  have hsame (other : Nat) := System.owned?_move_of_eq hcall howned events
    { system.controller with finished } other
  exact
    { sound := latched.sound
      nodup := latched.nodup
      started_iff := latched.started_iff
      started_unowned := fun other h =>
        latched.started_unowned other ((hsame other).symm.trans h)
      owned_shut := fun other latch h =>
        latched.owned_shut other latch ((hsame other).symm.trans h)
      owned_inj := by simpa only [hsame] using latched.owned_inj
      blocked := by
        intro other done finished h
        rw [System.runPoint?_move hcall] at h
        split at h
        · exact absurd h (hblocked done finished)
        · exact latched.blocked other done finished h
      behind := by
        intro other previous h
        simp only [hsame]
        rw [System.runPoint?_move hcall] at h
        split at h
        · exact Or.inr (hbehind previous h)
        · exact latched.behind other previous h }

theorem start {system : System} {stage : Stage} (latched : Latched system)
    (holds : Holds system stage) (hidle : system.controller.running = false) {number : Nat}
    (hcall : system.calls[number]? = some (.run .entering)) (events : List Event) :
    Latched (system.move number events system.controller.start
      (.run (.blocked system.controller.fresh (system.controller.fresh + 1)))) := by
  have hshut : system.controller.started ∉ system.controller.released := by
    rw [latched.started_iff, hidle]
    simp
  have hstart : system.controller.start =
      { system.controller with
        running := true
        done := some system.controller.fresh
        finished := some (system.controller.fresh + 1)
        fresh := system.controller.fresh + 2
        released := system.controller.started :: system.controller.released } :=
    Controller.release_of_not_mem hshut
  have hstarted := holds.started_lt
  have howned (other : Nat) (latch : Latch)
      (h : (system.move number events system.controller.start
        (.run (.blocked system.controller.fresh (system.controller.fresh + 1)))).owned? other =
          some latch) :
      other = number ∧ latch = system.controller.fresh + 1 ∨
        other ≠ number ∧ system.owned? other = some latch := by
    rw [System.owned?_move hcall] at h
    split at h
    · rename_i heq
      exact Or.inl ⟨heq, (Option.some.inj h).symm⟩
    · rename_i hne
      exact Or.inr ⟨hne, h⟩
  rw [hstart] at howned ⊢
  exact
    { sound := latched.sound
      nodup := List.nodup_cons.mpr ⟨hshut, latched.nodup⟩
      started_iff := by simp [System.move]
      started_unowned := by
        intro other h
        rcases howned other _ h with ⟨-, heq⟩ | ⟨-, h⟩
        · exact Nat.ne_of_lt (Nat.lt_succ_of_lt hstarted) heq
        · exact latched.started_unowned other h
      owned_shut := by
        intro other latch h hmem
        have hcases : latch = system.controller.started ∨ latch ∈ system.controller.released :=
          List.mem_cons.mp hmem
        rcases howned other latch h with ⟨-, rfl⟩ | ⟨-, h⟩
        · rcases hcases with heq | hmem
          · exact Nat.ne_of_gt (Nat.lt_succ_of_lt hstarted) heq
          · exact Nat.not_succ_lt_self (holds.released_lt _ hmem)
        · rcases hcases with rfl | hmem
          · exact latched.started_unowned other h
          · exact latched.owned_shut other latch h hmem
      owned_inj := by
        intro one other latch hone hother
        rcases howned one latch hone with ⟨rfl, rfl⟩ | ⟨-, hone⟩
        · rcases howned other _ hother with ⟨rfl, -⟩ | ⟨-, hother⟩
          · rfl
          · exact absurd (holds.lt_fresh_of_owned? hother) Nat.not_succ_lt_self
        · rcases howned other latch hother with ⟨-, rfl⟩ | ⟨-, hother⟩
          · exact absurd (holds.lt_fresh_of_owned? hone) Nat.not_succ_lt_self
          · exact latched.owned_inj one other latch hone hother
      blocked := by
        intro other done finished h
        rw [System.runPoint?_move hcall] at h
        split at h
        · cases h
          exact Or.inr rfl
        · have hnone := holds.done_eq_none hidle
          have hdone := latched.blocked other done finished h
          rw [hnone] at hdone
          exact Or.inl (List.mem_cons_of_mem _ (hdone.resolve_right (by simp)))
      behind := by
        intro other previous h
        rw [System.runPoint?_move hcall] at h
        split at h
        · cases h
        · rcases latched.behind other previous h with hmem | ⟨owner, howner⟩
          · exact Or.inl (List.mem_cons_of_mem _ hmem)
          · refine Or.inr ⟨owner, ?_⟩
            rw [System.owned?_move hcall, if_neg ?_, howner]
            rintro rfl
            rw [System.owned?_of_calls hcall] at howner
            cases howner }

theorem finish {system : System} (latched : Latched system) {number : Nat} {finished : Latch}
    (hcall : system.calls[number]? = some (.run (.cleared finished))) (events : List Event) :
    Latched (system.move number events (system.controller.release (some finished))
      (.run .returned)) := by
  have hmine : system.owned? number = some finished := System.owned?_of_calls hcall
  have hshut := latched.owned_shut number finished hmine
  have hstarted : system.controller.started ≠ finished := by
    intro heq
    exact latched.started_unowned number (heq ▸ hmine)
  have howned (other : Nat) (latch : Latch)
      (h : (system.move number events (system.controller.release (some finished))
        (.run .returned)).owned? other = some latch) :
      other ≠ number ∧ system.owned? other = some latch := by
    rw [System.owned?_move hcall] at h
    split at h
    · cases h
    · rename_i hne
      exact ⟨hne, h⟩
  rw [Controller.release_of_not_mem hshut] at howned ⊢
  exact
    { sound := latched.sound
      nodup := List.nodup_cons.mpr ⟨hshut, latched.nodup⟩
      started_iff := by
        change system.controller.started ∈ finished :: system.controller.released ↔ _
        rw [List.mem_cons, or_iff_right hstarted]
        exact latched.started_iff
      started_unowned := fun other h => latched.started_unowned other (howned other _ h).2
      owned_shut := by
        intro other latch h hmem
        obtain ⟨hne, hbefore⟩ := howned other latch h
        rcases List.mem_cons.mp hmem with heq | hmem
        · exact hne (latched.owned_inj other number latch hbefore (heq ▸ hmine))
        · exact latched.owned_shut other latch hbefore hmem
      owned_inj := fun one other latch hone hother =>
        latched.owned_inj one other latch (howned one latch hone).2 (howned other latch hother).2
      blocked := by
        intro other done finished h
        rw [System.runPoint?_move hcall] at h
        split at h
        · cases h
        · exact (latched.blocked other done finished h).imp_left (List.mem_cons_of_mem _)
      behind := by
        intro other previous h
        rw [System.runPoint?_move hcall] at h
        split at h
        · cases h
        · rcases latched.behind other previous h with hmem | ⟨owner, howner⟩
          · exact Or.inl (List.mem_cons_of_mem _ hmem)
          · by_cases heq : owner = number
            · rw [heq, hmine] at howner
              exact Or.inl (Option.some.inj howner ▸ List.mem_cons_self)
            · refine Or.inr ⟨owner, ?_⟩
              rw [System.owned?_move hcall, if_neg heq, howner] }

theorem quit {system : System} {run : Nat} {done finished : Latch} (latched : Latched system)
    (holds : Holds system (.running run done finished)) {number : Nat} {call later : Call}
    (hcall : system.calls[number]? = some call) (hnotRun : call.runPoint? = none)
    (hlater : later.runPoint? = none) (events : List Event) :
    Latched (system.move number events (turnQuit system.controller) later) := by
  have hdone : system.controller.done = some done := holds.done
  have hshut := holds.done_waits done rfl
  have hdone_lt := holds.done_lt done rfl
  have hturn : turnQuit system.controller =
      { system.controller with
        running := false
        done := none
        started := system.controller.fresh
        fresh := system.controller.fresh + 1
        released := done :: system.controller.released } := by
    have hrunning : system.controller.running = true := holds.running
    have hrelease := Controller.release_of_not_mem
      (show done ∉ { system.controller with running := false }.released from hshut)
    unfold turnQuit
    rw [if_pos hrunning, hdone]
    simp only [hdone] at hrelease
    rw [hrelease]
  have hnone : later.owned? = call.owned? := by rw [Call.owned?, Call.owned?, hnotRun, hlater]
  have howned (other : Nat) := System.owned?_move_of_eq hcall hnone events
    (turnQuit system.controller) other
  have hpoint (other : Nat) (point : RunPoint)
      (h : (system.move number events (turnQuit system.controller) later).runPoint? other =
        some point) : system.runPoint? other = some point := by
    rw [System.runPoint?_move hcall] at h
    split at h
    · rw [hlater] at h
      cases h
    · exact h
  rw [hturn] at howned hpoint ⊢
  exact
    { sound := latched.sound
      nodup := List.nodup_cons.mpr ⟨hshut, latched.nodup⟩
      started_iff := by
        change system.controller.fresh ∈ done :: system.controller.released ↔ false = true
        have hfresh : system.controller.fresh ∉ system.controller.released :=
          fun hmem => Nat.lt_irrefl _ (holds.released_lt _ hmem)
        simp [hfresh, Nat.ne_of_gt hdone_lt]
      started_unowned := by
        intro other h
        rw [howned] at h
        exact Nat.lt_irrefl _ (holds.lt_fresh_of_owned? h)
      owned_shut := by
        intro other latch h hmem
        rw [howned] at h
        rcases List.mem_cons.mp hmem with rfl | hmem
        · obtain ⟨point, hpoint, hlatch⟩ := Option.bind_eq_some_iff.mp h
          exact holds.done_unowned latch other point rfl hpoint hlatch
        · exact latched.owned_shut other latch h hmem
      owned_inj := by simpa only [howned] using latched.owned_inj
      blocked := by
        intro other latch finished h
        have hbefore := latched.blocked other latch finished (hpoint other _ h)
        rw [hdone, Option.some.injEq] at hbefore
        exact Or.inl (List.mem_cons.mpr (hbefore.symm.imp_left Eq.symm))
      behind := by
        intro other previous h
        simp only [howned]
        exact (latched.behind other previous (hpoint other _ h)).imp_left
          (List.mem_cons_of_mem _) }

theorem turn {system : System} {stage : Stage} (latched : Latched system)
    (holds : Holds system stage) {number : Nat} {call later : Call}
    (hcall : system.calls[number]? = some call) (hnotRun : call.runPoint? = none)
    (hlater : later.runPoint? = none) (events : List Event) :
    Latched (system.move number events (turnQuit system.controller) later) := by
  cases hrunning : system.controller.running with
  | true =>
    obtain ⟨run, done, finished, rfl⟩ := holds.stage_eq_running hrunning
    exact latched.quit holds hcall hnotRun hlater events
  | false =>
    rw [turnQuit_of_idle hrunning]
    refine latched.keep hcall events system.controller.finished ?_ ?_ ?_
    · rw [Call.owned?, Call.owned?, hnotRun, hlater]
    · simp [hlater]
    · simp [hlater]

theorem step {system : System} {stage : Stage} (latched : Latched system)
    (holds : Holds system stage) {number : Nat} {call later : Call} {events : List Event}
    {controller : Controller} (hcall : system.calls[number]? = some call)
    (hstep : CallStep system.controller call events controller later) :
    Latched (system.move number events controller later) := by
  cases hstep with
  | refuse hrunning => exact latched.keep hcall _ _ rfl (by simp [Call.runPoint?]) nofun
  | queue hidle htaken =>
    refine latched.keep hcall _ _ rfl (by simp [Call.runPoint?]) ?_
    rintro previous ⟨⟩
    exact holds.exists_owner htaken
  | start hidle hfree => exact latched.start holds hidle hcall _
  | retry hover => exact latched.keep hcall _ _ rfl (by simp [Call.runPoint?]) nofun
  | wake htold => exact latched.keep hcall _ _ rfl (by simp [Call.runPoint?]) nofun
  | stop => exact latched.keep hcall _ _ rfl (by simp [Call.runPoint?]) nofun
  | @clear finished =>
    obtain rfl := holds.stopping_of_stopped hcall
    have hfinished : system.controller.finished = some finished := holds.finished
    unfold Controller.clear
    rw [if_pos hfinished]
    exact latched.keep hcall _ none rfl (by simp [Call.runPoint?]) nofun
  | finish => exact latched.finish hcall _
  | quit => exact latched.turn holds hcall rfl rfl _
  | timedQuit => exact latched.turn holds hcall rfl rfl _
  | aside hpatient hlater hevents =>
    have hnone := call.isPatient_runPoint? hpatient
    have hlaterNone := later.isPatient_runPoint? hlater
    refine latched.keep hcall _ system.controller.finished ?_ ?_ ?_
    · rw [Call.owned?, Call.owned?, hnone, hlaterNone]
    · simp [hlaterNone]
    · simp [hlaterNone]

end Latched

theorem System.Reachable.latched {system : System} (reachable : system.Reachable) :
    Latched system := by
  induction reachable with
  | initial => exact Latched.initial
  | act action reachable hact latched =>
    obtain ⟨rounds, stage, tracks⟩ := reachable.tracks
    obtain ⟨call, hnew, rfl⟩ | ⟨number, call, events, controller, later, hcall, hstep, rfl⟩ :=
      System.act?_cases hact
    · exact latched.add hnew
    · exact latched.step tracks.holds hcall hstep

theorem RunPoint.isSome_stepRun {controller : Controller} {point : RunPoint}
    (hidle : controller.running = false) (h : point.WokenOrRunning controller) :
    (stepRun controller point).isSome = true := by
  cases point with
  | blocked done finished =>
    have hreleased : controller.isReleased done = true := by
      rcases h with h | ⟨hrunning, -⟩
      · exact h
      · rw [hidle] at hrunning
        contradiction
    simp [stepRun, hreleased]
  | woken finished => rfl
  | stopped finished => rfl
  | cleared finished => rfl
  | entering => cases h
  | behind previous => cases h
  | returned => cases h
  | refused => cases h

namespace System

theorem isSome_step? {system : System} {number : Nat} {call : Call}
    (hcall : system.calls[number]? = some call)
    (hstep : (stepCall system.controller call).isSome = true) :
    (system.step? number).isSome = true := by
  obtain ⟨result, hresult⟩ := Option.isSome_iff_exists.mp hstep
  simp [step?, hcall, hresult]

theorem isSome_step?_of_run {system : System} {number : Nat} {point : RunPoint}
    (hcall : system.calls[number]? = some (.run point))
    (hstep : (stepRun system.controller point).isSome = true) :
    (system.step? number).isSome = true := by
  apply isSome_step? hcall
  simpa [stepCall] using hstep

theorem calls_of_runPoint? {system : System} {number : Nat} {point : RunPoint}
    (h : system.runPoint? number = some point) : system.calls[number]? = some (.run point) := by
  obtain ⟨call, hcall, hpoint⟩ := Option.bind_eq_some_iff.mp h
  cases call with
  | run standing =>
    cases hpoint
    exact hcall
  | quit standing => cases hpoint
  | wait standing => cases hpoint
  | timed standing => cases hpoint

theorem Reachable.wokenOrRunning {system : System} (reachable : system.Reachable) {number : Nat}
    {point : RunPoint} (hpoint : system.runPoint? number = some point)
    (howned : point.finished?.isSome = true) : point.WokenOrRunning system.controller := by
  cases point with
  | blocked done finished =>
    rcases reachable.latched.blocked number done finished hpoint with hmem | hdone
    · exact Or.inl (List.contains_iff_mem.mpr hmem)
    · obtain ⟨rounds, stage, tracks⟩ := reachable.tracks
      cases hrunning : system.controller.running with
      | true => exact Or.inr ⟨hrunning, hdone⟩
      | false =>
        rw [tracks.holds.done_eq_none hrunning] at hdone
        cases hdone
  | woken finished => trivial
  | stopped finished => trivial
  | cleared finished => trivial
  | entering => cases howned
  | behind previous => cases howned
  | returned => cases howned
  | refused => cases howned

theorem Reachable.exists_owner {system : System} (reachable : system.Reachable) {number : Nat}
    {previous : Latch} (hcall : system.calls[number]? = some (.run (.behind previous))) :
    system.controller.isReleased previous = true ∨
      ∃ owner point, system.calls[owner]? = some (.run point) ∧
        point.finished? = some previous ∧ point.WokenOrRunning system.controller ∧
        ∀ other, system.owned? other = some previous → other = owner := by
  rcases reachable.latched.behind number previous (runPoint?_of_calls hcall) with
    hmem | ⟨owner, howner⟩
  · exact Or.inl (List.contains_iff_mem.mpr hmem)
  · obtain ⟨point, hpoint, hfinished⟩ := Option.bind_eq_some_iff.mp howner
    refine Or.inr ⟨owner, point, calls_of_runPoint? hpoint, hfinished, ?_, ?_⟩
    · exact reachable.wokenOrRunning hpoint (by rw [hfinished]; rfl)
    · exact fun other hother => reachable.latched.owned_inj other owner previous hother howner

theorem Reachable.run_goes_on {system : System} (reachable : system.Reachable)
    (hidle : system.controller.running = false) {number : Nat} {point : RunPoint}
    (hcall : system.calls[number]? = some (.run point))
    (hpending : (Call.run point).isOver = false) :
    ∃ other later, system.calls[other]? = some (.run later) ∧
      (system.step? other).isSome = true := by
  have hpoint : system.runPoint? number = some point := runPoint?_of_calls hcall
  have hawake (howned : point.finished?.isSome = true) :
      ∃ other later, system.calls[other]? = some (.run later) ∧
        (system.step? other).isSome = true :=
    ⟨number, point, hcall, isSome_step?_of_run hcall
      (RunPoint.isSome_stepRun hidle (reachable.wokenOrRunning hpoint howned))⟩
  cases point with
  | entering => exact ⟨number, _, hcall, isSome_step?_of_run hcall rfl⟩
  | behind previous =>
    rcases reachable.exists_owner hcall with hreleased | ⟨owner, later, howner, -, hwoken, -⟩
    · exact ⟨number, _, hcall, isSome_step?_of_run hcall (by simp [stepRun, hreleased])⟩
    · exact ⟨owner, later, howner,
        isSome_step?_of_run howner (RunPoint.isSome_stepRun hidle hwoken)⟩
  | blocked done finished => exact hawake rfl
  | woken finished => exact hawake rfl
  | stopped finished => exact hawake rfl
  | cleared finished => exact hawake rfl
  | returned => cases hpending
  | refused => cases hpending

theorem Reachable.goes_on {system : System} (reachable : system.Reachable)
    (hidle : system.controller.running = false) {number : Nat} {call : Call}
    (hcall : system.calls[number]? = some call) (hpending : call.isOver = false)
    (hactive : call.isWait = false) :
    ∃ other later, system.calls[other]? = some later ∧ later.isWait = false ∧
      (system.step? other).isSome = true := by
  cases call with
  | run point =>
    obtain ⟨other, later, hother, hstep⟩ := reachable.run_goes_on hidle hcall hpending
    exact ⟨other, .run later, hother, rfl, hstep⟩
  | quit point =>
    cases point with
    | entering => exact ⟨number, _, hcall, rfl, isSome_step? hcall rfl⟩
    | returned sawRunning => cases hpending
  | wait point => cases hactive
  | timed point =>
    cases point with
    | waiting wait => cases hactive
    | counting => cases hactive
    | due => exact ⟨number, _, hcall, rfl, isSome_step? hcall rfl⟩
    | returned sawRunning => cases hpending
    | cancelled => cases hpending

/-- In every interleaving no latch is released twice or without being there, a run that has
stopped finds its own latch in place, a run behind another has one that will let it go on, and
an idle loop with more than waits to come can take a step. -/
theorem Reachable.latches_safe {system : System} (reachable : system.Reachable) :
    (system.controller.misused = false ∧ system.controller.released.Nodup) ∧
    (∀ (number : Nat) finished, system.calls[number]? = some (.run (.stopped finished)) →
      system.controller.finished = some finished) ∧
    (∀ (number : Nat) previous, system.calls[number]? = some (.run (.behind previous)) →
      system.controller.isReleased previous = true ∨
        ∃ owner point, system.calls[owner]? = some (.run point) ∧
          point.finished? = some previous ∧ point.WokenOrRunning system.controller ∧
          ∀ other, system.owned? other = some previous → other = owner) ∧
    (system.controller.running = false →
      (∀ (number : Nat) call, system.calls[number]? = some call → call.isOver = false →
        call.isWait = true) ∨
      ∃ number call, system.calls[number]? = some call ∧ call.isWait = false ∧
        (system.step? number).isSome = true) := by
  refine ⟨⟨reachable.latched.sound, reachable.latched.nodup⟩, ?_, ?_, ?_⟩
  · intro number finished hcall
    obtain ⟨rounds, stage, tracks⟩ := reachable.tracks
    obtain rfl := tracks.holds.stopping_of_stopped hcall
    exact tracks.holds.finished
  · intro number previous hcall
    exact reachable.exists_owner hcall
  · intro hidle
    by_cases hmore : ∃ (number : Nat) (call : Call), system.calls[number]? = some call ∧
        call.isOver = false ∧ call.isWait = false
    · obtain ⟨number, call, hcall, hpending, hactive⟩ := hmore
      exact Or.inr (reachable.goes_on hidle hcall hpending hactive)
    · refine Or.inl fun number call hcall hpending => ?_
      cases hwait : call.isWait with
      | true => rfl
      | false => exact absurd ⟨number, call, hcall, hpending, hwait⟩ hmore

def queued : System where
  controller :=
    { started := 3
      finished := some 2
      fresh := 4
      released := [1, 0] }
  calls :=
    [.run (.blocked 1 2), .quit (.returned true), .run (.behind 2), .wait (.watching 3)]
  history := [(0, .start), (1, .quit true), (3, .watching)]

theorem queued_reachable : queued.Reachable :=
  Reachable.initial.follow?
    [.run, .step 0, .quit, .step 1, .run, .step 2, .wait, .step 3] rfl

theorem queued_latches_safe :
    queued.controller.misused = false ∧
    (∃ owner point, queued.calls[owner]? = some (.run point) ∧ point.finished? = some 2 ∧
      point.WokenOrRunning queued.controller ∧
      ∀ other, queued.owned? other = some 2 → other = owner) ∧
    ∃ number call, queued.calls[number]? = some call ∧ call.isWait = false ∧
      (queued.step? number).isSome = true := by
  obtain ⟨⟨hsound, -⟩, -, hbehind, hidle⟩ := queued_reachable.latches_safe
  refine ⟨hsound, (hbehind 2 2 rfl).resolve_left (by decide), (hidle rfl).resolve_left ?_⟩
  intro hwaits
  exact absurd (hwaits 2 _ rfl rfl) (by decide)

end System

end HeadlessDesktop.Loop
