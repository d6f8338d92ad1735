import HeadlessDesktop.Proofs.LoopStages
import Mathlib.Logic.Relation

/-! Runs and quits. Every run that comes back was told to by a quit of its own, which found
the loop running; quits that found it idle tell nobody, and a refused run changes nothing. -/
namespace HeadlessDesktop.Loop

namespace System

def LeadsTo : System → System → Prop :=
  Relation.ReflTransGen fun system next => ∃ action, system.act? action = some next

/-- Pairs the runs that have come back with the quits that told them to. -/
structure Matching (system : System) (pairs : List (Nat × Nat)) : Prop where
  nodup_runs : (pairs.map Prod.fst).Nodup
  nodup_quits : (pairs.map Prod.snd).Nodup
  mem_runs_iff : ∀ run, run ∈ pairs.map Prod.fst ↔ system.calls[run]? = some (.run .returned)
  saw_running : ∀ run quit, (run, quit) ∈ pairs →
    ∃ call, system.calls[quit]? = some call ∧ call.sawRunning = true
  in_order : ∀ run quit, (run, quit) ∈ pairs →
    [(run, .start), (quit, .quit true), (run, .stop), (run, .finished)].Sublist system.history

/-- The turn of a call that found the loop as `running` says, told as much, and changed
nothing but where it stands. -/
def DecidedAlone (system : System) (number : Nat) (running : Bool) (event : Event)
    (later : Call) : Prop :=
  ∃ before : System, before.Reachable ∧ before.controller.running = running ∧
    before.step? number =
      some
        { before with
          calls := before.calls.set number later
          history := before.history ++ [(number, event)] } ∧
    LeadsTo
      { before with
        calls := before.calls.set number later
        history := before.history ++ [(number, event)] } system

theorem Reachable.last_step {system : System} (reachable : system.Reachable) {number : Nat}
    {call : Call} (hcall : system.calls[number]? = some call) (hleft : call.isNew = false) :
    ∃ (before : System) (previous : Call) (events : List Event) (controller : Controller),
      before.Reachable ∧ before.calls[number]? = some previous ∧
      CallStep before.controller previous events controller call ∧
      LeadsTo (before.move number events controller call) system := by
  induction reachable with
  | initial => exact absurd hcall (by simp)
  | @act system next action reachable hact ih =>
    by_cases hstood : system.calls[number]? = some call
    · obtain ⟨before, previous, events, controller, hbefore, hprevious, hstep, hleads⟩ :=
        ih hstood
      exact ⟨before, previous, events, controller, hbefore, hprevious, hstep,
        hleads.tail ⟨action, hact⟩⟩
    obtain ⟨added, hnew, rfl⟩ | ⟨moved, previous, events, controller, later, hprevious, hstep,
      rfl⟩ := act?_cases hact
    · rw [calls_add] at hcall
      split at hcall
      · cases hcall
        rw [hnew] at hleft
        exact absurd hleft (by simp)
      · exact absurd hcall hstood
    · rw [calls_move hprevious] at hcall
      split at hcall
      · rename_i heq
        cases hcall
        subst heq
        exact ⟨system, previous, events, controller, reachable, hprevious, hstep, .refl⟩
      · exact absurd hcall hstood

theorem Reachable.refused_alone {system : System} (reachable : system.Reachable) {run : Nat}
    (hcall : system.calls[run]? = some (.run .refused)) :
    system.DecidedAlone run true .refused (.run .refused) := by
  obtain ⟨before, previous, events, controller, hbefore, hprevious, hstep, hleads⟩ :=
    reachable.last_step hcall rfl
  cases hstep with
  | refuse hrunning =>
    refine ⟨before, hbefore, hrunning, ?_, hleads⟩
    simp [step?, hprevious, stepCall, stepRun, enterRun, hrunning]
  | aside _ hlater _ => contradiction

theorem DecidedAlone.of_idle_quit {before system : System} {number : Nat} {previous later : Call}
    (reachable : before.Reachable) (hprevious : before.calls[number]? = some previous)
    (hidle : before.controller.running = false)
    (hstep : stepCall before.controller previous =
      some (turnQuit before.controller, later, [.quit before.controller.running]))
    (hleads : LeadsTo (before.move number [.quit before.controller.running]
      (turnQuit before.controller) later) system) :
    system.DecidedAlone number false (.quit false) later := by
  rw [turnQuit_of_idle hidle, hidle] at hstep hleads
  refine ⟨before, reachable, hidle, ?_, hleads⟩
  simp [step?, hprevious, hstep]

theorem Reachable.idle_quit_alone {system : System} (reachable : system.Reachable) {quit : Nat}
    {call : Call} (hcall : system.calls[quit]? = some call) (hidle : call.sawIdle = true) :
    system.DecidedAlone quit false (.quit false) call := by
  obtain ⟨before, previous, events, controller, hbefore, hprevious, hstep, hleads⟩ :=
    reachable.last_step hcall (call.isNew_of_sawIdle hidle)
  cases hstep with
  | quit =>
    have hrunning : before.controller.running = false := by simpa [Call.sawIdle] using hidle
    exact .of_idle_quit hbefore hprevious hrunning rfl hleads
  | timedQuit =>
    have hrunning : before.controller.running = false := by simpa [Call.sawIdle] using hidle
    exact .of_idle_quit hbefore hprevious hrunning rfl hleads
  | aside _ hlater _ => exact absurd hlater (by simp [call.isPatient_of_sawIdle hidle])
  | _ => contradiction

end System

theorem Tracks.matching {system : System} {rounds : List (Nat × Nat)} {stage : Stage}
    (tracks : Tracks system rounds stage) (reachable : system.Reachable) :
    system.Matching
      (rounds.filter fun round => system.calls[round.1]? = some (.run .returned)) where
  nodup_runs :=
    (List.filter_sublist.map _).nodup (List.nodup_append.mp tracks.logged.nodup_runs).1
  nodup_quits :=
    (List.filter_sublist.map _).nodup (List.nodup_append.mp tracks.logged.nodup_quits).1
  mem_runs_iff := by
    intro run
    constructor
    · intro h
      obtain ⟨round, hround, rfl⟩ := List.mem_map.mp h
      simpa using (List.mem_filter.mp hround).2
    · intro hreturned
      have hstop := (reachable.mem_history_iff rfl).mpr ⟨_, hreturned, (by decide : .stop ∈ _)⟩
      obtain ⟨round, hround, rfl⟩ := List.mem_map.mp ((tracks.logged.stop_mem_iff run).mp hstop)
      exact List.mem_map.mpr ⟨round, List.mem_filter.mpr ⟨hround, by simpa using hreturned⟩, rfl⟩
  saw_running := by
    intro run quit h
    have hround := (List.mem_filter.mp h).1
    have hquit : (quit, .quit true) ∈ system.history :=
      (tracks.logged.roundHooks_sublist hround).subset (by simp [roundHooks])
    obtain ⟨call, hcall, htold⟩ := (reachable.mem_history_iff rfl).mp hquit
    exact ⟨call, hcall, call.quit_true_mem_told.mp htold⟩
  in_order := by
    intro run quit h
    obtain ⟨hround, hreturned⟩ := List.mem_filter.mp h
    have hover := (reachable.mem_history_iff rfl).mpr
      ⟨_, of_decide_eq_true hreturned, (by decide : .finished ∈ _)⟩
    exact tracks.logged.life_sublist hround hover

/-- In every interleaving the runs that came back are matched with quits of their own, the
loop runs while one start more than such quits was seen, and calls that found the loop in the
wrong state left it as it was. -/
theorem System.Reachable.runs_match_quits {system : System} (reachable : system.Reachable) :
    (∃ pairs, system.Matching pairs ∧
      ∀ quit call, system.calls[quit]? = some call → call.sawIdle = true →
        quit ∉ pairs.map Prod.snd) ∧
    (∀ quit call, system.calls[quit]? = some call → call.sawIdle = true →
      system.DecidedAlone quit false (.quit false) call) ∧
    (system.history.map Prod.snd).count .start =
      system.calls.countP Call.sawRunning + (if system.controller.running then 1 else 0) ∧
    ∀ run, system.calls[run]? = some (.run .refused) →
      system.DecidedAlone run true .refused (.run .refused) := by
  obtain ⟨rounds, stage, tracks⟩ := reachable.tracks
  have hmatching := tracks.matching reachable
  refine ⟨⟨_, hmatching, ?_⟩, fun _ _ => reachable.idle_quit_alone, ?_,
    fun _ => reachable.refused_alone⟩
  · intro quit call hcall hidle hmem
    obtain ⟨⟨run, quit⟩, hpair, rfl⟩ := List.mem_map.mp hmem
    obtain ⟨told, htold, hrunning⟩ := hmatching.saw_running run quit hpair
    rw [hcall] at htold
    cases htold
    rw [call.sawRunning_of_sawIdle hidle] at hrunning
    exact absurd hrunning (by simp)
  · rw [tracks.logged.count_start, reachable.count_history rfl, stage.isUntold_turn,
      ← tracks.holds.running]
    congr 1
    · exact List.countP_congr fun call _ => by simp [call.quit_true_mem_told]
    · cases system.controller.running with
      | true => rfl
      | false => rfl

theorem System.restarted_matches :
    (∃ pairs, restarted.Matching pairs) ∧
      (restarted.history.map Prod.snd).count .start = 2 ∧
      restarted.calls.countP Call.sawRunning = 1 ∧
      restarted.DecidedAlone 0 false (.quit false) (.quit (.returned false)) ∧
      restarted.DecidedAlone 5 true .refused (.run .refused) := by
  obtain ⟨⟨pairs, hmatching, -⟩, hidle, -, hrefused⟩ := restarted_reachable.runs_match_quits
  exact ⟨⟨pairs, hmatching⟩, rfl, rfl, hidle 0 _ rfl rfl, hrefused 5 rfl⟩

end HeadlessDesktop.Loop
