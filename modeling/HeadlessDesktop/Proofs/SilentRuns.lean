import HeadlessDesktop.Proofs.Delegation
import HeadlessDesktop.Proofs.PreparedBackend

/-! The trace only watches. What a host sees of a facade on the stub can be read off the stub
without its trace, and that one goes its way whatever is traced, so that two facades that differ
only in what watches them answer alike. -/
namespace HeadlessDesktop

open Report Backend Trace

namespace Stub

def silent (stub : Stub) : Stub := { stub with tracing := none }

theorem phase_silent (stub : Stub) : stub.silent.phase = stub.phase := rfl

theorem silent_finishMain (stub : Stub) :
    stub.finishMain.1.silent = stub.silent.finishMain.1 := by
  unfold finishMain
  rw [phase_silent]
  split <;> rfl

theorem silent_startMain (stub : Stub) :
    stub.startMain.2.1.silent = stub.silent.startMain.2.1 := by
  unfold startMain
  rw [phase_silent]
  split
  · rfl
  · change { stub.finishMain.1.silent with phase := .running } =
      ({ stub.silent.finishMain.1 with phase := .running }.message _ _).1
    rw [← stub.silent_finishMain]
    rfl

theorem silent_mainQuit (stub : Stub) : stub.mainQuit.1.silent = stub.silent.mainQuit.1 := by
  unfold mainQuit
  rw [phase_silent]
  split <;> rfl

theorem silent_init (stub : Stub) (args : List String) :
    (stub.init args).1.silent = (stub.silent.init args).1 := by
  unfold init
  rw [show stub.silent.initialised = stub.initialised from rfl]
  split <;> rfl

theorem silent_display (stub : Stub) (handle : Handle) :
    (stub.display handle).1.silent = (stub.silent.display handle).1 := by
  unfold display
  split <;> rfl

theorem silent_setParent (stub : Stub) (child parent : Handle) :
    (stub.setParent child parent).1.silent = (stub.silent.setParent child parent).1 := by
  have haccepts : stub.silent.accepts child parent = stub.accepts child parent := by
    rw [accepts_eq, accepts_eq]
    rfl
  rw [setParent_eq, setParent_eq, haccepts]
  split <;> rfl

theorem silent_obey (stub : Stub) (call : Call) :
    (stub.obey call).silent = stub.silent.obey call := by
  cases call with
  | init args => exact stub.silent_init args
  | windowNew title width height => rfl
  | buttonNew label => rfl
  | setParent child parent => exact stub.silent_setParent child parent
  | display handle => exact stub.silent_display handle
  | setTitle handle title => rfl
  | main => exact stub.silent_startMain
  | mainQuit => exact stub.silent_mainQuit

end Stub

namespace Facade

namespace Step

def isSwitch : Step → Bool
  | .setVerbose _ => true
  | _ => false

def isLink : Step → Bool
  | .register _ _ | .unregister _ => true
  | _ => false

theorem links_of_not_link {step : Step} (hlink : step.isLink = false) (directory : Directory) :
    step.links directory = directory := by
  cases step with
  | register | unregister => contradiction
  | _ => rfl

def unswitched (steps : List Step) : List Step := steps.filter fun step => !step.isSwitch

theorem forall_unswitched {steps : List Step} :
    (∀ step ∈ unswitched steps, step.isLink = false) ↔ ∀ step ∈ steps, step.isLink = false := by
  refine ⟨fun h step hstep => ?_, fun h step hstep => h step (List.mem_of_mem_filter hstep)⟩
  cases hswitch : step.isSwitch with
  | true =>
    cases step with
    | setVerbose on => rfl
    | _ => contradiction
  | false => exact h step (List.mem_filter.mpr ⟨hstep, by simp [hswitch]⟩)

theorem silent_onStub (config : Config) (stub : Stub) (step : Step) :
    (step.onStub config stub).silent =
      if step.isSwitch then stub.silent else step.onStub config stub.silent := by
  have hobey : (((step.call? config).map stub.obey).getD stub).silent =
      ((step.call? config).map stub.silent.obey).getD stub.silent := by
    cases step.call? config with
    | none => rfl
    | some call => exact stub.silent_obey call
  cases step with
  | setVerbose on => rfl
  | mainReturn => exact stub.silent_finishMain
  | _ => exact hobey

def shown (stub : Stub) : Step → Reply
  | .windowNew _ _ _ | .buttonNew _ => .handle stub.registry.next
  | .main => .code (if stub.phase = .running then some Stub.refusedCode else none)
  | .mainReturn => .code (some 0)
  | .backend => .name Stub.name
  | .stub => .graph (some (stub.registry.toList, stub.stateName))
  | _ => .nothing

def shownAll (config : Config) (stub : Stub) : List Step → List Reply
  | [] => []
  | step :: rest => step.shown stub :: shownAll config (step.onStub config stub) rest

theorem shownAll_congr {config other : Config} (h : Step.onStub config = Step.onStub other)
    (stub : Stub) (steps : List Step) : shownAll config stub steps = shownAll other stub steps := by
  induction steps generalizing stub with
  | nil => rfl
  | cons step rest ih => rw [shownAll, shownAll, ih, h]

theorem shown_silent (stub : Stub) (step : Step) : step.shown stub.silent = step.shown stub := by
  cases step <;> rfl

end Step

variable {facade : Facade} {step : Step} {stub : Stub}

theorem perform_stub? (hactive : facade.active = .stub stub) :
    (facade.perform .stub).1 = .returned (some stub) := by
  rcases facade with ⟨config, directory, output, extra, clock, active, contacts⟩
  cases hactive
  rfl

theorem reply_on_stub (hactive : facade.active = .stub stub) (step : Step) :
    ∃ answer, (facade.perform step).1 = .returned answer ∧ step.reply answer = step.shown stub := by
  obtain ⟨hwindow, hbutton⟩ := perform_creation hactive
  have hstub := perform_stub? hactive
  obtain ⟨answer, reports, hperform, -⟩ := perform_stub hactive step
  rcases facade with ⟨config, directory, output, extra, clock, active, contacts⟩
  cases hactive
  cases step with
  | windowNew title width height => exact ⟨_, hwindow title width height, rfl⟩
  | buttonNew label => exact ⟨_, hbutton label, rfl⟩
  | main =>
    refine ⟨stub.startMain.1, rfl, ?_⟩
    simp only [Step.reply, Step.shown, Stub.startMain]
    split <;> rfl
  | mainReturn => exact ⟨(0 : Int), rfl, rfl⟩
  | backend => exact ⟨Text.Raw.text Stub.name, rfl, rfl⟩
  | stub => exact ⟨some stub, hstub, rfl⟩
  | _ => exact ⟨answer, congrArg Prod.fst hperform, rfl⟩

/-- The stub serves, or it will as soon as a backend is needed. -/
inductive OnStub (facade : Facade) : Prop
  | serving (stub : Stub) (active : facade.active = .stub stub)
  | waiting (unset : facade.active = .unset)
      (falls : ∀ args, (facade.trial args).2.choice = some none)

def silentStub (facade : Facade) : Stub :=
  match facade.active with
  | .stub served => served.silent
  | _ => { policy := facade.config.policy, initialised := true }

theorem silentStub_of_stub (hactive : facade.active = .stub stub) :
    facade.silentStub = stub.silent := by
  simp [silentStub, hactive]

theorem silentStub_of_unset (hunset : facade.active = .unset) :
    facade.silentStub = { policy := facade.config.policy, initialised := true } := by
  simp [silentStub, hunset]

theorem readied_of_waiting (hunset : facade.active = .unset) {args : List String}
    (hfalls : (facade.trial args).2.choice = some none) :
    ∃ stub, (facade.readied args).active = .stub stub ∧ stub.silent = facade.silentStub := by
  refine ⟨(facade.newStub.init args).1, ?_, ?_⟩
  · change facade.chosen args (facade.trial args).2 = _
    cases hending : (facade.trial args).2 with
    | stub | failed => rfl
    | started | crashed => simp [hending, Ending.choice] at hfalls
  · rw [silentStub_of_unset hunset]
    rfl

/-- What one step does on the stub, to those who watch nothing but its answers. -/
structure Answers (facade : Facade) (step : Step) : Prop where
  stays : (facade.perform step).2.1.OnStub
  silent : (facade.perform step).2.1.silentStub =
    if step.isSwitch then facade.silentStub else step.onStub facade.config facade.silentStub
  reply : ∃ answer, (facade.perform step).1 = .returned answer ∧
    step.reply answer = step.shown facade.silentStub

theorem answers_of_serving (hactive : facade.active = .stub stub) (step : Step) :
    facade.Answers step := by
  have hnext : (facade.perform step).2.1.active = .stub (step.onStub facade.config stub) := by
    rw [active_perform (by simp [hactive]), hactive]
    rfl
  refine ⟨.serving _ hnext, ?_, ?_⟩
  · rw [silentStub_of_stub hnext, silentStub_of_stub hactive]
    exact step.silent_onStub facade.config stub
  · rw [silentStub_of_stub hactive, step.shown_silent]
    exact reply_on_stub hactive step

theorem answers_of_idle (h : facade.OnStub) (hunset : facade.active = .unset)
    (hlink : step.isLink = false) (hidle : step.reaches = false) : facade.Answers step := by
  obtain ⟨⟨answer, hanswer⟩, hlater⟩ := perform_of_idle hunset hidle
  have hnext : (facade.perform step).2.1 = facade := by
    rw [hlater, Step.links_of_not_link hlink]
  refine ⟨hnext.symm ▸ h, ?_, ?_⟩
  · rw [hnext]
    cases step with
    | mainReturn =>
      -- No main call can be stopping where no backend was ever started.
      rw [silentStub_of_unset hunset]
      rfl
    | setParent | setTitle =>
      simp [Step.isSwitch, Step.onStub, Step.call?_of_idle hidle]
    | _ => contradiction
  · cases step with
    | mainReturn =>
      refine ⟨(0 : Int), ?_, rfl⟩
      simp [perform, returning, finishMain, hunset]
    | setParent | setTitle => exact ⟨answer, hanswer, rfl⟩
    | _ => contradiction

theorem OnStub.ready (h : facade.OnStub) (hreaches : step.reaches) :
    ∃ (ready : Facade) (stub : Stub), ready.active = .stub stub ∧
      stub.silent = facade.silentStub ∧
      ready.config = facade.config ∧ (ready.perform step).1 = (facade.perform step).1 ∧
      (ready.perform step).2.1 = (facade.perform step).2.1 := by
  cases h with
  | serving stub hactive =>
    exact ⟨facade, stub, hactive, (silentStub_of_stub hactive).symm, rfl, rfl, rfl⟩
  | waiting hunset hfalls =>
    have hready : ∀ value, (facade.trial step.args).2 ≠ .crashed value := by
      intro value hcrash
      simpa [hcrash, Ending.choice] using hfalls step.args
    obtain ⟨stub, hactive, hsilent⟩ := readied_of_waiting hunset (hfalls step.args)
    refine ⟨facade.readied step.args, stub, hactive, hsilent, rfl, ?_⟩
    rw [perform_of_readied hunset hreaches hready]
    exact ⟨rfl, rfl⟩

theorem OnStub.answers (h : facade.OnStub) (hlink : step.isLink = false) :
    facade.Answers step := by
  by_cases hreaches : step.reaches
  · obtain ⟨ready, stub, hactive, hsilent, hconfig, hreturns, hnext⟩ := h.ready hreaches
    have hsame : ready.silentStub = facade.silentStub :=
      (silentStub_of_stub hactive).trans hsilent
    obtain ⟨hstays, hleft, hreply⟩ := answers_of_serving hactive step
    rw [hnext] at hstays
    rw [hnext, hsame, hconfig] at hleft
    rw [hreturns, hsame] at hreply
    exact ⟨hstays, hleft, hreply⟩
  · cases h with
    | serving stub hactive => exact answers_of_serving hactive step
    | waiting hunset hfalls =>
      exact answers_of_idle (.waiting hunset hfalls) hunset hlink (by simpa using hreaches)

theorem OnStub.returns_stub (h : facade.OnStub) :
    ∃ stub, (facade.perform .stub).1 = .returned (some stub) ∧ stub.silent = facade.silentStub := by
  have hreaches : Step.stub.reaches := rfl
  obtain ⟨ready, stub, hactive, hsilent, -, hreturns, -⟩ := h.ready hreaches
  exact ⟨stub, hreturns ▸ perform_stub? hactive, hsilent⟩

def seen (facade : Facade) : List Step → List (Outcome Reply)
  | [] => []
  | step :: rest =>
    let later := (facade.perform step).2.1.seen rest
    if step.isSwitch then later else step.reply <$> (facade.perform step).1 :: later

theorem OnStub.run (h : facade.OnStub) {steps : List Step}
    (hcalls : ∀ step ∈ steps, step.isLink = false) :
    let calls := Step.unswitched steps
    (facade.after steps).OnStub ∧
      (facade.after steps).silentStub =
        calls.foldl (Step.onStub facade.config) facade.silentStub ∧
      facade.seen steps =
        (Step.shownAll facade.config facade.silentStub calls).map Outcome.returned := by
  induction steps generalizing facade with
  | nil => exact ⟨h, rfl, rfl⟩
  | cons step rest ih =>
    obtain ⟨hstays, hsilent, answer, hanswer, hreply⟩ := h.answers (hcalls step List.mem_cons_self)
    obtain ⟨hend, hleft, hseen⟩ := ih hstays fun other hother =>
      hcalls other (List.mem_cons_of_mem _ hother)
    rw [(facade.frame_perform step).1, hsilent] at hleft hseen
    refine ⟨hend, ?_⟩
    rw [after_cons, hleft, seen, hseen, hanswer]
    cases hswitch : step.isSwitch with
    | true =>
      have hdeleted : Step.unswitched (step :: rest) = Step.unswitched rest := by
        simp [Step.unswitched, hswitch]
      rw [hdeleted]
      exact ⟨rfl, rfl⟩
    | false =>
      have hkept : Step.unswitched (step :: rest) = step :: Step.unswitched rest := by
        simp [Step.unswitched, hswitch]
      rw [hkept, Step.shownAll, ← hreply]
      exact ⟨rfl, rfl⟩

/-! ### Two facades -/

/-- How a facade is watched: what it is to trace, where that goes, and what may be inspected. -/
structure Watch where
  verbose : Option Bool := none
  trace : Config.TraceSettings := {}
  inspect : Config.InspectSettings := {}
  output : Writer := {}
  extra : Option Sink := none
  clock : Time.Instant := fakeClockStart

def watched (config : Config) (directory : Directory) (watch : Watch) : Facade :=
  { Facade.new (some { config with
      verbose := watch.verbose, trace := watch.trace, inspect := watch.inspect }) with
    directory, output := watch.output, extra := watch.extra, clock := watch.clock }

theorem onStub_watched (config : Config) (directory : Directory) (watch : Watch) :
    Step.onStub (watched config directory watch).config = Step.onStub config.fillDefaults := by
  funext stub step
  cases step <;> rfl

theorem run_watched {config : Config} {directory : Directory}
    (hstub : ∀ args, (directory.trial config.fillDefaults.backend 0 args).2.choice = some none)
    (watch : Watch) {steps : List Step} (hcalls : ∀ step ∈ steps, step.isLink = false) :
    let start := watched config directory watch
    let stub : Stub := { policy := config.fillDefaults.policy, initialised := true }
    let calls := Step.unswitched steps
    start.seen steps = (Step.shownAll config.fillDefaults stub calls).map .returned ∧
      ∃ final : Stub, ((start.after steps).perform .stub).1 = .returned (some final) ∧
        final.silent = calls.foldl (Step.onStub config.fillDefaults) stub := by
  intro start stub calls
  have hstart : start.OnStub := .waiting rfl hstub
  obtain ⟨hend, hleft, hseen⟩ := hstart.run hcalls
  have hmoves := onStub_watched config directory watch
  refine ⟨?_, ?_⟩
  · rw [hseen, Step.shownAll_congr hmoves]
    rfl
  · obtain ⟨final, hreturned, hsilent⟩ := hend.returns_stub
    refine ⟨final, hreturned, ?_⟩
    rw [hsilent, hleft, hmoves]
    rfl

/-- What a host gets to see of its facade and what it leaves do not depend on how the facade is
watched, nor on when the trace is switched on and off. -/
theorem trace_only_watches (config : Config) (directory : Directory) (first second : Watch)
    (steps others : List Step) (hcalls : ∀ step ∈ steps, step.isLink = false)
    (hsame : Step.unswitched steps = Step.unswitched others)
    (hstub : ∀ args,
      (directory.trial config.fillDefaults.backend 0 args).2.choice = some none) :
    let one := watched config directory first
    let two := watched config directory second
    (∃ replies : List Reply, one.seen steps = replies.map .returned ∧
      two.seen others = replies.map .returned) ∧
    ∃ here there : Stub,
      ((one.after steps).perform .stub).1 = .returned (some here) ∧
      ((two.after others).perform .stub).1 = .returned (some there) ∧
      here.registry = there.registry ∧ here.phase = there.phase := by
  intro one two
  have hothers : ∀ step ∈ others, step.isLink = false :=
    Step.forall_unswitched.mp (hsame ▸ Step.forall_unswitched.mpr hcalls)
  obtain ⟨hone, here, hhere, hleft⟩ := run_watched hstub first hcalls
  obtain ⟨htwo, there, hthere, hright⟩ := run_watched hstub second hothers
  rw [← hsame] at htwo hright
  have hsilent : here.silent = there.silent := hleft.trans hright.symm
  refine ⟨⟨_, hone, htwo⟩, here, there, hhere, hthere, ?_, ?_⟩
  · change here.silent.registry = there.silent.registry
    rw [hsilent]
  · rw [← here.phase_silent, hsilent, there.phase_silent]

theorem trace_only_watches_full_output :
    let config : Config := { backend := "qt" }
    let loud : Watch :=
      { trace := { format := "json" }, output := .bounded 40, extra := some (.memory {}) }
    let quiet : Watch := { verbose := some false }
    let steps : List Step :=
      [.setVerbose true, .windowNew "w" 3 4, .main, .setVerbose false, .main, .mainQuit,
        .setVerbose true, .mainReturn, .buttonNew "b", .setParent 2 1]
    let others : List Step :=
      [.windowNew "w" 3 4, .main, .main, .mainQuit, .mainReturn, .buttonNew "b", .setParent 2 1]
    let one := watched config .standard loud
    let two := watched config .standard quiet
    ((∀ step ∈ steps, step.isLink = false) ∧ Step.unswitched steps = Step.unswitched others ∧
      ∀ args, (Directory.standard.trial "qt" 0 args).2.choice = some none) ∧
    one.seen steps = two.seen others ∧
    two.seen others = [.returned (.handle 1), .returned (.code none), .returned (.code (some 1)),
      .returned .nothing, .returned (.code (some 0)), .returned (.handle 2), .returned .nothing] ∧
    ∃ here there : Stub, ((one.after steps).perform .stub).1 = .returned (some here) ∧
      ((two.after others).perform .stub).1 = .returned (some there) ∧
      here.registry = there.registry ∧ here.phase = there.phase := by
  intro config loud quiet steps others one two
  have hcalls : ∀ step ∈ steps, step.isLink = false := by simp [steps, Step.isLink]
  have hstub : ∀ args, (Directory.standard.trial "qt" 0 args).2.choice = some none :=
    fun args => rfl
  have hbackend : config.fillDefaults.backend = "qt" := by decide +kernel
  have hsame : Step.unswitched steps = Step.unswitched others := rfl
  obtain ⟨⟨replies, hone, htwo⟩, hleft⟩ :=
    trace_only_watches config .standard loud quiet steps others hcalls hsame
      (by rwa [hbackend])
  exact ⟨⟨hcalls, hsame, hstub⟩, hone.trans htwo.symm, by decide +kernel, hleft⟩

end Facade

end HeadlessDesktop
