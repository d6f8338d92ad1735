import HeadlessDesktop.Proofs.PanicShield

/-! What it is worth to prepare the backend. Unless its start crashes a backend is in service
afterwards, the stub if need be, and the stub gives a handle to every window and every button. -/
namespace HeadlessDesktop

open Report Backend Trace
open Text (Raw)

namespace Facade

def Step.creates : Step → Bool
  | .windowNew _ _ _ | .buttonNew _ => true
  | _ => false

theorem Step.countP_creates (config : Config) (steps : List Step) :
    (steps.filterMap (Step.call? config)).countP Call.creates = steps.countP Step.creates := by
  rw [List.countP_filterMap]
  congr
  funext step
  cases step with
  | setParent child parent =>
    by_cases hnull : child = 0 <;> simp [call?, hnull, creates, Call.creates]
  | setTitle handle title =>
    by_cases hnull : handle = 0 <;> simp [call?, hnull, creates, Call.creates]
  | _ => rfl

theorem Step.hasRoom_onStub {config : Config} {step : Step} {rest : List Step} {stub : Stub}
    (h : stub.HasRoom ((step :: rest).filterMap (Step.call? config))) :
    (step.onStub config stub).HasRoom (rest.filterMap (Step.call? config)) := by
  cases hcall : step.call? config with
  | none =>
    rw [List.filterMap_cons_none hcall] at h
    have hregistry : (step.onStub config stub).registry = stub.registry := by
      cases step with
      | setVerbose on => rfl
      | mainReturn => exact stub.finishMain_follows.1
      | _ => simp [onStub, hcall]
    exact ⟨hregistry ▸ h.dense, hregistry ▸ h.room⟩
  | some call =>
    rw [List.filterMap_cons_some hcall] at h
    have hobey : step.onStub config stub = stub.obey call := by
      cases step with
      | setVerbose | mainReturn => contradiction
      | _ => simp [onStub, hcall]
    rw [hobey]
    exact h.obey

/-- There are ids for all that some steps create, on the stub in service or on a new one. -/
structure HasRoom (facade : Facade) (steps : List Step) : Prop where
  room : steps.countP Step.creates + 1 < UInt64.size
  stub : ∀ stub, facade.active = .stub stub →
    stub.HasRoom (steps.filterMap (Step.call? facade.config))

variable {facade : Facade} {step : Step} {rest : List Step}

theorem HasRoom.perform (h : facade.HasRoom (step :: rest)) :
    (facade.perform step).2.1.HasRoom rest := by
  have hroom : rest.countP Step.creates + 1 < UInt64.size := by
    have hall := h.room
    rw [List.countP_cons] at hall
    omega
  have hconfig := (facade.frame_perform step).1
  have hserved {facade : Facade} (h : facade.HasRoom (step :: rest))
      (hset : facade.active ≠ .unset) : ∀ stub, (facade.perform step).2.1.active = .stub stub →
        stub.HasRoom (rest.filterMap (Step.call? facade.config)) := by
    intro stub hstub
    rw [active_perform hset] at hstub
    cases hactive : facade.active with
    | unset => contradiction
    | stub served =>
      rw [hactive] at hstub
      obtain rfl := Active.stub.inj hstub
      exact Step.hasRoom_onStub (h.stub served hactive)
    | toolkit toolkit received =>
      rw [hactive] at hstub
      contradiction
  refine ⟨hroom, ?_⟩
  rw [hconfig]
  rcases facade.situation step with
    hset | ⟨hunset, hidle | ⟨hreaches, ⟨value, hcrash⟩ | hready⟩⟩
  · exact hserved h hset
  · rw [(perform_of_idle hunset hidle).2]
    simp [hunset]
  · rw [perform_of_crash hunset hreaches hcrash, Step.guarded_later, active_readied_of_crash hcrash]
    simp
  · rw [perform_of_readied hunset hreaches hready]
    -- A stub that is started only now has no widgets yet.
    have hnew : (facade.readied step.args).HasRoom (step :: rest) := by
      refine ⟨h.room, fun stub hstub => ?_⟩
      rw [stub_of_readied hstub]
      refine ⟨Registry.grounded_empty.dense, ?_⟩
      rw [Step.countP_creates]
      change 0 + _ + 1 < _
      have := h.room
      omega
    exact hserved hnew (readied_ne_unset hready)

theorem HasRoom.after {steps : List Step} (h : facade.HasRoom (steps ++ rest)) :
    (facade.after steps).HasRoom rest := by
  induction steps generalizing facade with
  | nil => exact h
  | cons step more ih => exact ih h.perform

theorem perform_creation {stub : Stub} (hactive : facade.active = .stub stub) :
    (∀ title width height,
        (facade.perform (.windowNew title width height)).1 = .returned stub.registry.next) ∧
      ∀ label, (facade.perform (.buttonNew label)).1 = .returned stub.registry.next := by
  have hwindow (title : Raw) (width height : Int64) :
      (stub.windowNew title width height).1 = stub.registry.next :=
    stub.registry.id_allocateWith fun id => some (Widget.newWindow id title width height)
  have hbutton (label : Raw) : (stub.buttonNew label).1 = stub.registry.next :=
    stub.registry.id_allocateWith fun id => some (Widget.newButton id label)
  rcases facade with ⟨config, directory, output, extra, clock, active, contacts⟩
  cases hactive
  refine ⟨fun title width height => ?_, fun label => ?_⟩
  · rw [← hwindow title (sizeOr width config.window.width Config.defaultWidth)
      (sizeOr height config.window.height Config.defaultHeight)]
    rfl
  · rw [← hbutton (labelOr label config.button.label)]
    rfl

theorem HasRoom.next_ne_zero (h : facade.HasRoom []) {stub : Stub}
    (hactive : facade.active = .stub stub) : stub.registry.next ≠ 0 := by
  intro hnull
  have hnext := (h.stub stub hactive).dense.next_toNat
  simp [hnull] at hnext

/-- How preparing the backend ends, in any run with any factories. -/
theorem init_leaves_backend (config : Option Config) (output : Writer) (extra : Option Sink)
    (clock : Time.Instant) (before later : List Step) (args : List String)
    (room : (before ++ later).countP Step.creates + 1 < UInt64.size) :
    let start : Facade := { Facade.new config with output, extra, clock }
    let now := start.after before
    let result := now.perform (.init args)
    let next := result.2.1
    (next.active = .unset ↔ now.active = .unset ∧ ∃ value, now.StartCrashes args value) ∧
    (now.active = .unset →
      (∀ value, now.StartCrashes args value →
        result.2.2 = [.panic { op := "desktop.Init", value }]) ∧
      ((∀ value, ¬ now.StartCrashes args value) →
        now.Settled args next.active.choice (result.2.2.filter Notice.isStartWarning))) ∧
    let served := next.after later
    served.active.choice = some none →
      (∀ title width height, ∃ handle : Handle, handle ≠ 0 ∧
        (served.perform (.windowNew title width height)).1 = .returned handle) ∧
      ∀ label, ∃ handle : Handle, handle ≠ 0 ∧
        (served.perform (.buttonNew label)).1 = .returned handle := by
  intro start now result next
  obtain ⟨hconfig, hdirectory⟩ := start.frame_after before
  have hreaches : (Step.init args).reaches := rfl
  refine ⟨?_, fun hunset => ⟨fun value hcrashes => ?_, fun hnever => ?_⟩, ?_⟩
  · have hleft := (now.active_perform_ne_unset_iff (.init args)).not
    simpa [hreaches, Step.args] using hleft
  · change (now.perform (.init args)).2.2 = _
    rw [perform_of_crash hunset hreaches (trial_crashed_iff.mpr hcrashes)]
    rfl
  · have hready : ∀ value, (now.trial args).2 ≠ .crashed value :=
      fun value => trial_crashed_iff.not.mpr (hnever value)
    have hlinked : now.directory.Holds fun _ => True := by
      rw [hdirectory]
      exact (Directory.holds_standard _).foldl_links fun _ _ _ => trivial
    have hempty : now.config.backend ≠ "" := by
      rw [hconfig]
      exact backend_new_ne_empty config
    obtain ⟨hchoice, -, hwarned⟩ := choice_of_readied hunset hreaches hready []
    rw [told, told, List.append_nil] at hwarned
    rw [show next.active.choice = _ from hchoice, show result.2.2.filter _ = _ from hwarned]
    exact settled hlinked hempty hready
  · intro served hchoice
    have hstart : start.HasRoom (before ++ .init args :: later) := by
      refine ⟨?_, fun stub hstub => by contradiction⟩
      simpa [Step.creates] using room
    have hserved : served.HasRoom [] := by
      have hnext : next.HasRoom later := hstart.after.perform
      exact HasRoom.after (by simpa using hnext)
    cases hactive : served.active with
    | unset | toolkit => simp [hactive, Active.choice] at hchoice
    | stub stub =>
      have hnext := hserved.next_ne_zero hactive
      obtain ⟨hwindow, hbutton⟩ := perform_creation hactive
      exact ⟨fun title width height => ⟨_, hnext, hwindow title width height⟩,
        fun label => ⟨_, hnext, hbutton label⟩⟩

theorem init_leaves_backend_unknown :
    let later : List Step := [.windowNew "w" 3 4, .main, .display 1]
    let start := Facade.new (some { backend := "qt" })
    let result := start.perform (.init ["a"])
    let served := result.2.1.after later
    later.countP Step.creates + 1 < UInt64.size ∧
      result.2.1.active.choice = some none ∧
      result.2.2.filter Notice.isStartWarning =
        [start.warning (.unknownBackend (.text "qt"))] ∧
      ∃ handle : Handle, handle ≠ 0 ∧ (served.perform (.buttonNew "b")).1 = .returned handle := by
  intro later start result served
  have hroom : later.countP Step.creates + 1 < UInt64.size := by decide
  obtain ⟨-, hprepared, hcreates⟩ :=
    init_leaves_backend (some { backend := "qt" }) {} none fakeClockStart [] later ["a"] hroom
  obtain ⟨-, hsettled⟩ := hprepared rfl
  have hnever (value : PanicValue) : ¬ start.StartCrashes ["a"] value := by
    rintro ⟨-, -, hcrashes⟩
    cases hcrashes with
    | factory _ hfind | nothing _ hfind | init _ _ hfind => cases hfind
  have hfails : start.directory.Fails (.text "qt") 0 ["a"] (.unknownBackend (.text "qt")) :=
    .unknown (by decide)
  refine ⟨hroom, ?_⟩
  cases hsettled hnever with
  | stub hstub => exact absurd hstub (by decide)
  | started toolkit _ hstarts =>
    obtain ⟨factory, hfind, -⟩ := hstarts
    cases hfind
  | fallback cause _ _ hcause hchoice hwarned =>
    obtain rfl := (hcause _).mp hfails
    exact ⟨hchoice, hwarned, (hcreates rfl).2 "b"⟩

/-- After each way in which a start can crash there is no backend, and nothing can be created. -/
theorem init_leaves_no_backend_after_crash :
    let crashing : List Script :=
      [{ panics := ["factory"] }, { givesNothing := true }, { panics := ["init"] }]
    ∀ script ∈ crashing,
      let start := (Facade.new (some { backend := "qt" })).after
        [.register "qt" (some script.factory)]
      let next := (start.perform (.init [])).2.1
      next.active.choice = none ∧
        ((start.perform (.init [])).2.2.filter Notice.isStartWarning) = [] ∧
        (next.perform (.windowNew "w" 3 4)).1 = .returned (0 : Handle) ∧
        (next.perform (.buttonNew "b")).1 = .returned (0 : Handle) := by
  intro crashing
  rw [List.forall_mem_cons, List.forall_mem_cons, List.forall_mem_singleton]
  exact ⟨⟨rfl, rfl, rfl, rfl⟩, ⟨rfl, rfl, rfl, rfl⟩, ⟨rfl, rfl, rfl, rfl⟩⟩

end Facade

end HeadlessDesktop
