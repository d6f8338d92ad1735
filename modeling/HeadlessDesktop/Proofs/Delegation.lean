import HeadlessDesktop.Proofs.PanicShield

/-! What a toolkit gets to see of its host. It is started once, by the first step that needs it,
and then receives the steps in order, with defaults put in for what is missing; its answers are
those of the facade. -/
namespace HeadlessDesktop

open Report Backend Trace
open Text (Raw)

def firstOf {α : Type} (suits : α → Bool) (candidates : List α) (last : α) : α :=
  (candidates.find? suits).getD last

theorem suits_firstOf {α : Type} (suits : α → Bool) (candidates : List α) {last : α}
    (h : suits last) : suits (firstOf suits candidates last) := by
  unfold firstOf
  cases hfind : candidates.find? suits with
  | none => exact h
  | some found => exact List.find?_some hfind

namespace Backend

def Toolkit.Calm (toolkit : Toolkit) : Prop :=
  ∀ received call, ∃ answer, toolkit.respond received call = .returned answer

theorem Script.calm_toolkit {script : Script} (hpanics : script.panics = []) :
    script.toolkit.Calm := by
  intro received call
  exact ⟨script.answer received call, by simp [toolkit, crash?, hpanics]⟩

end Backend

namespace Facade

/-! ### What is passed on -/

/-- What a toolkit receives for a step of its host. -/
def Step.image (config : Config) : Step → Option Call
  | .windowNew title width height =>
    some (.windowNew title (firstOf (0 < ·) [width, config.window.width] 800)
      (firstOf (0 < ·) [height, config.window.height] 600))
  | .buttonNew label =>
    some (.buttonNew (firstOf (· ≠ "") [label, config.button.label] "Button"))
  | .setParent child parent => if child = 0 then none else some (.setParent child parent)
  | .display handle => some (.display handle)
  | .setTitle handle title => if handle = 0 then none else some (.setTitle handle title)
  | .main => some .main
  | .mainQuit => some .mainQuit
  | _ => none

theorem sizeOr_orElse (size configured builtIn : Int64) :
    sizeOr size (Config.orElse configured 0 builtIn) builtIn =
      firstOf (0 < ·) [size, configured] builtIn := by
  unfold sizeOr Config.orElse firstOf
  by_cases hsize : 0 < size
  · simp [hsize]
  · by_cases hunset : configured = 0
    · simp [hsize, hunset]
    · by_cases hconfigured : 0 < configured <;> simp [hsize, hunset, hconfigured]

theorem labelOr_orElse (label configured : Raw) :
    labelOr label (Config.orElse configured "" (.text Config.defaultLabel)) =
      firstOf (· ≠ Raw.text "") [label, configured] Config.defaultLabel := by
  unfold labelOr Config.orElse firstOf
  by_cases hlabel : label = ""
  · by_cases hunset : configured = .text "" <;> simp [hlabel, hunset]
  · simp [hlabel]

theorem Step.call?_fillDefaults (config : Config) (step : Step) :
    step.call? config.fillDefaults = step.image config := by
  cases step with
  | windowNew title width height =>
    have hwidth := sizeOr_orElse width config.window.width Config.defaultWidth
    have hheight := sizeOr_orElse height config.window.height Config.defaultHeight
    exact congrArg₂ (fun width height => some (Call.windowNew title width height)) hwidth hheight
  | buttonNew label =>
    have hlabel := labelOr_orElse label config.button.label
    exact congrArg (fun label => some (Call.buttonNew label)) hlabel
  | _ => rfl

def IsProper : Call → Prop
  | .windowNew _ width height => 0 < width ∧ 0 < height
  | .buttonNew label => label ≠ ""
  | .setParent child _ => child ≠ 0
  | .setTitle handle _ => handle ≠ 0
  | _ => True

theorem Step.isProper_image {config : Config} {step : Step} {call : Call}
    (h : step.image config = some call) : IsProper call := by
  cases step with
  | windowNew title width height =>
    cases h
    have hsize (size configured : Int64) {builtIn : Int64} (hbuiltIn : 0 < builtIn) :
        0 < firstOf (0 < ·) [size, configured] builtIn :=
      of_decide_eq_true
        (suits_firstOf (fun value : Int64 => 0 < value) _ (decide_eq_true hbuiltIn))
    exact ⟨hsize width _ (by decide), hsize height _ (by decide)⟩
  | buttonNew label =>
    cases h
    have hlabel : firstOf (· ≠ Raw.text "") [label, config.button.label] "Button" ≠ "" :=
      of_decide_eq_true (suits_firstOf (· ≠ Raw.text "") _ (by decide))
    exact hlabel
  | setParent child parent =>
    obtain ⟨hnull, rfl⟩ : child ≠ 0 ∧ .setParent child parent = call := by
      simpa [image] using h
    exact hnull
  | setTitle handle title =>
    obtain ⟨hnull, rfl⟩ : handle ≠ 0 ∧ .setTitle handle title = call := by
      simpa [image] using h
    exact hnull
  | display | main | mainQuit =>
    cases h
    trivial
  | _ => contradiction

/-! ### What comes back -/

inductive Reply
  | nothing
  | handle (handle : Handle)
  | code (code : Option Int)
  | name (name : Raw)
  | graph (graph : Option (List Widget × String))
deriving DecidableEq, Repr

def Step.reply : (step : Step) → step.Answer → Reply
  | .windowNew _ _ _, handle => .handle handle
  | .buttonNew _, handle => .handle handle
  | .main, code => .code code
  | .mainReturn, code => .code (some code)
  | .backend, name => .name name
  | .stub, served => .graph (served.map fun served => (served.registry.toList, served.stateName))
  | _, _ => .nothing

def replyTo : (call : Call) → call.Answer → Reply
  | .windowNew _ _ _, handle => .handle handle
  | .buttonNew _, handle => .handle handle
  | .main, code => .code (some code)
  | _, _ => .nothing

variable {facade : Facade} {step : Step} {toolkit : Toolkit} {received : List Call} {call : Call}

theorem Step.errand_relays {config : Config} (hcall : step.call? config = some call) :
    ∃ (onStub : Stub → step.Answer × Stub × List Report) (relay : call.Answer → step.Answer),
      step.errand config = serve onStub call relay ∧
        ∀ given, step.reply (relay given) = replyTo call given := by
  cases step with
  | windowNew title width height =>
    cases hcall
    exact ⟨(·.windowNew title _ _), id, rfl, fun given => rfl⟩
  | buttonNew label =>
    cases hcall
    exact ⟨(·.buttonNew _), id, rfl, fun given => rfl⟩
  | main =>
    cases hcall
    exact ⟨_, some, rfl, fun given => rfl⟩
  | display | mainQuit =>
    cases hcall
    exact ⟨fun stub => ((), _), fun _ => (), rfl, fun given => rfl⟩
  | setParent child parent =>
    obtain ⟨hnull, rfl⟩ : child ≠ 0 ∧ .setParent child parent = call := by
      simpa [call?] using hcall
    exact ⟨_, _, if_neg hnull, fun _ => rfl⟩
  | setTitle handle title =>
    obtain ⟨hnull, rfl⟩ : handle ≠ 0 ∧ .setTitle handle title = call := by
      simpa [call?] using hcall
    exact ⟨_, _, if_neg hnull, fun _ => rfl⟩
  | _ => contradiction

theorem perform_relays (hserving : facade.serving step = .toolkit toolkit received)
    (hcall : step.call? facade.config = some call) {given : call.Answer}
    (hgiven : toolkit.respond received call = .returned given) :
    ∃ answer, (facade.perform step).1 = .returned answer ∧
      step.reply answer = replyTo call given := by
  have hserved {facade : Facade} (hactive : facade.active = .toolkit toolkit received)
      (hcall : step.call? facade.config = some call) :
      ∃ answer, (facade.perform step).1 = .returned answer ∧
        step.reply answer = replyTo call given := by
    obtain ⟨onStub, relay, herrand, hrelays⟩ := Step.errand_relays hcall
    refine ⟨relay given, ?_, hrelays given⟩
    rw [perform_of_set (by simp [hactive]), herrand, serve_toolkit hactive, hgiven]
    exact congrArg Prod.fst (step.guarded_returned _ _)
  by_cases hunset : facade.active = .unset
  · have hreaches : step.reaches := by
      by_contra hidle
      rw [serving_of_idle hunset (by simpa using hidle)] at hserving
      contradiction
    rw [serving_of_reaches hunset hreaches] at hserving
    have hready : ∀ value, (facade.trial step.args).2 ≠ .crashed value := by
      intro value hcrash
      rw [active_readied_of_crash hcrash] at hserving
      contradiction
    rw [perform_of_readied hunset hreaches hready]
    exact hserved hserving hcall
  · rw [serving_of_set hunset] at hserving
    exact hserved hserving hcall

/-! ### What a toolkit receives in a run -/

theorem after_toolkit (hactive : facade.active = .toolkit toolkit received) (steps : List Step) :
    let calls := steps.filterMap (Step.call? facade.config)
    (facade.after steps).active = .toolkit toolkit (received ++ calls) ∧
      (facade.after steps).contacts = facade.contacts ++ calls.map .call := by
  induction steps generalizing facade received with
  | nil => simp [after, hactive]
  | cons step rest ih =>
    have hlater := (perform_toolkit hactive step).1
    have hnext : (facade.perform step).2.1.active =
        .toolkit toolkit (received ++ (step.call? facade.config).toList) := by
      rw [hlater, hactive]
      rfl
    obtain ⟨hserving, hcontacts⟩ := ih hnext
    rw [after_cons, hserving, hcontacts, (facade.frame_perform step).1, hlater]
    cases hcall : step.call? facade.config <;> simp [hcall]

theorem readied_of_starts {args : List String}
    (hname : ¬ (facade.config.backend = "" ∨ facade.config.backend = Stub.name))
    (hstarts : facade.directory.Starts facade.config.backend facade.factoryCount args toolkit) :
    (∀ value, (facade.trial args).2 ≠ .crashed value) ∧
      (facade.readied args).active = .toolkit toolkit [.init args] ∧
      (facade.readied args).contacts =
        facade.contacts ++ [.factory, .call (.init args)] := by
  have htrial : facade.trial args = ([.factory, .call (.init args)], .started toolkit) := by
    obtain ⟨factory, hfind, hgiven, hready⟩ := hstarts
    unfold trial Directory.trial
    simp [hname, hfind, hgiven, hready]
  simp [readied, htrial, chosen]

def Contact.call? : Contact → Option Call
  | .factory => none
  | .call call => some call

/-- How a toolkit is started for the first step that needs it. -/
def greeting (steps : List Step) : List Call :=
  ((steps.find? Step.reaches).map fun first => Call.init first.args).toList

def delegated (config : Config) (steps : List Step) : List Call :=
  greeting steps ++ steps.filterMap (Step.image config)

theorem filterMap_image_of_idle {steps : List Step} (config : Config)
    (hidle : ∀ step ∈ steps, step.reaches = false) :
    steps.filterMap (Step.image config) = [] := by
  rw [List.filterMap_eq_nil_iff]
  intro step hstep
  rw [← Step.call?_fillDefaults]
  exact Step.call?_of_idle (hidle step hstep) _

/-- A new facade whose configured backend is a toolkit, and steps of its host that do not link
anything and do start that toolkit when they need it. -/
structure Fronts (start : Facade) (config : Config) (toolkit : Toolkit) (steps : List Step) :
    Prop where
  unset : start.active = .unset
  untouched : start.contacts = []
  configured : start.config = config.fillDefaults
  named : ¬ (start.config.backend = "" ∨ start.config.backend = Stub.name)
  plain : ∀ step ∈ steps, step.op?.isSome
  starts : ∀ first, steps.find? Step.reaches = some first →
    start.directory.Starts start.config.backend 0 first.args toolkit

namespace Fronts

variable {start : Facade} {config : Config} {steps before later : List Step} {first : Step}

theorem left (h : start.Fronts config toolkit (before ++ later)) :
    start.Fronts config toolkit before where
  unset := h.unset
  untouched := h.untouched
  configured := h.configured
  named := h.named
  plain := fun step hstep => h.plain step (List.mem_append_left _ hstep)
  starts := fun first hfirst => h.starts first (by simp [hfirst])

theorem after_idle (h : start.Fronts config toolkit steps)
    (hidle : ∀ step ∈ steps, step.reaches = false) : start.after steps = start := by
  have hlinks : steps.foldl Step.links start.directory = start.directory := by
    refine List.foldlRecOn (motive := (· = start.directory)) steps Step.links rfl
      fun directory hdirectory step hstep => ?_
    have hplain := h.plain step hstep
    cases step with
    | register | unregister => contradiction
    | _ => exact hdirectory
  rw [(after_of_idle h.unset hidle).1, hlinks]

theorem readied (h : start.Fronts config toolkit steps)
    (hfirst : steps.find? Step.reaches = some first) :
    (∀ value, (start.trial first.args).2 ≠ .crashed value) ∧
      (start.readied first.args).active = .toolkit toolkit [.init first.args] ∧
      (start.readied first.args).contacts = [.factory, .call (.init first.args)] := by
  have hcount : start.factoryCount = 0 := by simp [factoryCount, h.untouched]
  have hready := readied_of_starts h.named (hcount ▸ h.starts first hfirst)
  rwa [h.untouched] at hready

theorem after_started (h : start.Fronts config toolkit steps)
    (hfirst : steps.find? Step.reaches = some first) :
    (start.after steps).active = .toolkit toolkit (delegated config steps) ∧
      (start.after steps).contacts = .factory :: (delegated config steps).map .call := by
  obtain ⟨hready, hactive, hcontacts⟩ := h.readied hfirst
  obtain ⟨hreaches, before, later, rfl, hidle⟩ := List.find?_eq_some_iff_append.mp hfirst
  have hidle' : ∀ step ∈ before, step.reaches = false := by simpa using hidle
  have hcalls : (first :: later).filterMap (Step.call? (start.readied first.args).config) =
      (before ++ first :: later).filterMap (Step.image config) := by
    rw [List.filterMap_append, filterMap_image_of_idle config hidle', List.nil_append]
    change (first :: later).filterMap (Step.call? start.config) = _
    rw [h.configured]
    exact List.filterMap_congr fun step _ => step.call?_fillDefaults config
  have hgreeting : greeting (before ++ first :: later) = [.init first.args] := by
    simp [greeting, hfirst]
  -- Up to the first step nothing happens, and that step finds the toolkit as if it had been there.
  rw [after_append, h.left.after_idle hidle', (after_of_readied h.unset hreaches hready later).1]
  obtain ⟨hserving, hpassed⟩ := after_toolkit hactive (first :: later)
  rw [hserving, hpassed, hcontacts, hcalls, delegated, hgreeting]
  simp

theorem calls_received (h : start.Fronts config toolkit steps) :
    (start.after steps).contacts.filterMap Contact.call? = delegated config steps := by
  cases hfirst : steps.find? Step.reaches with
  | none =>
    have hidle : ∀ step ∈ steps, step.reaches = false := by simpa using hfirst
    rw [h.after_idle hidle, h.untouched, delegated, filterMap_image_of_idle config hidle]
    simp [greeting, hfirst]
  | some first =>
    rw [(h.after_started hfirst).2, List.filterMap_cons_none rfl, List.filterMap_map]
    exact List.filterMap_some

theorem serving (h : start.Fronts config toolkit (before ++ [step])) (hreaches : step.reaches) :
    (start.after before).serving step =
      .toolkit toolkit (greeting (before ++ [step]) ++ before.filterMap (Step.image config)) := by
  cases hfirst : before.find? Step.reaches with
  | none =>
    have hidle : ∀ step ∈ before, step.reaches = false := by simpa using hfirst
    have hstep : (before ++ [step]).find? Step.reaches = some step := by simp [hfirst, hreaches]
    rw [h.left.after_idle hidle, serving_of_reaches h.unset hreaches, (h.readied hstep).2.1,
      filterMap_image_of_idle config hidle]
    simp [greeting, hstep]
  | some first =>
    have hserving := (h.left.after_started hfirst).1
    rw [serving_of_set (by simp [hserving]), hserving]
    simp [delegated, greeting, hfirst]

end Fronts

/-- A toolkit that starts and does not panic receives its start and then every step of its host as
it is meant, and the host receives its answers. -/
theorem calls_delegated (config : Config) (directory : Directory) (output : Writer)
    (extra : Option Sink) (clock : Time.Instant) (toolkit : Toolkit) (steps : List Step)
    (hplain : ∀ step ∈ steps, step.op?.isSome)
    (hbackend : config.fillDefaults.backend ≠ Stub.name)
    (hstarts : ∀ first, steps.find? Step.reaches = some first →
      directory.Starts config.fillDefaults.backend 0 first.args toolkit)
    (hcalm : toolkit.Calm) :
    let start : Facade := { Facade.new (some config) with directory, output, extra, clock }
    (∀ before after, steps = before ++ after →
      (start.after before).contacts.filterMap Contact.call? = delegated config before) ∧
    (∀ before step after call, steps = before ++ step :: after → step.image config = some call →
      ∃ given answer,
        toolkit.respond (greeting (before ++ [step]) ++ before.filterMap (Step.image config)) call =
          .returned given ∧
        ((start.after before).perform step).1 = .returned answer ∧
        step.reply answer = replyTo call given) ∧
    ∀ call ∈ delegated config steps, IsProper call := by
  intro start
  have hfronts : start.Fronts config toolkit steps :=
    { unset := rfl
      untouched := rfl
      configured := rfl
      named := not_or.mpr ⟨backend_new_ne_empty (some config), hbackend⟩
      plain := hplain
      starts := hstarts }
  refine ⟨fun before after hsteps => ?_, fun before step after call hsteps himage => ?_, ?_⟩
  · subst hsteps
    exact hfronts.left.calls_received
  · have hfront : start.Fronts config toolkit (before ++ [step]) := by
      rw [hsteps, ← List.singleton_append, ← List.append_assoc] at hfronts
      exact hfronts.left
    have hcall : step.call? (start.after before).config = some call := by
      rw [(start.frame_after before).1]
      exact (step.call?_fillDefaults config).trans himage
    have hreaches : step.reaches := by
      by_contra hidle
      simp [Step.call?_of_idle (by simpa using hidle)] at hcall
    obtain ⟨given, hgiven⟩ := hcalm _ call
    obtain ⟨answer, hanswer, hreply⟩ := perform_relays (hfront.serving hreaches) hcall hgiven
    exact ⟨given, answer, hgiven, hanswer, hreply⟩
  · intro call hcall
    rcases List.mem_append.mp hcall with hstart | hpassed
    · obtain ⟨first, -, rfl⟩ := by simpa [greeting] using hstart
      trivial
    · obtain ⟨step, -, himage⟩ := List.mem_filterMap.mp hpassed
      exact Step.isProper_image himage

theorem calls_delegated_defaults :
    let script : Script := { reported := "qt", mainCode := 7 }
    let config : Config := { backend := "qt", window := { width := -5 } }
    let directory := Directory.standard.register "qt" (some (.linked script.factory))
    let start : Facade := { Facade.new (some config) with directory }
    let early : List Step := [.setTitle 0 "early", .setParent 0 1]
    let later : List Step := [.init ["a"], .buttonNew "", .display 0]
    let steps := early ++ .windowNew "w" (-1) 0 :: later ++ [.main]
    ((∀ step ∈ steps, step.op?.isSome) ∧ config.fillDefaults.backend ≠ Stub.name ∧
      directory.Starts "qt" 0 [] script.toolkit ∧ script.toolkit.Calm) ∧
    (start.after early).contacts.filterMap Contact.call? = [] ∧
    (start.after steps).contacts.filterMap Contact.call? =
      [.init [], .windowNew "w" 800 600, .buttonNew "Button", .display 0, .main] ∧
    ∃ answer, ((start.after (early ++ .windowNew "w" (-1) 0 :: later)).perform .main).1 =
      .returned answer ∧ Step.main.reply answer = .code (some 7) := by
  intro script config directory start early later steps
  have hplain : ∀ step ∈ steps, step.op?.isSome := by
    simp [steps, early, later, Step.op?]
  have hstarts : directory.Starts "qt" 0 [] script.toolkit := ⟨script.factory, rfl, rfl, rfl⟩
  have hcalm : script.toolkit.Calm := Script.calm_toolkit rfl
  have hbackend : config.fillDefaults.backend = "qt" := by decide +kernel
  have hother : config.fillDefaults.backend ≠ Stub.name := by decide +kernel
  have hready : ∀ first ∈ steps.find? Step.reaches,
      directory.Starts config.fillDefaults.backend 0 first.args script.toolkit := by
    intro first hfirst
    cases hfirst
    rw [hbackend]
    exact hstarts
  obtain ⟨hcalls, hanswers, -⟩ := calls_delegated config directory {} none fakeClockStart
    script.toolkit steps hplain hother hready hcalm
  refine ⟨⟨hplain, hother, hstarts, hcalm⟩, hcalls early _ rfl, hcalls steps [] (by simp), ?_⟩
  obtain ⟨given, answer, hgiven, hanswer, hreply⟩ := hanswers _ .main [] .main rfl rfl
  cases hgiven
  exact ⟨answer, hanswer, hreply⟩

end Facade

end HeadlessDesktop
