import HeadlessDesktop.Desktop.Facade
import HeadlessDesktop.Proofs.StubCalls

/-! Runs of a host on its facade. A step either finds a backend in service and works on that, or
it has to start one first; the start depends only on the foreign code behind the configured name
and on how often it was asked before. What a step does is so said by a few equations, one for each
state that it can find, and nothing later has to look into the methods again. -/
namespace HeadlessDesktop

open Report Backend
open Text (Raw)

def Report.Outcome.crash? {α : Type} : Outcome α → Option PanicValue
  | .returned _ => none
  | .panicked value => some value

namespace Backend

inductive Ending
  | stub
  | started (toolkit : Toolkit)
  | failed (cause : Cause)
  | crashed (value : PanicValue)

/-- How the start of the backend of a name goes, with what passes between the facade and foreign
code on the way. A factory was asked `earlier` times before. -/
def Directory.trial (directory : Directory) (name : Raw) (earlier : Nat)
    (args : List String) : List Facade.Contact × Ending :=
  if name = "" ∨ name = Stub.name then ([], .stub)
  else match directory.find? name with
    | .error cause => ([], .failed cause)
    | .ok .stub => ([], .stub)
    | .ok (.linked factory) =>
      match factory earlier with
      | .panicked value => ([.factory], .crashed value)
      | .returned (.error cause) => ([.factory], .failed cause)
      | .returned (.ok none) => ([.factory], .crashed (.fault .noTarget))
      | .returned (.ok (some toolkit)) =>
        ([.factory, .call (.init args)],
          match (toolkit.respond [] (.init args) : Outcome (Option Cause)) with
          | .panicked value => .crashed value
          | .returned (some cause) => .failed cause
          | .returned none => .started toolkit)

end Backend

/-! ### What the stub reports

Reports of the trace and of the loop, none of which is about the start of a backend. -/

namespace Stub

theorem area_deliver (record : Trace.Record) (sinks : List Trace.Sink) :
    ∀ report ∈ (Tracer.deliver record sinks).2, report.area ≠ .init := by
  induction sinks with
  | nil => simp [Tracer.deliver]
  | cons sink rest ih =>
    have hsink : ∀ report ∈ (sink.emit record).2, report.area ≠ .init := by
      unfold Trace.Sink.emit
      split
      · simp
      · split <;> simp [Trace.unencodableReport]
      · simp
    intro report hreport
    rcases List.mem_append.mp hreport with hfirst | hrest
    · exact hsink report hfirst
    · exact ih report hrest

theorem area_emit (tracer : Tracer) (record : Trace.Record) :
    ∀ report ∈ (tracer.emit record).2, report.area ≠ .init := by
  unfold Tracer.emit
  split
  · exact area_deliver _ _
  · simp

theorem area_message (stub : Stub) (op text : Raw) :
    ∀ report ∈ (stub.message op text).2, report.area ≠ .init := by
  unfold message
  cases stub.tracing with
  | none => simp [Tracing.message, Tracing.emit]
  | some tracer => exact area_emit tracer _

theorem area_widget (tracing : Tracing) (op : Raw) (widget : Option Widget) :
    ∀ report ∈ (tracing.widget op widget).2, report.area ≠ .init := by
  cases tracing with
  | none => simp [Tracing.widget, Tracing.emit]
  | some tracer =>
    cases widget with
    | none => simp [Tracing.widget, Tracing.emit, Tracer.widget]
    | some widget => exact area_emit tracer _

theorem area_traceWidget (stub : Stub) (op : Raw) (id : WidgetId) :
    ∀ report ∈ (stub.traceWidget op id).2, report.area ≠ .init :=
  area_widget _ _ _

theorem area_setParent (stub : Stub) (child parent : Handle) :
    ∀ report ∈ (stub.setParent child parent).2, report.area ≠ .init := by
  unfold setParent link
  split
  · simp
  · cases stub.registry.setParent stub.policy child parent with
    | error error => simp [bind, Except.bind]
    | ok registry => exact area_widget _ _ _

theorem area_display (stub : Stub) (handle : Handle) :
    ∀ report ∈ (stub.display handle).2, report.area ≠ .init := by
  unfold display
  split
  · exact area_message _ _ _
  · exact area_traceWidget _ _ _

theorem area_finishMain (stub : Stub) : ∀ report ∈ stub.finishMain.2, report.area ≠ .init := by
  unfold finishMain
  split
  · exact area_message _ _ _
  · simp

theorem area_startMain (stub : Stub) : ∀ report ∈ stub.startMain.2.2, report.area ≠ .init := by
  intro report hreport
  unfold startMain at hreport
  split at hreport
  · rcases List.mem_append.mp hreport with htraced | hrefused
    · exact area_message _ _ _ report htraced
    · simp [List.mem_singleton.mp hrefused, refusal]
  · rcases List.mem_append.mp hreport with hbefore | htraced
    · exact area_finishMain _ report hbefore
    · exact area_message _ _ _ report htraced

theorem area_mainQuit (stub : Stub) : ∀ report ∈ stub.mainQuit.2, report.area ≠ .init := by
  unfold mainQuit
  split <;> exact area_message _ _ _

theorem area_init (stub : Stub) (args : List String) :
    ∀ report ∈ (stub.init args).2, report.area ≠ .init := by
  unfold init
  split
  · simp
  · exact area_message _ _ _

end Stub

namespace Facade

/-- What a host can do: call a method, come back from a main call that was blocked, and link
toolkits in and out. -/
inductive Step
  | init (args : List String)
  | windowNew (title : Raw) (width height : Int64)
  | buttonNew (label : Raw)
  | setParent (child parent : Handle)
  | display (handle : Handle)
  | setTitle (handle : Handle) (title : Raw)
  | main
  | mainQuit
  | setVerbose (on : Bool)
  | backend
  | stub
  | mainReturn
  | register (name : Raw) (factory : Option Factory)
  | unregister (name : Raw)

namespace Step

def Answer : Step → Type
  | .windowNew _ _ _ | .buttonNew _ => Handle
  | .main => Option Int
  | .mainReturn => Int
  | .backend => Raw
  | .stub => Option Stub
  | _ => Unit

/-- The operation under which a method reports the panics that it catches; the others let them
pass. -/
def op? : Step → Option Raw
  | .init _ => some "desktop.Init"
  | .windowNew _ _ _ => some "desktop.WindowNew"
  | .buttonNew _ => some "desktop.ButtonNew"
  | .setParent _ _ => some "desktop.WidgetSetParent"
  | .display _ => some "desktop.WidgetShow"
  | .setTitle _ _ => some "desktop.WidgetSetTitle"
  | .main => some "desktop.Main"
  | .mainQuit => some "desktop.MainQuit"
  | _ => none

def instead : (step : Step) → step.Answer
  | .windowNew _ _ _ => (0 : UInt64)
  | .buttonNew _ => (0 : UInt64)
  | .main => some panicCode
  | .mainReturn => (0 : Int)
  | .backend => Raw.text ""
  | .stub => none
  | .init _ => ()
  | .setParent _ _ => ()
  | .display _ => ()
  | .setTitle _ _ => ()
  | .mainQuit => ()
  | .setVerbose _ => ()
  | .register _ _ => ()
  | .unregister _ => ()

def reaches : Step → Bool
  | .setParent child _ => child ≠ 0
  | .setTitle handle _ => handle ≠ 0
  | .mainReturn | .register _ _ | .unregister _ => false
  | _ => true

def args : Step → List String
  | .init args => args
  | _ => []

/-- What is passed on to the backend, with defaults put in. -/
def call? (config : Config) : Step → Option Call
  | .windowNew title width height =>
    some (.windowNew title (sizeOr width config.window.width Config.defaultWidth)
      (sizeOr height config.window.height Config.defaultHeight))
  | .buttonNew label => some (.buttonNew (labelOr label config.button.label))
  | .setParent child parent => if child = 0 then none else some (.setParent child parent)
  | .display handle => some (.display handle)
  | .setTitle handle title => if handle = 0 then none else some (.setTitle handle title)
  | .main => some .main
  | .mainQuit => some .mainQuit
  | _ => none

def links (directory : Directory) : Step → Directory
  | .register name factory => directory.register name (factory.map .linked)
  | .unregister name => directory.unregister name
  | _ => directory

def onStub (config : Config) (stub : Stub) (step : Step) : Stub :=
  match step with
  | .setVerbose on => { stub with tracing := stub.tracing.map (·.setEnabled on) }
  | .mainReturn => stub.finishMain.1
  | step => ((step.call? config).map stub.obey).getD stub

def act (config : Config) (step : Step) : Active → Active
  | .unset => .unset
  | .stub served => .stub (step.onStub config served)
  | .toolkit toolkit received => .toolkit toolkit (received ++ (step.call? config).toList)

end Step

def returning {α : Type} (result : α × Facade × List Notice) : Outcome α × Facade × List Notice :=
  (.returned result.1, result.2)

def perform (facade : Facade) : (step : Step) → Outcome step.Answer × Facade × List Notice
  | .init args => returning (facade.init args)
  | .windowNew title width height => returning (facade.windowNew title width height)
  | .buttonNew label => returning (facade.buttonNew label)
  | .setParent child parent => returning (facade.setParent child parent)
  | .display handle => returning (facade.display handle)
  | .setTitle handle title => returning (facade.setTitle handle title)
  | .main => returning facade.startMain
  | .mainQuit => returning facade.mainQuit
  | .setVerbose on => setVerbose on facade
  | .backend => backendName facade
  | .stub => stub? facade
  | .mainReturn => returning facade.finishMain
  | .register name factory =>
    (.returned (), { facade with directory := (Step.register name factory).links facade.directory },
      [])
  | .unregister name =>
    (.returned (), { facade with directory := (Step.unregister name).links facade.directory }, [])

/-- The facade after a run; a panic that passes through a method does not end it. -/
def after (facade : Facade) (steps : List Step) : Facade :=
  steps.foldl (fun facade step => (facade.perform step).2.1) facade

def told (facade : Facade) : List Step → List Notice
  | [] => []
  | step :: rest => (facade.perform step).2.2 ++ (facade.perform step).2.1.told rest

@[simp] theorem after_cons (facade : Facade) (step : Step) (rest : List Step) :
    facade.after (step :: rest) = (facade.perform step).2.1.after rest := rfl

theorem after_append (facade : Facade) (first second : List Step) :
    facade.after (first ++ second) = (facade.after first).after second :=
  List.foldl_append

theorem told_append (facade : Facade) (first second : List Step) :
    facade.told (first ++ second) = facade.told first ++ (facade.after first).told second := by
  induction first generalizing facade with
  | nil => rfl
  | cons step rest ih => simp [told, ih]

/-! ### The parts of the work -/

namespace Work

variable {α β : Type} (facade : Facade)

theorem bind_apply (work : Work α) (next : α → Work β) :
    (work >>= next) facade = match work facade with
      | (.returned value, later, notices) =>
        ((next value later).1, (next value later).2.1, notices ++ (next value later).2.2)
      | (.panicked value, later, notices) => (.panicked value, later, notices) := rfl

@[simp] theorem pure_apply (value : α) :
    (Pure.pure value : Work α) facade = (.returned value, facade, []) := rfl

@[simp] theorem current_apply : current facade = (.returned facade, facade, []) := rfl

@[simp] theorem change_apply (update : Facade → Facade) :
    change update facade = (.returned (), update facade, []) := rfl

@[simp] theorem report_apply (notice : Notice) :
    report notice facade = (.returned (), facade, [notice]) := rfl

@[simp] theorem result_apply (outcome : Outcome α) :
    result outcome facade = (outcome, facade, []) := rfl

end Work

/-! ### The choice of a backend -/

def trial (facade : Facade) (args : List String) : List Contact × Ending :=
  facade.directory.trial facade.config.backend facade.factoryCount args

def warning (facade : Facade) (cause : Cause) : Notice :=
  .error (Report.fallback "desktop.Init" facade.config.backend Stub.name (some cause))

def firstStub (facade : Facade) (args : List String) : Active :=
  .stub (facade.newStub.init args).1

def chosen (facade : Facade) (args : List String) : Ending → Active
  | .stub | .failed _ => facade.firstStub args
  | .started toolkit => .toolkit toolkit [.init args]
  | .crashed _ => .unset

def choiceNotices (facade : Facade) (args : List String) : Ending → List Notice
  | .stub => (facade.newStub.init args).2.map .error
  | .failed cause => facade.warning cause :: (facade.newStub.init args).2.map .error
  | .started _ | .crashed _ => []

def choiceOutcome : Ending → Outcome Unit
  | .crashed value => .panicked value
  | _ => .returned ()

/-- A facade on which the start of a backend was tried. -/
def readied (facade : Facade) (args : List String) : Facade :=
  { facade with
    contacts := facade.contacts ++ (facade.trial args).1
    active := facade.chosen args (facade.trial args).2 }

@[simp] theorem startStub_apply (facade : Facade) (args : List String) :
    startStub args facade =
      (.returned (), { facade with active := facade.firstStub args },
        (facade.newStub.init args).2.map .error) := rfl

@[simp] theorem askFactory_apply (facade : Facade) (factory : Factory) :
    askFactory factory facade =
      (factory facade.factoryCount,
        { facade with contacts := facade.contacts ++ [.factory] }, []) := rfl

@[simp] theorem send_apply (facade : Facade) (toolkit : Toolkit) (received : List Call)
    (call : Call) :
    send toolkit received call facade =
      (toolkit.respond received call,
        { facade with contacts := facade.contacts ++ [.call call] }, []) := rfl

theorem startNamed_apply (facade : Facade) (args : List String)
    (hname : ¬ (facade.config.backend = "" ∨ facade.config.backend = Stub.name)) :
    startNamed facade.config.backend args facade =
      let asked := { facade with contacts := facade.contacts ++ (facade.trial args).1 }
      match (facade.trial args).2 with
      | .stub => (.returned none, { asked with active := facade.firstStub args },
          (facade.newStub.init args).2.map .error)
      | .started toolkit =>
        (.returned none, { asked with active := .toolkit toolkit [.init args] }, [])
      | .failed cause => (.returned (some cause), asked, [])
      | .crashed value => (.panicked value, asked, []) := by
  unfold startNamed trial Directory.trial
  rw [if_neg hname]
  simp only [Work.bind_apply, Work.current_apply]
  cases facade.directory.find? facade.config.backend with
  | error cause => simp
  | ok maker =>
    cases maker with
    | stub => simp [Work.bind_apply]
    | linked factory =>
      cases hgiven : factory facade.factoryCount with
      | panicked value => simp [Work.bind_apply, hgiven]
      | returned given =>
        cases given with
        | error cause => simp [Work.bind_apply, hgiven]
        | ok target =>
          cases target with
          | none => simp [Work.bind_apply, hgiven]
          | some toolkit =>
            cases hready : (toolkit.respond [] (.init args) : Outcome (Option Cause)) with
            | panicked value => simp [Work.bind_apply, hgiven, hready]
            | returned answer =>
              cases answer with
              | none => simp [Work.bind_apply, hgiven, hready]
              | some cause => simp [Work.bind_apply, hgiven, hready]

theorem choose_apply (facade : Facade) (args : List String) (hunset : facade.active = .unset) :
    choose args facade =
      (choiceOutcome (facade.trial args).2, facade.readied args,
        facade.choiceNotices args (facade.trial args).2) := by
  unfold choose readied
  simp only [Work.bind_apply, Work.current_apply]
  by_cases hname : facade.config.backend = "" ∨ facade.config.backend = Stub.name
  · have htrial : facade.trial args = ([], .stub) := if_pos hname
    simp [hname, htrial, choiceOutcome, choiceNotices, chosen]
  · have hnamed := facade.startNamed_apply args hname
    cases hending : (facade.trial args).2 with
    | stub => simp [hname, hnamed, hending, Work.bind_apply, choiceOutcome, choiceNotices, chosen]
    | started toolkit =>
      simp [hname, hnamed, hending, Work.bind_apply, choiceOutcome, choiceNotices, chosen]
    | failed cause =>
      simp [hname, hnamed, hending, Work.bind_apply, choiceOutcome, choiceNotices, chosen, warning,
        firstStub, newStub]
    | crashed value =>
      simp [hname, hnamed, hending, Work.bind_apply, choiceOutcome, choiceNotices, chosen, hunset]

theorem select_of_unset {facade : Facade} (hunset : facade.active = .unset) (args : List String) :
    select args facade =
      (choiceOutcome (facade.trial args).2, facade.readied args,
        facade.choiceNotices args (facade.trial args).2) := by
  unfold select
  simp only [hunset, facade.choose_apply args hunset]

theorem select_of_set {facade : Facade} (hset : facade.active ≠ .unset) (args : List String) :
    select args facade = (.returned (), facade, []) := by
  unfold select
  split
  · contradiction
  · rfl

/-! ### What a step does -/

namespace Step

def errand (config : Config) : (step : Step) → Work step.Answer
  | .init _ => Work.pure ()
  | .windowNew title width height =>
    let width := sizeOr width config.window.width Config.defaultWidth
    let height := sizeOr height config.window.height Config.defaultHeight
    serve (·.windowNew title width height) (.windowNew title width height) id
  | .buttonNew label =>
    let label := labelOr label config.button.label
    serve (·.buttonNew label) (.buttonNew label) id
  | .setParent child parent =>
    if child = 0 then Work.pure ()
    else command (·.setParent child parent) (.setParent child parent)
  | .display handle => command (·.display handle) (.display handle)
  | .setTitle handle title =>
    if handle = 0 then Work.pure ()
    else command (·.setTitle handle title) (.setTitle handle title)
  | .main => serve Stub.startMain .main some
  | .mainQuit => command (·.mainQuit) .mainQuit
  | .setVerbose on => Work.change fun facade =>
    match facade.active with
    | .stub served =>
      { facade with
        active := .stub { served with tracing := served.tracing.map (·.setEnabled on) } }
    | _ => facade
  | .backend => do
    match (← Work.current).active with
    | .toolkit toolkit _ => return toolkit.name
    | _ => return Raw.text Stub.name
  | .stub => do return (← Work.current).activeStub?
  | .mainReturn => fun facade => returning facade.finishMain
  | .register name factory => Work.change fun facade =>
    { facade with directory := (Step.register name factory).links facade.directory }
  | .unregister name => Work.change fun facade =>
    { facade with directory := (Step.unregister name).links facade.directory }

def guarded (step : Step) (result : Outcome step.Answer × Facade × List Notice) :
    Outcome step.Answer × Facade × List Notice :=
  match step.op? with
  | some op =>
    let (value, panics) := shield op step.instead result.1
    (.returned value, result.2.1, result.2.2 ++ panics)
  | none => result

@[simp] theorem guarded_returned (step : Step) (answer : step.Answer)
    (later : Facade × List Notice) :
    step.guarded (.returned answer, later) = (.returned answer, later) := by
  unfold guarded
  split
  · simp [shield]
  · rfl

theorem guarded_panicked (step : Step) (value : PanicValue) (later : Facade)
    (notices : List Notice) :
    step.guarded (.panicked value, later, notices) = match step.op? with
      | some op => (.returned step.instead, later, notices ++ [.panic { op, value }])
      | none => (.panicked value, later, notices) := rfl

@[simp] theorem guarded_later (step : Step) (outcome : Outcome step.Answer) (later : Facade)
    (notices : List Notice) : (step.guarded (outcome, later, notices)).2.1 = later := by
  unfold guarded
  split <;> rfl

theorem guarded_prepend (step : Step) (outcome : Outcome step.Answer) (later : Facade)
    (first notices : List Notice) :
    step.guarded (outcome, later, first ++ notices) =
      ((step.guarded (outcome, later, notices)).1, (step.guarded (outcome, later, notices)).2.1,
        first ++ (step.guarded (outcome, later, notices)).2.2) := by
  unfold guarded
  split
  · simp
  · rfl

end Step

theorem perform_eq (facade : Facade) (step : Step) :
    facade.perform step = step.guarded
      ((if step.reaches then select step.args >>= fun _ => step.errand facade.config
        else step.errand facade.config) facade) := by
  cases step with
  | init args =>
    have hselect : (select args >>= fun _ => Work.pure ()) = select args := by
      funext facade
      rw [Work.bind_apply]
      rcases select args facade with ⟨outcome | value, later, notices⟩
      · simp [Work.pure]
      · rfl
    change _ = (Step.init args).guarded ((select args >>= fun _ => Work.pure ()) facade)
    rw [hselect]
    rfl
  | setParent child parent =>
    by_cases hnull : child = 0
    · subst hnull
      rfl
    · have herrand : (Step.setParent child parent).errand facade.config =
          command (·.setParent child parent) (.setParent child parent) := if_neg hnull
      rw [if_pos (by simpa [Step.reaches] using hnull), herrand]
      simp only [perform, setParent, if_neg hnull]
      rfl
  | setTitle handle title =>
    by_cases hnull : handle = 0
    · subst hnull
      rfl
    · have herrand : (Step.setTitle handle title).errand facade.config =
          command (·.setTitle handle title) (.setTitle handle title) := if_neg hnull
      rw [if_pos (by simpa [Step.reaches] using hnull), herrand]
      simp only [perform, setTitle, if_neg hnull]
      rfl
  | _ => rfl

/-! Where no backend is in service -/

variable {facade : Facade} {step : Step}

theorem perform_of_crash (hunset : facade.active = .unset) (hreaches : step.reaches)
    {value : PanicValue} (hcrash : (facade.trial step.args).2 = .crashed value) :
    facade.perform step = step.guarded (.panicked value, facade.readied step.args, []) := by
  rw [perform_eq, if_pos hreaches, Work.bind_apply, select_of_unset hunset, hcrash]
  rfl

theorem readied_ne_unset
    (hready : ∀ value, (facade.trial step.args).2 ≠ .crashed value) :
    (facade.readied step.args).active ≠ .unset := by
  change facade.chosen step.args (facade.trial step.args).2 ≠ .unset
  cases hending : (facade.trial step.args).2 with
  | crashed value => exact absurd hending (hready value)
  | _ => simp [chosen, firstStub]

theorem perform_of_readied (hunset : facade.active = .unset) (hreaches : step.reaches)
    (hready : ∀ value, (facade.trial step.args).2 ≠ .crashed value) :
    let served := (facade.readied step.args).perform step
    facade.perform step =
      (served.1, served.2.1,
        facade.choiceNotices step.args (facade.trial step.args).2 ++ served.2.2) := by
  have houtcome : choiceOutcome (facade.trial step.args).2 = .returned () := by
    cases hending : (facade.trial step.args).2 with
    | crashed value => exact absurd hending (hready value)
    | _ => rfl
  intro served
  have hserved : served = step.guarded (step.errand facade.config (facade.readied step.args)) := by
    change (facade.readied step.args).perform step = _
    rw [perform_eq, if_pos hreaches, Work.bind_apply, select_of_set (readied_ne_unset hready)]
    rfl
  rw [perform_eq, if_pos hreaches, Work.bind_apply, select_of_unset hunset, houtcome, hserved]
  exact step.guarded_prepend _ _ _ _

/-! Where a backend is in service -/

theorem perform_of_set (hset : facade.active ≠ .unset) :
    facade.perform step = step.guarded (step.errand facade.config facade) := by
  rw [perform_eq]
  split
  · rw [Work.bind_apply, select_of_set hset]
    rfl
  · rfl

variable {toolkit : Toolkit} {received : List Call}

def Step.crash? (config : Config) (toolkit : Toolkit) (received : List Call) (step : Step) :
    Option PanicValue :=
  (step.call? config).bind fun call => (toolkit.respond received call).crash?

theorem Step.errand_of_call {config : Config} {call : Call}
    (hcall : step.call? config = some call) :
    ∃ (onStub : Stub → step.Answer × Stub × List Report) (reply : call.Answer → step.Answer),
      step.errand config = serve onStub call reply ∧ ∀ stub : Stub,
        (onStub stub).2.1 = step.onStub config stub ∧
          ∀ report ∈ (onStub stub).2.2, report.area ≠ .init := by
  cases step with
  | windowNew title width height =>
    cases hcall
    exact ⟨_, _, rfl, fun stub => ⟨rfl, Stub.area_traceWidget _ _ _⟩⟩
  | buttonNew label =>
    cases hcall
    exact ⟨_, _, rfl, fun stub => ⟨rfl, Stub.area_traceWidget _ _ _⟩⟩
  | setParent child parent =>
    have hnull : child ≠ 0 := by
      rintro rfl
      contradiction
    obtain rfl : .setParent child parent = call := Option.some.inj ((if_neg hnull).symm.trans hcall)
    refine ⟨_, _, if_neg hnull, fun stub => ⟨?_, stub.area_setParent child parent⟩⟩
    simp [onStub, hcall, Stub.obey]
  | display handle =>
    cases hcall
    exact ⟨fun stub => ((), stub.display handle), fun _ => (), rfl,
      fun stub => ⟨rfl, stub.area_display handle⟩⟩
  | setTitle handle title =>
    have hnull : handle ≠ 0 := by
      rintro rfl
      contradiction
    obtain rfl : .setTitle handle title = call := Option.some.inj ((if_neg hnull).symm.trans hcall)
    refine ⟨_, _, if_neg hnull, fun stub => ⟨?_, Stub.area_traceWidget _ _ _⟩⟩
    simp [onStub, hcall, Stub.obey]
  | main =>
    cases hcall
    exact ⟨_, _, rfl, fun stub => ⟨rfl, stub.area_startMain⟩⟩
  | mainQuit =>
    cases hcall
    exact ⟨fun stub => ((), stub.mainQuit), fun _ => (), rfl,
      fun stub => ⟨rfl, stub.area_mainQuit⟩⟩
  | _ => contradiction

def Step.IsLocal (facade : Facade) (step : Step) : Prop :=
  ∃ (answer : step.Answer) (reports : List Report),
    step.errand facade.config facade =
      (.returned answer, { facade with
        directory := step.links facade.directory
        active := step.act facade.config facade.active }, reports.map .error) ∧
    (∀ report ∈ reports, report.area ≠ .init) ∧
    (facade.activeStub? = none → reports = [])

theorem Step.errand_of_no_call (hcall : step.call? facade.config = none) : step.IsLocal facade := by
  have htoolkit (toolkit : Toolkit) (received : List Call) :
      step.act facade.config (.toolkit toolkit received) = .toolkit toolkit received := by
    simp [act, hcall]
  have hplain (answer : step.Answer)
      (herrand : step.errand facade.config facade =
        (.returned answer, { facade with directory := step.links facade.directory }, []))
      (hkept : ∀ stub, step.onStub facade.config stub = stub) : step.IsLocal facade := by
    have hact : step.act facade.config facade.active = facade.active := by
      cases facade.active <;> simp [act, hcall, hkept]
    exact ⟨answer, [], by rw [hact, herrand]; rfl, by simp, fun _ => rfl⟩
  rcases facade with ⟨config, directory, output, extra, clock, active, contacts⟩
  cases step with
  | init args => exact hplain () rfl fun _ => rfl
  | setParent child parent =>
    obtain rfl : child = 0 := by simpa [call?] using hcall
    exact hplain () rfl fun _ => rfl
  | setTitle handle title =>
    obtain rfl : handle = 0 := by simpa [call?] using hcall
    exact hplain () rfl fun _ => rfl
  | setVerbose on =>
    refine ⟨(), [], ?_, by simp, fun _ => rfl⟩
    cases active with
    | unset => rfl
    | stub served => rfl
    | toolkit toolkit received => rw [htoolkit]; rfl
  | backend => cases active <;> exact hplain _ rfl fun _ => rfl
  | stub => exact hplain _ rfl fun _ => rfl
  | mainReturn =>
    cases active with
    | unset => exact ⟨(0 : Int), [], rfl, by simp, fun _ => rfl⟩
    | stub served => exact ⟨(0 : Int), _, rfl, served.area_finishMain, by simp [activeStub?]⟩
    | toolkit toolkit received =>
      exact ⟨(0 : Int), [], by rw [htoolkit]; rfl, by simp, fun _ => rfl⟩
  | register name factory => exact hplain () rfl fun _ => rfl
  | unregister name => exact hplain () rfl fun _ => rfl
  | _ => contradiction

theorem serve_toolkit {α : Type} (hactive : facade.active = .toolkit toolkit received)
    (onStub : Stub → α × Stub × List Report) (call : Call) (reply : call.Answer → α) :
    serve onStub call reply facade =
      (match toolkit.respond received call with
        | .returned answer => .returned (reply answer)
        | .panicked value => .panicked value,
        { facade with
          active := .toolkit toolkit (received ++ [call])
          contacts := facade.contacts ++ [.call call] }, []) := by
  cases hrespond : toolkit.respond received call <;> simp [serve, hactive, hrespond]

theorem serve_stub {α : Type} {stub : Stub} (hactive : facade.active = .stub stub)
    (onStub : Stub → α × Stub × List Report) (call : Call) (reply : call.Answer → α) :
    serve onStub call reply facade =
      (.returned (onStub stub).1, { facade with active := .stub (onStub stub).2.1 },
        (onStub stub).2.2.map .error) := by
  unfold serve
  rw [hactive]

theorem Step.links_of_call {config : Config} {call : Call} (hcall : step.call? config = some call)
    (directory : Directory) : step.links directory = directory := by
  cases step with
  | register | unregister => contradiction
  | _ => rfl

theorem Step.isSome_op?_of_call {config : Config} {call : Call}
    (hcall : step.call? config = some call) : ∃ op, step.op? = some op := by
  cases step with
  | setVerbose | backend | stub | mainReturn | register | unregister => contradiction
  | _ => exact ⟨_, rfl⟩

theorem perform_toolkit (hactive : facade.active = .toolkit toolkit received) (step : Step) :
    (facade.perform step).2.1 = { facade with
        directory := step.links facade.directory
        active := step.act facade.config facade.active
        contacts := facade.contacts ++ ((step.call? facade.config).map Contact.call).toList } ∧
      match step.crash? facade.config toolkit received with
      | none =>
        (∃ answer, (facade.perform step).1 = .returned answer) ∧ (facade.perform step).2.2 = []
      | some value => (facade.perform step).1 = .returned step.instead ∧
          ∃ op, step.op? = some op ∧ (facade.perform step).2.2 = [.panic { op, value }] := by
  rw [perform_of_set (by simp [hactive])]
  unfold Step.crash?
  cases hcall : step.call? facade.config with
  | none =>
    obtain ⟨answer, reports, herrand, -, hquiet⟩ := Step.errand_of_no_call hcall
    have hreports : reports = [] := hquiet (by simp [activeStub?, hactive])
    simp [herrand, hreports]
  | some call =>
    obtain ⟨onStub, reply, herrand, -⟩ := Step.errand_of_call hcall
    obtain ⟨op, hop⟩ := Step.isSome_op?_of_call hcall
    rw [herrand, serve_toolkit hactive, Step.links_of_call hcall]
    cases hrespond : toolkit.respond received call with
    | returned answer => simp [Step.act, hcall, hactive, Outcome.crash?, hrespond]
    | panicked value =>
      simp [Step.act, hcall, hactive, Outcome.crash?, hrespond, Step.guarded_panicked, hop]

theorem perform_stub {stub : Stub} (hactive : facade.active = .stub stub) (step : Step) :
    ∃ (answer : step.Answer) (reports : List Report),
      facade.perform step = (.returned answer, { facade with
        directory := step.links facade.directory
        active := step.act facade.config facade.active }, reports.map .error) ∧
      ∀ report ∈ reports, report.area ≠ .init := by
  rw [perform_of_set (by simp [hactive])]
  cases hcall : step.call? facade.config with
  | none =>
    obtain ⟨answer, reports, herrand, harea, -⟩ := Step.errand_of_no_call hcall
    exact ⟨answer, reports, by rw [herrand, Step.guarded_returned], harea⟩
  | some call =>
    obtain ⟨onStub, reply, herrand, hstub⟩ := Step.errand_of_call hcall
    obtain ⟨hafter, harea⟩ := hstub stub
    refine ⟨(onStub stub).1, (onStub stub).2.2, ?_, harea⟩
    rw [herrand, serve_stub hactive, Step.guarded_returned, hafter, Step.links_of_call hcall,
      hactive]
    rfl

theorem Step.call?_of_idle (hidle : step.reaches = false) (config : Config) :
    step.call? config = none := by
  cases step with
  | setParent child parent => simpa [reaches, call?] using hidle
  | setTitle handle title => simpa [reaches, call?] using hidle
  | mainReturn | register | unregister => rfl
  | _ => contradiction

theorem perform_of_idle (hunset : facade.active = .unset) (hidle : step.reaches = false) :
    (∃ answer, (facade.perform step).1 = .returned answer) ∧
      (facade.perform step).2 = ({ facade with directory := step.links facade.directory }, []) := by
  obtain ⟨answer, reports, herrand, -, hquiet⟩ :=
    Step.errand_of_no_call (Step.call?_of_idle hidle facade.config)
  have hreports : reports = [] := hquiet (by simp [activeStub?, hunset])
  rw [perform_eq, hidle, if_neg Bool.false_ne_true, herrand, hreports, Step.guarded_returned]
  simp [hunset, Step.act]

/-! ### What a run does -/

theorem after_of_idle {steps : List Step} (hunset : facade.active = .unset)
    (hidle : ∀ step ∈ steps, step.reaches = false) :
    facade.after steps = { facade with directory := steps.foldl Step.links facade.directory } ∧
      facade.told steps = [] := by
  induction steps generalizing facade with
  | nil => exact ⟨rfl, rfl⟩
  | cons step rest ih =>
    have hfirst := (perform_of_idle hunset (hidle step List.mem_cons_self)).2
    have hstill : (facade.perform step).2.1.active = .unset := by
      rw [hfirst]
      exact hunset
    obtain ⟨hafter, htold⟩ := ih hstill fun other hother =>
      hidle other (List.mem_cons_of_mem _ hother)
    rw [after_cons, told, hafter, htold, hfirst]
    exact ⟨rfl, rfl⟩

theorem run_of_idle {before : List Step} (hunset : facade.active = .unset)
    (hidle : ∀ step ∈ before, step.reaches = false) (rest : List Step) :
    let now := { facade with directory := before.foldl Step.links facade.directory }
    facade.after (before ++ rest) = now.after rest ∧
      facade.told (before ++ rest) = now.told rest := by
  obtain ⟨hafter, htold⟩ := after_of_idle hunset hidle
  rw [after_append, told_append, hafter, htold]
  exact ⟨rfl, rfl⟩

/-- From the choice on, a run goes as if the backend had been there before. -/
theorem after_of_readied (hunset : facade.active = .unset) (hreaches : step.reaches)
    (hready : ∀ value, (facade.trial step.args).2 ≠ .crashed value) (later : List Step) :
    facade.after (step :: later) = (facade.readied step.args).after (step :: later) ∧
      facade.told (step :: later) =
        facade.choiceNotices step.args (facade.trial step.args).2 ++
          (facade.readied step.args).told (step :: later) := by
  have hperform := perform_of_readied hunset hreaches hready
  simp [told, hperform]

theorem active_perform (hset : facade.active ≠ .unset) :
    (facade.perform step).2.1.active = step.act facade.config facade.active := by
  cases hactive : facade.active with
  | unset => contradiction
  | stub stub =>
    obtain ⟨answer, reports, hperform, -⟩ := perform_stub hactive step
    rw [hperform, hactive]
  | toolkit toolkit received => rw [(perform_toolkit hactive step).1, hactive]

theorem active_perform_ne_unset (hset : facade.active ≠ .unset) (step : Step) :
    (facade.perform step).2.1.active ≠ .unset := by
  rw [active_perform hset]
  cases hactive : facade.active with
  | unset => contradiction
  | stub | toolkit => simp [Step.act]

theorem situation (facade : Facade) (step : Step) :
    facade.active ≠ .unset ∨ facade.active = .unset ∧ (step.reaches = false ∨
      step.reaches ∧ ((∃ value, (facade.trial step.args).2 = .crashed value) ∨
        ∀ value, (facade.trial step.args).2 ≠ .crashed value)) := by
  by_cases hunset : facade.active = .unset
  · refine .inr ⟨hunset, ?_⟩
    by_cases hreaches : step.reaches
    · refine .inr ⟨hreaches, ?_⟩
      simpa only [← not_exists] using Classical.em _
    · exact .inl (by simpa using hreaches)
  · exact .inl hunset

theorem Step.links_of_reaches (hreaches : step.reaches) (directory : Directory) :
    step.links directory = directory := by
  cases step with
  | register | unregister => contradiction
  | _ => rfl

theorem frame_perform (facade : Facade) (step : Step) :
    (facade.perform step).2.1.config = facade.config ∧
      (facade.perform step).2.1.directory = step.links facade.directory := by
  have hserved {facade : Facade} (hset : facade.active ≠ .unset) :
      (facade.perform step).2.1.config = facade.config ∧
        (facade.perform step).2.1.directory = step.links facade.directory := by
    cases hactive : facade.active with
    | unset => contradiction
    | stub stub =>
      obtain ⟨answer, reports, hperform, -⟩ := perform_stub hactive step
      rw [hperform]
      exact ⟨rfl, rfl⟩
    | toolkit toolkit received =>
      rw [(perform_toolkit hactive step).1]
      exact ⟨rfl, rfl⟩
  rcases facade.situation step with
    hset | ⟨hunset, hidle | ⟨hreaches, ⟨value, hcrash⟩ | hready⟩⟩
  · exact hserved hset
  · rw [(perform_of_idle hunset hidle).2]
    exact ⟨rfl, rfl⟩
  · rw [perform_of_crash hunset hreaches hcrash, Step.guarded_later, step.links_of_reaches hreaches]
    exact ⟨rfl, rfl⟩
  · rw [perform_of_readied hunset hreaches hready]
    exact hserved (readied_ne_unset hready)

theorem frame_after (facade : Facade) (steps : List Step) :
    (facade.after steps).config = facade.config ∧
      (facade.after steps).directory = steps.foldl Step.links facade.directory := by
  induction steps generalizing facade with
  | nil => exact ⟨rfl, rfl⟩
  | cons step rest ih =>
    obtain ⟨hconfig, hdirectory⟩ := facade.frame_perform step
    obtain ⟨hlater, hlinked⟩ := ih (facade.perform step).2.1
    rw [hdirectory] at hlinked
    exact ⟨hlater.trans hconfig, hlinked⟩

theorem active_after (hset : facade.active ≠ .unset) (steps : List Step) :
    (facade.after steps).active = steps.foldl (fun active step => step.act facade.config active)
      facade.active := by
  induction steps generalizing facade with
  | nil => rfl
  | cons step rest ih =>
    rw [after_cons, ih (active_perform_ne_unset hset step), active_perform hset,
      (facade.frame_perform step).1, List.foldl_cons]

theorem after_stub {stub : Stub} (hactive : facade.active = .stub stub) (steps : List Step) :
    (facade.after steps).active = .stub (steps.foldl (Step.onStub facade.config) stub) := by
  rw [active_after (by simp [hactive]), hactive]
  exact List.foldl_hom Active.stub fun _ _ => rfl

end Facade

end HeadlessDesktop
