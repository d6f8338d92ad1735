import HeadlessDesktop.Backend.Stub
import HeadlessDesktop.Config.Basic

/-! The facade that a host works with. It chooses a backend when it first needs one, puts in
defaults, and turns panics into reports. -/

namespace HeadlessDesktop

open Report Backend
open Text (Raw)

namespace Facade

/-- The backend in service, with the calls that it has received if it is a toolkit. -/
inductive Active
  | unset
  | stub (stub : Stub)
  | toolkit (toolkit : Toolkit) (received : List Call)

/-- What passed between the facade and the linked backend. -/
inductive Contact
  | factory
  | call (call : Call)
deriving DecidableEq, Repr

end Facade

open Facade

structure Facade where
  config : Config
  directory : Directory := .standard
  /-- Where the trace of the stub goes. -/
  output : Trace.Writer := {}
  /-- A further sink for the trace of the stub. -/
  extra : Option Trace.Sink := none
  clock : Time.Instant := fakeClockStart
  active : Active := .unset
  contacts : List Contact := []

namespace Facade

def new (config : Option Config) : Facade := { config := (config.getD .builtIn).fillDefaults }

/-- Work on a facade: it may change the facade, report and panic. What was changed and
reported before a panic remains. -/
def Work (α : Type) := Facade → Outcome α × Facade × List Notice

namespace Work

def pure {α : Type} (value : α) : Work α := fun facade => (.returned value, facade, [])

def bind {α β : Type} (work : Work α) (next : α → Work β) : Work β := fun facade =>
  match work facade with
  | (.returned value, facade, notices) =>
    let (outcome, facade, more) := next value facade
    (outcome, facade, notices ++ more)
  | (.panicked value, facade, notices) => (.panicked value, facade, notices)

instance : Monad Work where
  pure := Work.pure
  bind := Work.bind

def current : Work Facade := fun facade => (.returned facade, facade, [])

def change (update : Facade → Facade) : Work Unit := fun facade =>
  (.returned (), update facade, [])

def report (notice : Notice) : Work Unit := fun facade => (.returned (), facade, [notice])

def result {α : Type} (outcome : Outcome α) : Work α := fun facade => (outcome, facade, [])

/-- A panic is reported under `op`, and `instead` is returned. -/
def shielded {α : Type} (op : Raw) (instead : α) (work : Work α) (facade : Facade) :
    α × Facade × List Notice :=
  let (outcome, facade, notices) := work facade
  let (value, panics) := shield op instead outcome
  (value, facade, notices ++ panics)

end Work

def newStub (facade : Facade) : Stub :=
  let sink := match Trace.Codec.ofFormat? facade.config.trace.format with
    | some codec => Trace.Sink.framed codec facade.output
    | none => .text (Trace.leadOf facade.config.trace.lead) facade.output
  { policy := facade.config.policy
    tracing := some
      { enabled := facade.config.verboseEnabled
        clock := facade.clock
        sinks := sink :: facade.extra.toList } }

def startStub (args : List String) : Work Unit := fun facade =>
  let (stub, reports) := facade.newStub.init args
  (.returned (), { facade with active := .stub stub }, reports.map .error)

def factoryCount (facade : Facade) : Nat := facade.contacts.count .factory

def askFactory (factory : Factory) : Work (Except Cause (Option Toolkit)) := fun facade =>
  (factory facade.factoryCount,
    { facade with contacts := facade.contacts ++ [.factory] }, [])

def send (toolkit : Toolkit) (received : List Call) (call : Call) : Work call.Answer :=
  fun facade =>
    (toolkit.respond received call,
      { facade with contacts := facade.contacts ++ [.call call] }, [])

def startNamed (name : Raw) (args : List String) : Work (Option Cause) := do
  match (← Work.current).directory.find? name with
  | .error cause => return some cause
  | .ok .stub => startStub args; return none
  | .ok (.linked factory) =>
    match ← askFactory factory with
    | .error cause => return some cause
    -- A toolkit that is missing is called all the same.
    | .ok none => Work.result (.panicked (.fault .noTarget))
    | .ok (some toolkit) =>
      match ← (send toolkit [] (.init args) : Work (Option Cause)) with
      | some cause => return some cause
      | none =>
        Work.change fun facade => { facade with active := .toolkit toolkit [.init args] }
        return none

def choose (args : List String) : Work Unit := do
  let name := (← Work.current).config.backend
  if name = "" || name = Stub.name then startStub args
  else match ← startNamed name args with
    | none => return ()
    | some cause =>
      Work.report (.error (Report.fallback "desktop.Init" name Stub.name (some cause)))
      startStub args

def select (args : List String) : Work Unit := fun facade =>
  match facade.active with
  | .unset => choose args facade
  | _ => (.returned (), facade, [])

def serve {α : Type} (onStub : Stub → α × Stub × List Report) (call : Call)
    (reply : call.Answer → α) : Work α := fun facade =>
  match facade.active with
  | .stub stub =>
    let (value, stub, reports) := onStub stub
    (.returned value, { facade with active := .stub stub }, reports.map .error)
  | .toolkit toolkit received =>
    let after := { facade with
      active := .toolkit toolkit (received ++ [call])
      contacts := facade.contacts ++ [.call call] }
    (match toolkit.respond received call with
      | .returned answer => .returned (reply answer)
      | .panicked value => .panicked value, after, [])
  | .unset => (.panicked (.fault .noTarget), facade, [])

def command (onStub : Stub → Stub × List Report) (call : Call) : Work Unit :=
  serve (fun stub => ((), onStub stub)) call fun _ => ()

def init (facade : Facade) (args : List String) : Unit × Facade × List Notice :=
  (select args).shielded "desktop.Init" () facade

def sizeOr (size configured builtIn : Int64) : Int64 :=
  if 0 < size then size else if 0 < configured then configured else builtIn

def labelOr (label configured : Raw) : Raw :=
  if label ≠ "" then label else if configured ≠ "" then configured else Config.defaultLabel

def windowNew (facade : Facade) (title : Raw) (width height : Int64) :
    Handle × Facade × List Notice :=
  let width := sizeOr width facade.config.window.width Config.defaultWidth
  let height := sizeOr height facade.config.window.height Config.defaultHeight
  Work.shielded "desktop.WindowNew" 0 (do
    select []
    serve (·.windowNew title width height) (.windowNew title width height) id) facade

def buttonNew (facade : Facade) (label : Raw) : Handle × Facade × List Notice :=
  let label := labelOr label facade.config.button.label
  Work.shielded "desktop.ButtonNew" 0 (do
    select []
    serve (·.buttonNew label) (.buttonNew label) id) facade

def setParent (facade : Facade) (child parent : Handle) : Unit × Facade × List Notice :=
  Work.shielded "desktop.WidgetSetParent" () (do
    if child = 0 then return ()
    select []
    command (·.setParent child parent) (.setParent child parent)) facade

def display (facade : Facade) (handle : Handle) : Unit × Facade × List Notice :=
  Work.shielded "desktop.WidgetShow" () (do
    select []
    command (·.display handle) (.display handle)) facade

def setTitle (facade : Facade) (handle : Handle) (title : Raw) :
    Unit × Facade × List Notice :=
  Work.shielded "desktop.WidgetSetTitle" () (do
    if handle = 0 then return ()
    select []
    command (·.setTitle handle title) (.setTitle handle title)) facade

def panicCode : Int := 2

/-- Enters the loop. The stub blocks, and no code is known yet, unless its loop runs
already; a toolkit comes back with its code. -/
def startMain (facade : Facade) : Option Int × Facade × List Notice :=
  Work.shielded "desktop.Main" (some panicCode) (do
    select []
    serve Stub.startMain .main some) facade

def finishMain (facade : Facade) : Int × Facade × List Notice :=
  match facade.active with
  | .stub stub =>
    let (stub, reports) := stub.finishMain
    (0, { facade with active := .stub stub }, reports.map .error)
  | _ => (0, facade, [])

def mainQuit (facade : Facade) : Unit × Facade × List Notice :=
  Work.shielded "desktop.MainQuit" () (do
    select []
    command (·.mainQuit) .mainQuit) facade

def activeStub? (facade : Facade) : Option Stub :=
  match facade.active with
  | .stub stub => some stub
  | _ => none

def traced (facade : Facade) : Text.Bytes :=
  match facade.activeStub?.bind (·.tracing) with
  | some tracer => match tracer.sinks.head? with
    | some (.text _ writer) | some (.framed _ writer) => writer.stored
    | _ => []
  | none => []

def recorder? (facade : Facade) : Option Trace.Recorder :=
  match facade.activeStub?.bind (·.tracing) with
  | some tracer => tracer.recorders.head?
  | none => facade.extra.bind Trace.Sink.recorder?

def stub? : Work (Option Stub) := do
  select []
  return (← Work.current).activeStub?

def backendName : Work Raw := do
  select []
  match (← Work.current).active with
  | .toolkit toolkit _ => return toolkit.name
  | _ => return Stub.name

def setVerbose (on : Bool) : Work Unit := do
  select []
  Work.change fun facade =>
    match facade.active with
    | .stub stub =>
      { facade with active := .stub { stub with tracing := stub.tracing.map (·.setEnabled on) } }
    | _ => facade

def configure (facade : Facade) (update : Config → Config) : Facade :=
  { facade with config := update facade.config }

end Facade

end HeadlessDesktop
