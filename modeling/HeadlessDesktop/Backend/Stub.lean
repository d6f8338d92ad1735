import HeadlessDesktop.Backend.Toolkit
import HeadlessDesktop.Loop.Session
import HeadlessDesktop.Trace.Link

/-! The backend that simulates: widgets live in a registry, the loop has two states, and
every call leaves a trace. -/

namespace HeadlessDesktop

open Report
open Text (Raw)

/-- A main call that was told to stop is stopping until it returns; then the loop is idle
again. -/
inductive Phase
  | idle
  | running
  | stopping
deriving DecidableEq, Repr, Inhabited

structure Stub where
  registry : Registry := {}
  tracing : Tracing := none
  policy : Policy := .permissive
  phase : Phase := .idle
  initialised : Bool := false

namespace Stub

def name : String := "stub"

def isRunning (stub : Stub) : Bool := stub.phase == .running

def stateName (stub : Stub) : String := Loop.stateName stub.isRunning

def lookup? (stub : Stub) (handle : Handle) : Option Widget := stub.registry.lookup? handle

def message (stub : Stub) (op text : Raw) : Stub × List Report :=
  let (tracing, reports) := stub.tracing.message op text
  ({ stub with tracing }, reports)

def traceWidget (stub : Stub) (op : Raw) (id : WidgetId) : Stub × List Report :=
  let (tracing, reports) := stub.tracing.widget op (stub.registry.lookup? id)
  ({ stub with tracing }, reports)

def init (stub : Stub) (args : List String) : Stub × List Report :=
  if stub.initialised then (stub, [])
  else { stub with initialised := true }.message "init"
    ("console mode, no real GUI (" ++ Text.natText args.length ++ " args)")

def windowNew (stub : Stub) (title : Raw) (width height : Int64) :
    Handle × Stub × List Report :=
  let (registry, widget) := stub.registry.allocateWith fun id =>
    some (Widget.newWindow id title width height)
  (widget.id, { stub with registry }.traceWidget "window_new" widget.id)

def buttonNew (stub : Stub) (label : Raw) : Handle × Stub × List Report :=
  let (registry, widget) := stub.registry.allocateWith fun id => some (Widget.newButton id label)
  (widget.id, { stub with registry }.traceWidget "button_new" widget.id)

def setParent (stub : Stub) (child parent : Handle) : Stub × List Report :=
  if child = 0 then (stub, [])
  else match link stub.registry stub.tracing stub.policy child parent with
    | .ok (registry, tracing, reports) => ({ stub with registry, tracing }, reports)
    | .error _ => (stub, [])

def display (stub : Stub) (handle : Handle) : Stub × List Report :=
  if handle = 0 then stub.message "widget_show" "NULL handle ignored"
  else stub.traceWidget "widget_show" handle

def setTitle (stub : Stub) (handle : Handle) (title : Raw) : Stub × List Report :=
  { stub with registry := stub.registry.modify handle (·.setTitle title) }.traceWidget
    "set_title" handle

def finishMain (stub : Stub) : Stub × List Report :=
  if stub.phase = .stopping then
    { stub with phase := .idle }.message "main_end" "simulated loop finished"
  else (stub, [])

def refusedCode : Int := 1

def refusal : Report :=
  { op := "stub.Main", area := .loop, backend := name, cause := some .alreadyRunning }

/-- A main call starts and blocks, after an earlier one that is still stopping has ended;
while the loop runs it is refused and its code is returned. -/
def startMain (stub : Stub) : Option Int × Stub × List Report :=
  if stub.phase = .running then
    let (stub, reports) := stub.message "main" ("rejected: " ++ Cause.alreadyRunning.message)
    (some refusedCode, stub, reports ++ [refusal])
  else
    let (stub, before) := stub.finishMain
    let (stub, reports) :=
      { stub with phase := .running }.message "main" "simulated loop started"
    (none, stub, before ++ reports)

def mainQuit (stub : Stub) : Stub × List Report :=
  if stub.phase = .running then
    { stub with phase := .stopping }.message "main_quit" "stop requested"
  else stub.message "main_quit" "loop not running"

end Stub

end HeadlessDesktop
