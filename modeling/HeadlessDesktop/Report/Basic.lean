import HeadlessDesktop.Report.Cause
import HeadlessDesktop.Report.Panic

/-! Reports of errors, warnings and panics, and the handlers that receive them. -/

namespace HeadlessDesktop

namespace Report

inductive Area
  | unknown
  | init
  | backend
  | handle
  | loop
  | config
  | panic
deriving DecidableEq, Repr, Inhabited

def Area.ofCode : Int → Area
  | 1 => .init
  | 2 => .backend
  | 3 => .handle
  | 4 => .loop
  | 5 => .config
  | 6 => .panic
  | _ => .unknown

def Area.name : Area → String
  | .unknown => "unknown"
  | .init => "init"
  | .backend => "backend"
  | .handle => "handle"
  | .loop => "loop"
  | .config => "config"
  | .panic => "panic"

end Report

open Report
open Text (Raw)

structure Report where
  op : Raw := ""
  area : Area := .unknown
  cause : Option Cause := none
  backend : Raw := ""
  handle : UInt64 := 0
  warning : Bool := false
  stack : Raw := ""
deriving DecidableEq, Repr

namespace Report

def subject (report : Report) : Raw :=
  let backend : Raw := if report.backend = "" then "" else " backend=" ++ report.backend
  let handle :=
    if report.handle = 0 then "" else " handle=#" ++ Text.natText report.handle.toNat
  report.op ++ " [" ++ report.area.name ++ "]" ++ backend ++ handle

def message (report : Report) : Raw :=
  report.subject ++ ": " ++ Cause.messageOf report.cause

def fallback (op backend target : Raw) (cause : Option Cause) : Report :=
  { op, area := .init, backend, warning := true
    cause := some (match cause with
      | some cause => .fallback target cause
      | none => .bareFallback target) }

def stackText (stack : Raw) : Raw :=
  if stack = "" then "" else "Stack trace:\n" ++ stack ++ "\n"

def logText (report : Report) (verbose : Bool) : Raw :=
  let tag := if report.warning then "[desktop warning] " else "[desktop error] "
  if verbose then tag ++ report.message ++ "\n" ++ stackText report.stack
  else tag ++ report.op ++ ": " ++ Cause.messageOf report.cause ++ "\n"

def PanicReport.logText (report : PanicReport) (verbose : Bool) : Raw :=
  let op : Raw := if report.op = "" then "" else report.op ++ ": "
  let stack : Raw := if verbose then stackText report.stack else ""
  "[desktop panic] " ++ op ++ report.value.message ++ "\n" ++ stack

end Report

inductive Notice
  | error (report : Report)
  | panic (report : PanicReport)
deriving DecidableEq, Repr

def Notice.logText (notice : Notice) (verbose : Bool) : Raw :=
  match notice with
  | .error report => report.logText verbose
  | .panic report => report.logText verbose

def Notice.isPanic : Notice → Bool
  | .error _ => false
  | .panic _ => true

/-- Runs a call so that a panic is reported under `op` and `instead` is returned. -/
def shield {α : Type} (op : Raw) (instead : α) : Outcome α → α × List Notice
  | .returned value => (value, [])
  | .panicked value => (instead, [.panic { op, value }])

inductive Handler
  | capture
  | log (verbose : Bool)
  | standard
  | silent
deriving DecidableEq, Repr

inductive Delivery
  | captured (notice : Notice)
  | logged (text : Raw)
  | printed (text : Raw)
  | dropped
deriving DecidableEq, Repr

def Handler.deliver (handler : Handler) (notice : Notice) : Delivery :=
  match handler with
  | .capture => .captured notice
  | .log verbose => .logged (notice.logText verbose)
  | .standard => .printed (notice.logText false)
  | .silent => .dropped

def Handler.install : Option Handler → Handler := fun chosen => chosen.getD .standard

end HeadlessDesktop
