/-! The event loop. A run blocks until a quit wakes it; calls from any number of threads
interleave. A call moves in steps: each step is one turn under the lock, one passage through
a latch, or one call of a hook. -/

namespace HeadlessDesktop.Loop

/-- A latch is released once and stays released; whoever waits at it goes on. -/
abbrev Latch := Nat

/-- The shared part. `done` wakes the current run, `started` wakes those who wait for a run,
`finished` wakes runs that wait for the previous one to be over. -/
structure Controller where
  running : Bool := false
  done : Option Latch := none
  started : Latch := 0
  finished : Option Latch := none
  /-- The next latch that nobody has used. -/
  fresh : Latch := 1
  released : List Latch := []
  /-- Whether a latch was released that is missing or released already. -/
  misused : Bool := false
deriving DecidableEq, Repr

namespace Controller

def isReleased (controller : Controller) (latch : Latch) : Bool :=
  controller.released.contains latch

def release (controller : Controller) : Option Latch → Controller
  | some latch =>
    if controller.isReleased latch then { controller with misused := true }
    else { controller with released := latch :: controller.released }
  | none => { controller with misused := true }

end Controller

inductive RunPoint
  | entering
  | behind (previous : Latch)
  | blocked (done finished : Latch)
  | woken (finished : Latch)
  | stopped (finished : Latch)
  | cleared (finished : Latch)
  | returned
  | refused
deriving DecidableEq, Repr

inductive QuitPoint
  | entering
  | returned (sawRunning : Bool)
deriving DecidableEq, Repr

inductive WaitPoint
  | entering
  | watching (started : Latch)
  | passed
  | gaveUp
deriving DecidableEq, Repr

inductive TimedPoint
  | waiting (wait : WaitPoint)
  | counting
  | due
  | returned (sawRunning : Bool)
  | cancelled
deriving DecidableEq, Repr

inductive Call
  | run (point : RunPoint)
  | quit (point : QuitPoint)
  | wait (point : WaitPoint)
  | timed (point : TimedPoint)
deriving DecidableEq, Repr

inductive Event
  | start
  | quit (wasRunning : Bool)
  | stop
  | finished
  | refused
  | watching
  | passed
  | gaveUp
deriving DecidableEq, Repr

/-- A turn of a run under the lock: it goes behind a run that is not over, is refused while
the loop runs, or starts. -/
def enterRun (controller : Controller) : Controller × RunPoint × List Event :=
  if controller.running then (controller, .refused, [.refused])
  else match controller.finished with
    | some previous => (controller, .behind previous, [])
    | none =>
      let done := controller.fresh
      let finished := controller.fresh + 1
      let started : Controller :=
        { controller with
          running := true
          done := some done
          finished := some finished
          fresh := controller.fresh + 2 }
      (started.release (some controller.started), .blocked done finished, [.start])

def stepRun (controller : Controller) :
    RunPoint → Option (Controller × RunPoint × List Event)
  | .entering => some (enterRun controller)
  | .behind previous =>
    if controller.isReleased previous then some (controller, .entering, []) else none
  | .blocked done finished =>
    if controller.isReleased done then some (controller, .woken finished, []) else none
  | .woken finished => some (controller, .stopped finished, [.stop])
  | .stopped finished =>
    some (if controller.finished = some finished then { controller with finished := none }
      else controller, .cleared finished, [])
  | .cleared finished => some (controller.release (some finished), .returned, [.finished])
  | .returned | .refused => none

def turnQuit (controller : Controller) : Controller :=
  if controller.running then
    { { controller with running := false }.release controller.done with
      done := none
      started := controller.fresh
      fresh := controller.fresh + 1 }
  else controller

def stepQuit (controller : Controller) :
    QuitPoint → Option (Controller × QuitPoint × List Event)
  | .entering =>
    some (turnQuit controller, .returned controller.running, [.quit controller.running])
  | .returned _ => none

def stepWait (controller : Controller) :
    WaitPoint → Option (WaitPoint × List Event)
  | .entering =>
    if controller.running then some (.passed, [.passed])
    else some (.watching controller.started, [.watching])
  | .watching started =>
    if controller.isReleased started then some (.passed, [.passed]) else none
  | .passed | .gaveUp => none

def stepTimed (controller : Controller) :
    TimedPoint → Option (Controller × TimedPoint × List Event)
  | .waiting .passed => some (controller, .counting, [])
  | .waiting .gaveUp => some (controller, .cancelled, [])
  | .waiting point =>
    (stepWait controller point).map fun (point, events) => (controller, .waiting point, events)
  | .counting => some (controller, .due, [])
  | .due => some (turnQuit controller, .returned controller.running, [.quit controller.running])
  | .returned _ | .cancelled => none

def stepCall (controller : Controller) : Call → Option (Controller × Call × List Event)
  | .run point =>
    (stepRun controller point).map fun (controller, point, events) =>
      (controller, .run point, events)
  | .quit point =>
    (stepQuit controller point).map fun (controller, point, events) =>
      (controller, .quit point, events)
  | .wait point =>
    (stepWait controller point).map fun (point, events) => (controller, .wait point, events)
  | .timed point =>
    (stepTimed controller point).map fun (controller, point, events) =>
      (controller, .timed point, events)

def cancelCall : Call → Option (Call × List Event)
  | .wait (.watching _) => some (.wait .gaveUp, [.gaveUp])
  | .timed (.waiting (.watching _)) => some (.timed (.waiting .gaveUp), [.gaveUp])
  | .timed .counting | .timed .due => some (.timed .cancelled, [])
  | _ => none

structure System where
  controller : Controller := {}
  calls : List Call := []
  history : List (Nat × Event) := []
deriving DecidableEq, Repr

namespace System

inductive Action
  | run
  | quit
  | wait
  | timed
  | step (call : Nat)
  | cancel (call : Nat)
deriving DecidableEq, Repr

def add (system : System) (call : Call) : System :=
  { system with calls := system.calls ++ [call] }

def step? (system : System) (number : Nat) : Option System := do
  let (controller, call, events) ← stepCall system.controller (← system.calls[number]?)
  pure
    { controller
      calls := system.calls.set number call
      history := system.history ++ events.map (number, ·) }

def cancel? (system : System) (number : Nat) : Option System := do
  let (call, events) ← cancelCall (← system.calls[number]?)
  pure
    { system with
      calls := system.calls.set number call
      history := system.history ++ events.map (number, ·) }

def act? (system : System) : Action → Option System
  | .run => some (system.add (.run .entering))
  | .quit => some (system.add (.quit .entering))
  | .wait => some (system.add (.wait .entering))
  | .timed => some (system.add (.timed (.waiting .entering)))
  | .step number => system.step? number
  | .cancel number => system.cancel? number

/-- The states that some interleaving reaches. -/
inductive Reachable : System → Prop
  | initial : Reachable {}
  | act {system next : System} (action : Action) :
    Reachable system → system.act? action = some next → Reachable next

end System

end HeadlessDesktop.Loop
