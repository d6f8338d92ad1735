import HeadlessDesktop.Loop.Controller

/-! A loop driven by one thread at a time, with a switch that holds a run in its stop hook. -/

namespace HeadlessDesktop.Loop

/-- A call takes at most this many steps without waiting. -/
def callLength : Nat := 8

/-- Lets one call go on until it is over, has to wait, or stands where `halt` says. -/
def System.settle (halt : Call → Bool) (number : Nat) : (steps : Nat) → System → System
  | 0, system => system
  | steps + 1, system =>
    if system.calls[number]?.any halt then system
    else match system.step? number with
      | some next => next.settle halt number steps
      | none => system

def System.finish (system : System) (number : Nat) : System :=
  system.settle (fun _ => false) number callLength

def System.finishAll (system : System) (numbers : List Nat) : System :=
  numbers.foldl System.finish system

def Call.isWoken : Call → Bool
  | .run (.woken _) => true
  | _ => false

structure Session where
  system : System := {}
  /-- Whether runs have a stop hook in which they can be held. -/
  holdable : Bool := true
  hold : Bool := false
  held : Option Nat := none
  current : Option Nat := none
  pending : List Nat := []
  waits : List Nat := []
deriving Repr

namespace Session

inductive Command
  | run
  | quit (times : Nat)
  | hold (on : Bool)
  | release
  | wait
  | waitCancelled
deriving Repr

inductive Verdict
  | running
  | cancelled
deriving DecidableEq, Repr

def isRunning (session : Session) : Bool := session.system.controller.running

def nextCall (session : Session) : Nat := session.system.calls.length

def wakeWaits (session : Session) : Session :=
  if session.isRunning then
    { session with system := session.system.finishAll session.waits, waits := [] }
  else session

/-- A run started while another is held goes behind it. -/
def run (session : Session) : Session :=
  let number := session.nextCall
  let system := (session.system.add (.run .entering)).finish number
  if session.isRunning then { session with system }
  else if session.held.isSome then
    { session with system, pending := session.pending ++ [number] }
  else { session with system, current := some number }.wakeWaits

def quitOnce (session : Session) : Session :=
  { session with
    system := (session.system.add (.quit .entering)).finish session.nextCall }

def quit (session : Session) (times : Nat) : Session :=
  let wasRunning := session.isRunning
  let after := Nat.repeat quitOnce (max times 1) session
  match after.current, wasRunning with
  | some number, true =>
    if after.hold && after.holdable then
      { after with
        system := after.system.settle Call.isWoken number callLength
        current := none
        held := some number }
    else { after with system := after.system.finish number, current := none }
  | _, _ => after

def release (session : Session) : Session :=
  match session.held with
  | none => session
  | some number =>
    { session with
      system := (session.system.finish number).finishAll session.pending
      held := none
      current := session.pending.head?
      pending := [] }.wakeWaits

def wait (session : Session) : Session × Option Verdict :=
  let number := session.nextCall
  let system := (session.system.add (.wait .entering)).finish number
  if session.isRunning then ({ session with system }, some .running)
  else ({ session with system, waits := session.waits ++ [number] }, none)

def waitCancelled (session : Session) : Session × Option Verdict :=
  let number := session.nextCall
  let system := (session.system.add (.wait .entering)).finish number
  match system.cancel? number with
  | some system => ({ session with system }, some .cancelled)
  | none => ({ session with system }, some .running)

def obey (session : Session) : Command → Session × Option Verdict
  | .run => (session.run, none)
  | .quit times => (session.quit times, none)
  | .hold on => ({ session with hold := on }, none)
  | .release => (session.release, none)
  | .wait => session.wait
  | .waitCancelled => session.waitCancelled

end Session

def stateName (running : Bool) : String := if running then "running" else "idle"

end HeadlessDesktop.Loop
