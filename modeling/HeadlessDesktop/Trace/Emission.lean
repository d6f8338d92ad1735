import HeadlessDesktop.Trace.Tracer

/-! Records emitted by several threads at once. A call reads the list of sinks, takes a
number, and then goes from sink to sink; the steps of different calls interleave, and the clock
goes on in between. -/

namespace HeadlessDesktop.Trace.Emission

open Text (Raw)
open Time

/-- Where a call stands. It serves the sinks that it found when it read their list. -/
inductive Point
  | entering
  | listed (content : Record) (sinks : Nat)
  | delivering (record : Record) (sinks next : Nat)
  | returned
deriving DecidableEq, Repr

/-- A call and what it is to emit, without number and time. A call that has no widget to show
emits nothing. -/
structure Call where
  content : Option Record
  point : Point := .entering
deriving DecidableEq, Repr

def deliverAt (record : Record) : (place : Nat) → List Sink → List Sink × List Report
  | _, [] => ([], [])
  | 0, sink :: rest =>
    let (sink, reports) := sink.emit record
    (sink :: rest, reports)
  | place + 1, sink :: rest =>
    let (rest, reports) := deliverAt record place rest
    (sink :: rest, reports)

def step? (tracer : Tracer) (call : Call) : Option (Tracer × Point × List Report) :=
  match call.point with
  | .entering =>
    some (tracer, match call.content with
      | some content =>
        if tracer.enabled then .listed content tracer.sinks.length else .returned
      | none => .returned, [])
  | .listed content sinks =>
    some ({ tracer with seq := tracer.seq + 1 }, .delivering (tracer.stamp content) sinks 0, [])
  | .delivering record sinks next =>
    if next < sinks then
      let (delivered, reports) := deliverAt record next tracer.sinks
      some ({ tracer with sinks := delivered }, .delivering record sinks (next + 1), reports)
    else some (tracer, .returned, [])
  | .returned => none

structure System where
  tracer : Tracer
  calls : List Call := []
  reports : List Report := []

namespace System

inductive Action
  | message (op text : Raw)
  | widget (op : Raw) (shown : Option Widget)
  | step (call : Nat)
  | tick (clock : Instant)
deriving DecidableEq, Repr

def enter (system : System) (content : Option Record) : System :=
  { system with calls := system.calls ++ [{ content }] }

def act? (system : System) : Action → Option System
  | .message op text => some (system.enter (some { op, message := text }))
  | .widget op shown => some (system.enter (shown.map fun widget => { op, widget := some widget }))
  | .tick clock => some { system with tracer := system.tracer.setClock clock }
  | .step number => do
    let call ← system.calls[number]?
    let (tracer, point, reports) ← step? system.tracer call
    pure
      { tracer
        calls := system.calls.set number { call with point }
        reports := system.reports ++ reports }

inductive Reachable (tracer : Tracer) : System → Prop
  | initial : Reachable tracer { tracer }
  | act {system next : System} (action : Action) :
    Reachable tracer system → system.act? action = some next → Reachable tracer next

end System

end HeadlessDesktop.Trace.Emission
