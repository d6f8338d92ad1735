import HeadlessDesktop.Trace.Sink

/-! The tracer numbers and stamps records and hands each to every sink. -/

namespace HeadlessDesktop

open Text (Raw)
open Trace Time

/-- The clock shows the time of the next record. -/
structure Tracer where
  enabled : Bool := true
  seq : UInt64 := 0
  clock : Instant := .zero
  sinks : List Sink := []

namespace Tracer

def deliver (record : Record) : List Sink → List Sink × List Report
  | [] => ([], [])
  | sink :: rest =>
    let (sink, reports) := sink.emit record
    let (rest, more) := deliver record rest
    (sink :: rest, reports ++ more)

def stamp (tracer : Tracer) (record : Record) : Record :=
  { record with seq := tracer.seq + 1, time := tracer.clock }

def emit (tracer : Tracer) (record : Record) : Tracer × List Report :=
  if tracer.enabled then
    let (sinks, reports) := deliver (tracer.stamp record) tracer.sinks
    ({ tracer with seq := tracer.seq + 1, sinks }, reports)
  else (tracer, [])

def message (tracer : Tracer) (op message : Raw) : Tracer × List Report :=
  tracer.emit { op, message }

def widget (tracer : Tracer) (op : Raw) (widget : Option Widget) : Tracer × List Report :=
  match widget with
  | some widget => tracer.emit { op, widget := some widget }
  | none => (tracer, [])

def setEnabled (tracer : Tracer) (on : Bool) : Tracer := { tracer with enabled := on }

def setClock (tracer : Tracer) (clock : Instant) : Tracer := { tracer with clock }

def addSink (tracer : Tracer) (sink : Option Sink) : Tracer :=
  { tracer with sinks := tracer.sinks ++ sink.toList }

def recorders (tracer : Tracer) : List Recorder := tracer.sinks.filterMap Sink.recorder?

def reset (tracer : Tracer) : Tracer := { tracer with sinks := tracer.sinks.map Sink.reset }

end Tracer

/-- A place for a tracer that may be empty; then nothing is traced. -/
abbrev Tracing := Option Tracer

namespace Tracing

def emit (tracing : Tracing) (emission : Tracer → Tracer × List Report) :
    Tracing × List Report :=
  match tracing with
  | some tracer => let (tracer, reports) := emission tracer; (some tracer, reports)
  | none => (none, [])

def message (tracing : Tracing) (op message : Raw) : Tracing × List Report :=
  tracing.emit (·.message op message)

def widget (tracing : Tracing) (op : Raw) (widget : Option Widget) :
    Tracing × List Report :=
  tracing.emit (·.widget op widget)

end Tracing

def fakeClockStart : Instant := ⟨1704067200, nanosOf 0, 0⟩

end HeadlessDesktop
