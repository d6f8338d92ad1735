import HeadlessDesktop.Report.Basic
import HeadlessDesktop.Trace.Codec

/-! Sinks receive records: text lines, framed bytes, or a recorder in memory. -/

namespace HeadlessDesktop.Trace

open Text

/-- A writer may refuse any single write; what it refuses is not stored. The decision may
depend on the number of earlier writes, on what is stored and on what is to be written. -/
structure Writer where
  accepts : Nat → Bytes → Bytes → Bool := fun _ _ _ => true
  attempts : Nat := 0
  stored : Bytes := []

namespace Writer

def bounded (budget : Nat) : Writer where
  accepts := fun _ stored chunk => stored.length + chunk.length ≤ budget

def accepting (writer : Writer) (chunk : Bytes) : Bool :=
  writer.accepts writer.attempts writer.stored chunk

def write (writer : Writer) (chunk : Bytes) : Writer :=
  { writer with
    attempts := writer.attempts + 1
    stored := if writer.accepting chunk then writer.stored ++ chunk else writer.stored }

end Writer

/-- Keeps the latest records, all of them unless the limit is positive. -/
structure Recorder where
  limit : Int := 0
  records : List Record := []
deriving DecidableEq, Repr

namespace Recorder

def latest (limit : Int) (records : List Record) : List Record :=
  if 0 < limit then records.drop (records.length - limit.toNat) else records

def emit (recorder : Recorder) (record : Record) : Recorder :=
  { recorder with records := latest recorder.limit (recorder.records ++ [record]) }

def ops (recorder : Recorder) : List Raw := recorder.records.map (·.op)

def reset (recorder : Recorder) : Recorder := { recorder with records := [] }

end Recorder

inductive Sink
  | text (lead : Raw) (writer : Writer)
  | framed (codec : Codec) (writer : Writer)
  | memory (recorder : Recorder)

def writeFrame (writer : Writer) (body : Bytes) : Writer :=
  let after := writer.write (frameHeader body)
  if writer.accepting (frameHeader body) then after.write body else after

def unencodableReport (codec : Codec) (why : Time.Unwritable) : Report :=
  { op := "trace.CodecSink.Emit", area := .backend,
    cause := some (.unencodable codec.name why) }

def Sink.emit (sink : Sink) (record : Record) : Sink × List Report :=
  match sink with
  | .text lead writer => (.text lead (writer.write (record.line lead).bytes), [])
  | .framed codec writer =>
    match codec.encode record with
    | .ok body => (.framed codec (writeFrame writer body), [])
    | .error why => (sink, [unencodableReport codec why])
  | .memory recorder => (.memory (recorder.emit record), [])

def Sink.recorder? : Sink → Option Recorder
  | .memory recorder => some recorder
  | _ => none

def Sink.reset : Sink → Sink
  | .memory recorder => .memory recorder.reset
  | sink => sink

end HeadlessDesktop.Trace
