import HeadlessDesktop.Desktop.Facade
import HeadlessDesktop.Time.Span

/-! A bench for tests: a facade on the stub whose trace is recorded under a clock that the
test moves. -/

namespace HeadlessDesktop

open Text

namespace Bench

abbrev Finder := Widget → Bool

namespace Finder

def byKind (kind : Kind) : Finder := fun widget => widget.kind == kind

def byTitle (title : Raw) : Finder := fun widget => widget.title == title

def byLabel (label : Raw) : Finder := fun widget => widget.label == label

def childOf (id : WidgetId) : Finder := fun widget => widget.parent == id && widget.id != id

def all (finders : List Finder) : Finder := fun widget => finders.all (· widget)

end Finder

/-- A main call on a thread of its own. Its code can be taken once. -/
inductive LoopRun
  | blocked
  | ready (code : Int)
  | taken
deriving DecidableEq, Repr

end Bench

open Bench

structure Bench where
  facade : Facade
  clock : Time.Instant := fakeClockStart
  runs : List LoopRun := []

namespace Bench

/-- The stub is chosen and traced whatever the configuration says. The first record is made
before the clock is set. -/
def new (config : Option Config) (testName : String) : Bench :=
  let config := { config.getD .builtIn with backend := Stub.name, verbose := some true }
  let facade := { Facade.new (some config) with extra := some (.memory {}) }
  let (_, facade, _) := facade.init [testName]
  { facade }

def stub (bench : Bench) : Stub := bench.facade.activeStub?.getD {}

def withTracer (bench : Bench) (update : Tracer → Tracer) : Bench :=
  match bench.facade.active with
  | .stub stub =>
    let stub := { stub with tracing := stub.tracing.map update }
    { bench with facade := { bench.facade with active := .stub stub } }
  | _ => bench

def advance (bench : Bench) (span : Time.Span) : Bench :=
  let clock := bench.clock.advance span
  { bench with clock }.withTracer (·.setClock clock)

def records (bench : Bench) : List Trace.Record :=
  match bench.stub.tracing with
  | some tracer => (tracer.recorders.head?.map (·.records)).getD []
  | none => []

def ops (bench : Bench) : List Raw := bench.records.map (·.op)

def widget (bench : Bench) (handle : Handle) : Except String Widget :=
  match bench.stub.lookup? handle with
  | some widget => .ok widget
  | none => .error ("desktoptest: unknown handle " ++ natText handle.toNat)

def listText (items : List Raw) : Raw := "[" ++ Raw.join (items.intersperse " ") ++ "]"

/-- The complaint if the operations recorded are not those wanted. They are compared as one
text with commas between them. -/
def expectOps? (bench : Bench) (wanted : List Raw) : Option Raw :=
  if Raw.join (bench.ops.intersperse ",") = Raw.join (wanted.intersperse ",") then none
  else some ("trace ops = " ++ listText bench.ops ++ ", want " ++ listText wanted)

def find (bench : Bench) (finder : Finder) : List Widget :=
  bench.stub.registry.toList.filter finder

def runLoop (bench : Bench) : Bench × List Notice :=
  let (code, facade, notices) := bench.facade.startMain
  let run := match code with
    | some code => LoopRun.ready code
    | none => .blocked
  ({ bench with facade, runs := bench.runs ++ [run] }, notices)

def wait (bench : Bench) (run : Nat) (timeout : Time.Span) : Except String Int × Bench :=
  match bench.runs[run]? with
  | some (.ready code) => (.ok code, { bench with runs := bench.runs.set run .taken })
  | _ => (.error ("desktoptest: Main did not return within " ++ timeout.text), bench)

def quit (bench : Bench) : Bench × List Notice :=
  let (_, facade, notices) := bench.facade.mainQuit
  let (code, facade, more) := facade.finishMain
  let runs := bench.runs.map fun run => if run = .blocked then .ready code else run
  ({ bench with facade, runs }, notices ++ more)

end Bench

end HeadlessDesktop
