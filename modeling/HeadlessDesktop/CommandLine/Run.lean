import HeadlessDesktop.CommandLine.Invocation
import HeadlessDesktop.Config.Load
import HeadlessDesktop.Desktop.Facade
import HeadlessDesktop.Inspect.Endpoint
import HeadlessDesktop.Inspect.Listener
import HeadlessDesktop.Time.Span

/-! What the commands do. A run ends, or it asks for a listener, or it blocks in the loop; in
the last two cases the host takes it further. -/

namespace HeadlessDesktop.CommandLine

open Report Text Inspect

structure Host where
  read : Files.Reader
  /-- The working directory. -/
  home : String
  environment : Environment := {}
  directory : Backend.Directory := .standard
  clock : Time.Instant := fakeClockStart

inductive RunError
  | missingPath
  | unknownCommand (name : String)
  | load (why : Config.LoadError)
  | missingDuration
  | badDuration (why : Time.SpanError)
  | missingAddress
  | unknownFlag (flag : String)
  | needsStub (active : Raw)
  | listen (why : ListenError)
  | exitCode (code : Int)
  | panicked (value : PanicValue)
deriving Repr

def RunError.message : RunError → Raw
  | .missingPath => "--config requires a file path"
  | .unknownCommand name => "unknown command: " ++ name
  | .load why => why.message
  | .missingDuration => "--for requires a duration"
  | .badDuration why => "invalid --for value: " ++ why.message
  | .missingAddress => "--addr requires an address"
  | .unknownFlag flag => "unknown flag " ++ quoted flag
  | .needsStub active => "serve requires the stub backend (active: " ++ active ++ ")"
  | .listen why => why.message
  | .exitCode code => "event loop exited with code " ++ intText code
  | .panicked value => value.message

structure Transcript where
  output : Raw := ""
  errors : Bytes := []
deriving DecidableEq, Repr

structure Scene where
  facade : Facade
  transcript : Transcript := {}

structure Ending where
  transcript : Transcript := {}
  contacts : List Facade.Contact := []
  error : Option RunError := none

inductive Progress
  | ended (ending : Ending)
  | listening (address : String) (scene : Scene)
  /-- The loop runs; a duration that is positive limits it. -/
  | looping (duration : Time.Span) (scene : Scene)

namespace Scene

/-- A call's notices are logged before its trace. -/
def act {α : Type} (scene : Scene) (call : Facade → α × Facade × List Notice) : α × Scene :=
  let (value, facade, notices) := call scene.facade
  let log := (Raw.join (notices.map (·.logText false))).bytes
  let trace := facade.traced.drop scene.facade.traced.length
  (value, { facade, transcript := { scene.transcript with
    errors := scene.transcript.errors ++ log ++ trace } })

def finish (scene : Scene) (error : Option RunError) : Ending :=
  { transcript := scene.transcript, contacts := scene.facade.contacts, error }

def setClock (scene : Scene) (clock : Time.Instant) : Scene :=
  { scene with facade := { scene.facade with
    clock
    active := match scene.facade.active with
      | .stub stub => .stub { stub with tracing := stub.tracing.map (·.setClock clock) }
      | active => active } }

def populate (scene : Scene) : Scene :=
  let (window, scene) := scene.act (·.windowNew "App" 640 480)
  let (button, scene) := scene.act (·.buttonNew "OK")
  let (_, scene) := scene.act (·.setParent button window)
  let (_, scene) := scene.act (·.setTitle button "Confirm")
  (scene.act (·.display window)).2

def exit (scene : Scene) (code : Int) : Ending :=
  scene.finish (if code = 0 then none else some (.exitCode code))

def enterLoop (scene : Scene) (duration : Time.Span) : Progress :=
  match scene.act Facade.startMain with
  | (some code, scene) => .ended (scene.exit code)
  | (none, scene) => .looping duration scene

def leaveLoop (scene : Scene) : Ending :=
  let (code, scene) := scene.act Facade.finishMain
  scene.exit code

def quit (scene : Scene) : Ending := (scene.act Facade.mainQuit).2.leaveLoop

def serve (scene : Scene) : Except ListenError String → Progress
  | .error why => .ended (scene.finish (some (.listen why)))
  | .ok bound =>
    let output := scene.transcript.output ++ "Inspecting on http://" ++ bound ++ "\n"
    { scene with transcript := { scene.transcript with output } }.enterLoop 0

def inspect (request : Request) (facade : Facade) : Response × Facade × List Notice :=
  match facade.activeStub? with
  | none => (.failure 404 "Not Found", facade, [])
  | some stub =>
    let (response, stub, reports) := respond stub facade.recorder? request
    (response, { facade with active := .stub stub }, reports.map .error)

def request (scene : Scene) (request : Request) : Response × Progress :=
  let (response, scene) := scene.act (inspect request)
  (response, match scene.facade.activeStub? with
    | some { phase := .stopping, .. } => .ended scene.leaveLoop
    | _ => .looping 0 scene)

end Scene

/-- The value of the one option that a command takes, given last; nothing else is accepted. -/
def optionValue {α : Type} (option : String) (missing : RunError)
    (read : String → Except RunError α) (value : α) : List String → Except RunError α
  | [] => .ok value
  | argument :: rest =>
    if argument = option then
      match rest with
      | [] => .error missing
      | text :: rest => do optionValue option missing read (← read text) rest
    else .error (.unknownFlag argument)

def demoDuration : List String → Except RunError Time.Span :=
  optionValue "--for" .missingDuration (fun text => (Time.Span.read text).mapError .badDuration) 0

def serveAddress (configured : String) : List String → Except RunError String :=
  optionValue "--addr" .missingAddress .ok configured

def defaultAddress : String := "127.0.0.1:9777"

namespace Host

def config (host : Host) (path : String) : Except RunError Config :=
  match (Config.choose host.read host.environment host.home path).result with
  | .ok config => .ok config
  | .error (.panicked fault) => .error (.panicked (.fault fault))
  | .error why => .error (.load why)

def scene (host : Host) (config : Config) (extra : Option Trace.Sink) (arguments : List String) :
    Scene :=
  let facade := { Facade.new (some config) with
    directory := host.directory, clock := host.clock, extra }
  ({ facade : Scene }.act (·.init arguments)).2

def demo (host : Host) (path : String) (arguments : List String) : Except RunError Progress := do
  let duration ← demoDuration arguments
  let config ← host.config path
  pure ((host.scene config none (programName :: arguments)).populate.enterLoop duration)

/-- The configuration is read before the options. Only a stub can be inspected. -/
def serve (host : Host) (path : String) (arguments : List String) : Except RunError Progress := do
  let config ← host.config path
  -- Nobody can listen on an address that is no text; it is shown in the complaint only.
  let address ← serveAddress config.inspect.addr.shown arguments
  let extra := Trace.Sink.memory { limit := config.trace.keep.toInt }
  let scene := host.scene config (some extra) [programName, "serve"]
  pure <| match scene.act Facade.stub? with
    | (.returned (some _), scene) =>
      .listening (if address = "" then defaultAddress else address) scene.populate
    | (.returned none, scene) => match scene.act Facade.backendName with
      | (.returned name, scene) => .ended (scene.finish (some (.needsStub name)))
      | (.panicked value, scene) => .ended (scene.finish (some (.panicked value)))
    | (.panicked value, scene) => .ended (scene.finish (some (.panicked value)))

def run (host : Host) (path : String) (arguments : List String) :
    Command → Except RunError Progress
  | .config => do
    let config ← host.config path
    pure (.ended { transcript := { output := config.document } })
  | .backends =>
    let lines : List Raw := host.directory.names.map (· ++ "\n")
    pure (.ended { transcript := { output := Raw.join lines } })
  | .demo => host.demo path arguments
  | .serve => host.serve path arguments

end Host

def sources (environment : Environment) (home : String) (arguments : List String) : List String :=
  match Invocation.ofArguments arguments with
  | .run _ _ path =>
    [path, environment.config.getD "", Files.join home Config.fileName].filter (· ≠ "")
  | _ => []

def start (host : Host) (arguments : List String) : Progress :=
  let printed (output : Raw) : Progress := .ended { transcript := { output } }
  match Invocation.ofArguments arguments with
  | .help => printed help
  | .version => printed version
  | .commandHelp command => printed command.help
  | .missingPath => .ended { error := some .missingPath }
  | .unknownCommand name => .ended
    { transcript :=
        { output := help
          errors := encodeUtf8 ("Error: unknown command " ++ quoted name ++ "\n\n") }
      error := some (.unknownCommand name) }
  | .run command arguments path =>
    match host.run path arguments command with
    | .ok progress => progress
    | .error error => .ended { error := some error }

end HeadlessDesktop.CommandLine
