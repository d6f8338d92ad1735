import HeadlessDesktop.CommandLine.Run
import HeadlessDesktop.Inspect.Exchange
import Std.Async

/-! The program. Arguments, variables and files come in, texts go out, and the loop waits for
signals, for the clock and for requests. -/

namespace HeadlessDesktop.Program

open CommandLine Inspect Std.Async

def now : IO Time.Instant := do
  let elapsed := (← Std.Time.Timestamp.now).toNanosecondsSinceUnixEpoch
  return Time.Instant.epoch.advance elapsed.val

def variableNames : List String :=
  ["VITTE_DESKTOP_CONFIG", "VITTE_DESKTOP_BACKEND", "VITTE_DESKTOP_VERBOSE", "QT_STUB_VERBOSE",
    "VITTE_DESKTOP_INSPECT"]

def readEnvironment : IO Environment := do
  let mut environment : Environment := {}
  for name in variableNames do
    environment := environment.put name (← IO.getEnv name)
  return environment

def openError : IO.Error → Files.OpenError
  | .noFileOrDirectory .. => .missing
  | .invalidArgument .. => .nameTooLong
  | .permissionDenied .. => .refused "permission denied"
  | _ => .isADirectory

def readFile (path : String) : IO (Except Files.OpenError Text.Raw) := do
  try
    return .ok ⟨(← IO.FS.readBinFile path).toList⟩
  catch error => return .error (openError error)

def readHost (arguments : List String) : IO Host := do
  let environment ← readEnvironment
  let home := (← IO.currentDir).toString
  let files ← (sources environment home arguments).mapM fun path => do
    return (path, ← readFile path)
  return {
    read := fun path => (files.lookup path).getD (.error .missing)
    home, environment, clock := ← now }

def printSince (earlier transcript : Transcript) : IO Unit := do
  let out ← IO.getStdout
  out.write ⟨(transcript.output.bytes.drop earlier.output.bytes.length).toArray⟩
  out.flush
  let err ← IO.getStderr
  err.write ⟨(transcript.errors.drop earlier.errors.length).toArray⟩
  err.flush

def socketAddress? (host : String) (service : Nat) : Option Std.Net.SocketAddress :=
  match Std.Net.IPv4Addr.ofString host with
  | some addr => some (.v4 ⟨addr, service.toUInt16⟩)
  | none => (Std.Net.IPv6Addr.ofString host).map fun addr => .v6 ⟨addr, service.toUInt16⟩

def serviceOf : Std.Net.SocketAddress → Nat
  | .v4 address => address.port.toNat
  | .v6 address => address.port.toNat

def listen (address : String) : IO (Except ListenError (TCP.Socket.Server × String)) := do
  match resolveAddress address with
  | .error why => return .error why
  | .ok (host, service) =>
    let some socket := socketAddress? host service | return .error (.unknownHost host)
    try
      let server ← TCP.Socket.Server.mk
      server.bind socket
      server.listen 128
      return .ok (server, addressText host (serviceOf (← server.getSockName)))
    catch error => return .error (.refused (addressText host service) error.toString)

inductive Event
  | stop
  | client (client : TCP.Socket.Client)

def nextEvent (signals : List Signal.Waiter) (server : Option TCP.Socket.Server)
    (duration : Time.Span) : Async Event := do
  let timer ← if 0 < duration then
      some <$> Selector.sleep (.ofNat ((duration.toNat + 999999) / 1000000))
    else pure none
  let reasons := signals.map (·.selector) ++ timer.toList
  let stops : List (Selectable Event) := reasons.map fun reason =>
    .case reason fun _ => pure .stop
  let clients : List (Selectable Event) := server.toList.map fun server =>
    .case server.acceptSelector fun client => pure (.client client)
  Selectable.one (stops ++ clients).toArray

def exchange (scene : Scene) (client : TCP.Socket.Client) : Async Progress := do
  let bytes := (← client.recv? 65536).getD .empty
  let (response, progress) := match Request.ofText (Text.decodeUtf8 bytes.toList) with
    | .error why => (Response.failure 400 why.message, Progress.looping 0 scene)
    | .ok request => scene.request request
  client.send response.text.toUTF8
  client.shutdown
  return progress

partial def settle (signals : List Signal.Waiter) (server : Option TCP.Socket.Server)
    (shown : Transcript) : Progress → IO Ending
  | .ended ending => do
    printSince shown ending.transcript
    return ending
  | .listening address scene => do
    printSince shown scene.transcript
    match ← listen address with
    | .error why => settle signals none scene.transcript (scene.serve (.error why))
    | .ok (server, bound) =>
      settle signals (some server) scene.transcript (scene.serve (.ok bound))
  | .looping duration scene => do
    printSince shown scene.transcript
    let event ← (nextEvent signals server duration).block
    let current := scene.setClock (← now)
    match event with
    | .stop => settle signals server scene.transcript (.ended current.quit)
    | .client client =>
      let progress ←
        try (exchange current client).block
        catch _ => pure (.looping duration current)
      settle signals server scene.transcript progress

end HeadlessDesktop.Program

open HeadlessDesktop in
def main (arguments : List String) : IO UInt32 := do
  let host ← Program.readHost arguments
  let signals ← [Std.Async.Signal.sigint, .sigterm].mapM (Std.Async.Signal.Waiter.mk · false)
  let ending ← Program.settle signals none {} (CommandLine.start host arguments)
  match ending.error with
  | none => return 0
  | some error =>
    (← IO.getStderr).write ⟨("Error: " ++ error.message ++ "\n" : Text.Raw).bytes.toArray⟩
    return 1
