import HeadlessDesktop.Backend.Stub
import HeadlessDesktop.Text.Split
import HeadlessDesktop.Trace.JsonForm

/-! A window into a running stub: its widgets, its loop and its trace as JSON over HTTP. -/

namespace HeadlessDesktop.Inspect

open Text

structure Request where
  method : String
  path : String
deriving DecidableEq, Repr

structure Response where
  status : Nat
  body : String := ""
  contentType : String := ""
  allow : String := ""
deriving DecidableEq, Repr

inductive Endpoint
  | health
  | widgets
  | widget (id : String)
  | children (id : String)
  | loop
  | quit
  | traces
deriving DecidableEq, Repr

namespace Endpoint

/-- Paths match exactly. A widget needs an id to be named; for its children the id may even be
empty. -/
def ofPath? (path : String) : Option Endpoint :=
  match (splitAtChar '/' path.toList).map String.ofList with
  | ["", "health"] => some .health
  | ["", "widgets"] => some .widgets
  | ["", "widgets", id] => if id = "" then none else some (.widget id)
  | ["", "widgets", id, "children"] => some (.children id)
  | ["", "loop"] => some .loop
  | ["", "loop", "quit"] => some .quit
  | ["", "traces"] => some .traces
  | _ => none

def method : Endpoint → String
  | .quit => "POST"
  | _ => "GET"

def allow (endpoint : Endpoint) : String := "OPTIONS, " ++ endpoint.method

end Endpoint

def parseId? (text : String) : Option WidgetId :=
  if text.toList.all fun c => (digitValue? c).isSome then
    match numeral? 10 text.toList with
    | some value => if value < 0x10000000000000000 then some (UInt64.ofNat value) else none
    | none => none
  else none

def Response.json (status : Nat) (value : Json) : Response :=
  { status, body := value.text ++ "\n", contentType := "application/json" }

def Response.failure (status : Nat) (message : String) : Response :=
  .json status (.object [("message", .string message)])

def findWidget (stub : Stub) (id : String) : Except Response Widget :=
  match parseId? id with
  | none => .error (.failure 400 "invalid widget id")
  | some id => match stub.lookup? id with
    | some widget => .ok widget
    | none => .error (.failure 404 "widget not found")

def status (stub : Stub) : Response :=
  .json 200 (.object [("state", .string stub.stateName), ("widgets", .int stub.registry.size)])

/-- Records as one list; if one of them cannot be written the server has failed. -/
def tracesResponse (records : List Trace.Record) : Response :=
  match records.mapM Trace.Record.toJson with
  | .ok values => .json 200 (.array values)
  | .error _ => .failure 500 "Internal Server Error"

def serve (stub : Stub) (traces : Option Trace.Recorder) :
    Endpoint → Response × Stub × List Report
  | .health => (.json 200 (.object [("status", .string "ok")]), stub, [])
  | .widgets => (.json 200 (.array (stub.registry.toList.map Widget.toJson)), stub, [])
  | .widget id => (match findWidget stub id with
    | .ok widget => .json 200 widget.toJson
    | .error response => response, stub, [])
  | .children id => (match findWidget stub id with
    | .ok widget => .json 200 (.array ((stub.registry.children widget.id).map Widget.toJson))
    | .error response => response, stub, [])
  | .loop => (status stub, stub, [])
  | .quit =>
    let (stub, reports) := stub.mainQuit
    (status stub, stub, reports)
  | .traces => (tracesResponse ((traces.map (·.records)).getD []), stub, [])

def respond (stub : Stub) (traces : Option Trace.Recorder) (request : Request) :
    Response × Stub × List Report :=
  match Endpoint.ofPath? request.path with
  | none =>
    (if request.method = "HEAD" then { status := 404 } else .failure 404 "Not Found", stub, [])
  | some endpoint =>
    if request.method = endpoint.method then serve stub traces endpoint
    else if request.method = "OPTIONS" then ({ status := 204, allow := endpoint.allow }, stub, [])
    else
      let refusal : Response :=
        if request.method = "HEAD" then { status := 405 } else .failure 405 "Method Not Allowed"
      ({ refusal with allow := endpoint.allow }, stub, [])

end HeadlessDesktop.Inspect
