import HeadlessDesktop.Backend.Toolkit

/-! Toolkits that act by a script: which calls panic, how the start goes, and with which code
the loop ends. They serve to try out what stands in front of a toolkit. -/

namespace HeadlessDesktop.Backend

open Report Text

def Call.word : Call → String
  | .init _ => "init"
  | .windowNew _ _ _ => "window"
  | .buttonNew _ => "button"
  | .setParent _ _ => "parent"
  | .display _ => "show"
  | .setTitle _ _ => "title"
  | .main => "main"
  | .mainQuit => "quit"

def Call.text (call : Call) : Raw :=
  match call with
  | .init args => call.word ++ " " ++ natText args.length
  | .windowNew title width height =>
    call.word ++ " " ++ title ++ " " ++ intText width.toInt ++ "x" ++ intText height.toInt
  | .buttonNew label => call.word ++ " " ++ label
  | .setParent child parent =>
    call.word ++ " " ++ natText child.toNat ++ "->" ++ natText parent.toNat
  | .display handle => call.word ++ " " ++ natText handle.toNat
  | .setTitle handle title => call.word ++ " " ++ natText handle.toNat ++ " " ++ title
  | .main | .mainQuit => call.word

def Call.creates : Call → Bool
  | .windowNew _ _ _ | .buttonNew _ => true
  | _ => false

structure Script where
  reported : Raw := ""
  factoryError : Option Raw := none
  initError : Option Raw := none
  /-- The factory gives neither a toolkit nor a reason. -/
  givesNothing : Bool := false
  /-- The words of the calls that panic, `factory` among them. -/
  panics : List String := []
  mainCode : Int := 0
deriving DecidableEq, Repr

namespace Script

def crash? (script : Script) (word : String) : Option PanicValue :=
  if script.panics.contains word then some (.text ("toolkit crashed in " ++ word)) else none

/-- Handles count the creations that came through. -/
def nextHandle (script : Script) (received : List Call) : Handle :=
  UInt64.ofNat (received.filter fun call =>
    call.creates && (script.crash? call.word).isNone).length + 1

def answer (script : Script) (received : List Call) : (call : Call) → call.Answer
  | .init _ => script.initError.map Cause.text
  | .windowNew _ _ _ => script.nextHandle received
  | .buttonNew _ => script.nextHandle received
  | .setParent _ _ => ()
  | .display _ => ()
  | .setTitle _ _ => ()
  | .main => script.mainCode
  | .mainQuit => ()

def toolkit (script : Script) : Toolkit where
  name := script.reported
  respond := fun received call =>
    match script.crash? call.word with
    | some value => .panicked value
    | none => .returned (script.answer received call)

def factory (script : Script) : Factory := fun _ =>
  match script.crash? "factory" with
  | some value => .panicked value
  | none => .returned (match script.factoryError with
    | some message => .error (.text message)
    | none => .ok (if script.givesNothing then none else some script.toolkit))

end Script

end HeadlessDesktop.Backend
