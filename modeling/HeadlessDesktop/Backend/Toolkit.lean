import HeadlessDesktop.Report.Basic

/-! Toolkits that are linked in, and the calls they receive. -/

namespace HeadlessDesktop

open Report
open Text (Raw)

/-- Widgets of a backend are named by handles; zero is the null handle. -/
abbrev Handle := UInt64

namespace Backend

inductive Call
  | init (args : List String)
  | windowNew (title : Raw) (width height : Int64)
  | buttonNew (label : Raw)
  | setParent (child parent : Handle)
  | display (handle : Handle)
  | setTitle (handle : Handle) (title : Raw)
  | main
  | mainQuit
deriving DecidableEq, Repr

def Call.Answer : Call → Type
  | .init _ => Option Cause
  | .windowNew _ _ _ => Handle
  | .buttonNew _ => Handle
  | .main => Int
  | _ => Unit

/-- A toolkit answers a call in the light of those that it received before, or panics. -/
structure Toolkit where
  name : Raw
  respond : (received : List Call) → (call : Call) → Outcome call.Answer

/-- What a factory gives: a toolkit, a reason why there is none, or neither. It may panic,
and it may behave differently each time. -/
abbrev Factory := (earlier : Nat) → Outcome (Except Cause (Option Toolkit))

inductive Maker
  | stub
  | linked (factory : Factory)

inductive Made
  | stub
  | linked (given : Outcome (Except Cause (Option Toolkit)))

def Maker.make (earlier : Nat) : Maker → Made
  | .stub => .stub
  | .linked factory => .linked (factory earlier)

/-- Makers by name, in the order of the names. -/
structure Directory where
  entries : List (Raw × Maker) := []

namespace Directory

def insert (name : Raw) (maker : Maker) : List (Raw × Maker) → List (Raw × Maker)
  | [] => [(name, maker)]
  | entry :: rest =>
    if name.bytes < entry.1.bytes then (name, maker) :: entry :: rest
    else if name = entry.1 then (name, maker) :: rest
    else entry :: insert name maker rest

def register (directory : Directory) (name : Raw) (maker : Option Maker) : Directory :=
  match maker with
  | some maker => if name = "" then directory else ⟨insert name maker directory.entries⟩
  | none => directory

def unregister (directory : Directory) (name : Raw) : Directory :=
  ⟨directory.entries.filter fun entry => entry.1 != name⟩

def names (directory : Directory) : List Raw := directory.entries.map (·.1)

def find? (directory : Directory) (name : Raw) : Except Cause Maker :=
  match directory.entries.find? fun entry => name = entry.1 with
  | some entry => .ok entry.2
  | none => .error (.unknownBackend name)

def make (directory : Directory) (name : Raw) (earlier : Nat) : Except Cause Made :=
  (directory.find? name).map (·.make earlier)

def standard : Directory := ⟨[("stub", .stub)]⟩

end Directory

end Backend

end HeadlessDesktop
