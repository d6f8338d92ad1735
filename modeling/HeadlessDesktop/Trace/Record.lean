import HeadlessDesktop.Time.Instant
import HeadlessDesktop.Widget.Basic

/-! Trace records: what a call did, to which widget, and when. -/

namespace HeadlessDesktop.Trace

open Text (Raw)
open Time

structure Record where
  seq : UInt64 := 0
  time : Instant := .zero
  op : Raw := ""
  widget : Option Widget := none
  message : Raw := ""
deriving DecidableEq, Repr, Inhabited

def Record.texts (record : Record) : List Raw :=
  record.op :: record.message ::
    match record.widget with
    | some widget => [widget.title, widget.label]
    | none => []

def defaultLead : String := "[Stub]"

def leadOf (chosen : Raw) : Raw := if chosen = "" then defaultLead else chosen

def Record.line (record : Record) (lead : Raw) : Raw :=
  match record.widget with
  | some widget => lead ++ " " ++ record.op ++ " " ++ widget.describe ++ "\n"
  | none =>
    if record.message = "" then lead ++ " " ++ record.op ++ "\n"
    else lead ++ " " ++ record.op ++ ": " ++ record.message ++ "\n"

end HeadlessDesktop.Trace
