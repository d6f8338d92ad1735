import HeadlessDesktop.Text.Raw
import HeadlessDesktop.Time.InstantText

/-! What a report is about. -/

namespace HeadlessDesktop.Report

open Text (Raw)
open Time

/-- The reason of a report; one reason may wrap another. A fallback may have none. -/
inductive Cause
  | text (message : Raw)
  | unknownBackend (name : Raw)
  | alreadyRunning
  | unencodable (codec : String) (why : Unwritable)
  | fallback (target : Raw) (cause : Cause)
  | bareFallback (target : Raw)
deriving Repr, DecidableEq

namespace Cause

def unwritableMessage (why : Unwritable) : String :=
  "json: error calling MarshalJSON for type *time.Time: " ++ why.message

def message : Cause → Raw
  | .text message => message
  | .unknownBackend name => "backend: unknown backend: " ++ name.quoted
  | .alreadyRunning => "loop: already running"
  | .unencodable codec why => codec ++ " encode: " ++ unwritableMessage why
  | .fallback target cause => "falling back to " ++ target ++ " backend: " ++ cause.message
  | .bareFallback target => "falling back to " ++ target ++ " backend: %!w(<nil>)"

def root : Cause → Cause
  | .fallback _ cause => cause.root
  | cause => cause

def isUnknownBackend (cause : Cause) : Bool :=
  match cause.root with
  | .unknownBackend _ => true
  | _ => false

def isAlreadyRunning (cause : Cause) : Bool :=
  match cause.root with
  | .alreadyRunning => true
  | _ => false

def messageOf : Option Cause → Raw
  | some cause => cause.message
  | none => "<nil>"

end Cause

end HeadlessDesktop.Report
