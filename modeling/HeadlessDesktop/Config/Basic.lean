import HeadlessDesktop.Config.Environment
import HeadlessDesktop.Config.Version
import HeadlessDesktop.Widget.Parenting

/-! The configuration: its defaults, what the environment overrides, and when it is valid. -/

namespace HeadlessDesktop

open Text

namespace Config

structure TraceSettings where
  format : Raw := ""
  lead : Raw := ""
  keep : Int64 := 0
deriving DecidableEq, Repr, Inhabited

structure WindowSettings where
  width : Int64 := 0
  height : Int64 := 0
deriving DecidableEq, Repr, Inhabited

structure ButtonSettings where
  label : Raw := ""
deriving DecidableEq, Repr, Inhabited

structure ParentingSettings where
  policy : Raw := ""
deriving DecidableEq, Repr, Inhabited

structure InspectSettings where
  addr : Raw := ""
deriving DecidableEq, Repr, Inhabited

end Config

/-- Every field may be unset: empty text, zero, or no verbosity. -/
structure Config where
  abi : Raw := ""
  backend : Raw := ""
  verbose : Option Bool := none
  trace : Config.TraceSettings := {}
  window : Config.WindowSettings := {}
  button : Config.ButtonSettings := {}
  parenting : Config.ParentingSettings := {}
  inspect : Config.InspectSettings := {}
deriving DecidableEq, Repr, Inhabited

namespace Config

def abiVersion : Version := { major := 1 }

def abiVersionText : String := "v1.0.0"

def defaultWidth : Int64 := 800
def defaultHeight : Int64 := 600
def defaultLabel : String := "Button"

def stubName : String := "stub"

def builtIn : Config :=
  { abi := abiVersionText
    backend := stubName
    trace := { format := "text", keep := 256 }
    window := { width := defaultWidth, height := defaultHeight }
    button := { label := defaultLabel }
    parenting := { policy := Policy.permissive.name } }

def orElse {α : Type} [BEq α] (value unset fallback : α) : α :=
  if value == unset then fallback else value

/-- Gives unset fields their defaults. A blank backend is unset. -/
def fillDefaults (config : Config) : Config :=
  { config with
    backend := if config.backend.isBlank then builtIn.backend else config.backend
    trace := { config.trace with format := orElse config.trace.format "" builtIn.trace.format }
    window :=
      { width := orElse config.window.width 0 builtIn.window.width
        height := orElse config.window.height 0 builtIn.window.height }
    button := { label := orElse config.button.label "" builtIn.button.label }
    parenting := { policy := orElse config.parenting.policy "" builtIn.parenting.policy } }

/-- Variables that are set win over the configuration, blank backends and empty addresses
excepted. -/
def applyEnvironment (config : Config) (environment : Environment) : Config :=
  let backend := trim (environment.backend.getD "")
  { config with
    backend := orElse backend "" config.backend
    inspect := { addr := orElse (environment.inspect.getD "") "" config.inspect.addr }
    verbose := environment.verbosity? <|> config.verbose }

def verboseEnabled (config : Config) : Bool := config.verbose.getD true

def policy (config : Config) : Policy :=
  (config.parenting.policy.text?.bind Policy.parse?).getD .permissive

inductive Invalid
  | abiText (abi : Raw)
  | abiMajor (abi : Raw)
  | abiNewer (abi : Raw)
  | noBackend
  | unknownFormat (format : Raw)
  | negativeKeep (keep : Int64)
  | negativeSize (width height : Int64)
  | unknownPolicy (policy : Raw)
deriving DecidableEq, Repr

def Invalid.message : Invalid → Raw
  | .abiText abi =>
    "abi must be a semantic version like " ++ abiVersionText ++ " (got " ++ abi.quoted ++ ")"
  | .abiMajor abi => "abi " ++ abi ++ " is incompatible with " ++ abiVersionText
  | .abiNewer abi => "abi " ++ abi ++ " is newer than supported " ++ abiVersionText
  | .noBackend => "backend must not be empty"
  | .unknownFormat format =>
    "trace.format must be text, json or msgpack (got " ++ format.quoted ++ ")"
  | .negativeKeep keep =>
    "trace.keep must not be negative (got " ++ intText keep.toInt ++ ")"
  | .negativeSize width height =>
    "window size must not be negative (got " ++ intText width.toInt ++ "x" ++
      intText height.toInt ++ ")"
  | .unknownPolicy policy => Policy.unknownMessage policy

/-- An interface version of the same major number and not newer than ours; none at all is
fine too. -/
def checkAbi (abi : Raw) : Except Invalid Unit :=
  if abi = "" then .ok ()
  else match abi.text?.bind Version.parse? with
    | none => .error (.abiText abi)
    | some version =>
      if version.major ≠ abiVersion.major then .error (.abiMajor abi)
      else if version.precedence abiVersion = .gt then .error (.abiNewer abi)
      else .ok ()

def isFormat (format : Raw) : Bool :=
  format = "text" || format = "json" || format = "msgpack"

def validate (config : Config) : Except Invalid Unit := do
  checkAbi config.abi
  if config.backend = "" then throw .noBackend
  if !isFormat config.trace.format then throw (.unknownFormat config.trace.format)
  if config.trace.keep < 0 then throw (.negativeKeep config.trace.keep)
  if config.window.width < 0 || config.window.height < 0 then
    throw (.negativeSize config.window.width config.window.height)
  if (config.parenting.policy.text?.bind Policy.parse?).isNone then
    throw (.unknownPolicy config.parenting.policy)

def summary (config : Config) : Raw :=
  "backend=" ++ config.backend ++ " abi=" ++ config.abi ++ " verbose=" ++
    (if config.verboseEnabled then "true" else "false") ++ " trace=" ++ config.trace.format ++
    " window=" ++ intText config.window.width.toInt ++ "x" ++
    intText config.window.height.toInt ++ " policy=" ++ config.parenting.policy

end Config

end HeadlessDesktop
