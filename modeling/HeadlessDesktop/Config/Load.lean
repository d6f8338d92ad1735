import HeadlessDesktop.Config.Document
import HeadlessDesktop.Files.Tree
import HeadlessDesktop.Report.Panic

/-! Loading a configuration from files and the environment. -/

namespace HeadlessDesktop.Config

open Files Yaml Text

inductive LoadError
  | unreadable (path : String) (why : OpenError)
  | malformed (path : String)
  | mistyped (path : String) (faults : List TypeFault)
  | invalid (why : Invalid)
  /-- Reading does not return. -/
  | panicked (fault : Report.Fault)
deriving Repr

def LoadError.message : LoadError → Raw
  | .unreadable path why => "failed to read " ++ path ++ ": " ++ why.message path
  | .malformed path => "failed to parse " ++ path
  | .mistyped path faults =>
    "failed to parse " ++ path ++ ": yaml: unmarshal errors:" ++
      Raw.join (faults.map fun fault => "\n  " ++ fault.message)
  | .invalid why => why.message
  | .panicked fault => fault.message

def fileName : String := "desktop.yaml"

def load (read : Reader) (path : String) : Except LoadError Config :=
  match read path with
  | .error why => .error (.unreadable path why)
  | .ok text =>
    match ofDocument text with
    | .ok config => .ok config
    | .error .malformed => .error (.malformed path)
    | .error (.faults faults) => .error (.mistyped path faults)
    | .error (.unhashable key) => .error (.panicked (.unhashable key.typeName))

def loadOptional (read : Reader) (directory : String) : Except LoadError Config :=
  match load read (join directory fileName) with
  | .error (.unreadable _ .missing) => .ok builtIn
  | result => result

def checked (config : Config) (environment : Environment) : Except LoadError Config :=
  let config := config.applyEnvironment environment
  match config.validate with
  | .ok () => .ok config
  | .error why => .error (.invalid why)

def resolve (read : Reader) (environment : Environment) (directory : String) :
    Except LoadError Config := do
  let path := environment.config.getD ""
  let config ← if path = "" then loadOptional read directory else load read path
  checked config environment

/-- What a run is handed: a configuration that holds, one that is at fault and why, or the
reason why there is none. -/
inductive Loaded
  | valid (config : Config)
  | faulty (config : Config) (why : Invalid)
  | failed (why : LoadError)

def Loaded.result : Loaded → Except LoadError Config
  | .valid config => .ok config
  | .faulty _ why => .error (.invalid why)
  | .failed why => .error why

/-- A path that was given goes before the file that the environment names. -/
def choose (read : Reader) (environment : Environment) (directory path : String) : Loaded :=
  if path = "" then
    match resolve read environment directory with
    | .ok config => .valid config
    | .error why => .failed why
  else match load read path with
    | .error why => .failed why
    | .ok config =>
      let config := config.applyEnvironment environment
      match config.validate with
      | .ok () => .valid config
      | .error why => .faulty config why

end HeadlessDesktop.Config
