/-! The environment variables that bear on a configuration. -/

namespace HeadlessDesktop

/-- A variable that is not set is `none`; one may be set to the empty text. -/
structure Environment where
  config : Option String := none
  backend : Option String := none
  verbose : Option String := none
  legacyVerbose : Option String := none
  inspect : Option String := none
deriving DecidableEq, Repr, Inhabited

namespace Environment

def isStorable (value : String) : Bool := !value.toList.contains (Char.ofNat 0)

def put (environment : Environment) (name : String) (value : Option String) : Environment :=
  if !value.all isStorable then environment
  else match name with
  | "VITTE_DESKTOP_CONFIG" => { environment with config := value }
  | "VITTE_DESKTOP_BACKEND" => { environment with backend := value }
  | "VITTE_DESKTOP_VERBOSE" => { environment with verbose := value }
  | "QT_STUB_VERBOSE" => { environment with legacyVerbose := value }
  | "VITTE_DESKTOP_INSPECT" => { environment with inspect := value }
  | _ => environment

def ofList (bindings : List (String × String)) : Environment :=
  bindings.foldl (fun environment (name, value) => environment.put name (some value)) {}

/-- The first of the two variables that is set decides; only `0` switches tracing off. -/
def verbosity? (environment : Environment) : Option Bool :=
  (environment.verbose <|> environment.legacyVerbose).map (· != "0")

def tracing (environment : Environment) : Bool := environment.verbosity?.getD true

end Environment

end HeadlessDesktop
