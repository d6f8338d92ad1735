import HeadlessDesktop.CommandLine.Command

/-! What the arguments ask for. The path of the configuration may stand anywhere. -/

namespace HeadlessDesktop.CommandLine

inductive Scan
  | help
  | version
  | missingPath
  | arguments (kept : List String)
deriving DecidableEq, Repr

def asksForHelp (argument : String) : Bool :=
  argument == "-h" || argument == "--help" || argument == "help"

def asksForVersion (argument : String) : Bool :=
  argument == "-v" || argument == "--version" || argument == "version"

def pathOption : String := "--config"

def inlinePath? (argument : String) : Option String :=
  let lead := pathOption.toList ++ ['=']
  if lead.isPrefixOf argument.toList then some (String.ofList (argument.toList.drop lead.length))
  else none

/-- Help and version count only before the first argument that is kept. The path that was
given last comes along, wherever the scan ends. -/
def scan (kept : List String) (path : String) : List String → Scan × String
  | [] => (.arguments kept, path)
  | argument :: rest =>
    if asksForHelp argument then
      if kept.isEmpty then (.help, path) else scan (kept ++ [argument]) path rest
    else if asksForVersion argument then
      if kept.isEmpty then (.version, path) else scan (kept ++ [argument]) path rest
    else if argument = pathOption then
      match rest with
      | [] => (.missingPath, path)
      | path :: rest => scan kept path rest
    else match inlinePath? argument with
      | some path => scan kept path rest
      | none => scan (kept ++ [argument]) path rest

inductive Invocation
  | help
  | version
  | missingPath
  | unknownCommand (name : String)
  | commandHelp (command : Command)
  | run (command : Command) (arguments : List String) (path : String)
deriving DecidableEq, Repr

def Invocation.ofScan (path : String) : Scan → Invocation
  | .help => .help
  | .version => .version
  | .missingPath => .missingPath
  | .arguments [] => .help
  | .arguments (name :: rest) =>
    match Command.ofName? name with
    | none => .unknownCommand name
    | some command => if rest.any asksForHelp then .commandHelp command else .run command rest path

/-- What lasts from one run to the next: the path that was given last stays behind. -/
structure Shell where
  path : String := ""
deriving DecidableEq, Repr

def Shell.execute (shell : Shell) (arguments : List String) : Invocation × Shell :=
  let begun := { shell with path := "" }
  let (found, path) := scan [] begun.path arguments
  (.ofScan path found, { begun with path })

def Invocation.ofArguments (arguments : List String) : Invocation :=
  (({} : Shell).execute arguments).1

end HeadlessDesktop.CommandLine
