import HeadlessDesktop.Config.Basic

/-! The commands and their help. -/

namespace HeadlessDesktop.CommandLine

inductive Command
  | config
  | backends
  | demo
  | serve
deriving DecidableEq, Repr

def programName : String := "vitte-desktop"

namespace Command

def all : List Command := [.config, .backends, .demo, .serve]

def name : Command → String
  | .config => "config"
  | .backends => "backends"
  | .demo => "demo"
  | .serve => "serve"

def ofName? (name : String) : Option Command := all.find? fun command => command.name == name

def summary : Command → String
  | .config => "Print the resolved configuration"
  | .backends => "List linked backends"
  | .demo => "Build a small scene and run the event loop"
  | .serve => "Run the demo scene with the inspection server"

def description : Command → List String
  | .config => [
    "Print the configuration after merging desktop.yaml and the environment.",
    "Exits with an error if the configuration is invalid."]
  | .backends => ["List the backends linked into this binary. \"stub\" is always present."]
  | .demo => [
    "Build a demo scene and run the event loop.",
    "",
    "The scene is a window \"App\" (640x480) holding a button created as \"OK\" and",
    "retitled \"Confirm\". The loop runs until interrupted (Ctrl-C) or, with --for,",
    "until the duration elapses.",
    "",
    "Flags:",
    "  --for DURATION   Quit the loop after DURATION (e.g. 500ms, 2s)"]
  | .serve => [
    "Run the demo scene on the stub backend and serve its widget graph over",
    "HTTP. The loop runs until Ctrl-C or POST /loop/quit.",
    "",
    "Endpoints: /health, /widgets, /widgets/\x7bid\x7d, /widgets/\x7bid\x7d/children,",
    "/loop, /loop/quit (POST), /traces.",
    "",
    "Flags:",
    "  --addr ADDR   Listen address (default: inspect.addr or 127.0.0.1:9777)"]

def usage (command : Command) : String :=
  programName ++ " " ++ command.name ++ match command with
    | .config | .backends => ""
    | .demo => " [--for DURATION]"
    | .serve => " [--addr ADDR]"

end Command

def lines (texts : List String) : String := String.join (texts.map (· ++ "\n"))

def usageLines (usage : String) : List String := ["", "Usage:", "  " ++ usage]

def Command.help (command : Command) : String :=
  lines (command.description ++ usageLines command.usage)

def padded (width : Nat) (text : String) : String :=
  text ++ String.ofList (List.replicate (width - text.length) ' ')

def help : String :=
  lines ([
    "vitte-desktop drives the desktop widget shim: windows, buttons, parenting",
    "and an event loop behind one stable interface. Without a real toolkit",
    "linked in, the stub backend simulates everything and prints a trace.",
    "",
    "Use \"vitte-desktop <command> --help\" for more information about a command."] ++
    usageLines (programName ++ " <command> [flags]") ++
    ["", "Commands:"] ++
    Command.all.map (fun command => "  " ++ padded 14 command.name ++ " " ++ command.summary) ++ [
    "",
    "Flags:",
    "  -h, --help           Show help for a command",
    "  -v, --version        Show version information",
    "  --config FILE        Configuration file (default: ./desktop.yaml)",
    "",
    "Environment:",
    "  VITTE_DESKTOP_CONFIG   Configuration file (lower priority than --config)",
    "  VITTE_DESKTOP_BACKEND  Backend name override",
    "  VITTE_DESKTOP_VERBOSE  0 disables trace output (QT_STUB_VERBOSE also honoured)",
    "",
    "Examples:",
    "  vitte-desktop demo --for 2s       Run the demo scene for two seconds",
    "  vitte-desktop serve --addr :9777  Inspect a running scene over HTTP"])

def version : String :=
  programName ++ " version 0.1.0-dev (built unknown, abi " ++ Config.abiVersionText ++ ")\n"

end HeadlessDesktop.CommandLine
