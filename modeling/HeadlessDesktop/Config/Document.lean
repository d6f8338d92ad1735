import HeadlessDesktop.Config.Basic
import HeadlessDesktop.Yaml.Decode
import HeadlessDesktop.Yaml.Written

/-! A configuration as a YAML document. -/

namespace HeadlessDesktop.Config

open Yaml Text

def traceType : Decode.RecordType TraceSettings where
  name := "config.TraceConfig"
  fields := [
    Decode.field "format" Decode.string (·.format) fun old format => { old with format },
    Decode.field "prefix" Decode.string (·.lead) fun old lead => { old with lead },
    Decode.field "keep" Decode.int (·.keep) fun old keep => { old with keep }]

def windowType : Decode.RecordType WindowSettings where
  name := "config.WindowConfig"
  fields := [
    Decode.field "width" Decode.int (·.width) fun old width => { old with width },
    Decode.field "height" Decode.int (·.height) fun old height => { old with height }]

def buttonType : Decode.RecordType ButtonSettings where
  name := "config.ButtonConfig"
  fields := [Decode.field "label" Decode.string (·.label) fun _ label => { label }]

def parentingType : Decode.RecordType ParentingSettings where
  name := "config.ParentingConfig"
  fields := [Decode.field "policy" Decode.string (·.policy) fun _ policy => { policy }]

def inspectType : Decode.RecordType InspectSettings where
  name := "config.InspectConfig"
  fields := [Decode.field "addr" Decode.string (·.addr) fun _ addr => { addr }]

/-- The fields of a document. The number bounds how far merged mappings are followed. -/
def documentType (steps : Nat) : Decode.RecordType Config where
  name := "config.Config"
  fields := [
    Decode.field "abi" Decode.string (·.abi) fun old abi => { old with abi },
    Decode.field "backend" Decode.string (·.backend) fun old backend => { old with backend },
    Decode.field "verbose" Decode.bool (·.verbose) fun old verbose => { old with verbose },
    Decode.field "trace" (Decode.record traceType steps) (·.trace)
      fun old trace => { old with trace },
    Decode.field "window" (Decode.record windowType steps) (·.window)
      fun old window => { old with window },
    Decode.field "button" (Decode.record buttonType steps) (·.button)
      fun old button => { old with button },
    Decode.field "parenting" (Decode.record parentingType steps) (·.parenting)
      fun old parenting => { old with parenting },
    Decode.field "inspect" (Decode.record inspectType steps) (·.inspect)
      fun old inspect => { old with inspect }]

def ofDocument (text : Raw) : Except ReadError Config :=
  (readInto documentType (sourceOf text) builtIn).map fillDefaults

def textField (indent : Nat) (name : String) (value : Raw) : List Char :=
  if value = "" then []
  else List.replicate indent ' ' ++ name.toList ++ ':' :: ' ' :: Written.raw indent value

def numberField (indent : Nat) (name : String) (value : Int64) : List Char :=
  if value = 0 then []
  else List.replicate indent ' ' ++ name.toList ++ ':' :: ' ' :: signedDecimal value.toInt ++ ['\n']

def group (name : String) (fields : List Char) : List Char :=
  if fields.isEmpty then name.toList ++ [':', ' ', '\x7b', '\x7d', '\n']
  else name.toList ++ ':' :: '\n' :: fields

def verboseField : Option Bool → List Char
  | none => []
  | some true => "verbose: true\n".toList
  | some false => "verbose: false\n".toList

def document (config : Config) : String :=
  let inner := Written.indentStep
  String.ofList (
    textField 0 "abi" config.abi ++
    textField 0 "backend" config.backend ++
    verboseField config.verbose ++
    group "trace" (
      textField inner "format" config.trace.format ++
      textField inner "prefix" config.trace.lead ++
      numberField inner "keep" config.trace.keep) ++
    group "window" (
      numberField inner "width" config.window.width ++
      numberField inner "height" config.window.height) ++
    group "button" (textField inner "label" config.button.label) ++
    group "parenting" (textField inner "policy" config.parenting.policy) ++
    group "inspect" (textField inner "addr" config.inspect.addr))

end HeadlessDesktop.Config
