import DebugGateway.Channel
import DebugGateway.Config.Discovery
import DebugGateway.Config.Logging
import DebugGateway.Json.Record
import DebugGateway.Json.Value

namespace DebugGateway.Config.Arguments

open Json (Value Members)

structure Flag where
  key : String
  long : String
  short : Option Char
  read : String → Except String Value

def textValue (text : String) : Except String Value := .ok (.text text)

def pathValue (text : String) : Except String Value :=
  if text.isEmpty then .error "value is required" else .ok (.text text)

def timeValue (text : String) : Except String Value :=
  let digits := match text.toList with
    | '+' :: rest => rest
    | chars => chars
  if text.isEmpty then .error "cannot parse integer from empty string"
  else if digits.isEmpty || !digits.all Char.isDigit then .error "invalid digit found in string"
  else
    let n : Nat := digits.foldl (fun n c => n * 10 + (c.toNat - 48)) 0
    if n < 0x10000000000000000 then .ok (.int n) else .error "number too large to fit in target type"

def channelValue (text : String) : Except String Value :=
  match Channel.parse text with
  | .ok channel => .ok (.object channel.toMembers)
  | .error e => .error e.message

def formatValue (text : String) : Except String Value :=
  match LogFormat.ofText? text with
  | some format => .ok (.text format.name)
  | none => .error LogFormat.unknownMessage

def flags : List Flag := [
  ⟨"config_path", "config-path", none, pathValue⟩,
  ⟨"channel", "channel", some 'c', channelValue⟩,
  ⟨"log_filter", "log-filter", some 'l', textValue⟩,
  ⟨"log_format", "log-format", some 'L', formatValue⟩,
  ⟨"default_timeout_ms", "default-timeout-ms", some 'd', timeValue⟩,
  ⟨"grace_period_ms", "grace-period-ms", some 'g', timeValue⟩,
  ⟨"engine_program", "engine-program", some 'e', textValue⟩,
  ⟨"engine_args", "engine-args", some 'E', textValue⟩]

def Flag.shown (flag : Flag) : String :=
  s!"--{flag.long} <{String.ofList (flag.key.toList.map Char.toUpper)}>"

/-- What a word that begins with a dash asks for: a flag, and its value if it carries one. -/
def flagOf (word : String) : Except String (Flag × Option String) :=
  match word.toList with
  | '-' :: '-' :: name =>
    let (name, value) := name.span (· ≠ '=')
    match flags.find? (·.long == String.ofList name) with
    | some flag => .ok (flag, if value.isEmpty then none else some (String.ofList (value.drop 1)))
    | none =>
      if name = "help".toList then .error "help was asked for"
      else .error s!"error: unexpected argument '--{String.ofList name}' found"
  | _ :: letter :: value =>
    match flags.find? (·.short == some letter) with
    | some flag =>
      .ok (flag, match value with
        | [] => none
        | '=' :: value => some (String.ofList value)
        | value => some (String.ofList value))
    | none =>
      if letter = 'h' then .error "help was asked for"
      else .error s!"error: unexpected argument '-{letter}' found"
  | _ => .error s!"error: unexpected argument '{word}' found"

def isFlag (word : String) : Bool := Text.startsWith "-" word && word ≠ "-"

def setFlag (flag : Flag) (value : String) (members : Members) : Except String Members :=
  if (List.lookup flag.key members).isSome then
    .error s!"error: the argument '{flag.shown}' cannot be used multiple times"
  else match flag.read value with
    | .ok v => .ok (members ++ [(flag.key, v)])
    | .error reason => .error s!"error: invalid value '{value}' for '{flag.shown}': {reason}"

def missingValue (flag : Flag) : String :=
  s!"error: a value is required for '{flag.shown}' but none was supplied"

def readWords (members : Members) : List String → Except String Members
  | [] => .ok members
  | word :: rest =>
    if word = "--" then
      match rest with
      | [] => .ok members
      | extra :: _ => .error s!"error: unexpected argument '{extra}' found"
    else if !isFlag word then .error s!"error: unexpected argument '{word}' found"
    else match flagOf word with
      | .error e => .error e
      | .ok (flag, some value) => do readWords (← setFlag flag value members) rest
      | .ok (flag, none) =>
        match rest with
        | value :: rest =>
          if isFlag value then .error (missingValue flag)
          else do readWords (← setFlag flag value members) rest
        | [] => .error (missingValue flag)

def parse (words : List String) : Except String Members := readWords [] words

end DebugGateway.Config.Arguments

namespace DebugGateway

structure Config where
  channel : Channel
  logFilter : String := "info"
  logFormat : LogFormat := .json
  defaultTimeout : Nat := 10000
  gracePeriod : Nat := 500
  engineProgram : String := ""
  engineArgs : String := ""
deriving DecidableEq, Repr

namespace Config

def ofUser (env : Environment) (user : String) : Config := { channel := Channel.ofUser env user }

def engine? (c : Config) : Option (String × List String) :=
  let program := Text.trim c.engineProgram
  if program.isEmpty then none else some (program, Text.words c.engineArgs)

def toMembers (c : Config) : Json.Members :=
  [("channel", .object c.channel.toMembers), ("log_filter", .text c.logFilter),
    ("log_format", .text c.logFormat.name), ("default_timeout_ms", .int c.defaultTimeout),
    ("grace_period_ms", .int c.gracePeriod), ("engine_program", .text c.engineProgram),
    ("engine_args", .text c.engineArgs)]

/-! ## Reading -/

open Json

def field {α : Type} (name : String) (reader : List Char → Except Halt (α × List Char))
    (put : α → Config → Config) : Json.Field Config :=
  ⟨name, fun c text => (reader text).map fun (a, rest) => (put a c, rest)⟩

def textField (name : String) (put : String → Config → Config) : Json.Field Config :=
  field name (readText "a string") put

def timeField (name : String) (put : Nat → Config → Config) : Json.Field Config :=
  field name (readInt .unsigned64) fun n => put n.toNat

/-- The settings in JSON: a record that passes over what it does not know, or a list. -/
def shape : Shape Config where
  wanted := "struct Config"
  fields := [
    field "channel" (Channel.read (greatestDepth - 1)) fun channel c => { c with channel },
    textField "log_filter" fun logFilter c => { c with logFilter },
    field "log_format" LogFormat.read fun logFormat c => { c with logFormat },
    timeField "default_timeout_ms" fun defaultTimeout c => { c with defaultTimeout },
    timeField "grace_period_ms" fun gracePeriod c => { c with gracePeriod },
    textField "engine_program" fun engineProgram c => { c with engineProgram },
    textField "engine_args" fun engineArgs c => { c with engineArgs }]
  other := ignoreOther

def parse (start : Config) (text : String) : Except Refusal Config :=
  parseWith (shape.read start) text

mutual

def overlay (under : Value) : Value → Value
  | .object members =>
    .object (overlayMembers (match under with | .object under => under | _ => []) members)
  | .null => .null
  | .bool b => .bool b
  | .int n => .int n
  | .real x => .real x
  | .text s => .text s
  | .list items => .list items

def overlayMembers (under : List (String × Value)) :
    List (String × Value) → List (String × Value)
  | [] => under
  | (key, v) :: rest =>
    overlayMembers (Members.put key (overlay ((Members.get? key under).getD .null) v) under) rest

end

def merged (layers : List Members) : Value :=
  layers.foldl (fun under layer => overlay under (.object layer)) .null

def ofLayers (start : Config) (layers : List Members) : Except ConfigError Config :=
  (start.parse (merged layers).compact).mapError fun refusal => .merge refusal.fault.message

def load (words : List String) (env : Environment) (user : String) (files : Files) :
    Except ConfigError Config :=
  let (given, refused) := match Arguments.parse words with
    | .ok members => (members, [])
    | .error message => ([], [ConfigError.arguments message])
  let asked := (Members.get? "config_path" given).bind Value.asText?
  let found := Discovery.look files {} (Discovery.candidates asked env)
  let layers := found.layers ++ [Variables.members env, given].filter (!·.isEmpty)
  let errors := refused ++ found.failures
  match ofLayers (ofUser env user) layers, errors with
  | .ok config, [] => .ok config
  | .ok _, errors => .error (.all errors)
  | .error e, errors => .error (.all (errors ++ [e]))

end Config

end DebugGateway
