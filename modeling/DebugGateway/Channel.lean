import DebugGateway.Channel.Url
import DebugGateway.Json.Record
import DebugGateway.Json.Value
import DebugGateway.System.Files
import DebugGateway.System.Snapshot

namespace DebugGateway

inductive Channel where
  | unix (path : String)
  | tcp (host : String) (port : Nat)
deriving DecidableEq, Repr

inductive ChannelError where
  | unsupportedScheme (scheme : String)
  | missingHost (text : String)
  | missingPort (text : String)
  | missingPath (text : String)
  | notLocal (host : String)
  | url (e : UrlError)
deriving DecidableEq, Repr

def ChannelError.message : ChannelError → String
  | .unsupportedScheme scheme => s!"unsupported channel scheme '{scheme}'"
  | .missingHost text => s!"missing TCP host in '{text}'"
  | .missingPort text => s!"missing TCP port in '{text}'"
  | .missingPath text => s!"missing Unix socket path in '{text}'"
  | .notLocal host => s!"channel host '{host}' is not a loopback address"
  | .url e => e.message

namespace Channel

def text : Channel → String
  | unix path => "unix://" ++ path
  | tcp host port => "tcp://" ++ host ++ ":" ++ toString port

def path? : Channel → Option String
  | unix path => some path
  | tcp .. => none

def isLocal : Channel → Bool
  | unix _ => true
  | tcp host _ => isLoopbackHost host

def withoutBrackets (host : String) : String :=
  let opened := host.toList.dropWhile (· = '[')
  String.ofList (opened.reverse.dropWhile (· = ']')).reverse

def ofUrl (text : String) (url : Url) : Except ChannelError Channel :=
  if url.scheme = "unix" then
    if url.path.isEmpty then .error (.missingPath text) else .ok (.unix url.path)
  else if url.scheme = "tcp" then
    match url.host with
    | none => .error (.missingHost text)
    | some written =>
      match url.port with
      | none => .error (.missingPort text)
      | some port =>
        let host := withoutBrackets written
        if isLoopbackHost host then .ok (.tcp host port) else .error (.notLocal host)
  else .error (.unsupportedScheme url.scheme)

def parse (input : String) : Except ChannelError Channel :=
  let text := Text.trim input
  if Text.startsWith "/" text then .ok (.unix text)
  else match Url.parse text with
    | .ok url => ofUrl text url
    | .error e => .error (.url e)

def toMembers : Channel → Json.Members
  | unix path => [("transport", .text "unix"), ("path", .text path)]
  | tcp host port => [("transport", .text "tcp"), ("host", .text host), ("port", .int port)]

def directoryName : String := "dbgbridge"

def socketName : String := "dbgbridged.sock"

/-- The channel of a user who asks for none: a socket file in the directory for running programs, or
one among the temporary files that bears the number of the user. -/
def ofUser (env : Environment) (user : String) : Channel :=
  match (env.get? "XDG_RUNTIME_DIR").filter (Text.startsWith "/") with
  | some runtime => .unix (joinPath (joinPath runtime directoryName) socketName)
  | none =>
    let shared := joinPath ((env.get? "TMPDIR").getD "/tmp") directoryName
    .unix (joinPath (joinPath shared ("uid-" ++ user)) socketName)

end Channel

inductive ChannelDirectoryError where
  | missingParent (path : String)
  | notADirectory (path : String)
  | createDirectory (path : String) (cause : IoError)
deriving DecidableEq, Repr

def ChannelDirectoryError.message : ChannelDirectoryError → String
  | .missingParent path => s!"channel path '{path}' has no parent directory"
  | .notADirectory path => s!"channel directory '{path}' exists and is not a directory"
  | .createDirectory path cause =>
    s!"failed to create channel directory '{path}': {cause.message}"

namespace Channel

def directoryMode : Nat := 0o700

def directory? (path : String) : Option String :=
  (parentPath? path).filter (!·.isEmpty)

/-- Makes the directory of a socket file unless it is there. A port needs none. -/
def prepare (channel : Channel) (files : Files) : Except ChannelDirectoryError Files :=
  match channel.path? with
  | none => .ok files
  | some path =>
    match directory? path with
    | none => .error (.missingParent path)
    | some directory =>
      match files.stat true directory with
      | .ok (.directory _) => .ok files
      | .ok _ => .error (.notADirectory directory)
      | .error e =>
        if e.kind = .notFound then
          (files.createDirectories directoryMode (directory.length + 1) directory).mapError
            (.createDirectory directory)
        else .error (.createDirectory directory e)

end Channel

end DebugGateway

namespace DebugGateway.Channel

open Json

inductive Kind where
  | unix
  | tcp
deriving DecidableEq, Repr

def kindField : String := "transport"

def kinds : List (String × Kind) := [("unix", .unix), ("tcp", .tcp)]

def textOf (wanted : String) : Value → Except Fault String
  | .text s => .ok s
  | v => .error (.wrongKind v.found wanted)

def pathOf (v : Value) : Except Fault String := textOf "a UTF-8 path string" v

def portOf (v : Value) : Except Fault Nat :=
  (IntRange.unsigned16.ofValue v).map Int.toNat

structure Parts where
  path : Option String := none
  host : Option String := none
  port : Option Nat := none

def Parts.take (kind : Kind) (parts : Parts) (member : String × Value) : Except Fault Parts :=
  let (key, value) := member
  match kind, key with
  | .unix, "path" =>
    if parts.path.isSome then .error (.repeatedField key)
    else (pathOf value).map fun path => { parts with path }
  | .tcp, "host" =>
    if parts.host.isSome then .error (.repeatedField key)
    else (textOf "a string" value).map fun host => { parts with host }
  | .tcp, "port" =>
    if parts.port.isSome then .error (.repeatedField key)
    else (portOf value).map fun port => { parts with port }
  | _, _ => .ok parts

def ofMembers (kind : Kind) (members : Members) : Except Fault Channel := do
  let parts ← members.foldlM (Parts.take kind) {}
  match kind with
  | .unix =>
    match parts.path with
    | some path => return .unix path
    | none => throw (.missingField "path")
  | .tcp =>
    match parts.host, parts.port with
    | some host, some port => return .tcp host port
    | none, _ => throw (.missingField "host")
    | _, none => throw (.missingField "port")

def ofItems : Kind → List Value → Except Fault Channel
  | .unix, [] => .error (.wrongLength 0 "struct variant ChannelEndpoint::Unix with 1 element")
  | .unix, path :: rest => do
    let path ← pathOf path
    if rest.isEmpty then return .unix path
    else throw (.wrongLength (1 + rest.length) "1 element in sequence")
  | .tcp, [] => .error (.wrongLength 0 "struct variant ChannelEndpoint::Tcp with 2 elements")
  | .tcp, [host] => do
    let _ ← textOf "a string" host
    throw (.wrongLength 1 "struct variant ChannelEndpoint::Tcp with 2 elements")
  | .tcp, host :: port :: rest => do
    let host ← textOf "a string" host
    let port ← portOf port
    if rest.isEmpty then return .tcp host port
    else throw (.wrongLength (2 + rest.length) "2 elements in sequence")

def readTagged (levels : Nat) :
    (bound : Nat) → (first : Bool) → Option Kind → Members → List Char →
      Except Halt ((Kind × Members) × List Char)
  | 0, _, _, _, text => .error (halt .unclosedObject text)
  | bound + 1, first, kind, members, text => do
    match ← nextKey first text with
    | .done rest =>
      match kind with
      | some kind => return ((kind, members.reverse), rest)
      | none => throw (haltRecord (.missingField kindField) rest)
    | .item text =>
      let (key, rest) ← readQuoted [] text
      if key = kindField then
        if kind.isSome then throw (haltRecord (.repeatedField kindField) rest)
        let rest ← expectColon rest
        let (kind, rest) ← readTag kinds rest
        readTagged levels bound false (some kind) members rest
      else
        let rest ← expectColon rest
        let (value, rest) ← readValue levels rest
        readTagged levels bound false kind ((key, value) :: members) rest

/-- Reads the elements of a list, of which the first tells the kind, and the closing bracket. -/
def readListed (levels : Nat) (text : List Char) :
    Except Halt ((Kind × List Value) × List Char) := do
  match ← nextItem true text with
  | .done rest => throw (haltRecord (.missingField kindField) rest)
  | .item text =>
    let (kind, rest) ← readTag kinds text
    let (items, rest) ← readItems (readValue levels) (rest.length + 1) [.null] rest
    return ((kind, items.drop 1), rest)

def concluded (rest : List Char) : Except Fault Channel → Except Halt (Channel × List Char)
  | .ok channel => .ok (channel, rest)
  | .error fault => .error (haltRecord fault rest)

def read (levels : Nat) (text : List Char) : Except Halt (Channel × List Char) :=
  match skipGap text with
  | [] => .error (halt .missingValue [])
  | c :: rest =>
    if c = '[' then do
      let ((kind, items), rest) ← Shape.settle Shape.closeList (readListed levels rest)
      concluded rest (ofItems kind items)
    else if c = '\x7b' then do
      let ((kind, members), rest) ←
        Shape.settle Shape.closeObject (readTagged levels (rest.length + 1) true none [] rest)
      concluded rest (ofMembers kind members)
    else .error (haltKind "internally tagged enum ChannelEndpoint" (c :: rest))

end DebugGateway.Channel
