import DebugGateway.Channel
import DebugGateway.Command.Builtin
import DebugGateway.Config
import DebugGateway.Config.Discovery
import DebugGateway.Config.Logging
import DebugGateway.Server
import DebugGateway.Text

namespace DebugGateway

inductive OperatorCommand where
  | start
  | stop
  | status
  | exit
deriving DecidableEq, Repr

namespace OperatorCommand

def name : OperatorCommand → String
  | start => "start"
  | stop => "stop"
  | status => "status"
  | exit => "exit"

def spellings : List (String × OperatorCommand) :=
  [("start", start), ("stop", stop), ("status", status), ("quit", exit), ("exit", exit)]

inductive Line where
  | blank
  | command (c : OperatorCommand)
  | unknown (text : String)
deriving DecidableEq, Repr

def ofLine (line : String) : Line :=
  let text := Text.trim line
  if text.isEmpty then .blank
  else match List.lookup (Text.lowerAscii text) spellings with
    | some c => .command c
    | none => .unknown text

def ofLines (lines : List String) : List OperatorCommand :=
  lines.filterMap fun line =>
    match ofLine line with
    | .command c => some c
    | _ => none

def ofStream (stream : List UInt8) : List OperatorCommand :=
  ofLines (Text.readable (Text.linesOf stream)).1

end OperatorCommand

/-- The console of an operator whose typing comes in piece by piece. -/
structure OperatorInput where
  pending : List UInt8 := []
  deaf : Bool := false
deriving DecidableEq, Repr

namespace OperatorInput

/-- Takes in what was typed; gives the commands of the lines that are now complete. -/
def feed (bytes : List UInt8) (input : OperatorInput) : List OperatorCommand × OperatorInput :=
  if input.deaf then ([], input)
  else
    let (whole, pending) := Text.cutLines (input.pending ++ bytes)
    let (lines, deaf) := Text.readable (whole.map Text.withoutReturn)
    (OperatorCommand.ofLines lines, { pending, deaf })

/-- The typing ends: what stands after the last line break is a line as well. -/
def finish (input : OperatorInput) : List OperatorCommand :=
  if input.deaf then [] else OperatorCommand.ofStream input.pending

end OperatorInput

inductive LaunchError where
  | config (cause : ConfigError)
  | logFilter (cause : LogFilter.FilterError)
  | channel (cause : ChannelDirectoryError)
  | server (cause : ServerError)
deriving Repr

def LaunchError.message : LaunchError → String
  | .config cause => s!"failed to load configuration: {cause.message}"
  | .logFilter cause => s!"failed to initialise telemetry: invalid log filter: {cause.message}"
  | .channel cause => s!"failed to prepare daemon channel: {cause.message}"
  | .server cause => s!"command server failed: {cause.message}"

/-- A gateway that has been launched; native commands run in a world of type `σ`. -/
structure Daemon (σ : Type) where
  config : Config
  desk : Desk σ
  server : Server (Desk σ) := {}
  host : Host
  printed : List String := []
  ended : Bool := false

namespace Daemon

variable {σ : Type}

inductive Event where
  | operator (command : OperatorCommand)
  | signal
deriving DecidableEq, Repr

def launch (runner : Runner σ) (config : Config) (desk : Desk σ) (host : Host) :
    Except LaunchError (Daemon σ) := do
  (LogFilter.check config.logFilter).mapError .logFilter
  let files ← (config.channel.prepare host.files).mapError .channel
  let handlers := Builtin.handlers runner config.defaultTimeout
  let server ← ((({} : Server (Desk σ)).registerAll handlers)).mapError .server
  let (server, host) ← (server.start config.channel { host with files }).mapError .server
  return { config, desk, server, host }

def statusLine (d : Daemon σ) : String :=
  let session := d.desk.session
  if d.server.running then
    s!"running on {d.config.channel.text} with {d.server.active.length} connection(s); " ++
      s!"session {session.id}, {session.commands} command(s), {session.timeouts} timeout(s)"
  else s!"stopped; session {session.id}"

def startServer (d : Daemon σ) : Daemon σ :=
  match d.server.start d.config.channel d.host with
  | .ok (server, host) => { d with server, host }
  | .error _ => d

def stopServer (d : Daemon σ) : Daemon σ :=
  let (server, host) := d.server.stop d.host
  { d with server, host }

def handle (d : Daemon σ) (e : Event) : Daemon σ :=
  if d.ended then d
  else match e with
    | .operator .start => d.startServer
    | .operator .stop => d.stopServer
    | .operator .status => { d with printed := d.printed ++ [d.statusLine] }
    | .operator .exit | .signal => { d.stopServer with ended := true }

def run (d : Daemon σ) (events : List Event) : Daemon σ := events.foldl handle d

end Daemon

variable {σ : Type}

inductive Daemon.Meanwhile : Daemon σ → Daemon σ → Prop where
  | accept {d : Daemon σ} : Meanwhile d { d with server := d.server.accept }
  | serve {d : Daemon σ} {server : Server (Desk σ)} {desk : Desk σ} (id : Nat) (e : Connection.Event) :
    d.server.serve id e d.desk = some (server, desk) → Meanwhile d { d with server, desk }
  | reap {d : Daemon σ} : Meanwhile d { d with server := d.server.reap }
  | retry {d : Daemon σ} {listener : Listener} : d.server.listener = some listener →
    Meanwhile d { d with
      server := { d.server with listener := some (listener.retry d.host).1 }
      host := (listener.retry d.host).2 }
  | passing {d : Daemon σ} (world : σ) (host : Host) :
    Meanwhile d { d with desk := { d.desk with world }, host }

structure Supervision (σ : Type) where
  daemon : Daemon σ
  -- the lines still to be read from the console; there is nothing once its reader has ended
  console : Option (List (List UInt8))
  watching : Bool := true
  told : List Daemon.Event := []

namespace Supervision

open Daemon (Event)

/-- A gateway that has just been launched, with what the operator is going to type. -/
def start (d : Daemon σ) (input : List UInt8) : Supervision σ :=
  { daemon := d, console := some (Text.linesOf input) }

/-- What can happen, with the events that are obeyed by it. Nothing happens in a gateway that has ended,
though its orders may still be heard. -/
inductive Step : Supervision σ → List Event → Supervision σ → Prop where
  | hear {d : Daemon σ} {line : List UInt8} {lines : List (List UInt8)} {text : String} {watching : Bool}
      {told : List Event} : Text.ofBytes line = .ok text →
    Step ⟨d, some (line :: lines), watching, told⟩ []
      ⟨d, some lines, watching, told ++ (OperatorCommand.ofLines [text]).map .operator⟩
  | garbled {d : Daemon σ} {line : List UInt8} {lines : List (List UInt8)} {fault : Text.Utf8Fault}
      {watching : Bool} {told : List Event} : Text.ofBytes line = .error fault →
    Step ⟨d, some (line :: lines), watching, told⟩ [] ⟨d, none, watching, told⟩
  | closed {d : Daemon σ} {watching : Bool} {told : List Event} :
    Step ⟨d, some [], watching, told⟩ [] ⟨d, none, watching, told⟩
  | signal {d : Daemon σ} {console : Option (List (List UInt8))} {told : List Event} :
    Step ⟨d, console, true, told⟩ [] ⟨d, console, false, told ++ [.signal]⟩
  | obey {d : Daemon σ} {console : Option (List (List UInt8))} {watching : Bool} {e : Event}
      {told : List Event} : d.ended = false →
    Step ⟨d, console, watching, e :: told⟩ [e] ⟨d.handle e, console, watching, told⟩
  | forsaken {d : Daemon σ} : d.ended = false →
    Step ⟨d, none, false, []⟩ [] ⟨{ d.stopServer with ended := true }, none, false, []⟩
  | meanwhile {d d' : Daemon σ} {console : Option (List (List UInt8))} {watching : Bool}
      {told : List Event} : d.ended = false → d.Meanwhile d' →
    Step ⟨d, console, watching, told⟩ [] ⟨d', console, watching, told⟩

/-- What can come of it, with the events obeyed on the way, oldest first. -/
inductive Reaches (start : Supervision σ) : List Event → Supervision σ → Prop where
  | nil : Reaches start [] start
  | snoc {obeyed more : List Event} {s next : Supervision σ} :
    Reaches start obeyed s → Step s more next → Reaches start (obeyed ++ more) next

end Supervision

end DebugGateway
