import DebugGateway.Channel
import DebugGateway.Channel.Address
import DebugGateway.System.Files
import DebugGateway.System.IoError

namespace DebugGateway

structure Host where
  files : Files := {}
  ports : List Nat := []
deriving Repr

namespace Host

def longestSocketPath : Nat := 107

def addressFault? (path : String) : Option IoError :=
  if path.toList.contains '\x00' then
    some (.custom .invalidInput "paths must not contain interior null bytes")
  else if longestSocketPath < path.utf8ByteSize then
    some (.custom .invalidInput "path must be shorter than SUN_LEN")
  else none

def connect (host : Host) (path : String) : Except IoError Unit :=
  match addressFault? path with
  | some e => .error e
  | none =>
    if path.isEmpty then .error (.system .invalidArgument)
    else match host.files.stat true path with
      | .ok (.socket true) => .ok ()
      | .ok _ => .error (.system .connectionRefused)
      | .error e => .error e

/-- Begins to listen on a new socket file. An empty path leaves no file behind. -/
def listen (host : Host) (path : String) : Except IoError Host :=
  match addressFault? path with
  | some e => .error e
  | none =>
    if path.isEmpty then .ok host
    else match host.files.create (.socket true) path with
      | .ok files => .ok { host with files }
      | .error e => .error (if e.kind = .alreadyExists then .system .addressInUse else e)

def listenOn (host : Host) (address : String) (port : Nat) : Except IoError Host :=
  if !isLoopbackHost address then .error (.system .addressNotAvailable)
  else if port ≠ 0 && host.ports.contains port then .error (.system .addressInUse)
  else .ok { host with ports := if port = 0 then host.ports else port :: host.ports }

end Host

inductive ListenerError where
  | resolve (channel : Channel) (cause : IoError)
  | bind (channel : Channel) (cause : IoError)
  | inUse (channel : Channel)
  | notASocket (channel : Channel)
  | staleSocket (channel : Channel) (cause : IoError)
  | threadPanic
deriving DecidableEq, Repr

namespace ListenerError

def message : ListenerError → String
  | resolve channel cause => s!"cannot resolve channel {channel.text}: {cause.message}"
  | bind channel cause => s!"cannot bind channel {channel.text}: {cause.message}"
  | inUse channel => s!"channel {channel.text} is served by another process"
  | notASocket channel => s!"channel {channel.text} points at a file that is not a socket"
  | staleSocket channel cause =>
    s!"cannot clear stale socket for channel {channel.text}: {cause.message}"
  | threadPanic => "channel accept thread panicked"

def isTransient : ListenerError → Bool
  | bind _ cause => cause.kind = .addrInUse || cause.kind = .addrNotAvailable
  | inUse _ => true
  | _ => false

end ListenerError

/-- Someone who takes connections on a channel, or will once the channel can be opened. -/
structure Listener where
  channel : Channel
  bound : Bool
deriving DecidableEq, Repr

namespace Listener

def clear (channel : Channel) (path : String) (host : Host) : Except ListenerError Host :=
  if host.files.hasPath path then
    match host.files.stat false path with
    | .error e => .error (.staleSocket channel e)
    | .ok (.socket _) =>
      match host.connect path with
      | .ok () => .error (.inUse channel)
      | .error e =>
        if e.kind = .connectionRefused || e.kind = .notFound then
          match host.files.remove path with
          | .ok files => .ok { host with files }
          | .error e => .error (.staleSocket channel e)
        else .error (.staleSocket channel e)
    | .ok _ => .error (.notASocket channel)
  else .ok host

def bind (channel : Channel) (host : Host) : Except ListenerError Host :=
  match channel with
  | .unix path => do
    let host ← clear channel path host
    (host.listen path).mapError (.bind channel)
  | .tcp address port => (host.listenOn address port).mapError (.bind channel)

def retry (listener : Listener) (host : Host) : Listener × Host :=
  if listener.bound then (listener, host)
  else match bind listener.channel host with
    | .ok host => ({ listener with bound := true }, host)
    | .error _ => (listener, host)

def hasAddress (listener : Listener) : Bool := listener.bound && listener.channel.path?.isNone

def close (listener : Listener) (host : Host) : Host :=
  if !listener.bound then host
  else match listener.channel with
    | .unix path => { host with files := (host.files.remove path).toOption.getD host.files }
    | .tcp _ port => { host with ports := host.ports.erase port }

end Listener

end DebugGateway
