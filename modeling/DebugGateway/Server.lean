import DebugGateway.Command.Registry
import DebugGateway.Listener
import DebugGateway.Server.Connection

namespace DebugGateway

inductive ServerError where
  | alreadyRunning
  | duplicateCommand (name : String)
  | registryFrozen (name : String)
  | emptyCommandName
  | threadPanic (count : Nat)
  | listener (cause : ListenerError)
  | spawn (cause : IoError)
deriving DecidableEq, Repr

namespace ServerError

def message : ServerError → String
  | alreadyRunning => "server is already running"
  | duplicateCommand name => s!"command '{name}' is already registered"
  | registryFrozen name => s!"cannot register '{name}': the server has already started"
  | emptyCommandName => "command names must not be empty"
  | threadPanic count => s!"{count} server thread(s) panicked during shutdown"
  | listener cause => s!"channel listener failed: {cause.message}"
  | spawn cause => s!"failed to spawn server thread: {cause.message}"

def ofRegistry : RegistryError → ServerError
  | .duplicate name => duplicateCommand name
  | .frozen name => registryFrozen name
  | .emptyName => emptyCommandName

def ofListener : ListenerError → ServerError
  | .threadPanic => threadPanic 1
  | cause => listener cause

end ServerError

inductive HealthEvent where
  | starting (channel : Channel)
  | started (channel : Channel) (bound : Bool)
  | deferred (channel : Channel) (cause : ListenerError)
  | stopped (joined : Nat)
  | opened (id : Nat)
  | closed (id : Nat)
deriving DecidableEq, Repr

structure Server (σ : Type) where
  registry : Registry (Handler σ) := {}
  running : Bool := false
  connections : List Connection := []
  lastId : Nat := 0
  listener : Option Listener := none
  events : List HealthEvent := []

namespace Server

variable {σ : Type}

def register (name : String) (handler : Handler σ) (s : Server σ) :
    Except ServerError (Server σ) :=
  match s.registry.register name handler with
  | .ok registry => .ok { s with registry }
  | .error e => .error (.ofRegistry e)

def registerAll (handlers : List (String × Handler σ)) (s : Server σ) :
    Except ServerError (Server σ) :=
  handlers.foldlM (fun s entry => s.register entry.1 entry.2) s

def commands (s : Server σ) : List String := s.registry.names

/-- Starts taking connections on a channel. The registry is closed from here on. A channel that
cannot be opened yet is tried again later. -/
def start (channel : Channel) (host : Host) (s : Server σ) :
    Except ServerError (Server σ × Host) :=
  if s.running then .error .alreadyRunning
  else
    let (bound, host, troubles) := match Listener.bind channel host with
      | .ok host => (true, host, [])
      | .error e => (false, host, [HealthEvent.deferred channel e])
    .ok ({ s with
      registry := s.registry.freeze
      running := true
      listener := some ⟨channel, bound⟩
      events := s.events ++ [.starting channel] ++ troubles ++ [.started channel bound] }, host)

/-! ## Connections -/

def isLive (s : Server σ) (id : Nat) : Bool :=
  s.connections.any fun c => c.id = id && c.active

def active (s : Server σ) : List Connection := s.connections.filter (·.active)

def accept (s : Server σ) : Server σ :=
  if s.running then
    let id := s.lastId + 1
    { s with
      connections := s.connections ++ [{ id }]
      lastId := id
      events := s.events ++ [.opened id] }
  else s

def reap (s : Server σ) : Server σ :=
  { s with connections := s.connections.filter (!·.isClosed) }

def put (c : Connection) : List Connection → List Connection
  | [] => []
  | d :: rest => if d.id = c.id then c :: rest else d :: put c rest

def find? (s : Server σ) (id : Nat) : Option Connection := s.connections.find? (·.id = id)

/-- Something happens to a connection; its frames are answered in the world. -/
def serve (id : Nat) (e : Connection.Event) (s : Server σ) (world : σ) :
    Option (Server σ × σ) := do
  let c ← s.find? id
  let (c, world) ← c.step (Dispatch.frame s.registry) world e
  let ended := match e with
    | .close => [HealthEvent.closed id]
    | _ => []
  return ({ s with connections := put c s.connections, events := s.events ++ ended }, world)

def send (id : Nat) (m : Outbound) (s : Server σ) : Bool × Server σ :=
  if s.running then
    match s.find? id with
    | some c =>
      let (taken, c) := c.enqueue m
      (taken, { s with connections := put c s.connections })
    | none => (false, s)
  else (false, s)

def broadcast (m : Outbound) (s : Server σ) : Bool × Server σ :=
  if s.running then
    (!s.active.isEmpty,
      { s with connections := s.connections.map fun c => (c.enqueue m).2 })
  else (false, s)

/-- Stops: every connection ends where it stands and is cleared away, and the channel is closed. A
server that is not running stays as it is. -/
def stop (host : Host) (s : Server σ) : Server σ × Host :=
  if !s.running && s.listener.isNone then (s, host)
  else
    let ended := s.connections.filter (!·.isClosed)
    ({ s with
      running := false
      listener := none
      connections := []
      events := s.events ++ ended.map (.closed ·.id) ++ [.stopped s.connections.length] },
      match s.listener with
      | some listener => listener.close host
      | none => host)

def hasAddress (s : Server σ) : Bool := s.listener.any (·.hasAddress)

def describe (s : Server σ) : String :=
  "Server \x7b running: " ++ toString s.running ++ ", connections: " ++ toString s.active.length ++
    ", registry: " ++ s.registry.describe ++ ", .. \x7d"

end Server

end DebugGateway
