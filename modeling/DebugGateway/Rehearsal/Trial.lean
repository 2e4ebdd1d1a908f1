import DebugGateway.Rehearsal.Bench
import DebugGateway.Server
import DebugGateway.Text

namespace DebugGateway.Rehearsal

inductive Appetite where
  | nothing
  | lines (count : Nat)
  | everything
deriving DecidableEq, Repr

structure Client where
  name : String
  id : Nat
  sent : List UInt8 := []
  finished : Bool := false
  gone : Bool := false
  stream : List UInt8 := []
  seen : Nat := 0
  held : Nat := 0
  appetite : Appetite := .nothing
  ended : Bool := false

structure Trial where
  server : Server (Desk Bench) := {}
  desk : Desk Bench
  host : Host := {}
  channel : Option Channel := none
  clients : List Client := []

def streamRoom : Nat := 208 * 1024

/-- Whether a client goes on taking what it is sent, given all that the server has written. -/
def Client.hungry (client : Client) (written : List UInt8) : Bool :=
  match client.appetite with
  | .nothing => false
  | .lines count => (Text.cutLines (written.drop client.seen)).1.length < count
  | .everything => true

def Client.begin (appetite : Appetite) (client : Client) : Client :=
  let client := { client with appetite }
  if client.hungry client.stream then { client with held := 0 } else client

/-- A client has looked at so many bytes more, and leaves the rest where it is. -/
def Client.leave (looked : Nat) (client : Client) : Client :=
  let seen := client.seen + looked
  { client with seen, appetite := .nothing, held := min client.held (client.stream.length - seen) }

namespace Trial

/-- How much of the bytes to be written goes into the stream of a client; nothing if it is full. -/
def taken (c : Connection) (client : Client) (pending : List UInt8) : Option Nat :=
  if client.hungry c.written then some pending.length
  else if client.held < streamRoom then some (min pending.length (streamRoom - client.held))
  else none

/-- What happens next to a connection, given its client; nothing if it waits for something. -/
def nextEvent (c : Connection) (client : Client) : Option Connection.Event :=
  match c.stage with
  | .configuring => some (.configure true)
  | .starting | .turning => some .look
  | .taking => some .take
  | .writing pending | .draining pending _ =>
    if client.gone then some (.write (.fault (.ofKind .brokenPipe)))
    else (taken c client pending).map fun count => .write (.took count)
  | .reading =>
    if !client.sent.isEmpty then some (.read (.data (client.sent.take FrameBuffer.readChunk)))
    else if client.finished || client.gone then some (.read .ended)
    else if c.active && c.outbox.length = 0 then none
    else some (.read (.fault (.ofKind .wouldBlock)))
  | .answering => some .answer
  | .emptying => some .empty
  | .closing => some .close
  | .closed => none

/-- What a client has left to send, and what it has not taken, once an event has happened to its
connection. -/
def after (c : Connection) (client : Client) : Connection.Event → Client
  | .read (.data bytes) => { client with sent := client.sent.drop bytes.length }
  | .write (.took count) =>
    { client with held := if client.hungry c.written then 0 else client.held + count }
  | _ => client

def runOn : (steps : Nat) → Client → Trial → Client × Trial
  | 0, client, t => (client, t)
  | steps + 1, client, t =>
    match t.server.find? client.id with
    | none => ({ client with ended := true }, t)
    | some c =>
      match nextEvent c client with
      | none => ({ client with stream := c.written, ended := c.isClosed }, t)
      | some e =>
        match t.server.serve client.id e t.desk with
        | none => (client, t)
        | some (server, desk) => runOn steps (after c client e) { t with server, desk }

def stepsFor (client : Client) (t : Trial) : Nat :=
  let held := match t.server.find? client.id with
    | some c =>
      let queued := match c.stage with
        | .draining _ queued => queued.length
        | _ => 0
      c.frames.pendingLength + c.outbox.length + queued
    | none => 0
  16 * (client.sent.length + held + 4)

def settleAll : List Client → Trial → List Client × Trial
  | [], t => ([], t)
  | client :: rest, t =>
    let (client, t) := if client.ended then (client, t) else runOn (stepsFor client t) client t
    let (rest, t) := settleAll rest t
    (client :: rest, t)

def settle (t : Trial) : Trial :=
  let (clients, t) := settleAll t.clients t
  { t with clients, server := t.server.reap }

def client? (name : String) (t : Trial) : Option Client := t.clients.find? (·.name == name)

def update (name : String) (change : Client → Client) (t : Trial) : Trial :=
  let rec go : List Client → List Client
    | [] => []
    | c :: rest => if c.name == name then change c :: rest else c :: go rest
  { t with clients := go t.clients }.settle

def start (channel : Channel) (t : Trial) : Except ServerError Trial :=
  (t.server.start channel t.host).map fun (server, host) =>
    { t with server, host, channel := some channel }

def stop (t : Trial) : Trial :=
  let (server, host) := t.server.stop t.host
  { t with server, host, clients := t.clients.map fun c => { c with ended := true } }

def reach (channel : Channel) (host : Host) : Except IoError Unit :=
  match channel with
  | .unix path => host.connect path
  | .tcp _ port => if port = 0 || host.ports.contains port then .ok ()
    else .error (.system .connectionRefused)

def connect (name : String) (t : Trial) : Except IoError (Nat × Trial) :=
  match t.channel with
  | none => .error (.bare .invalidInput)
  | some channel => do
    let () ← reach channel t.host
    let t := t.update name fun c => { c with gone := true }
    let server := t.server.accept
    let client : Client := { name, id := server.lastId }
    return (server.lastId, { t with server, clients := client :: t.clients }.settle)

def act (name : String) (change : Client → Client) (t : Trial) : Option Trial :=
  match t.client? name with
  | some c => if c.gone then none else some (t.update name change)
  | none => none

/-- The lines sent to a client that it has not looked at. The last line of a stream that is over may
lack its end. -/
def unseen (c : Client) : List (List UInt8) :=
  let (whole, tail) := Text.cutLines (c.stream.drop c.seen)
  whole.map (· ++ [delimiter]) ++ (if c.ended && !tail.isEmpty then [tail] else [])

/-- A client looks at the next lines, at most so many, or at all if no number is given. -/
def look (name : String) (limit : Option Nat) (t : Trial) : List (List UInt8) × Trial :=
  let t := t.update name (·.begin (limit.elim .everything .lines))
  match t.client? name with
  | none => ([], t)
  | some c =>
    let all := unseen c
    let looked := match limit with
      | some n => all.take n
      | none => all
    (looked, t.update name (·.leave looked.flatten.length))

/-- Sends a message to the connection of a client; nothing if there never was one. -/
def notify (name : String) (m : Outbound) (t : Trial) : Option (Bool × Trial) :=
  (t.client? name).map fun c =>
    let (taken, server) := t.server.send c.id m
    (taken, { t with server }.settle)

def broadcast (m : Outbound) (t : Trial) : Bool × Trial :=
  let (taken, server) := t.server.broadcast m
  (taken, { t with server }.settle)

/-- Whether the connection of a client comes to its end by itself: it has ended, or what is left is
being written to a client that takes nothing. -/
def isGone (name : String) (t : Trial) : Option Bool :=
  (t.client? name).map fun client =>
    match t.server.find? client.id with
    | some { stage := .draining .., .. } => true
    | _ => !t.server.isLive client.id

def rival (t : Trial) : Option (Except ServerError (Server Unit)) :=
  t.channel.map fun channel =>
    (({} : Server Unit).start channel t.host).map fun (server, host) => (server.stop host).1

end Trial

end DebugGateway.Rehearsal
