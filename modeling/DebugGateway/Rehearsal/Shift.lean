import DebugGateway.Config
import DebugGateway.Daemon
import DebugGateway.Rehearsal.Trial

namespace DebugGateway.Rehearsal

structure Shift where
  daemon : Daemon Bench
  clients : List Client := []
  typed : OperatorInput := {}
  looked : Nat := 0

namespace Shift

def engineFor (config : Config) : Engine :=
  match config.engine? with
  | none => .none
  | some (program, args) =>
    match Console.launch program args with
    | .ok session => .console session
    | .error _ => .none

def launch (words : List String) (env : Environment) (user session : String) (host : Host) :
    Except LaunchError Shift := do
  let config ← (Config.load words env user host.files).mapError .config
  let bench : Bench := { engine := engineFor config, grace := config.gracePeriod }
  return ⟨← Daemon.launch Bench.runner config ⟨bench, .start session ⟨0⟩⟩ host, [], {}, 0⟩

def through (work : Trial → Trial) (s : Shift) : Shift :=
  let d := s.daemon
  let t := work ⟨d.server, d.desk, d.host, some d.config.channel, s.clients⟩
  { s with
    daemon := { d with server := t.server, desk := t.desk, host := t.host }, clients := t.clients }

def obey (events : List Daemon.Event) (s : Shift) : Shift :=
  events.foldl (fun s e => { s with daemon := s.daemon.handle e }.through Trial.settle) s

def type (text : List UInt8) (s : Shift) : Shift :=
  let (commands, typed) := s.typed.feed text
  { s with typed }.obey (commands.map .operator)

def hangUp (s : Shift) : Shift :=
  { s with typed := {} }.obey (s.typed.finish.map .operator)

/-- Looks at printed lines, at most so many, or at all if no number is given. -/
def look (limit : Option Nat) (s : Shift) : List String × Shift :=
  let unseen := s.daemon.printed.drop s.looked
  let lines := match limit with
    | some n => unseen.take n
    | none => unseen
  (lines, { s with looked := s.looked + lines.length })

def clientName : String := "client"

def connect (path : String) (s : Shift) : Bool × Shift :=
  match s.daemon.host.connect path with
  | .error _ => (false, s)
  | .ok () =>
    (true, s.through fun t => (t.connect clientName).toOption.elim t (·.2))

def send (bytes : List UInt8) (s : Shift) : Shift :=
  s.through fun t => (t.act clientName fun c => { c with sent := c.sent ++ bytes }).getD t

/-- The client looks at lines, at most so many, or at all if no number is given. -/
def listen (limit : Option Nat) (s : Shift) : List (List UInt8) × Shift :=
  let d := s.daemon
  let t : Trial := ⟨d.server, d.desk, d.host, some d.config.channel, s.clients⟩
  ((t.look clientName limit).1, s.through fun t => (t.look clientName limit).2)

end Shift

end DebugGateway.Rehearsal
