import DebugGateway.Command.Dispatch
import DebugGateway.FrameBuffer
import DebugGateway.Message
import DebugGateway.System.IoError

/-! One connection and what serves it, step by step. Serving goes in rounds: at most one message is
written, then some bytes are read and the frames in them are answered; the answers wait in the outbox
behind the messages that others have put there. Once the client sends nothing more, or sends a frame
that is too long, what waits in the outbox is written and the connection closes. Others may put
messages into the outbox, or ask the connection to stop, between any two steps. -/
namespace DebugGateway

structure Outbox where
  queue : List Outbound := []
deriving Repr

namespace Outbox

def push (o : Outbox) (m : Outbound) : Outbox := ⟨o.queue ++ [m]⟩

def pop (o : Outbox) : Option Outbound × Outbox :=
  match o.queue with
  | [] => (none, o)
  | m :: rest => (some m, ⟨rest⟩)

def drain (o : Outbox) : List Outbound × Outbox := (o.queue, {})

def length (o : Outbox) : Nat := o.queue.length

end Outbox

inductive StreamFault where
  | idle
  | gone
  | failed
deriving DecidableEq, Repr

def StreamFault.ofKind : IoKind → StreamFault
  | .wouldBlock | .timedOut | .interrupted => .idle
  | .connectionReset | .connectionAborted | .brokenPipe | .unexpectedEnd | .notConnected => .gone
  | _ => .failed

inductive ReadOutcome where
  | data (bytes : List UInt8)
  | ended
  | fault (f : StreamFault)
deriving DecidableEq, Repr

inductive WriteOutcome where
  | took (count : Nat)
  | fault (f : StreamFault)
deriving DecidableEq, Repr

inductive Stage where
  | configuring
  | starting
  | taking
  | writing (pending : List UInt8)
  | turning
  | reading
  | answering
  | emptying
  -- what was left in the outbox is written: these bytes, then these messages
  | draining (pending : List UInt8) (queued : List Outbound)
  | closing
  | closed
deriving Repr

structure Connection where
  id : Nat
  active : Bool := true
  outbox : Outbox := {}
  frames : FrameBuffer := {}
  stage : Stage := .configuring
  -- the bytes that the stream has taken so far, the last one first
  wire : List UInt8 := []
  answered : List (List UInt8) := []
deriving Repr

namespace Connection

def name (c : Connection) : String := s!"conn-{c.id}"

def written (c : Connection) : List UInt8 := c.wire.reverse

/-- Puts a message into the outbox if the connection is active; says whether it was. -/
def enqueue (m : Outbound) (c : Connection) : Bool × Connection :=
  if c.active then (true, { c with outbox := c.outbox.push m }) else (false, c)

def deactivate (c : Connection) : Connection := { c with active := false }

def isClosed (c : Connection) : Bool :=
  match c.stage with
  | .closed => true
  | _ => false

inductive Event where
  | configure (ready : Bool)
  | look
  | take
  | write (outcome : WriteOutcome)
  | read (outcome : ReadOutcome)
  | answer
  | empty
  | close
  | send (m : Outbound)
  | deactivate
deriving Repr

def afterFault (c : Connection) (f : StreamFault) : Stage :=
  if c.active then
    match f with
    | .gone => .emptying
    | _ => .closing
  else .closing

def afterWriting (pending : List UInt8) : Stage :=
  if pending.isEmpty then .turning else .writing pending

def afterDraining (pending : List UInt8) (queued : List Outbound) : Stage :=
  if pending.isEmpty then
    match queued with
    | [] => .closing
    | m :: queued => .draining m.encode queued
  else .draining pending queued

def answerNext {σ : Type} (answer : List UInt8 → σ → Response × σ) (c : Connection) (s : σ) :
    Connection × σ :=
  match c.frames.next with
  | (.ok (some frame), frames) =>
    let (response, s) := answer frame s
    ({ c with
        frames
        outbox := c.outbox.push (.response response)
        answered := c.answered ++ [frame] }, s)
  | (.ok none, frames) => ({ c with frames, stage := .starting }, s)
  | (.error e, frames) =>
    ({ c with
        frames
        outbox := c.outbox.push (.response (Dispatch.oversize e.message))
        stage := .emptying }, s)

def received (c : Connection) : ReadOutcome → Option Connection
  | .data bytes =>
    if bytes.isEmpty || FrameBuffer.readChunk < bytes.length then none
    else some { c with frames := c.frames.extend bytes, stage := .answering }
  | .ended => some { c with stage := .emptying }
  | .fault .idle => some { c with stage := .starting }
  | .fault f => some { c with stage := c.afterFault f }

/-- Takes note of what the stream did with the pending bytes; `next` tells where to go on and `lost`
where a fault leads. -/
def accepted (c : Connection) (pending : List UInt8) (next : List UInt8 → Stage)
    (lost : StreamFault → Stage) : WriteOutcome → Option Connection
  | .took count =>
    if pending.length < count then none
    else if count = 0 then some { c with stage := lost .failed }
    else some { c with
      wire := (pending.take count).reverse ++ c.wire
      stage := next (pending.drop count) }
  | .fault f => some { c with stage := lost f }

theorem accepted_cases {c c' : Connection} {pending : List UInt8} {next : List UInt8 → Stage}
    {lost : StreamFault → Stage} {outcome : WriteOutcome}
    (done : c.accepted pending next lost outcome = some c') :
    ∃ wire stage, c' = { c with wire, stage } ∧
      ((∃ rest, stage = next rest) ∨ ∃ f, stage = lost f) := by
  cases outcome with
  | took count =>
    simp only [accepted] at done
    split at done
    · cases done
    · split at done <;> cases done
      · exact ⟨c.wire, _, rfl, .inr ⟨.failed, rfl⟩⟩
      · exact ⟨_, _, rfl, .inl ⟨_, rfl⟩⟩
  | fault f =>
    cases done
    exact ⟨c.wire, _, rfl, .inr ⟨f, rfl⟩⟩

/-- Where a fault leads while a message is being written: a connection that shall go on tries again
after a while. -/
def afterWriteFault (c : Connection) (pending : List UInt8) : StreamFault → Stage
  | .idle => if c.active then .writing pending else .closing
  | f => c.afterFault f

def step {σ : Type} (answer : List UInt8 → σ → Response × σ) (c : Connection) (s : σ) :
    Event → Option (Connection × σ)
  | .configure ready =>
    match c.stage with
    | .configuring => some ({ c with stage := if ready then .starting else .closing }, s)
    | _ => none
  | .look =>
    match c.stage with
    | .starting => some ({ c with stage := if c.active then .taking else .closing }, s)
    | .turning => some ({ c with stage := if c.active then .reading else .closing }, s)
    | _ => none
  | .take =>
    match c.stage with
    | .taking =>
      match c.outbox.pop with
      | (some m, outbox) => some ({ c with outbox, stage := afterWriting m.encode }, s)
      | (none, outbox) => some ({ c with outbox, stage := .turning }, s)
    | _ => none
  | .write outcome =>
    match c.stage with
    | .writing pending =>
      (c.accepted pending afterWriting (c.afterWriteFault pending) outcome).map (·, s)
    | .draining pending queued =>
      (c.accepted pending (afterDraining · queued) (fun _ => .closing) outcome).map (·, s)
    | _ => none
  | .read outcome =>
    match c.stage with
    | .reading => (c.received outcome).map (·, s)
    | _ => none
  | .answer =>
    match c.stage with
    | .answering => some (c.answerNext answer s)
    | _ => none
  | .empty =>
    match c.stage with
    | .emptying =>
      let (queued, outbox) := c.outbox.drain
      some ({ c with outbox, stage := afterDraining [] queued }, s)
    | _ => none
  | .close =>
    match c.stage with
    | .closing => some ({ c with active := false, stage := .closed }, s)
    | _ => none
  | .send m => some ((c.enqueue m).2, s)
  | .deactivate => some (c.deactivate, s)

/-- The states a connection can reach from another one, and the events on the way. -/
inductive Run {σ : Type} (answer : List UInt8 → σ → Response × σ) :
    Connection × σ → List Event → Connection × σ → Prop where
  | nil {start : Connection × σ} : Run answer start [] start
  | snoc {start state next : Connection × σ} {events : List Event} (e : Event) :
    Run answer start events state → step answer state.1 state.2 e = some next →
      Run answer start (events ++ [e]) next

end Connection

/-- A connection and the messages whose senders have asked and not yet put them into the outbox. -/
structure Sending where
  connection : Connection
  admitted : List Outbound := []

namespace Sending

inductive Event where
  | own (e : Connection.Event)
  | ask (m : Outbound)
  | put (m : Outbound)
deriving Repr

inductive Step {σ : Type} (answer : List UInt8 → σ → Response × σ) :
    Sending × σ → Event → Sending × σ → Prop where
  | own {c c' : Connection} {s s' : σ} {admitted : List Outbound} {e : Connection.Event} :
    c.step answer s e = some (c', s') → Step answer (⟨c, admitted⟩, s) (.own e) (⟨c', admitted⟩, s')
  | admitted {c : Connection} {s : σ} {admitted : List Outbound} {m : Outbound} :
    c.active = true → Step answer (⟨c, admitted⟩, s) (.ask m) (⟨c, admitted ++ [m]⟩, s)
  | refused {c : Connection} {s : σ} {admitted : List Outbound} {m : Outbound} :
    c.active = false → Step answer (⟨c, admitted⟩, s) (.ask m) (⟨c, admitted⟩, s)
  | put {c : Connection} {s : σ} {before after : List Outbound} {m : Outbound} :
    Step answer (⟨c, before ++ m :: after⟩, s) (.put m)
      (⟨{ c with outbox := c.outbox.push m }, before ++ after⟩, s)

end Sending

end DebugGateway
