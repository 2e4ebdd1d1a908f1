import DebugGateway.Session
import DebugGateway.System.IoError
import DebugGateway.Text
import DebugGateway.Text.Quoted

/-! A debugger session with many calls, step by step. Calls are prepared at any time and wait for the
console. The one that gets it drops the lines that nobody took, writes its command and a request for
its marker, and takes line after line until the marker comes. It keeps the console until then, whether
it was interrupted and whether anybody still waits for it. The debugger, and the thread that reads what
it prints, go on by themselves. -/
namespace DebugGateway.Console

def hex8 (n : Nat) : String :=
  let digits := Nat.toDigits 16 n
  String.ofList (List.replicate (8 - digits.length) '0' ++ digits)

def marker (nonce call : Nat) : String :=
  "__dbgbridge_done_" ++ hex8 nonce ++ "_" ++ toString call ++ "__"

def written (command mark : String) : String :=
  command ++ "\necho " ++ mark ++ "\\n\n"

def stripPrompts : List Char → List Char
  | '(' :: 'g' :: 'd' :: 'b' :: ')' :: ' ' :: rest => stripPrompts rest
  | line => line

def bears (mark line : String) : Bool :=
  Text.occursIn mark.toList line.toList

inductive Hearing where
  | done (output : Capture) (rest : List String)
  | waiting (output : Capture)
deriving Repr

def listen (mark : String) (output : Capture) : List String → Hearing
  | [] => .waiting output
  | line :: rest =>
    if bears mark line then .done output rest
    else listen mark (output.pushLine (String.ofList (stripPrompts line.toList))) rest

def refusal? (program command : String) (ended : Option ExitStatus) : Option EngineError :=
  if command.toList.any fun c => c = '\n' || c = '\r' then
    some (.failed "commands must fit on a single line")
  else
    ended.map fun status => .unavailable (program ++ " exited with " ++ status.message)

def describe (program : String) : String :=
  "ConsoleEngine \x7b program: " ++ Text.quote program ++ ", .. \x7d"

inductive Entry where
  | command (call : Nat)
  | marker (call : Nat)
deriving DecidableEq, Repr

def Entry.call : Entry → Nat
  | .command i | .marker i => i

structure Call where
  command : String
  printed : List UInt8 := []
  outcome : Option (Capture × Except EngineError Unit) := none
  interrupted : Bool := false
  detached : Bool := false

structure Wire where
  entries : List Entry := []
  -- the line that the debugger read last, and what it will still print for it
  answering : Option (Entry × List UInt8) := none
  pipe : List UInt8 := []
  reading : Bool := true
  lines : List String := []
  ended : Option ExitStatus := none

namespace Wire

def left (w : Wire) : List UInt8 :=
  match w.answering with
  | some (_, bytes) => bytes
  | none => []

def fetch (reply : Entry → List UInt8) (w : Wire) : Option Wire :=
  match w.ended, w.entries with
  | none, e :: entries =>
    if w.left.isEmpty then some { w with entries, answering := some (e, reply e) } else none
  | _, _ => none

def print (count : Nat) (w : Wire) : Option (Nat × List UInt8 × Wire) :=
  match w.ended, w.answering with
  | none, some (e, bytes) =>
    if 0 < count && count ≤ bytes.length then
      some (e.call, bytes.take count,
        { w with answering := some (e, bytes.drop count), pipe := w.pipe ++ bytes.take count })
    else none
  | _, _ => none

/-- The next line that can be read, and what comes after it. Bytes without a newline are a line once
nothing more will come. -/
def nextLine (w : Wire) : Option (List UInt8 × List UInt8) :=
  match Text.cutLines w.pipe with
  | (line :: _, _) => some (Text.withoutReturn line, w.pipe.drop (line.length + 1))
  | ([], tail) => if w.ended.isSome && !tail.isEmpty then some (tail, []) else none

/-- A line is read, or the end is seen. Reading stops at a line that is no text. -/
def read (w : Wire) : Option Wire :=
  if w.reading then
    match w.nextLine with
    | some (line, pipe) =>
      match Text.ofBytes line with
      | .ok text => some { w with pipe, lines := w.lines ++ [text] }
      | .error _ => some { w with pipe, reading := false }
    | none => if w.ended.isSome then some { w with reading := false } else none
  else none

end Wire

structure Turn where
  call : Nat
  unwritten : List Entry
  captured : Capture := {}

structure Conversation where
  program : String
  nonce : Nat
  calls : List Call := []
  turn : Option Turn := none
  wire : Wire := {}

namespace Conversation

inductive Event where
  | prepare (command : String)
  | begin (i : Nat)
  | write
  | refuse (e : IoError)
  | fetch
  | print (count : Nat)
  | read
  | hear
  | leave (status : ExitStatus)
  | interrupt (i : Nat)
  | detach (i : Nat)
deriving Repr

def waits (s : Conversation) (i : Nat) : Bool :=
  match s.calls[i]? with
  | some call => call.outcome.isNone
  | none => false

def update (s : Conversation) (i : Nat) (change : Call → Call) : Conversation :=
  { s with calls := s.calls.modify i change }

def finish (s : Conversation) (i : Nat) (output : Capture) (status : Except EngineError Unit) :
    Conversation :=
  s.update i ({ · with outcome := some (output, status) })

def lineOf (s : Conversation) : Entry → String
  | .command i => (s.calls[i]?.map Call.command).getD ""
  | .marker i => "echo " ++ marker s.nonce i ++ "\\n"

/-- The state after an event, if the event can happen; `reply` is what the debugger prints for each
line. -/
def step (reply : Entry → List UInt8) (s : Conversation) : Event → Option Conversation
  | .prepare command =>
    match refusal? s.program command s.wire.ended with
    | some _ => some s
    | none => some { s with calls := s.calls ++ [{ command }] }
  | .begin i =>
    if s.turn.isNone && s.waits i then
      some { s with
        turn := some { call := i, unwritten := [.command i, .marker i] }
        wire := { s.wire with lines := [] } }
    else none
  | .write =>
    match s.turn, s.wire.ended with
    | some { call, unwritten := e :: unwritten, captured }, none =>
      some { s with
        turn := some { call, unwritten, captured }
        wire := { s.wire with entries := s.wire.entries ++ [e] } }
    | _, _ => none
  | .refuse e =>
    match s.turn, s.wire.ended with
    | some { call, unwritten := _ :: _, captured }, some _ =>
      some { s.finish call captured (.error (.io e)) with turn := none }
    | _, _ => none
  | .fetch => (s.wire.fetch reply).map fun wire => { s with wire }
  | .print count =>
    (s.wire.print count).map fun (i, bytes, wire) =>
      { s.update i fun call => { call with printed := call.printed ++ bytes } with wire }
  | .read => s.wire.read.map fun wire => { s with wire }
  | .hear =>
    match s.turn, s.wire.lines with
    | some { call, unwritten := [], captured }, line :: lines =>
      match listen (marker s.nonce call) captured [line] with
      | .done captured _ =>
        some { s.finish call captured (.ok ()) with turn := none, wire := { s.wire with lines } }
      | .waiting captured =>
        some { s with turn := some { call, unwritten := [], captured }, wire := { s.wire with lines } }
    -- the call learns that there will be no line
    | some { call, unwritten := [], captured }, [] =>
      if s.wire.reading then none
      else some { s.finish call captured (.error .exited) with turn := none }
    | _, _ => none
  | .leave status =>
    if s.wire.ended.isNone then some { s with wire := { s.wire with ended := some status } } else none
  | .interrupt i => some (s.update i ({ · with interrupted := true }))
  | .detach i => some (s.update i ({ · with detached := true }))

inductive Reachable (reply : Entry → List UInt8) (program : String) (nonce : Nat) :
    Conversation → Prop where
  | start : Reachable reply program nonce { program, nonce }
  | step {s t : Conversation} (e : Event) : Reachable reply program nonce s → s.step reply e = some t →
    Reachable reply program nonce t

end Conversation

end DebugGateway.Console
