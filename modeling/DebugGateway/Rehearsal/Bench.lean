import DebugGateway.Command.Builtin
import DebugGateway.Execution.Phase
import DebugGateway.Rehearsal.Debugger
import DebugGateway.Text

namespace DebugGateway.Rehearsal

inductive Action where
  | refuse (e : EngineError)
  | echo
  | push (text : String)
  | pushLine (text : String)
  | sleep (millis : Nat)
  | awaitInterrupt
  | awaitRelease
  | panic
  | fail (e : EngineError)
deriving Repr

/-- Openings of commands with what is done for them; the first that fits is taken. -/
abbrev Script := List (String × List Action)

namespace Script

def actionsFor (script : Script) (command : String) : List Action :=
  match script.find? fun entry => Text.startsWith entry.1 command with
  | some (_, actions) => actions
  | none => [.echo]

end Script

def refusal? (actions : List Action) : Option EngineError :=
  actions.findSome? fun
    | .refuse e => some e
    | _ => none

/-- When and how a call ends that is now at the time `now` and is interrupted and let go at the times
given, if ever. -/
def perform (command : String) (interrupted released : Option Nat) :
    Nat → Capture → List Action → Option (Nat × CallEnd)
  | now, output, [] => some (now, .returned output.text (.ok ()))
  | now, output, .refuse _ :: rest => perform command interrupted released now output rest
  | now, output, .echo :: rest => perform command interrupted released now (output.push command) rest
  | now, output, .push text :: rest =>
    perform command interrupted released now (output.push text) rest
  | now, output, .pushLine text :: rest =>
    perform command interrupted released now (output.pushLine text) rest
  | now, output, .sleep millis :: rest =>
    perform command interrupted released (now + millis) output rest
  | now, output, .awaitInterrupt :: rest =>
    match interrupted with
    | some t => perform command interrupted released (max now t) output rest
    | none => none
  | now, output, .awaitRelease :: rest =>
    match released with
    | some t => perform command interrupted released (max now t) output rest
    | none => none
  | now, _, .panic :: _ => some (now, .panicked)
  | now, output, .fail e :: _ => some (now, .returned output.text (.error e))

/-- The course of a scripted call. Its launch is at the time zero, and calls are let go at the time
`released`, if ever. -/
def courseOf (command : String) (actions : List Action) (released : Option Nat) : Course where
  alone := perform command none released 0 {} actions
  interruptedAt t := perform command (some t) released 0 {} actions

inductive Engine where
  | none
  | scripted (script : Script) (offline : Bool)
  | console (session : Console)

/-- A call that was launched, with the time of its end given when waiting calls are let go. -/
structure Launched where
  launch : Nat
  finish : Option Nat → Option Nat

/-- The most calls of a list, the latest first, that were ever going on at once. No more are going on
at any time than at some launch. -/
def mostAtOnce (released : Option Nat) : List Launched → Nat
  | [] => 0
  | call :: earlier =>
    let others := earlier.countP fun other => (other.finish released).all (call.launch < ·)
    max (others + 1) (mostAtOnce released earlier)

/-- A trial under way; times are in milliseconds since it began. -/
structure Bench where
  engine : Engine
  grace : Nat := 500
  now : Nat := 0
  released : Option Nat := none
  -- when the gate is free, given when waiting calls are let go
  free : Option Nat → Option Nat := fun _ => some 0
  calls : List Launched := []
  interrupts : Nat := 0

namespace Bench

/-- What the engine makes of a command: why it cannot be prepared, or its course given when waiting
calls are let go after its launch. -/
def prepare (b : Bench) (command : String) : Except EngineError (Option Nat → Course) :=
  match b.engine with
  | .none => .error .notConfigured
  | .scripted script offline =>
    if offline then .error (.unavailable "scripted engine offline")
    else
      let actions := script.actionsFor command
      match refusal? actions with
      | some e => .error e
      | none => .ok (courseOf command actions)
  | .console session =>
    match session.refusal? command with
    | some e => .error e
    | none => .ok fun _ => Console.course (session.run command)

def engineAfter (b : Bench) (command : String) : Engine :=
  match b.engine with
  | .console session => .console (session.run command).after
  | e => e

/-- How an execution that begins now goes, given when waiting calls are let go. -/
def passage (b : Bench) (command : String) (budget : Nat) (released : Option Nat) : Passage :=
  let free := b.free released
  match Passage.entry b.now (b.now + budget) free with
  | some launch =>
    .of budget b.grace b.now free
      ((b.prepare command).map fun course => course (released.map (· - launch)))
  | none => .of budget b.grace b.now free (.error .notConfigured)

def attempt (command : String) (budget : Nat) (b : Bench) : Attempt × Bench :=
  let p := b.passage command budget b.released
  let freed released := (b.passage command budget released).freed
  (p.attempt,
    { b with
      engine := if p.launched.isSome then b.engineAfter command else b.engine
      now := p.left
      free := if p.freed.all (p.left < ·) then freed else fun _ => some 0
      calls := (p.launched.map fun launch => ⟨launch, freed⟩).toList ++ b.calls
      interrupts := if p.interrupted.isSome then b.interrupts + 1 else b.interrupts })

def runner : Runner Bench where
  attempt := attempt
  now b := ⟨b.now⟩

def freeAt (b : Bench) : Option Nat := b.free b.released

def gateBusy (b : Bench) : Bool :=
  match b.freeAt with
  | some t => b.now < t
  | none => true

/-- Waits until the gate is free, at most so many milliseconds; says whether it is. -/
def waitIdle (b : Bench) (limit : Nat) : Bool × Bench :=
  match b.freeAt with
  | some t =>
    if t ≤ b.now then (true, b)
    else if t < b.now + limit then (true, { b with now := t })
    else (false, { b with now := b.now + limit })
  | none => (false, { b with now := b.now + limit })

def release (b : Bench) : Bench :=
  { b with released := some (b.released.getD b.now) }

def setOffline (b : Bench) (offline : Bool) : Bench :=
  match b.engine with
  | .scripted script _ => { b with engine := .scripted script offline }
  | _ => b

def started (b : Bench) : Nat := b.calls.length

def peak (b : Bench) : Nat := mostAtOnce b.released b.calls

def describe (b : Bench) : String :=
  "CommandExecutor \x7b grace: " ++ Text.duration b.grace ++ ", gate_busy: " ++
    toString b.gateBusy ++ ", .. \x7d"

def executeAll (budget : Nat) (begun latest : Nat) :
    List String → Desk Bench → List ExecutionResult × Desk Bench
  | [], d => ([], { d with world := { d.world with now := latest } })
  | command :: rest, d =>
    let (r, d) := Desk.execute runner command budget { d with world := { d.world with now := begun } }
    let (rs, d) := executeAll budget begun (max latest d.world.now) rest d
    (r :: rs, d)

end Bench

end DebugGateway.Rehearsal
