import DebugGateway.Execution.Phase

/-!
Many executions at once, step by step. Each holds at most one ticket of the gate: its caller takes
the ticket, hands it to the worker that runs the call, and the worker gives it back before it tells
its caller how the call ended. A worker that was left alone keeps its ticket until its call ends.
-/
namespace DebugGateway

inductive Worker where
  | none
  | running
  | ended (e : CallEnd)
  -- the ticket is given back; the caller has not been told
  | released (e : CallEnd)
  | told (e : CallEnd)
deriving Repr

structure Execution where
  budget : Nat
  phase : Phase := .queued
  worker : Worker := .none
  ticket : Bool := false
  interrupts : Nat := 0
deriving Repr

namespace Execution

def callRuns (x : Execution) : Bool :=
  match x.worker with
  | .running => true
  | _ => false

def isOver (x : Execution) : Bool :=
  match x.phase with
  | .finished _ => true
  | _ => false

end Execution

structure Executor where
  busy : Bool := false
  executions : List Execution := []
deriving Repr

namespace Executor

inductive Event where
  | submit (budget : Nat)
  | enter (i : Nat)
  | refuse (i elapsed : Nat)
  | failSetup (i elapsed : Nat) (e : EngineError)
  | launch (i : Nat)
  | endCall (i : Nat) (e : CallEnd)
  | release (i : Nat)
  | tell (i : Nat)
  | learn (i elapsed : Nat)
  | interrupt (i : Nat)
  | detach (i elapsed : Nat)
deriving Repr

def put (s : Executor) (i : Nat) (x : Execution) : Executor :=
  { s with executions := s.executions.set i x }

def signal (s : Executor) (i elapsed : Nat) (g : Signal) (change : Execution → Execution) :
    Option Executor :=
  match s.executions[i]? with
  | some x =>
    match x.phase.next x.budget elapsed g with
    | some phase => some (s.put i { change x with phase })
    | none => none
  | none => none

def step (s : Executor) : Event → Option Executor
  | .submit budget => some { s with executions := s.executions ++ [{ budget }] }
  | .enter i =>
    if s.busy then none
    else (s.signal i 0 .admitted ({ · with ticket := true })).map ({ · with busy := true })
  | .refuse i elapsed =>
    match s.executions[i]? with
    | some { phase := .queued, .. } => if s.busy then s.signal i elapsed .timeUp id else none
    | _ => none
  | .failSetup i elapsed e =>
    (s.signal i elapsed (.setupFailed e) ({ · with ticket := false })).map ({ · with busy := false })
  | .launch i => s.signal i 0 .launched ({ · with worker := .running })
  | .endCall i e =>
    match s.executions[i]? with
    | some x =>
      match x.worker with
      | .running => some (s.put i { x with worker := .ended e })
      | _ => none
    | none => none
  | .release i =>
    match s.executions[i]? with
    | some x =>
      match x.worker with
      | .ended e =>
        some { s.put i { x with worker := .released e, ticket := false } with busy := false }
      | _ => none
    | none => none
  | .tell i =>
    match s.executions[i]? with
    | some x =>
      match x.worker with
      | .released e => some (s.put i { x with worker := .told e })
      | _ => none
    | none => none
  | .learn i elapsed =>
    match s.executions[i]? with
    | some x =>
      match x.worker with
      | .told e => s.signal i elapsed (.ended e) id
      | _ => none
    | none => none
  | .interrupt i =>
    match s.executions[i]? with
    | some { phase := .running, .. } =>
      s.signal i 0 .timeUp fun x => { x with interrupts := x.interrupts + 1 }
    | _ => none
  | .detach i elapsed =>
    match s.executions[i]? with
    | some { phase := .cancelling, .. } => s.signal i elapsed .timeUp id
    | _ => none

/-- The execution whose call an event interrupts. The signal goes to the debugger as a whole and names no
call, so it meets the call that goes on there, if there is one. -/
def struck (s : Executor) (e : Event) : Option Nat :=
  match e with
  | .interrupt _ => if (s.step e).isSome then s.executions.findIdx? (·.callRuns) else none
  | _ => none

inductive Reachable : Executor → Prop where
  | start : Reachable {}
  | step {s t : Executor} (e : Event) : Reachable s → s.step e = some t → Reachable t

end Executor

end DebugGateway
