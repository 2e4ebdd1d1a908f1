import DebugGateway.Session

/-! One execution as its caller goes through it, first in phases and then on a clock. It waits for the
gate, prepares the call, waits for the call to end until the budget is used up, then interrupts it and
waits once more for the grace period. Something that happens at the very end of a wait comes too late. -/
namespace DebugGateway

inductive CallEnd where
  | returned (output : String) (status : Except EngineError Unit)
  | panicked
deriving Repr

/-- What is added to the output of a call that ended after it was interrupted. -/
def interruptedMark : String := "(interrupted)"

def salvaged (output : String) : String :=
  if Text.isAllBlank output then interruptedMark
  else Text.trimEnd output ++ "\n" ++ interruptedMark

namespace Attempt

def refused (budget elapsed : Nat) : Attempt :=
  { result := .outOfTime ""
      s!"command timed out after {budget} ms waiting for an earlier command to finish" elapsed }

def unprepared (e : EngineError) (elapsed : Nat) : Attempt :=
  { result := .setupFailed e elapsed }

def ended (elapsed : Nat) : CallEnd → Attempt
  | .returned output status => { result := .completed output status elapsed }
  | .panicked => { result := .completed "" (.error (.failed "native call panicked")) elapsed }

def overrunDetail (budget : Nat) : String := s!"command timed out after {budget} ms"

def endedLate (budget elapsed : Nat) : CallEnd → Attempt
  | .returned output _ => { result := .outOfTime (salvaged output) (overrunDetail budget) elapsed }
  | .panicked => { result := .outOfTime "" (overrunDetail budget) elapsed }

def abandoned (budget elapsed : Nat) : Attempt :=
  { result := .outOfTime "" (overrunDetail budget) elapsed, detached := true }

end Attempt

inductive Phase where
  | queued
  | admitted
  | running
  | cancelling
  | finished (attempt : Attempt)
deriving DecidableEq, Repr

inductive Signal where
  | admitted
  | setupFailed (e : EngineError)
  | launched
  | ended (e : CallEnd)
  | timeUp
deriving Repr

def Phase.next (budget elapsed : Nat) : Phase → Signal → Option Phase
  | .queued, .admitted => some .admitted
  | .queued, .timeUp => some (.finished (.refused budget elapsed))
  | .admitted, .setupFailed e => some (.finished (.unprepared e elapsed))
  | .admitted, .launched => some .running
  | .running, .ended e => some (.finished (.ended elapsed e))
  | .running, .timeUp => some .cancelling
  | .cancelling, .ended e => some (.finished (.endedLate budget elapsed e))
  | .cancelling, .timeUp => some (.finished (.abandoned budget elapsed))
  | _, _ => none

def Runner.absent : Runner Moment where
  attempt _ _ now := (.unprepared .notConfigured 0, now)
  now time := time

/-- The course a launched call takes; times are in milliseconds since its launch. -/
structure Course where
  alone : Option (Nat × CallEnd)
  interruptedAt : Nat → Option (Nat × CallEnd)

/-- What came of an execution. Times are on the clock of the executor. -/
structure Passage where
  attempt : Attempt
  left : Nat
  freed : Option Nat
  launched : Option Nat := none
  interrupted : Option Nat := none

namespace Passage

def cancelled (budget grace start launch deadline : Nat) (course : Course) : Passage :=
  match course.interruptedAt (deadline - launch) with
  | some (after, e) =>
    let finish := launch + after
    if finish < deadline + grace then
      { attempt := .endedLate budget (finish - start) e, left := finish, freed := some finish,
        launched := some launch, interrupted := some deadline }
    else
      { attempt := .abandoned budget (deadline + grace - start), left := deadline + grace,
        freed := some finish, launched := some launch, interrupted := some deadline }
  | none =>
    { attempt := .abandoned budget (deadline + grace - start), left := deadline + grace,
      freed := none, launched := some launch, interrupted := some deadline }

def launchedAt (budget grace start launch deadline : Nat) (course : Course) : Passage :=
  match course.alone with
  | some (after, e) =>
    let finish := launch + after
    if finish < deadline then
      { attempt := .ended (finish - start) e, left := finish, freed := some finish,
        launched := some launch }
    else cancelled budget grace start launch deadline course
  | none => cancelled budget grace start launch deadline course

/-- When an execution passes the gate, if it does: at once where the gate is free, else when it
becomes free before the deadline. -/
def entry (start deadline : Nat) : Option Nat → Option Nat
  | some free => if free ≤ start then some start else if free < deadline then some free else none
  | none => none

/-- An execution that starts at `start`, with a gate that is free from the time `free` on. -/
def of (budget grace start : Nat) (free : Option Nat) (setup : Except EngineError Course) :
    Passage :=
  let deadline := start + budget
  match entry start deadline free with
  | none => { attempt := .refused budget (deadline - start), left := deadline, freed := free }
  | some launch =>
    match setup with
    | .error e =>
      { attempt := .unprepared e (launch - start), left := launch, freed := some launch }
    | .ok course => launchedAt budget grace start launch deadline course

end Passage

end DebugGateway
