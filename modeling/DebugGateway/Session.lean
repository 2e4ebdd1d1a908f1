import DebugGateway.System.IoError
import DebugGateway.System.Snapshot
import DebugGateway.Text

namespace DebugGateway

inductive EngineError where
  | notConfigured
  | unavailable (reason : String)
  | launch (program : String) (source : IoError)
  | io (source : IoError)
  | exited
  | failed (message : String)
deriving DecidableEq, Repr

namespace EngineError

def message : EngineError → String
  | notConfigured => "no debugger engine is configured"
  | unavailable reason => "debugger session unavailable: " ++ reason
  | launch program source => s!"failed to launch debugger '{program}': {source.message}"
  | io source => "debugger I/O failed: " ++ source.message
  | exited => "debugger exited before the command completed"
  | failed m => m

def isUnavailable : EngineError → Bool
  | notConfigured | unavailable _ | exited => true
  | _ => false

end EngineError

/-- Text collected from a call, in the order in which the call printed it. -/
structure Capture where
  text : String := ""
deriving DecidableEq, Repr

namespace Capture

def push (c : Capture) (s : String) : Capture := ⟨c.text ++ s⟩

def pushLine (c : Capture) (line : String) : Capture := ⟨(c.text ++ line).push '\n'⟩

end Capture

def noResultMarkers : List String := ["NONE", "None"]

/-- Whether nothing is left of an output once blanks at its ends and a mark for nothing are gone. -/
def isEffectivelyEmpty (output : String) : Bool :=
  let trimmed := Text.trim output
  trimmed.isEmpty || noResultMarkers.contains trimmed

structure ExecutionResult where
  output : String := ""
  failed : Bool := false
  timedOut : Bool := false
  sessionUnavailable : Bool := false
  errorDetail : Option String := none
  elapsed : Nat := 0
deriving DecidableEq, Repr

namespace ExecutionResult

def completed (output : String) (status : Except EngineError Unit) (elapsed : Nat) :
    ExecutionResult :=
  match status with
  | .ok () => { output, elapsed }
  | .error e =>
    { output, failed := true, sessionUnavailable := e.isUnavailable, errorDetail := some e.message,
      elapsed }

def setupFailed (e : EngineError) (elapsed : Nat) : ExecutionResult :=
  completed "" (.error e) elapsed

def outOfTime (output detail : String) (elapsed : Nat) : ExecutionResult :=
  { output, failed := true, timedOut := true, errorDetail := some detail, elapsed }

def hasOutput (r : ExecutionResult) : Bool := !isEffectivelyEmpty r.output

end ExecutionResult

structure Session where
  id : String
  started : Moment := {}
  lastCommand : Moment := started
  lastExecution : Option Nat := none
  commands : Nat := 0
  failures : Nat := 0
  timeouts : Nat := 0
  detached : Nat := 0
deriving DecidableEq, Repr

namespace Session

def start (id : String) (now : Moment) : Session := { id, started := now }

/-- A name for a session that starts now; `draw` tells apart those of one second. -/
def nameFor (now : Moment) (draw : Nat) : String :=
  "dbgbridge_session_" ++ now.stamp ++ "_" ++ toString (1000 + draw % 9000)

/-- Counts an execution that ended now: as timed out, else as failed if it failed. -/
def record (s : Session) (r : ExecutionResult) (now : Moment) : Session :=
  { s with
    lastCommand := now
    lastExecution := some r.elapsed
    commands := s.commands + 1
    timeouts := if r.timedOut then s.timeouts + 1 else s.timeouts
    failures := if !r.timedOut && r.failed then s.failures + 1 else s.failures }

def recordDetached (s : Session) : Session := { s with detached := s.detached + 1 }

def uptime (s : Session) (now : Moment) : Nat := now.since s.started

def sinceLastCommand (s : Session) (now : Moment) : Nat := now.since s.lastCommand

end Session

structure Attempt where
  result : ExecutionResult
  -- the call was abandoned and may still be going on
  detached : Bool := false
deriving DecidableEq, Repr

structure Runner (σ : Type) where
  attempt : String → Nat → σ → Attempt × σ
  now : σ → Moment

structure Desk (σ : Type) where
  world : σ
  session : Session

namespace Desk

variable {σ : Type}

def count (runner : Runner σ) (a : Attempt) (d : Desk σ) : Desk σ :=
  let session := if a.detached then d.session.recordDetached else d.session
  { d with session := session.record a.result (runner.now d.world) }

def execute (runner : Runner σ) (command : String) (budget : Nat) (d : Desk σ) :
    ExecutionResult × Desk σ :=
  let (a, world) := runner.attempt command budget d.world
  (a.result, count runner a { d with world })

end Desk

end DebugGateway
