import DebugGateway.Server

/-!
Stopping a server while connections are still being taken, step by step. One thread takes
connections: for each it asks whether the server runs, starts a worker, tracks the connection and
clears away those that have ended. Another stops the server: it ends the taking of connections, waits
for the first thread, and then for every worker that is still tracked. Who looks at the connections
tracked or changes them has them for itself, but the workers go on meanwhile.
-/
namespace DebugGateway.Server

/-- The worker of a connection; workers are named by their place. -/
structure Labour where
  active : Bool := true
  ended : Bool := false
  failed : Bool := false
deriving DecidableEq, Repr

inductive Intake where
  | polling
  | watching
  | admitting
  | tracking (i : Nat)
  | reaping
  -- these workers had ended and are not tracked any more; they are still to be waited for
  | clearing (left : List Nat)
  | ended
deriving DecidableEq, Repr

inductive Stopping where
  | notBegun
  -- the call has taken over the thread that takes connections, if the server had it
  | begun
  | halted
  | warning (left : List Nat)
  | warned
  | flagged
  -- that thread has ended, where the call had it
  | alone
  -- so many workers were tracked and so many of them have failed; these are still to be waited for
  | joining (tracked failed : Nat) (left : List Nat)
  -- worker `i` has been asked to stop and is being waited for, then the others
  | awaiting (tracked failed i : Nat) (left : List Nat)
  | returned (failed : Nat)
deriving DecidableEq, Repr

def Stopping.answer : Stopping → Option (Except ServerError Unit)
  | .returned 0 => some (.ok ())
  | .returned failed => some (.error (.threadPanic failed))
  | _ => none

structure Shutdown where
  running : Bool := true
  listener : Bool := true
  handle : Bool := false
  flagged : Bool := false
  intake : Intake := .polling
  intakeJoins : Nat := 0
  stopping : Stopping := .notBegun
  live : List Nat := []
  workers : List Labour := []
  joins : List Nat := []
  reports : List Nat := []
deriving DecidableEq, Repr

namespace Shutdown

inductive Event where
  | poll
  | arrive
  | pause
  | retry
  | spawn
  | spawnFailed
  | track
  -- the workers that have ended are told from the others. One that ends while they are looked at
  -- may be overlooked
  | reap (overlooked : List Nat)
  | clear
  | cleared
  | quit (i : Nat)
  | finish (i : Nat)
  | fail (i : Nat)
  | stop
  | halt
  | warn
  | warnNext
  | warned
  | flag
  | joinIntake
  | takeLive
  | joinWorker
  | report
deriving DecidableEq, Repr

def has (s : Shutdown) (p : Labour → Bool) (i : Nat) : Bool := s.workers[i]?.any p

def isDone (s : Shutdown) (i : Nat) : Bool := s.has (fun w => !w.active && w.ended) i

def change (s : Shutdown) (i : Nat) (f : Labour → Labour) : Shutdown :=
  { s with workers := s.workers.modify i f }

def deactivate (s : Shutdown) (i : Nat) : Shutdown := s.change i fun w => { w with active := false }

/-- Whether the call that stops the server has the connections tracked for itself. -/
def isLocked (s : Shutdown) : Bool :=
  match s.stopping with
  | .warning _ => true
  | _ => false

def intakeStep (s : Shutdown) : Event → Option Shutdown
  | .poll =>
    if s.intake = .polling then some { s with intake := if s.flagged then .ended else .watching }
    else none
  | .arrive =>
    if s.intake = .watching then
      some { s with intake := if s.running then .admitting else .polling }
    else none
  | .pause => if s.intake = .watching then some { s with intake := .reaping } else none
  | .retry => if s.intake = .watching then some { s with intake := .polling } else none
  | .spawn =>
    if s.intake = .admitting then
      some { s with intake := .tracking s.workers.length, workers := s.workers ++ [{}] }
    else none
  | .spawnFailed => if s.intake = .admitting then some { s with intake := .reaping } else none
  | .track =>
    match s.intake with
    | .tracking i =>
      if s.isLocked then none else some { s with intake := .reaping, live := s.live ++ [i] }
    | _ => none
  | .reap overlooked =>
    if s.intake = .reaping ∧ s.isLocked = false then
      let (done, live) := s.live.partition fun i => s.isDone i && !overlooked.contains i
      some { s with intake := .clearing done, live }
    else none
  | .clear =>
    match s.intake with
    | .clearing (i :: left) =>
      if s.has (·.ended) i then some { s with intake := .clearing left, joins := s.joins ++ [i] }
      else none
    | _ => none
  | .cleared => if s.intake = .clearing [] then some { s with intake := .polling } else none
  | _ => none

def stoppingStep (s : Shutdown) : Event → Option Shutdown
  | .stop =>
    match s.stopping with
    | .notBegun | .returned _ =>
      some { s with listener := false, handle := s.listener, stopping := .begun }
    | _ => none
  | .halt =>
    -- a server that neither runs nor had the thread has been stopped before
    if s.stopping = .begun then
      some { s with
        running := false
        stopping := if s.running || s.handle then .halted else .returned 0 }
    else none
  | .warn => if s.stopping = .halted then some { s with stopping := .warning s.live } else none
  | .warnNext =>
    match s.stopping with
    | .warning (i :: left) => some { s.deactivate i with stopping := .warning left }
    | .joining tracked failed (i :: left) =>
      some { s.deactivate i with stopping := .awaiting tracked failed i left }
    | _ => none
  | .warned => if s.stopping = .warning [] then some { s with stopping := .warned } else none
  | .flag =>
    if s.stopping = .warned then
      some (if s.handle then { s with flagged := true, stopping := .flagged }
        else { s with stopping := .alone })
    else none
  | .joinIntake =>
    if s.stopping = .flagged ∧ s.intake = .ended then
      some { s with handle := false, intakeJoins := s.intakeJoins + 1, stopping := .alone }
    else none
  | .takeLive =>
    if s.stopping = .alone then
      some { s with live := [], stopping := .joining s.live.length 0 s.live }
    else none
  | .joinWorker =>
    match s.stopping with
    | .awaiting tracked failed i left =>
      if s.has (·.ended) i then
        let failed := failed + (s.has (·.failed) i).toNat
        some { s with stopping := .joining tracked failed left, joins := s.joins ++ [i] }
      else none
    | _ => none
  | .report =>
    match s.stopping with
    | .joining tracked failed [] =>
      some { s with stopping := .returned failed, reports := s.reports ++ [tracked] }
    | _ => none
  | _ => none

def workerStep (s : Shutdown) : Event → Option Shutdown
  | .quit i => if s.has (!·.ended) i then some (s.deactivate i) else none
  | .finish i =>
    if s.has (fun w => !w.active && !w.ended) i then
      some (s.change i fun w => { w with ended := true })
    else none
  | .fail i =>
    if s.has (!·.ended) i then some (s.change i fun w => { w with ended := true, failed := true })
    else none
  | _ => none

def step (s : Shutdown) (e : Event) : Option Shutdown :=
  (s.intakeStep e).or ((s.stoppingStep e).or (s.workerStep e))

inductive Reachable : Shutdown → Prop where
  | start : Reachable {}
  | step {s t : Shutdown} (e : Event) : Reachable s → s.step e = some t → Reachable t

end Shutdown

end DebugGateway.Server
