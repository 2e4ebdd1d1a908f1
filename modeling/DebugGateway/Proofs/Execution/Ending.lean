import DebugGateway.Execution.Phase
import DebugGateway.Proofs.Execution.Exclusion
import DebugGateway.Rehearsal.Bench

namespace DebugGateway

/-- The phases that the caller of an execution can come to, whatever it learns. -/
inductive Phase.Comes (budget : Nat) : Phase → Prop where
  | queued : Comes budget .queued
  | next {p q : Phase} (elapsed : Nat) (g : Signal) : Comes budget p →
    p.next budget elapsed g = some q → Comes budget q

def Attempt.Arises (budget : Nat) (a : Attempt) : Prop := Phase.Comes budget (.finished a)

/-- A runner that reports nothing but what executions report, whatever the engine does. -/
def Runner.Executes {σ : Type} (runner : Runner σ) : Prop :=
  ∀ command budget world, (runner.attempt command budget world).1.Arises budget

inductive Ending where
  | refused (elapsed : Nat)
  | unprepared (e : EngineError) (elapsed : Nat)
  | ended (elapsed : Nat) (e : CallEnd)
  | endedLate (elapsed : Nat) (e : CallEnd)
  | abandoned (elapsed : Nat)

namespace Ending

def attempt (budget : Nat) : Ending → Attempt
  | refused elapsed => .refused budget elapsed
  | unprepared e elapsed => .unprepared e elapsed
  | ended elapsed e => .ended elapsed e
  | endedLate elapsed e => .endedLate budget elapsed e
  | abandoned elapsed => .abandoned budget elapsed

def overran : Ending → Bool
  | refused _ | endedLate .. | abandoned _ => true
  | unprepared .. | ended .. => false

def isAbandoned : Ending → Bool
  | abandoned _ => true
  | _ => false

variable (budget : Nat) (ending : Ending)

theorem timedOut_eq : (ending.attempt budget).result.timedOut = ending.overran := by
  cases ending with
  | ended elapsed e =>
    cases e with
    | returned output status => cases status <;> rfl
    | panicked => rfl
  | endedLate elapsed e => cases e <;> rfl
  | _ => rfl

theorem detached_eq : (ending.attempt budget).detached = ending.isAbandoned := by
  cases ending with
  | ended elapsed e | endedLate elapsed e => cases e <;> rfl
  | _ => rfl

theorem overran_of_abandoned (left : ending.isAbandoned = true) : ending.overran = true := by
  cases ending with
  | abandoned elapsed => rfl
  | _ => cases left

theorem failed_of_overran (late : ending.overran = true) :
    (ending.attempt budget).result.failed = true := by
  cases ending with
  | endedLate elapsed e => cases e <;> rfl
  | refused | abandoned => rfl
  | _ => cases late

theorem failed_of_unavailable (lost : (ending.attempt budget).result.sessionUnavailable = true) :
    (ending.attempt budget).result.failed = true := by
  cases ending with
  | unprepared e elapsed => rfl
  | ended elapsed e =>
    cases e with
    | returned output status =>
      cases status with
      | ok _ => cases lost
      | error e => rfl
    | panicked => rfl
  | endedLate elapsed e => cases e <;> rfl
  | refused | abandoned => rfl

theorem arises : (ending.attempt budget).Arises budget := by
  have admitted : Phase.Comes budget .admitted := .next 0 .admitted .queued rfl
  have running : Phase.Comes budget .running := .next 0 .launched admitted rfl
  have cancelling : Phase.Comes budget .cancelling := .next 0 .timeUp running rfl
  cases ending with
  | refused elapsed => exact .next elapsed .timeUp .queued rfl
  | unprepared e elapsed => exact .next elapsed (.setupFailed e) admitted rfl
  | ended elapsed e => exact .next elapsed (.ended e) running rfl
  | endedLate elapsed e => exact .next elapsed (.ended e) cancelling rfl
  | abandoned elapsed => exact .next elapsed .timeUp cancelling rfl

end Ending

theorem Phase.next_finished {budget elapsed : Nat} {p : Phase} {g : Signal} {a : Attempt}
    (finished : p.next budget elapsed g = some (.finished a)) :
    ∃ ending : Ending, a = ending.attempt budget := by
  unfold Phase.next at finished
  split at finished
  · cases finished
  · cases finished
    exact ⟨.refused elapsed, rfl⟩
  · rename_i e
    cases finished
    exact ⟨.unprepared e elapsed, rfl⟩
  · cases finished
  · rename_i e
    cases finished
    exact ⟨.ended elapsed e, rfl⟩
  · cases finished
  · rename_i e
    cases finished
    exact ⟨.endedLate elapsed e, rfl⟩
  · cases finished
    exact ⟨.abandoned elapsed, rfl⟩
  · cases finished

namespace Attempt

variable {budget : Nat} {a : Attempt}

theorem arises_iff : a.Arises budget ↔ ∃ ending : Ending, a = ending.attempt budget := by
  constructor
  · rintro (_ | ⟨elapsed, g, _, finished⟩)
    exact Phase.next_finished finished
  · rintro ⟨ending, rfl⟩
    exact ending.arises budget

theorem Arises.failed_of_timedOut (arises : a.Arises budget) (timedOut : a.result.timedOut = true) :
    a.result.failed = true := by
  obtain ⟨ending, rfl⟩ := arises_iff.mp arises
  exact ending.failed_of_overran budget (ending.timedOut_eq budget ▸ timedOut)

theorem Arises.failed_of_unavailable (arises : a.Arises budget)
    (lost : a.result.sessionUnavailable = true) : a.result.failed = true := by
  obtain ⟨ending, rfl⟩ := arises_iff.mp arises
  exact ending.failed_of_unavailable budget lost

theorem Arises.timedOut_of_detached (arises : a.Arises budget) (detached : a.detached = true) :
    a.result.timedOut = true := by
  obtain ⟨ending, rfl⟩ := arises_iff.mp arises
  rw [ending.detached_eq budget] at detached
  rw [ending.timedOut_eq budget]
  exact ending.overran_of_abandoned detached

end Attempt

/-! ## Executions among others, and on a clock -/

theorem Executor.Moves.comes {busy busy' : Bool} {x x' : Execution}
    (move : Moves (busy, x) (busy', x')) (comes : x.phase.Comes x.budget) :
    x'.phase.Comes x'.budget := by
  cases move with
  | enter queued => exact .next 0 .admitted comes (by rw [queued]; rfl)
  | refuse elapsed queued => exact .next elapsed .timeUp comes (by rw [queued]; rfl)
  | failSetup elapsed e admitted => exact .next elapsed (.setupFailed e) comes (by rw [admitted]; rfl)
  | launch admitted => exact .next 0 .launched comes (by rw [admitted]; rfl)
  | endCall | release | tell => exact comes
  | learn elapsed e _ running => exact .next elapsed (.ended e) comes (by rw [running]; rfl)
  | learnLate elapsed e _ cancelling => exact .next elapsed (.ended e) comes (by rw [cancelling]; rfl)
  | interrupt running => exact .next 0 .timeUp comes (by rw [running]; rfl)
  | detach elapsed cancelling => exact .next elapsed .timeUp comes (by rw [cancelling]; rfl)

theorem Executor.Reachable.comes {s : Executor} (reached : Reachable s) :
    ∀ x ∈ s.executions, x.phase.Comes x.budget := by
  induction reached with
  | start => exact fun x member => absurd member List.not_mem_nil
  | step e _ stepped ih =>
    rcases step_moves stepped with ⟨budget, rfl⟩ | ⟨i, x, busy, x', found, move, rfl⟩
    · intro y member
      rcases List.mem_append.mp member with old | new
      · exact ih y old
      · cases List.mem_singleton.mp new
        exact .queued
    · intro y member
      rcases List.mem_or_eq_of_mem_set member with old | rfl
      · exact ih y old
      · exact move.comes (ih x (List.mem_of_getElem? found))

theorem Passage.cancelled_arises (budget grace start launch deadline : Nat) (course : Course) :
    (cancelled budget grace start launch deadline course).attempt.Arises budget := by
  unfold cancelled
  split
  · rename_i after e _
    dsimp only
    split
    · exact Ending.arises budget (.endedLate (launch + after - start) e)
    · exact Ending.arises budget (.abandoned (deadline + grace - start))
  · exact Ending.arises budget (.abandoned (deadline + grace - start))

theorem Passage.of_arises (budget grace start : Nat) (free : Option Nat)
    (setup : Except EngineError Course) : (of budget grace start free setup).attempt.Arises budget := by
  unfold of
  dsimp only
  split
  · exact Ending.arises budget (.refused (start + budget - start))
  · rename_i launch _
    split
    · rename_i e
      exact Ending.arises budget (.unprepared e (launch - start))
    · unfold launchedAt
      split
      · rename_i after e _
        dsimp only
        split
        · exact Ending.arises budget (.ended (launch + after - start) e)
        · exact cancelled_arises ..
      · exact cancelled_arises ..

/-- A runner that ends its executions as it is told, and refuses those that it is told nothing of. -/
def Runner.told : Runner (List Ending) where
  attempt _ budget
    | [] => ((Ending.refused budget).attempt budget, [])
    | ending :: rest => (ending.attempt budget, rest)
  now _ := {}

theorem Runner.told_executes : Runner.told.Executes
  | _, budget, [] => Ending.arises budget (.refused budget)
  | _, budget, ending :: _ => ending.arises budget

theorem Runner.absent_executes : Runner.absent.Executes :=
  fun _ budget _ => Ending.arises budget (.unprepared .notConfigured 0)

theorem Rehearsal.Bench.runner_executes : Rehearsal.Bench.runner.Executes := by
  intro command budget b
  show (b.passage command budget b.released).attempt.Arises budget
  unfold passage
  dsimp only
  split
  · exact Passage.of_arises ..
  · exact Passage.of_arises ..

end DebugGateway
