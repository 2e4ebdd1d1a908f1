import DebugGateway.Proofs.Execution.Exclusion

/-! Which call an interrupt meets where all calls run in one debugger. A worker gives its ticket back
before it tells its caller, and the caller needs no ticket to send a signal, so between the two a signal
can meet the call that was let in next. -/
namespace DebugGateway

def Worker.isDone : Worker → Bool
  | .released _ | .told _ => true
  | .none | .running | .ended _ => false

namespace Execution

def Launched (x : Execution) : Prop := x.phase = .running → x.worker ≠ .none

/-- A caller whose call has been launched but has no ticket has not learnt that the call has ended. -/
theorem Orderly.done_of_running {x : Execution} (h : x.Orderly) (launched : x.Launched)
    (running : x.phase = .running) (given : x.ticket = false) : x.worker.isDone = true := by
  have held : x.worker.holds = false := by
    cases holds : x.worker.holds with
    | false => rfl
    | true =>
      rw [h.ticket.mpr (.inr holds)] at given
      cases given
  cases worker : x.worker with
  | none => exact absurd worker (launched running)
  | running => rw [worker] at held; cases held
  | ended e => rw [worker] at held; cases held
  | released e => rfl
  | told e => rfl

end Execution

namespace Executor

theorem Moves.launched {busy busy' : Bool} {x x' : Execution}
    (move : Moves (busy, x) (busy', x')) : x'.Launched := by
  cases move with
  | enter | refuse | failSetup | learn | learnLate | interrupt | detach =>
    intro running
    cases running
  | launch | endCall | release | tell =>
    intro _ none
    cases none

theorem Reachable.launched {s : Executor} (h : Reachable s) : ∀ x ∈ s.executions, x.Launched := by
  induction h with
  | start =>
    intro x member
    cases member
  | step e _ stepped ih =>
    rcases step_moves stepped with ⟨budget, rfl⟩ | ⟨i, x, busy, x', found, move, rfl⟩
    · intro y member
      rcases List.mem_append.mp member with old | new
      · exact ih y old
      · cases List.mem_singleton.mp new
        intro running
        cases running
    · intro y member
      rcases List.mem_or_eq_of_mem_set member with old | rfl
      · exact ih y old
      · exact move.launched

section Tickets

variable {s : Executor} {i j : Nat} {x y : Execution}

theorem Orderly.one_ticket (h : s.Orderly) (here : s.executions[i]? = some x)
    (there : s.executions[j]? = some y) (mine : x.ticket = true) (yours : y.ticket = true) : i = j := by
  refine Decidable.byContradiction fun differs => ?_
  have others : s.executions.countP (·.ticket) =
      (s.executions.set i { x with ticket := false }).countP (·.ticket) + 1 := by
    have counted := countP_set_toNat (y := { x with ticket := false }) (·.ticket) here
    simp only [mine, Bool.toNat_true, Bool.toNat_false] at counted
    omega
  have still : (s.executions.set i { x with ticket := false })[j]? = some y := by
    rw [List.getElem?_set_ne differs, there]
  have one : 0 < (s.executions.set i { x with ticket := false }).countP (·.ticket) :=
    List.countP_pos_iff.mpr ⟨y, List.mem_of_getElem? still, yours⟩
  have most := Bool.toNat_le s.busy
  have gate := h.gate
  rw [tickets] at gate
  omega

theorem Orderly.one_call (h : s.Orderly) (here : s.executions[i]? = some x)
    (there : s.executions[j]? = some y) (mine : x.callRuns = true) (yours : y.callRuns = true) :
    i = j := by
  have held := (h.each x (List.mem_of_getElem? here)).callRuns_ticket mine
  have held' := (h.each y (List.mem_of_getElem? there)).callRuns_ticket yours
  exact h.one_ticket here there held held'

end Tickets

theorem interrupt_isSome {s : Executor} {i : Nat} :
    (s.step (.interrupt i)).isSome = true ↔ ∃ x, s.executions[i]? = some x ∧ x.phase = .running := by
  constructor
  · intro sent
    obtain ⟨t, stepped⟩ := Option.isSome_iff_exists.mp sent
    simp only [step] at stepped
    split at stepped
    · rename_i found
      exact ⟨_, found, rfl⟩
    · contradiction
  · rintro ⟨⟨budget, phase, worker, ticket, interrupts⟩, found, running⟩
    cases running
    simp only [step, signal, found]
    rfl

theorem Orderly.struck_iff {s : Executor} (h : s.Orderly) {i j : Nat} :
    s.struck (.interrupt i) = some j ↔
      (∃ x, s.executions[i]? = some x ∧ x.phase = .running) ∧
        ∃ y, s.executions[j]? = some y ∧ y.callRuns = true := by
  rw [← interrupt_isSome]
  unfold struck
  constructor
  · intro met
    dsimp only at met
    split at met
    · rename_i sent
      obtain ⟨inside, runs, _⟩ := List.findIdx?_eq_some_iff_getElem.mp met
      exact ⟨sent, _, List.getElem?_eq_getElem inside, runs⟩
    · contradiction
  · rintro ⟨sent, y, found, runs⟩
    obtain ⟨inside, rfl⟩ := List.getElem?_eq_some_iff.mp found
    dsimp only
    rw [if_pos sent]
    refine List.findIdx?_eq_some_iff_getElem.mpr ⟨inside, runs, ?_⟩
    intro k before also
    have same := h.one_call (List.getElem?_eq_getElem _) found also runs
    omega

/-- A signal meets a call just where its sender waits for a call of its own and that call goes on. Its own
call it meets wherever this goes on. Where it meets another one, its own call has ended and the ticket
has been given back, and only the sender has not learnt it. -/
theorem struck_crosses {s : Executor} (h : Reachable s) (i j : Nat) :
    (s.struck (.interrupt i) = some j ↔
      (∃ x, s.executions[i]? = some x ∧ x.phase = .running) ∧
        ∃ y, s.executions[j]? = some y ∧ y.callRuns = true) ∧
    (∀ x, s.executions[i]? = some x → x.phase = .running → x.callRuns = true →
      s.struck (.interrupt i) = some i) ∧
    (s.struck (.interrupt i) = some j → i ≠ j →
      ∀ x, s.executions[i]? = some x → x.worker.isDone = true ∧ x.ticket = false) := by
  have ordered := h.orderly
  refine ⟨ordered.struck_iff, ?_, ?_⟩
  · intro x found running runs
    exact ordered.struck_iff.mpr ⟨⟨x, found, running⟩, x, found, runs⟩
  · intro met other x found
    obtain ⟨⟨x', found', running⟩, y, there, runs⟩ := ordered.struck_iff.mp met
    cases found.symm.trans found'
    have member := List.mem_of_getElem? found
    have yours := (ordered.each y (List.mem_of_getElem? there)).callRuns_ticket runs
    have given : x.ticket = false := by
      cases mine : x.ticket with
      | false => rfl
      | true => exact absurd (ordered.one_ticket found there mine yours) other
    exact ⟨(ordered.each x member).done_of_running (h.launched x member) running given, given⟩

def crossing : Executor where
  busy := true
  executions :=
    [{ budget := 20, phase := .running, worker := .released (.returned "" (.ok ())) },
     { budget := 30, phase := .running, worker := .running, ticket := true }]

theorem reachable_crossing : Reachable crossing :=
  Reachable.start.after
    [.submit 20, .submit 30, .enter 0, .launch 0, .endCall 0 (.returned "" (.ok ())), .release 0,
     .enter 1, .launch 1] rfl

theorem crossing_struck :
    Reachable crossing ∧ crossing.struck (.interrupt 0) = some 1 ∧
    ∃ x, crossing.executions[0]? = some x ∧ x.worker.isDone = true ∧ x.ticket = false := by
  obtain ⟨meets, _, crosses⟩ := struck_crosses reachable_crossing 0 1
  have met := meets.mpr ⟨⟨_, rfl, rfl⟩, _, rfl, rfl⟩
  exact ⟨reachable_crossing, met, _, rfl, crosses met (by decide) _ rfl⟩

theorem crossing_misdirected :
    ¬ ∀ s, Reachable s → ∀ i j, s.struck (.interrupt i) = some j → i = j := by
  intro directed
  have met : crossing.struck (.interrupt 0) = some 1 :=
    reachable_crossing.orderly.struck_iff.mpr ⟨⟨_, rfl, rfl⟩, _, rfl, rfl⟩
  cases directed crossing reachable_crossing 0 1 met

end Executor

end DebugGateway
