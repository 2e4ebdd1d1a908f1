import DebugGateway.Execution.Executor
import DebugGateway.Proofs.Basics

/-! One native call at a time. What an event can do is said once, for the execution it is about and for
the gate (`Moves`, `step_moves`); the invariant ties the ticket of an execution to where its caller and
its worker stand, and the gate to the number of tickets. Nothing is assumed of the order of events or
of how many executions there are. -/
namespace DebugGateway

def Worker.holds : Worker → Bool
  | .running | .ended _ => true
  | .none | .released _ | .told _ => false

namespace Phase

variable {budget elapsed : Nat} {p q : Phase}

theorem next_admitted (h : p.next budget elapsed .admitted = some q) :
    p = .queued ∧ q = .admitted := by
  cases p with
  | queued => exact ⟨rfl, (Option.some.inj h).symm⟩
  | _ => contradiction

theorem next_setupFailed {e : EngineError} (h : p.next budget elapsed (.setupFailed e) = some q) :
    p = .admitted ∧ q = .finished (.unprepared e elapsed) := by
  cases p with
  | admitted => exact ⟨rfl, (Option.some.inj h).symm⟩
  | _ => contradiction

theorem next_launched (h : p.next budget elapsed .launched = some q) :
    p = .admitted ∧ q = .running := by
  cases p with
  | admitted => exact ⟨rfl, (Option.some.inj h).symm⟩
  | _ => contradiction

theorem next_ended {e : CallEnd} (h : p.next budget elapsed (.ended e) = some q) :
    p = .running ∧ q = .finished (.ended elapsed e) ∨
      p = .cancelling ∧ q = .finished (.endedLate budget elapsed e) := by
  cases p with
  | running => exact .inl ⟨rfl, (Option.some.inj h).symm⟩
  | cancelling => exact .inr ⟨rfl, (Option.some.inj h).symm⟩
  | _ => contradiction

end Phase

namespace Execution

def isDetached (x : Execution) : Bool :=
  match x.phase with
  | .finished a => a.detached
  | _ => false

/-- The ticket is in the hands of the caller that prepares a call or of the worker that runs it. A
caller that goes on without leaving its call alone has no worker or one that is done. -/
structure Orderly (x : Execution) : Prop where
  ticket : x.ticket = true ↔ x.phase = .admitted ∨ x.worker.holds = true
  unlaunched : x.phase = .queued ∨ x.phase = .admitted → x.worker = .none
  gone : ∀ a, x.phase = .finished a → a.detached = false → x.worker = .none ∨ ∃ e, x.worker = .told e

theorem Orderly.callRuns_ticket {x : Execution} (h : x.Orderly) (runs : x.callRuns = true) :
    x.ticket = true := by
  apply h.ticket.mpr
  unfold callRuns at runs
  split at runs
  · rename_i running
    exact .inr (by rw [running]; rfl)
  · contradiction

theorem Orderly.over_ticket {x : Execution} (h : x.Orderly) (gone : x.isOver = true)
    (kept : x.isDetached = false) : x.ticket = false := by
  unfold isOver at gone
  split at gone
  · rename_i a finished
    have attended : a.detached = false := by simpa [isDetached, finished] using kept
    have done : x.worker.holds = false := by
      rcases h.gone a finished attended with none | ⟨e, told⟩
      · rw [none]; rfl
      · rw [told]; rfl
    cases held : x.ticket with
    | false => rfl
    | true =>
      rcases h.ticket.mp held with admitted | holds
      · rw [finished] at admitted; cases admitted
      · rw [done] at holds; cases holds
  · contradiction

end Execution

namespace Executor

def tickets (s : Executor) : Nat := s.executions.countP (·.ticket)

def calls (s : Executor) : Nat := s.executions.countP (·.callRuns)

/-- What one event does to the gate and to the execution it is about. -/
inductive Moves : Bool × Execution → Bool × Execution → Prop where
  | enter {x : Execution} : x.phase = .queued →
    Moves (false, x) (true, { x with phase := .admitted, ticket := true })
  | refuse {x : Execution} (elapsed : Nat) : x.phase = .queued →
    Moves (true, x) (true, { x with phase := .finished (.refused x.budget elapsed) })
  | failSetup {busy : Bool} {x : Execution} (elapsed : Nat) (e : EngineError) : x.phase = .admitted →
    Moves (busy, x) (false, { x with phase := .finished (.unprepared e elapsed), ticket := false })
  | launch {busy : Bool} {x : Execution} : x.phase = .admitted →
    Moves (busy, x) (busy, { x with phase := .running, worker := .running })
  | endCall {busy : Bool} {x : Execution} (e : CallEnd) : x.worker = .running →
    Moves (busy, x) (busy, { x with worker := .ended e })
  | release {busy : Bool} {x : Execution} (e : CallEnd) : x.worker = .ended e →
    Moves (busy, x) (false, { x with worker := .released e, ticket := false })
  | tell {busy : Bool} {x : Execution} (e : CallEnd) : x.worker = .released e →
    Moves (busy, x) (busy, { x with worker := .told e })
  | learn {busy : Bool} {x : Execution} (elapsed : Nat) (e : CallEnd) : x.worker = .told e →
    x.phase = .running → Moves (busy, x) (busy, { x with phase := .finished (.ended elapsed e) })
  | learnLate {busy : Bool} {x : Execution} (elapsed : Nat) (e : CallEnd) : x.worker = .told e →
    x.phase = .cancelling →
      Moves (busy, x) (busy, { x with phase := .finished (.endedLate x.budget elapsed e) })
  | interrupt {busy : Bool} {x : Execution} : x.phase = .running →
    Moves (busy, x) (busy, { x with phase := .cancelling, interrupts := x.interrupts + 1 })
  | detach {busy : Bool} {x : Execution} (elapsed : Nat) : x.phase = .cancelling →
    Moves (busy, x) (busy, { x with phase := .finished (.abandoned x.budget elapsed) })

theorem signal_some {s t : Executor} {i elapsed : Nat} {g : Signal} {change : Execution → Execution}
    (h : s.signal i elapsed g change = some t) :
    ∃ x phase, s.executions[i]? = some x ∧ x.phase.next x.budget elapsed g = some phase ∧
      t = s.put i { change x with phase } := by
  unfold signal at h
  split at h
  · rename_i x found
    split at h
    · rename_i phase next
      exact ⟨x, phase, found, next, (Option.some.inj h).symm⟩
    · contradiction
  · contradiction

/-- Every event but a new execution moves one execution, and the gate with it. -/
theorem step_moves {s t : Executor} {e : Event} (h : s.step e = some t) :
    (∃ budget, t = { s with executions := s.executions ++ [{ budget }] }) ∨
      ∃ i x busy x', s.executions[i]? = some x ∧ Moves (s.busy, x) (busy, x') ∧
        t = { busy, executions := s.executions.set i x' } := by
  cases e with
  | submit budget => exact .inl ⟨budget, (Option.some.inj h).symm⟩
  | enter i =>
    simp only [step] at h
    split at h
    · contradiction
    · rename_i free
      obtain ⟨u, admitted, rfl⟩ := Option.map_eq_some_iff.mp h
      obtain ⟨x, phase, found, next, rfl⟩ := signal_some admitted
      obtain ⟨queued, rfl⟩ := Phase.next_admitted next
      have gate : s.busy = false := by simpa using free
      exact .inr ⟨i, x, true, _, found, gate ▸ .enter queued, rfl⟩
  | refuse i elapsed =>
    simp only [step] at h
    split at h
    · rename_i queued
      split at h
      · rename_i gate
        obtain ⟨x, phase, found, next, rfl⟩ := signal_some h
        cases found.symm.trans queued
        cases next
        exact .inr ⟨i, _, s.busy, _, found, gate ▸ .refuse elapsed rfl, rfl⟩
      · contradiction
    · contradiction
  | failSetup i elapsed e =>
    obtain ⟨u, failed, rfl⟩ := Option.map_eq_some_iff.mp h
    obtain ⟨x, phase, found, next, rfl⟩ := signal_some failed
    obtain ⟨admitted, rfl⟩ := Phase.next_setupFailed next
    exact .inr ⟨i, x, false, _, found, .failSetup elapsed e admitted, rfl⟩
  | launch i =>
    obtain ⟨x, phase, found, next, rfl⟩ := signal_some h
    obtain ⟨admitted, rfl⟩ := Phase.next_launched next
    exact .inr ⟨i, x, s.busy, _, found, .launch admitted, rfl⟩
  | endCall i e =>
    simp only [step] at h
    split at h
    · rename_i x found
      split at h
      · rename_i running
        cases h
        exact .inr ⟨i, x, s.busy, _, found, .endCall e running, rfl⟩
      · contradiction
    · contradiction
  | release i =>
    simp only [step] at h
    split at h
    · rename_i x found
      split at h
      · rename_i e ended
        cases h
        exact .inr ⟨i, x, false, _, found, .release e ended, rfl⟩
      · contradiction
    · contradiction
  | tell i =>
    simp only [step] at h
    split at h
    · rename_i x found
      split at h
      · rename_i e released
        cases h
        exact .inr ⟨i, x, s.busy, _, found, .tell e released, rfl⟩
      · contradiction
    · contradiction
  | learn i elapsed =>
    simp only [step] at h
    split at h
    · rename_i x found
      split at h
      · rename_i e told
        obtain ⟨y, phase, found', next, rfl⟩ := signal_some h
        cases found.symm.trans found'
        rcases Phase.next_ended next with ⟨running, rfl⟩ | ⟨cancelling, rfl⟩
        · exact .inr ⟨i, x, s.busy, _, found, .learn elapsed e told running, rfl⟩
        · exact .inr ⟨i, x, s.busy, _, found, .learnLate elapsed e told cancelling, rfl⟩
      · contradiction
    · contradiction
  | interrupt i =>
    simp only [step] at h
    split at h
    · rename_i running
      obtain ⟨x, phase, found, next, rfl⟩ := signal_some h
      cases found.symm.trans running
      cases next
      exact .inr ⟨i, _, s.busy, _, found, .interrupt rfl, rfl⟩
    · contradiction
  | detach i elapsed =>
    simp only [step] at h
    split at h
    · rename_i cancelling
      obtain ⟨x, phase, found, next, rfl⟩ := signal_some h
      cases found.symm.trans cancelling
      cases next
      exact .inr ⟨i, _, s.busy, _, found, .detach elapsed rfl, rfl⟩
    · contradiction

theorem Moves.orderly {busy busy' : Bool} {x x' : Execution} (move : Moves (busy, x) (busy', x'))
    (h : x.Orderly) : x'.Orderly := by
  obtain ⟨ticket, unlaunched, gone⟩ := h
  cases move with
  | enter queued =>
    have none := unlaunched (.inl queued)
    exact ⟨by simp, fun _ => none, by simp⟩
  | refuse elapsed queued =>
    have none := unlaunched (.inl queued)
    refine ⟨?_, by simp, fun _ _ _ => .inl none⟩
    simp [ticket, queued, none, Worker.holds]
  | failSetup elapsed e admitted =>
    have none := unlaunched (.inr admitted)
    refine ⟨?_, by simp, fun _ _ _ => .inl none⟩
    simp [none, Worker.holds]
  | launch admitted =>
    refine ⟨?_, by simp, by simp⟩
    simp [ticket, admitted, Worker.holds]
  | endCall e running =>
    refine ⟨?_, ?_, ?_⟩
    · simp [ticket, running, Worker.holds]
    · intro early
      rw [unlaunched early] at running
      cases running
    · intro a finished attended
      rcases gone a finished attended with none | ⟨_, told⟩
      · rw [none] at running; cases running
      · rw [told] at running; cases running
  | release e ended =>
    refine ⟨?_, ?_, ?_⟩
    · have launched : x.phase ≠ .admitted := by
        intro admitted
        rw [unlaunched (.inr admitted)] at ended
        cases ended
      simp [launched, Worker.holds]
    · intro early
      rw [unlaunched early] at ended
      cases ended
    · intro a finished attended
      rcases gone a finished attended with none | ⟨_, told⟩
      · rw [none] at ended; cases ended
      · rw [told] at ended; cases ended
  | tell e released =>
    refine ⟨?_, ?_, fun _ _ _ => .inr ⟨e, rfl⟩⟩
    · simp [ticket, released, Worker.holds]
    · intro early
      rw [unlaunched early] at released
      cases released
  | learn elapsed e told running =>
    refine ⟨?_, by simp, fun _ _ _ => .inr ⟨e, told⟩⟩
    simp [ticket, running]
  | learnLate elapsed e told cancelling =>
    refine ⟨?_, by simp, fun _ _ _ => .inr ⟨e, told⟩⟩
    simp [ticket, cancelling]
  | interrupt running =>
    refine ⟨?_, by simp, by simp⟩
    simp [ticket, running]
  | detach elapsed cancelling =>
    refine ⟨?_, by simp, ?_⟩
    · simp [ticket, cancelling]
    · intro a finished attended
      cases finished
      cases attended

/-- A move changes the number of tickets as it changes the gate, where a ticket means a shut gate. -/
theorem Moves.balance {busy busy' : Bool} {x x' : Execution} (move : Moves (busy, x) (busy', x'))
    (h : x.Orderly) (shut : x.ticket = true → busy = true) :
    x'.ticket.toNat + busy.toNat = x.ticket.toNat + busy'.toNat := by
  obtain ⟨ticket, unlaunched, _⟩ := h
  cases move with
  | enter queued =>
    have none : x.ticket = false := by
      cases held : x.ticket with
      | false => rfl
      | true => exact absurd (shut held) (by decide)
    simp [none]
  | failSetup elapsed e admitted =>
    have held : x.ticket = true := ticket.mpr (.inl admitted)
    simp [held, shut held]
  | release e ended =>
    have held : x.ticket = true := ticket.mpr (.inr (by rw [ended]; rfl))
    simp [held, shut held]
  | _ => rfl

/-! ## Every state that can be reached -/

/-- All executions are in order, and the gate is shut for just one ticket. -/
structure Orderly (s : Executor) : Prop where
  each : ∀ x ∈ s.executions, x.Orderly
  gate : s.tickets = s.busy.toNat

theorem Orderly.shut {s : Executor} (h : s.Orderly) {x : Execution} (member : x ∈ s.executions)
    (held : x.ticket = true) : s.busy = true := by
  have alive : 0 < s.tickets := List.countP_pos_iff.mpr ⟨x, member, held⟩
  rw [h.gate] at alive
  cases gate : s.busy with
  | true => rfl
  | false => rw [gate] at alive; cases alive

theorem Orderly.start : Orderly {} := ⟨by simp, rfl⟩

theorem Orderly.step {s t : Executor} {e : Event} (h : s.Orderly) (stepped : s.step e = some t) :
    t.Orderly := by
  rcases step_moves stepped with ⟨budget, rfl⟩ | ⟨i, x, busy, x', found, move, rfl⟩
  · refine ⟨?_, ?_⟩
    · intro y member
      rcases List.mem_append.mp member with old | new
      · exact h.each y old
      · cases List.mem_singleton.mp new
        exact ⟨by simp [Worker.holds], fun _ => rfl, by simp⟩
    · have gate := h.gate
      simpa [tickets] using gate
  · have member : x ∈ s.executions := List.mem_of_getElem? found
    have ordered := h.each x member
    refine ⟨?_, ?_⟩
    · intro y hy
      rcases List.mem_or_eq_of_mem_set hy with old | rfl
      · exact h.each y old
      · exact move.orderly ordered
    · have counted := countP_set_toNat (y := x') (·.ticket) found
      have balance := move.balance ordered (h.shut member)
      have gate := h.gate
      simp only [tickets] at gate ⊢
      omega

theorem Reachable.orderly {s : Executor} (h : Reachable s) : s.Orderly := by
  induction h with
  | start => exact .start
  | step e _ stepped ih => exact ih.step stepped

/-- In every state that can be reached: at most one native call is going on; the gate is shut exactly
when a ticket is alive, and then there is one; a call goes on only under its own ticket; a call left
alone keeps the gate shut as long as it goes on; and a caller that goes on without leaving its call
alone has no ticket any more. -/
theorem calls_exclude_each_other {s : Executor} (h : Reachable s) :
    s.calls ≤ 1 ∧
    (s.busy = true ↔ s.tickets = 1) ∧ (s.busy = false ↔ s.tickets = 0) ∧
    (∀ x ∈ s.executions, x.callRuns = true → x.ticket = true) ∧
    (∀ x ∈ s.executions, x.isDetached = true → x.callRuns = true → s.busy = true) ∧
    (∀ x ∈ s.executions, x.isOver = true → x.isDetached = false → x.ticket = false) := by
  have ordered := h.orderly
  have gate := ordered.gate
  have under : ∀ x ∈ s.executions, x.callRuns = true → x.ticket = true :=
    fun x member => (ordered.each x member).callRuns_ticket
  have most : s.calls ≤ s.tickets := List.countP_mono_left under
  refine ⟨?_, ?_, ?_, under, ?_, ?_⟩
  · have one := Bool.toNat_le s.busy
    omega
  · rw [gate]
    cases s.busy <;> simp
  · rw [gate]
    cases s.busy <;> simp
  · intro x member _ runs
    exact ordered.shut member (under x member runs)
  · intro x member gone attended
    exact (ordered.each x member).over_ticket gone attended

theorem Reachable.after {s t : Executor} (events : List Event) (h : Reachable s)
    (run : events.foldlM Executor.step s = some t) : Reachable t := by
  apply foldlM_kept run _ h
  intro _ e _ _ reached stepped
  exact reached.step e stepped

/-- A call that was left alone goes on, and a second caller has waited in vain. -/
def overrun : Executor where
  busy := true
  executions :=
    [{ budget := 20, phase := .finished (.abandoned 20 25), worker := .running, ticket := true,
       interrupts := 1 },
     { budget := 30, phase := .finished (.refused 30 30) }]

theorem overrun_excludes :
    Reachable overrun ∧ overrun.calls = 1 ∧ overrun.tickets = 1 ∧ overrun.busy = true := by
  have reached : Reachable overrun := Reachable.start.after
    [.submit 20, .enter 0, .launch 0, .submit 30, .interrupt 0, .detach 0 25, .refuse 1 30] rfl
  obtain ⟨_, gate, _, _, alone, _⟩ := calls_exclude_each_other reached
  have shut := alone _ (.head _) rfl rfl
  exact ⟨reached, rfl, gate.mp shut, shut⟩

end Executor

end DebugGateway
