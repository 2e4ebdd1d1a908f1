import DebugGateway.Proofs.Execution.Clock

/-! What comes of an execution under its budget, by what it meets: a gate that stays shut, a command
that cannot be prepared, a call that ends in time, a call that has to be interrupted. The four are told
apart by times alone, all taken from the one deadline, and every run comes to an end. -/
namespace DebugGateway

namespace Scene

variable {s : Scene} {c : Caller} {f : Nat} {course : Course}

/-- What a caller that is finished has to show. It passes the gate as soon as it is there and the gate
is free. -/
structure Lawful (s : Scene) (c : Caller) (a : Attempt) : Prop where
  shutOut : (∀ f, s.free = some f → s.deadline < f) →
    a.result.timedOut = true ∧ a.result.output = "" ∧ a.detached = false ∧
      c.prepared = [] ∧ c.interrupts = []
  unprepared : ∀ f e, s.free = some f → f < s.deadline → s.setup = .error e →
    a.result.failed = true ∧ a.result.timedOut = false ∧ a.result.output = "" ∧
      a.result.sessionUnavailable = e.isUnavailable ∧ a.detached = false ∧ c.interrupts = []
  inTime : ∀ f course after e, s.free = some f → f < s.deadline → s.setup = .ok course →
    course.alone = some (after, e) → max s.start f + after < s.deadline →
      a.result.timedOut = false ∧ a.detached = false ∧ c.interrupts = [] ∧
        match e with
        | .returned output status =>
          a.result.output = output ∧ (a.result.failed = true ↔ ∃ fault, status = .error fault)
        | .panicked => a.result.output = "" ∧ a.result.failed = true
  overrun : ∀ f course, s.free = some f → f < s.deadline → s.setup = .ok course →
    (∀ after e, course.alone = some (after, e) → s.deadline < max s.start f + after) →
      a.result.timedOut = true ∧ c.interrupts = [s.deadline] ∧
      (∀ after e, course.interruptedAt (s.deadline - max s.start f) = some (after, e) →
        max s.start f + after < s.deadline + s.grace →
          a.detached = false ∧ a.result.output =
            match e with
            | .returned output _ =>
              if Text.isAllBlank output then "(interrupted)"
              else Text.trimEnd output ++ "\n(interrupted)"
            | .panicked => "") ∧
      ((∀ after e, course.interruptedAt (s.deadline - max s.start f) = some (after, e) →
        s.deadline + s.grace < max s.start f + after) →
          a.detached = true ∧ a.result.output = "")

theorem entry_of_early (apart : s.Apart) (free : s.free = some f) (early : f < s.deadline) :
    s.entry = some (max s.start f) := by
  have begun := s.start_le_deadline
  exact entry_of_free apart free (Nat.le_max_left _ _) (by omega) (Nat.le_refl _)
    (Nat.le_max_right _ _)

theorem cancelled_left_le (budget grace start launch deadline : Nat) (course : Course) :
    (Passage.cancelled budget grace start launch deadline course).left ≤ deadline + grace := by
  unfold Passage.cancelled
  split
  · dsimp only
    split
    · rename_i inTime
      exact Nat.le_of_lt inTime
    · exact Nat.le_refl _
  · exact Nat.le_refl _

/-- The caller is back when the grace period is over, whatever the call does. -/
theorem passage_left_le (s : Scene) : s.passage.left ≤ s.deadline + s.grace := by
  cases passed : s.entry with
  | none => rw [passage_refused passed]; exact Nat.le_add_right _ _
  | some t =>
    obtain ⟨_, _, _, kept⟩ := entry_eq_some passed
    cases setup : s.setup with
    | error e => rw [passage_unprepared passed setup]; exact Nat.le_trans kept (Nat.le_add_right _ _)
    | ok course =>
      rw [passage_launched passed setup, Passage.launchedAt]
      split
      · dsimp only
        split
        · rename_i inTime
          exact Nat.le_trans (Nat.le_of_lt inTime) (Nat.le_add_right _ _)
        · exact cancelled_left_le ..
      · exact cancelled_left_le ..

theorem salvaged_eq (output : String) :
    salvaged output = if Text.isAllBlank output then "(interrupted)"
      else Text.trimEnd output ++ "\n(interrupted)" := by
  unfold salvaged interruptedMark
  split
  · rfl
  · rw [String.append_assoc]
    rfl

/-! ## Attempts -/

theorem ended_result (elapsed : Nat) (e : CallEnd) :
    (Attempt.ended elapsed e).result.timedOut = false ∧ (Attempt.ended elapsed e).detached = false ∧
      match e with
      | .returned output status =>
        (Attempt.ended elapsed e).result.output = output ∧
          ((Attempt.ended elapsed e).result.failed = true ↔ ∃ fault, status = .error fault)
      | .panicked =>
        (Attempt.ended elapsed e).result.output = "" ∧ (Attempt.ended elapsed e).result.failed = true := by
  cases e with
  | returned output status => cases status <;> simp [Attempt.ended, ExecutionResult.completed]
  | panicked => exact ⟨rfl, rfl, rfl, rfl⟩

theorem endedLate_result (budget elapsed : Nat) (e : CallEnd) :
    (Attempt.endedLate budget elapsed e).result.timedOut = true ∧
      (Attempt.endedLate budget elapsed e).detached = false ∧
      (Attempt.endedLate budget elapsed e).result.output =
        match e with
        | .returned output _ =>
          if Text.isAllBlank output then "(interrupted)" else Text.trimEnd output ++ "\n(interrupted)"
        | .panicked => "" := by
  cases e with
  | returned output status => exact ⟨rfl, rfl, salvaged_eq output⟩
  | panicked => exact ⟨rfl, rfl, rfl⟩

theorem cancelled_result (budget grace start launch deadline : Nat) (course : Course) :
    (Passage.cancelled budget grace start launch deadline course).attempt.result.timedOut = true ∧
      (Passage.cancelled budget grace start launch deadline course).interrupted = some deadline := by
  unfold Passage.cancelled
  split
  · dsimp only
    split
    · exact ⟨(endedLate_result ..).1, rfl⟩
    · exact ⟨rfl, rfl⟩
  · exact ⟨rfl, rfl⟩

/-! ## Executions -/

theorem lawful (apart : s.Apart) {a : Attempt} (reached : s.Reaches c)
    (done : c.phase = .finished a) : s.Lawful c a := by
  obtain ⟨attempt, _, prepared, _, interrupts⟩ := reached.finished apart done
  constructor
  · intro shut
    have none := entry_of_shut shut
    rw [none] at prepared
    rw [passage_refused none] at attempt interrupts
    subst attempt
    exact ⟨rfl, rfl, rfl, prepared, interrupts⟩
  · intro f e free early setup
    rw [passage_unprepared (entry_of_early apart free early) setup] at attempt interrupts
    subst attempt
    exact ⟨rfl, rfl, rfl, rfl, rfl, interrupts⟩
  · intro f course after e free early setup alone inTime
    rw [passage_ended (entry_of_early apart free early) setup alone inTime] at attempt interrupts
    subst attempt
    obtain ⟨timedOut, attended, told⟩ := ended_result (max s.start f + after - s.start) e
    exact ⟨timedOut, attended, interrupts, told⟩
  · intro f course free early setup outlasts
    have passed := entry_of_early apart free early
    have slow : ∀ after e, course.alone = some (after, e) → s.deadline ≤ max s.start f + after :=
      fun after e alone => Nat.le_of_lt (outlasts after e alone)
    obtain ⟨timedOut, interrupted⟩ :=
      cancelled_result s.budget s.grace s.start (max s.start f) s.deadline course
    rw [← passage_cancelled passed setup slow] at timedOut interrupted
    rw [interrupted] at interrupts
    refine ⟨attempt ▸ timedOut, interrupts, ?_, ?_⟩
    · intro after e reacts inTime
      rw [passage_endedLate passed setup slow reacts inTime] at attempt
      subst attempt
      exact (endedLate_result ..).2
    · intro ignores
      obtain ⟨freed, same⟩ := passage_abandoned passed setup slow fun after e reacts =>
        Nat.le_of_lt (ignores after e reacts)
      rw [same] at attempt
      subst attempt
      exact ⟨rfl, rfl⟩

/-- Every run of an execution comes to an end, with what the timeline says of it, and no later than the
grace period after the deadline; what is reported follows from what it met. -/
theorem execution_lawful (s : Scene) (apart : s.Apart) :
    (∀ c, s.Reaches c → (∀ a, c.phase ≠ .finished a) → ∃ d, s.Step c d) ∧
    (∀ c d, s.Step c d → s.stepsLeft d < s.stepsLeft c) ∧
    ∀ c a, s.Reaches c → c.phase = .finished a →
      s.Lawful c a ∧ c.now ≤ s.deadline + s.grace ∧
        a = (Passage.of s.budget s.grace s.start s.free s.setup).attempt := by
  refine ⟨?_, ?_, ?_⟩
  · intro c reached unfinished
    exact (reached.onTime apart).goes_on unfinished
  · intro c d step
    exact step.fewer
  · intro c a reached done
    obtain ⟨attempt, left, _⟩ := reached.finished apart done
    exact ⟨lawful apart reached done, left ▸ s.passage_left_le, attempt⟩

def endless : Course := ⟨none, fun after => some (after + 2, .returned "frame 0 \n" (.ok ()))⟩

def lateGate : Scene where
  budget := 20
  grace := 5
  start := 3
  free := some 7
  setup := .ok endless

theorem lateGate_apart : lateGate.Apart where
  gate := by decide
  call := by
    intro f course after e free setup alone
    cases setup
    cases alone
  grace := by
    intro f course after e free setup reacts
    cases free
    cases setup
    cases reacts
    decide
  later := by
    intro f course after e free setup reacts
    cases free
    cases setup
    cases reacts
    decide

theorem lateGate_lawful :
    lateGate.Apart ∧ ∃ c a, lateGate.Reaches c ∧ c.phase = .finished a ∧ c.now = 25 ∧
      c.interrupts = [23] ∧ a.result.output = "frame 0\n(interrupted)" := by
  have woken : lateGate.Reaches ⟨7, .queued, [], none, []⟩ := by
    refine Reaches.start.step (.wake rfl rfl (by decide) (by decide) ?_)
    intro f free
    cases free
    decide
  have running : lateGate.Reaches ⟨7, .running, [7], some 7, []⟩ :=
    (woken.step (.hear (.admitted rfl) rfl)).step (.hear (.launched rfl) rfl)
  have cancelling : lateGate.Reaches ⟨23, .cancelling, [7], some 7, [23]⟩ := by
    refine running.step (.hear (.outlasted (by decide) ?_) rfl)
    intro t e ends
    cases ends
  have finished := cancelling.step (.hear (.ended rfl (by decide)) rfl)
  obtain ⟨law, _, _⟩ := (execution_lawful lateGate lateGate_apart).2.2 _ _ finished rfl
  have goesOn : ∀ after e, endless.alone = some (after, e) → lateGate.deadline < 7 + after := by
    intro after e alone
    cases alone
  obtain ⟨_, interrupts, reported, _⟩ := law.overrun 7 _ rfl (by decide) rfl goesOn
  obtain ⟨_, output⟩ := reported 18 _ rfl (by decide)
  exact ⟨lateGate_apart, _, _, finished, rfl, rfl, interrupts, output.trans (by decide)⟩

end Scene

end DebugGateway
