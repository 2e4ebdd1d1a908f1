import DebugGateway.Execution.Gate
import DebugGateway.Execution.Phase

/-! One execution step by step on a clock. The caller learns at each moment what its wait lets it learn:
a look at the gate, the end of its call, or that the wait has been as long as it may be. Where two of
these fall together either may come first, and a sleeper may wake too early; if nothing falls on the
very end of a wait, all runs come to the one passage that the timeline gives. -/
namespace DebugGateway

namespace Gate

variable {busy late : Bool}

theorem verdict_holding : verdict busy late = .holding ↔ busy = false := by
  cases busy <;> cases late <;> decide

theorem verdict_gone : verdict busy late = .gone ↔ busy = true ∧ late = true := by
  cases busy <;> cases late <;> decide

theorem verdict_asleep : verdict busy late = .asleep ↔ busy = true ∧ late = false := by
  cases busy <;> cases late <;> decide

theorem verdict_ne_looking : verdict busy late ≠ .looking := by
  cases busy <;> cases late <;> decide

end Gate

/-- What an execution meets: from when on the gate is free, if ever, and what the engine makes of the
command. -/
structure Scene where
  budget : Nat
  grace : Nat
  start : Nat
  free : Option Nat
  setup : Except EngineError Course

structure Caller where
  now : Nat
  phase : Phase := .queued
  prepared : List Nat := []
  launched : Option Nat := none
  interrupts : List Nat := []

def Caller.note (c : Caller) (t : Nat) : Signal → Caller
  | .setupFailed _ => { c with prepared := c.prepared ++ [t] }
  | .launched => { c with prepared := c.prepared ++ [t], launched := some t }
  | .timeUp => if c.phase = .running then { c with interrupts := c.interrupts ++ [t] } else c
  | _ => c

namespace Scene

variable {s : Scene} {c d : Caller}

def deadline (s : Scene) : Nat := s.start + s.budget

def shut (s : Scene) (t : Nat) : Bool :=
  match s.free with
  | some f => t < f
  | none => true

def look (s : Scene) (c : Caller) : Waiter := Gate.verdict (s.shut c.now) (s.deadline ≤ c.now)

def callEnd (s : Scene) (c : Caller) : Option (Nat × CallEnd) :=
  match s.setup, c.launched with
  | .ok course, some launch =>
    (match c.interrupts with
      | [] => course.alone
      | first :: _ => course.interruptedAt (first - launch)).map fun (after, e) => (launch + after, e)
  | _, _ => none

/-- Until when a wait for the call may last that begins now: what is left of the budget, or the grace
period once the call has been interrupted. -/
def limit (s : Scene) (c : Caller) : Nat :=
  if c.phase = .running then c.now + (s.deadline - c.now) else c.now + s.grace

inductive Hears (s : Scene) (c : Caller) : Signal → Nat → Prop
  | admitted : s.look c = .holding → Hears s c .admitted c.now
  | refused : c.phase = .queued → s.look c = .gone → Hears s c .timeUp c.now
  | setupFailed {e : EngineError} : s.setup = .error e → Hears s c (.setupFailed e) c.now
  | launched {course : Course} : s.setup = .ok course → Hears s c .launched c.now
  | ended {t : Nat} {e : CallEnd} : s.callEnd c = some (t, e) → t ≤ s.limit c →
    Hears s c (.ended e) (max c.now t)
  | outlasted : c.phase ≠ .queued → (∀ t e, s.callEnd c = some (t, e) → s.limit c ≤ t) →
    Hears s c .timeUp (s.limit c)

/-- A caller asleep before the gate wakes when the gate becomes free, at the deadline, or earlier;
otherwise it goes on as what it learns tells it. -/
inductive Step (s : Scene) : Caller → Caller → Prop
  | wake {c : Caller} {t : Nat} : c.phase = .queued → s.look c = .asleep → c.now < t →
    t ≤ s.deadline → (∀ f, s.free = some f → t ≤ f) → Step s c { c with now := t }
  | hear {c : Caller} {g : Signal} {t : Nat} {phase : Phase} : Hears s c g t →
    c.phase.next s.budget (t - s.start) g = some phase →
    Step s c { c.note t g with now := t, phase }

inductive Reaches (s : Scene) : Caller → Prop
  | start : Reaches s { now := s.start }
  | step {c d : Caller} : Reaches s c → Step s c d → Reaches s d

/-- Nothing falls on the very end of a wait, and an interrupt changes only what is still to come. -/
structure Apart (s : Scene) : Prop where
  gate : s.free ≠ some s.deadline
  call : ∀ f course after e, s.free = some f → s.setup = .ok course →
    course.alone = some (after, e) → max s.start f + after ≠ s.deadline
  grace : ∀ f course after e, s.free = some f → s.setup = .ok course →
    course.interruptedAt (s.deadline - max s.start f) = some (after, e) →
      max s.start f + after ≠ s.deadline + s.grace
  later : ∀ f course after e, s.free = some f → s.setup = .ok course →
    course.interruptedAt (s.deadline - max s.start f) = some (after, e) →
      s.deadline ≤ max s.start f + after

/-! ## The gate -/

def entry (s : Scene) : Option Nat := Passage.entry s.start s.deadline s.free

theorem start_le_deadline (s : Scene) : s.start ≤ s.deadline := Nat.le_add_right _ _

theorem entry_eq_some {t : Nat} (passed : s.entry = some t) :
    ∃ f, s.free = some f ∧ t = max s.start f ∧ t ≤ s.deadline := by
  unfold entry Passage.entry at passed
  split at passed
  · rename_i f free
    refine ⟨f, free, ?_⟩
    have begun := s.start_le_deadline
    repeat' split at passed
    all_goals cases passed
    all_goals omega
  · cases passed

theorem shut_iff {t : Nat} : s.shut t = true ↔ ∀ f, s.free = some f → t < f := by
  unfold shut
  cases s.free <;> simp

theorem open_iff {t : Nat} : s.shut t = false ↔ ∃ f, s.free = some f ∧ f ≤ t := by
  unfold shut
  cases s.free <;> simp

theorem look_holding (looked : s.look c = .holding) : ∃ f, s.free = some f ∧ f ≤ c.now :=
  open_iff.mp (Gate.verdict_holding.mp looked)

theorem look_gone (looked : s.look c = .gone) :
    s.deadline ≤ c.now ∧ ∀ f, s.free = some f → c.now < f := by
  obtain ⟨shut, late⟩ := Gate.verdict_gone.mp looked
  exact ⟨of_decide_eq_true late, shut_iff.mp shut⟩

theorem look_asleep (looked : s.look c = .asleep) :
    c.now < s.deadline ∧ ∀ f, s.free = some f → c.now < f := by
  obtain ⟨shut, early⟩ := Gate.verdict_asleep.mp looked
  exact ⟨Nat.lt_of_not_le (of_decide_eq_false early), shut_iff.mp shut⟩

/-! ## The course of a run -/

def passage (s : Scene) : Passage := .of s.budget s.grace s.start s.free s.setup

inductive OnTime (s : Scene) : Caller → Prop
  | queued {t : Nat} : s.start ≤ t → t ≤ s.deadline → (∀ f, s.free = some f → t ≤ max s.start f) →
    OnTime s ⟨t, .queued, [], none, []⟩
  | admitted {t : Nat} : s.entry = some t → OnTime s ⟨t, .admitted, [], none, []⟩
  | running {t : Nat} {course : Course} : s.entry = some t → s.setup = .ok course →
    OnTime s ⟨t, .running, [t], some t, []⟩
  | cancelling {t : Nat} {course : Course} : s.entry = some t → s.setup = .ok course →
    (∀ after e, course.alone = some (after, e) → s.deadline ≤ t + after) →
    OnTime s ⟨s.deadline, .cancelling, [t], some t, [s.deadline]⟩
  | finished : OnTime s ⟨s.passage.left, .finished s.passage.attempt, s.entry.toList,
      s.passage.launched, s.passage.interrupted.toList⟩

theorem entry_of_free {t f : Nat} (apart : s.Apart) (free : s.free = some f) (begun : s.start ≤ t)
    (kept : t ≤ s.deadline) (waited : t ≤ max s.start f) (opened : f ≤ t) : s.entry = some t := by
  have clear : f ≠ s.deadline := fun same => apart.gate (same ▸ free)
  rw [entry, free, Passage.entry]
  split
  · exact congrArg some (by omega)
  · rw [if_pos (by omega)]
    exact congrArg some (by omega)

theorem entry_of_shut (shut : ∀ f, s.free = some f → s.deadline < f) : s.entry = none := by
  unfold entry Passage.entry
  split
  · rename_i f free
    have after := shut f free
    have begun := s.start_le_deadline
    rw [if_neg (by omega), if_neg (by omega)]
  · rfl

theorem passage_refused (none : s.entry = none) :
    s.passage =
      { attempt := .refused s.budget (s.deadline - s.start), left := s.deadline, freed := s.free } := by
  unfold entry deadline at none
  unfold passage Passage.of deadline
  simp only [none]

theorem passage_unprepared {t : Nat} {e : EngineError} (passed : s.entry = some t)
    (setup : s.setup = .error e) :
    s.passage = { attempt := .unprepared e (t - s.start), left := t, freed := some t } := by
  unfold entry deadline at passed
  unfold passage Passage.of
  simp only [passed, setup]

theorem passage_launched {t : Nat} {course : Course} (passed : s.entry = some t)
    (setup : s.setup = .ok course) :
    s.passage = .launchedAt s.budget s.grace s.start t s.deadline course := by
  unfold entry deadline at passed
  unfold passage Passage.of deadline
  simp only [passed, setup]

theorem passage_ended {t after : Nat} {e : CallEnd} {course : Course} (passed : s.entry = some t)
    (setup : s.setup = .ok course) (alone : course.alone = some (after, e))
    (inTime : t + after < s.deadline) :
    s.passage = { attempt := .ended (t + after - s.start) e, left := t + after,
                  freed := some (t + after), launched := some t } := by
  rw [passage_launched passed setup, Passage.launchedAt, alone]
  simp only [if_pos inTime]

theorem passage_cancelled {t : Nat} {course : Course} (passed : s.entry = some t)
    (setup : s.setup = .ok course)
    (outlasts : ∀ after e, course.alone = some (after, e) → s.deadline ≤ t + after) :
    s.passage = .cancelled s.budget s.grace s.start t s.deadline course := by
  rw [passage_launched passed setup, Passage.launchedAt]
  split
  · rename_i after e alone
    rw [if_neg (Nat.not_lt_of_le (outlasts after e alone))]
  · rfl

theorem passage_endedLate {t after : Nat} {e : CallEnd} {course : Course} (passed : s.entry = some t)
    (setup : s.setup = .ok course)
    (outlasts : ∀ after e, course.alone = some (after, e) → s.deadline ≤ t + after)
    (reacts : course.interruptedAt (s.deadline - t) = some (after, e))
    (inTime : t + after < s.deadline + s.grace) :
    s.passage = { attempt := .endedLate s.budget (t + after - s.start) e, left := t + after,
                  freed := some (t + after), launched := some t, interrupted := some s.deadline } := by
  rw [passage_cancelled passed setup outlasts, Passage.cancelled, reacts]
  simp only [if_pos inTime]

theorem passage_abandoned {t : Nat} {course : Course} (passed : s.entry = some t)
    (setup : s.setup = .ok course)
    (outlasts : ∀ after e, course.alone = some (after, e) → s.deadline ≤ t + after)
    (ignores : ∀ after e, course.interruptedAt (s.deadline - t) = some (after, e) →
      s.deadline + s.grace ≤ t + after) :
    ∃ freed, s.passage =
      { attempt := .abandoned s.budget (s.deadline + s.grace - s.start),
        left := s.deadline + s.grace, freed, launched := some t, interrupted := some s.deadline } := by
  rw [passage_cancelled passed setup outlasts, Passage.cancelled]
  split
  · rename_i after e reacts
    rw [if_neg (Nat.not_lt_of_le (ignores after e reacts))]
    exact ⟨_, rfl⟩
  · exact ⟨_, rfl⟩

/-! ## Steps -/

theorem OnTime.of_passage {p : Passage} (same : s.passage = p) {prepared : List Nat}
    (calls : s.entry.toList = prepared) :
    OnTime s ⟨p.left, .finished p.attempt, prepared, p.launched, p.interrupted.toList⟩ :=
  same ▸ calls ▸ .finished

theorem step_queued {t : Nat} (apart : s.Apart) (begun : s.start ≤ t) (kept : t ≤ s.deadline)
    (waited : ∀ f, s.free = some f → t ≤ max s.start f)
    (step : Step s ⟨t, .queued, [], none, []⟩ d) : OnTime s d := by
  cases step with
  | wake _ _ later limit freed =>
    exact .queued (Nat.le_of_lt (Nat.lt_of_le_of_lt begun later)) limit
      fun f free => Nat.le_trans (freed f free) (Nat.le_max_right _ _)
  | hear hears next =>
    cases hears with
    | admitted looked =>
      obtain ⟨f, free, opened⟩ := look_holding looked
      cases next
      exact .admitted (entry_of_free apart free begun kept (waited f free) opened)
    | refused _ looked =>
      obtain ⟨late, shut⟩ := look_gone looked
      have now : t = s.deadline := Nat.le_antisymm kept late
      subst now
      have none := entry_of_shut shut
      cases next
      exact .of_passage (passage_refused none) (by rw [none]; rfl)
    | outlasted waits => exact absurd rfl waits
    | _ => cases next

theorem step_admitted {t : Nat} (passed : s.entry = some t)
    (step : Step s ⟨t, .admitted, [], none, []⟩ d) : OnTime s d := by
  cases step with
  | wake queued => cases queued
  | hear hears next =>
    cases hears with
    | setupFailed setup =>
      cases next
      exact .of_passage (passage_unprepared passed setup) (by rw [passed]; rfl)
    | launched setup =>
      cases next
      exact .running passed setup
    | _ => cases next

theorem callEnd_running {t : Nat} {course : Course} (setup : s.setup = .ok course)
    (phase : Phase) (prepared : List Nat) :
    s.callEnd ⟨t, phase, prepared, some t, []⟩ =
      course.alone.map fun (after, e) => (t + after, e) := by
  simp only [callEnd, setup]

theorem callEnd_cancelling {t now first : Nat} {course : Course} (setup : s.setup = .ok course)
    (phase : Phase) (prepared : List Nat) :
    s.callEnd ⟨now, phase, prepared, some t, [first]⟩ =
      (course.interruptedAt (first - t)).map fun (after, e) => (t + after, e) := by
  simp only [callEnd, setup]

theorem step_running {t : Nat} {course : Course} (apart : s.Apart) (passed : s.entry = some t)
    (setup : s.setup = .ok course) (step : Step s ⟨t, .running, [t], some t, []⟩ d) :
    OnTime s d := by
  obtain ⟨f, free, launch, kept⟩ := entry_eq_some passed
  have limit : s.limit ⟨t, .running, [t], some t, []⟩ = s.deadline := by
    show t + (s.deadline - t) = s.deadline
    omega
  cases step with
  | wake queued => cases queued
  | hear hears next =>
    cases hears with
    | refused queued => cases queued
    | ended ends inTime =>
      rw [callEnd_running setup] at ends
      obtain ⟨⟨after, e⟩, alone, ends⟩ := Option.map_eq_some_iff.mp ends
      cases ends
      cases next
      rw [limit] at inTime
      have clear := apart.call f course after _ free setup alone
      have later : max t (t + after) = t + after := Nat.max_eq_right (Nat.le_add_right _ _)
      rw [← launch] at clear
      rw [later]
      exact .of_passage (passage_ended passed setup alone (by omega)) (by rw [passed]; rfl)
    | outlasted _ outlasts =>
      cases next
      rw [limit] at outlasts ⊢
      refine .cancelling passed setup fun after e alone => outlasts (t + after) e ?_
      rw [callEnd_running setup, alone]
      rfl
    | _ => cases next

theorem step_cancelling {t : Nat} {course : Course} (apart : s.Apart) (passed : s.entry = some t)
    (setup : s.setup = .ok course)
    (outlasts : ∀ after e, course.alone = some (after, e) → s.deadline ≤ t + after)
    (step : Step s ⟨s.deadline, .cancelling, [t], some t, [s.deadline]⟩ d) : OnTime s d := by
  obtain ⟨f, free, launch, kept⟩ := entry_eq_some passed
  have limit : s.limit ⟨s.deadline, .cancelling, [t], some t, [s.deadline]⟩ = s.deadline + s.grace :=
    if_neg Phase.noConfusion
  cases step with
  | wake queued => cases queued
  | hear hears next =>
    cases hears with
    | refused queued => cases queued
    | ended ends inTime =>
      rw [callEnd_cancelling setup] at ends
      obtain ⟨⟨after, e⟩, reacts, ends⟩ := Option.map_eq_some_iff.mp ends
      cases ends
      cases next
      rw [limit] at inTime
      have clear := apart.grace f course after _ free setup (launch ▸ reacts)
      have later := apart.later f course after _ free setup (launch ▸ reacts)
      rw [← launch] at clear later
      rw [Nat.max_eq_right later]
      exact .of_passage (passage_endedLate passed setup outlasts reacts (by omega))
        (by rw [passed]; rfl)
    | outlasted _ ignores =>
      cases next
      rw [limit] at ignores ⊢
      obtain ⟨freed, same⟩ := passage_abandoned passed setup outlasts fun after e reacts =>
        ignores (t + after) e (by rw [callEnd_cancelling setup, reacts]; rfl)
      exact .of_passage same (by rw [passed]; rfl)
    | _ => cases next

theorem OnTime.step (apart : s.Apart) (onTime : OnTime s c) (step : Step s c d) : OnTime s d := by
  cases onTime with
  | queued begun kept waited => exact step_queued apart begun kept waited step
  | admitted passed => exact step_admitted passed step
  | running passed setup => exact step_running apart passed setup step
  | cancelling passed setup outlasts => exact step_cancelling apart passed setup outlasts step
  | finished =>
    cases step with
    | wake queued => cases queued
    | hear hears next => cases hears <;> cases next

theorem Reaches.onTime (apart : s.Apart) (reached : Reaches s c) : OnTime s c := by
  induction reached with
  | start =>
    exact .queued (Nat.le_refl _) s.start_le_deadline fun f _ => Nat.le_max_left _ _
  | step _ step ih => exact ih.step apart step

/-- Whichever run it was, a caller that is finished reports what the timeline reports and has done what
the timeline says it did. -/
theorem Reaches.finished (apart : s.Apart) (reached : Reaches s c) {a : Attempt}
    (done : c.phase = .finished a) :
    a = s.passage.attempt ∧ c.now = s.passage.left ∧ c.prepared = s.entry.toList ∧
      c.launched = s.passage.launched ∧ c.interrupts = s.passage.interrupted.toList := by
  cases reached.onTime apart with
  | finished =>
    cases done
    exact ⟨rfl, rfl, rfl, rfl, rfl⟩
  | _ => cases done

/-! ## The end of a run -/

def stepsLeft (s : Scene) (c : Caller) : Nat :=
  match c.phase with
  | .queued => s.deadline - c.now + 4
  | .admitted => 3
  | .running => 2
  | .cancelling => 1
  | .finished _ => 0

theorem Step.fewer (step : Step s c d) : s.stepsLeft d < s.stepsLeft c := by
  cases step with
  | wake queued _ later limit _ =>
    simp only [stepsLeft, queued]
    omega
  | @hear g t phase _ next =>
    show s.stepsLeft { c.note t g with now := t, phase } < s.stepsLeft c
    cases before : c.phase <;> cases g <;> rw [before] at next <;> cases next <;>
      simp only [stepsLeft, before] <;> omega

theorem call_goes_on (waits : c.phase = .running ∨ c.phase = .cancelling) : ∃ d, Step s c d := by
  have next (g : Signal) (called : g = .timeUp ∨ ∃ e, g = .ended e) (t : Nat) :
      ∃ phase, c.phase.next s.budget (t - s.start) g = some phase := by
    rcases waits with running | cancelling <;> rcases called with rfl | ⟨e, rfl⟩
    · rw [running]; exact ⟨_, rfl⟩
    · rw [running]; exact ⟨_, rfl⟩
    · rw [cancelling]; exact ⟨_, rfl⟩
    · rw [cancelling]; exact ⟨_, rfl⟩
  have begun : c.phase ≠ .queued := by
    rcases waits with running | cancelling
    · rw [running]; exact Phase.noConfusion
    · rw [cancelling]; exact Phase.noConfusion
  by_cases ended : ∃ t e, s.callEnd c = some (t, e) ∧ t ≤ s.limit c
  · obtain ⟨t, e, ends, inTime⟩ := ended
    obtain ⟨phase, after⟩ := next (.ended e) (.inr ⟨e, rfl⟩) (max c.now t)
    exact ⟨_, .hear (.ended ends inTime) after⟩
  · obtain ⟨phase, after⟩ := next .timeUp (.inl rfl) (s.limit c)
    refine ⟨_, .hear (.outlasted begun fun t e ends => ?_) after⟩
    exact Nat.le_of_lt (Nat.lt_of_not_le fun inTime => ended ⟨t, e, ends, inTime⟩)

theorem OnTime.goes_on (onTime : OnTime s c) (unfinished : ∀ a, c.phase ≠ .finished a) :
    ∃ d, Step s c d := by
  cases onTime with
  | @queued t begun kept waited =>
    cases looked : s.look ⟨t, .queued, [], none, []⟩ with
    | holding => exact ⟨_, .hear (.admitted looked) rfl⟩
    | gone => exact ⟨_, .hear (.refused rfl looked) rfl⟩
    | looking => exact absurd looked Gate.verdict_ne_looking
    | asleep =>
      obtain ⟨early, shut⟩ := look_asleep looked
      cases free : s.free with
      | none =>
        refine ⟨_, .wake rfl looked early (Nat.le_refl _) fun f found => ?_⟩
        rw [free] at found
        cases found
      | some f =>
        refine ⟨_, .wake (t := min s.deadline f) rfl looked ?_ (Nat.min_le_left _ _) fun g found => ?_⟩
        · exact Nat.lt_min.mpr ⟨early, shut f free⟩
        · rw [free] at found
          cases found
          exact Nat.min_le_right _ _
  | admitted =>
    cases setup : s.setup with
    | error e => exact ⟨_, .hear (.setupFailed setup) rfl⟩
    | ok course => exact ⟨_, .hear (.launched setup) rfl⟩
  | running => exact call_goes_on (.inl rfl)
  | cancelling => exact call_goes_on (.inr rfl)
  | finished => exact absurd rfl (unfinished _)

end Scene

end DebugGateway
