import DebugGateway.Proofs.Basics
import DebugGateway.Proofs.Server.Shutdown.Moves
import Mathlib.Logic.Relation

/-! What is left when a server has been stopped. Someone holds every worker until it has been waited
for, the thread that takes connections, the list of those tracked or the call that stops the server,
and nobody holds it afterwards (`Orderly.accounted`). Which of the two threads can still hold one
follows from how far the call has come (`Staged`). -/
namespace DebugGateway.Server.Shutdown

/-! ## How far the call has come -/

def Halted (s : Shutdown) : Prop := s.running = false ∧ s.listener = false

/-- The thread that takes connections has ended, and the call has waited for it once. -/
def Alone (s : Shutdown) : Prop := s.handle = false ∧ s.intakeJoins = 1 ∧ s.intake = .ended

def Over (s : Shutdown) : Prop := s.running = false ∧ s.Alone ∧ s.live = [] ∧ s.reports.length = 1

def Staged (s : Shutdown) : Prop :=
  match s.stopping with
  | .notBegun => s.listener = true ∧ s.intakeJoins = 0 ∧ s.reports = []
  | .begun =>
    s.listener = false ∧ (s.handle = true ∧ s.intakeJoins = 0 ∧ s.reports = [] ∨ s.Over)
  | .halted | .warning _ | .warned | .flagged =>
    s.Halted ∧ s.handle = true ∧ s.intakeJoins = 0 ∧ s.reports = []
  | .alone => s.Halted ∧ s.Alone ∧ s.reports = []
  | .joining .. | .awaiting .. => s.Halted ∧ s.Alone ∧ s.live = [] ∧ s.reports = []
  | .returned _ => s.listener = false ∧ s.Over

section Stages

variable {s t : Shutdown}

/-- As long as the thread that takes connections goes on, what it does is no concern of the call. -/
theorem Staged.intake (h : s.Staged) (busy : s.intake ≠ .ended) (intake : Intake)
    (live joins : List Nat) (workers : List Labour) :
    ({ s with intake, live, joins, workers } : Shutdown).Staged := by
  unfold Staged at h ⊢
  cases stage : s.stopping with
  | notBegun | halted | warning | warned | flagged =>
    rw [stage] at h
    exact h
  | begun =>
    simp only [stage] at h
    obtain ⟨listener, fresh | past⟩ := h
    · exact ⟨listener, .inl fresh⟩
    · exact absurd past.2.1.2.2 busy
  | alone | joining | awaiting =>
    simp only [stage] at h
    exact absurd h.2.1.2.2 busy
  | returned =>
    simp only [stage] at h
    exact absurd h.2.2.1.2.2 busy

theorem Staged.intakeMoves (h : s.Staged) (move : s.IntakeMoves t) : t.Staged := by
  have busy := move.goes_on
  cases move <;> exact h.intake busy ..

theorem Staged.stoppingMoves (h : s.Staged) (move : s.StoppingMoves t) : t.Staged := by
  unfold Staged at h
  cases move with
  | stop idle =>
    rcases idle with fresh | ⟨failed, returned⟩
    · simp only [fresh] at h
      exact ⟨rfl, .inl h⟩
    · simp only [returned] at h
      obtain ⟨listener, running, ⟨_, joins, ended⟩, live, reports⟩ := h
      exact ⟨rfl, .inr ⟨running, ⟨listener, joins, ended⟩, live, reports⟩⟩
  | halt begun needed =>
    simp only [begun] at h
    obtain ⟨listener, ⟨handle, joins, reports⟩ | past⟩ := h
    · exact ⟨⟨rfl, listener⟩, handle, joins, reports⟩
    · rw [past.1, past.2.1.1] at needed
      cases needed
  | leave begun idle =>
    simp only [begun] at h
    obtain ⟨listener, ⟨handle, _⟩ | past⟩ := h
    · rw [handle, Bool.or_true] at idle
      cases idle
    · exact ⟨listener, rfl, past.2⟩
  | warn halted =>
    simp only [halted] at h
    exact h
  | warnNext i left warning =>
    simp only [warning] at h
    exact h
  | warned warning =>
    simp only [warning] at h
    exact h
  | flag warned held =>
    simp only [warned] at h
    exact h
  | skip warned lost =>
    simp only [warned] at h
    rw [h.2.1] at lost
    cases lost
  | joinIntake flagged ended =>
    simp only [flagged] at h
    obtain ⟨halted, _, joins, reports⟩ := h
    exact ⟨halted, ⟨rfl, congrArg (· + 1) joins, ended⟩, reports⟩
  | takeLive alone =>
    simp only [alone] at h
    obtain ⟨halted, gone, reports⟩ := h
    exact ⟨halted, gone, rfl, reports⟩
  | ask tracked failed i left joining =>
    simp only [joining] at h
    exact h
  | joinWorker tracked failed failed' i left awaiting ended =>
    simp only [awaiting] at h
    exact h
  | report tracked failed joining =>
    simp only [joining] at h
    obtain ⟨halted, gone, live, reports⟩ := h
    refine ⟨halted.2, halted.1, gone, live, ?_⟩
    show (s.reports ++ [tracked]).length = 1
    rw [reports]
    rfl

end Stages

/-! ## Every state that can be reached -/

/-- Every worker is held by one, once, until it has been waited for, and by nobody afterwards; a worker
that is cleared away or was waited for is done, and one that the call waits for has been asked to stop. -/
structure Orderly (s : Shutdown) : Prop where
  stage : s.Staged
  accounted : ∀ i, s.held.count i + s.joins.count i = if i < s.workers.length then 1 else 0
  joined : ∀ i ∈ s.joins, s.isDone i = true
  cleared : ∀ left, s.intake = .clearing left → ∀ i ∈ left, s.isDone i = true
  asked : ∀ tracked failed i left, s.stopping = .awaiting tracked failed i left →
    s.has (!·.active) i = true

theorem Orderly.start : Orderly {} where
  stage := ⟨rfl, rfl, rfl⟩
  accounted := by simp [held, Intake.holds, Stopping.holds]
  joined := by simp
  cleared := by simp
  asked := by simp

theorem Orderly.change {s : Shutdown} (h : s.Orderly) (i : Nat) {f : Labour → Labour} (ages : Ages f) :
    (s.change i f).Orderly where
  stage := h.stage
  accounted := by
    intro j
    have account := h.accounted j
    simpa [Shutdown.change, held] using account
  joined := fun j member => isDone_change ages (h.joined j member)
  cleared := fun left clearing j member => isDone_change ages (h.cleared left clearing j member)
  asked := fun tracked failed j left awaiting => isIdle_change ages (h.asked tracked failed j left awaiting)

theorem Orderly.intakeMoves {s t : Shutdown} (h : s.Orderly) (move : s.IntakeMoves t) : t.Orderly := by
  have stage := h.stage.intakeMoves move
  cases move with
  | turn next busy before after =>
    refine ⟨stage, ?_, h.joined, ?_, h.asked⟩
    · intro i
      have account := h.accounted i
      simpa only [held, before, after] using account
    · intro left clearing i member
      have nothing : left = [] := by
        rw [show next = .clearing left from clearing] at after
        exact after
      rw [nothing] at member
      cases member
  | spawn admitting =>
    refine ⟨stage, ?_, ?_, by simp, ?_⟩
    · intro i
      have account := h.accounted i
      simp only [held, admitting, Intake.holds, List.count_append, List.count_cons, List.count_nil,
        List.length_append, List.length_singleton, beq_iff_eq] at account ⊢
      split at account <;> split <;> split <;> omega
    · exact fun i member => has_append (h.joined i member) {}
    · exact fun tracked failed i left awaiting =>
        has_append (h.asked tracked failed i left awaiting) {}
  | track i tracking =>
    refine ⟨stage, ?_, h.joined, by simp, h.asked⟩
    intro j
    have account := h.accounted j
    simp only [held, tracking, Intake.holds, List.count_append, List.count_nil] at account ⊢
    omega
  | reap done live reaping split finished =>
    refine ⟨stage, ?_, h.joined, ?_, h.asked⟩
    · intro i
      have account := h.accounted i
      have same := split.count_eq i
      simp only [held, reaping, Intake.holds, List.count_append, List.count_nil] at account same ⊢
      omega
    · intro left clearing
      cases clearing
      exact finished
  | clear i left clearing =>
    have finished := h.cleared _ clearing
    refine ⟨stage, ?_, ?_, ?_, h.asked⟩
    · intro j
      have account := h.accounted j
      simp only [held, clearing, Intake.holds, List.count_append, List.count_cons, List.count_nil]
        at account ⊢
      omega
    · intro j member
      rcases List.mem_append.mp member with before | new
      · exact h.joined j before
      · cases List.mem_singleton.mp new
        exact finished i (.head _)
    · intro rest clearing' j member
      cases clearing'
      exact finished j (.tail _ member)

theorem Orderly.turn {s : Shutdown} (h : s.Orderly) {next : Stopping}
    {running listener handle flagged : Bool} {intakeJoins : Nat} {reports : List Nat}
    (stage : ({ s with running, listener, handle, flagged, intakeJoins, reports, stopping := next } :
      Shutdown).Staged)
    (same : next.holds = s.stopping.holds)
    (asked : ∀ tracked failed i left, next = .awaiting tracked failed i left →
      s.has (!·.active) i = true) :
    ({ s with running, listener, handle, flagged, intakeJoins, reports, stopping := next } :
      Shutdown).Orderly where
  stage := stage
  accounted := by
    intro i
    have account := h.accounted i
    simpa only [held, same] using account
  joined := h.joined
  cleared := h.cleared
  asked := asked

theorem Orderly.stoppingMoves {s t : Shutdown} (h : s.Orderly) (move : s.StoppingMoves t) :
    t.Orderly := by
  have stage := h.stage.stoppingMoves move
  cases move with
  | stop idle =>
    refine h.turn stage ?_ (by simp)
    rcases idle with fresh | ⟨failed, returned⟩
    · rw [fresh]
      rfl
    · rw [returned]
      rfl
  | halt begun needed => exact h.turn stage (by rw [begun]; rfl) (by simp)
  | leave begun idle => exact h.turn stage (by rw [begun]; rfl) (by simp)
  | warn halted => exact h.turn stage (by rw [halted]; rfl) (by simp)
  | warnNext i left warning =>
    have asked := h.change i ages_deactivate
    refine asked.turn stage ?_ (by simp)
    show _ = s.stopping.holds
    rw [warning]
    rfl
  | warned warning => exact h.turn stage (by rw [warning]; rfl) (by simp)
  | flag warned held => exact h.turn stage (by rw [warned]; rfl) (by simp)
  | skip warned lost => exact h.turn stage (by rw [warned]; rfl) (by simp)
  | joinIntake flagged ended => exact h.turn stage (by rw [flagged]; rfl) (by simp)
  | takeLive alone =>
    refine ⟨stage, ?_, h.joined, h.cleared, by simp⟩
    intro i
    have account := h.accounted i
    simp only [held, alone, Stopping.holds, List.count_append, List.count_nil] at account ⊢
    omega
  | ask tracked failed i left joining =>
    have inside : i < s.workers.length := by
      have account := h.accounted i
      simp only [held, joining, Stopping.holds, List.count_append, List.count_cons_self] at account
      split at account
      · assumption
      · omega
    refine (h.change i ages_deactivate).turn stage ?_ ?_
    · show _ = s.stopping.holds
      rw [joining]
      rfl
    · intro _ _ j _ awaiting
      cases awaiting
      exact isIdle_deactivate inside
  | joinWorker tracked failed failed' i left awaiting ended =>
    have finished : s.isDone i = true := isDone_of_ended (h.asked _ _ i left awaiting) ended
    refine ⟨stage, ?_, ?_, h.cleared, by simp⟩
    · intro j
      have account := h.accounted j
      simp only [held, awaiting, Stopping.holds, List.count_append, List.count_cons, List.count_nil]
        at account ⊢
      omega
    · intro j member
      rcases List.mem_append.mp member with before | new
      · exact h.joined j before
      · cases List.mem_singleton.mp new
        exact finished
  | report tracked failed joining => exact h.turn stage (by rw [joining]; rfl) (by simp)

theorem Orderly.step {s t : Shutdown} {e : Event} (h : s.Orderly) (stepped : s.step e = some t) :
    t.Orderly := by
  rcases step_cases stepped with intake | stopping | ⟨i, f, _, ages, rfl⟩
  · exact h.intakeMoves intake
  · exact h.stoppingMoves stopping
  · exact h.change i ages

theorem Reachable.orderly {s : Shutdown} (h : Reachable s) : s.Orderly := by
  induction h with
  | start => exact .start
  | step e _ stepped ih => exact ih.step stepped

/-! ## After the call -/

def Follows (s t : Shutdown) : Prop := ∃ e, s.step e = some t

/-- The call has returned and everyone it had to do with is done, though another call may have begun. -/
structure Still (s : Shutdown) : Prop where
  idle : s.stopping = .begun ∨ ∃ failed, s.stopping = .returned failed
  listener : s.listener = false
  past : s.Over
  once : ∀ i < s.workers.length, s.joins.count i = 1
  done : ∀ i < s.workers.length, s.isDone i = true

section Afterwards

variable {s t : Shutdown}

theorem Orderly.still (h : s.Orderly) {failed : Nat} (returned : s.stopping = .returned failed) :
    s.Still := by
  have stage := h.stage
  simp only [Staged, returned] at stage
  obtain ⟨listener, past⟩ := stage
  have free : s.held = [] := by
    rw [held, past.2.1.2.2, past.2.2.1, returned]
    rfl
  have once : ∀ i < s.workers.length, s.joins.count i = 1 := by
    intro i inside
    have account := h.accounted i
    rw [free, if_pos inside] at account
    simpa using account
  refine ⟨.inr ⟨failed, returned⟩, listener, past, once, ?_⟩
  intro i inside
  have counted : 0 < s.joins.count i := by
    rw [once i inside]
    decide
  exact h.joined i (List.count_pos_iff.mp counted)

theorem Still.turn (h : s.Still) {stage : Stopping}
    (idle : stage = .begun ∨ ∃ failed, stage = .returned failed) : Still { s with stopping := stage } :=
  ⟨idle, h.listener, h.past, h.once, h.done⟩

theorem Still.follows (h : s.Still) (next : s.Follows t) :
    ∃ stage, t = { s with stopping := stage } ∧ t.Still := by
  obtain ⟨e, stepped⟩ := next
  obtain ⟨running, ⟨handle, _, ended⟩, _⟩ := h.past
  rcases step_cases stepped with intake | stopping | ⟨i, f, going, _, rfl⟩
  · exact absurd ended intake.goes_on
  · cases stopping with
    | stop =>
      have same : { s with listener := false, handle := s.listener, stopping := .begun } =
          { s with stopping := .begun } := by
        rw [h.listener, handle]
      rw [same]
      exact ⟨.begun, rfl, h.turn (.inl rfl)⟩
    | halt _ needed =>
      rw [running, handle] at needed
      cases needed
    | leave =>
      have same : { s with running := false, stopping := .returned 0 } =
          { s with stopping := .returned 0 } := by
        rw [running]
      rw [same]
      exact ⟨.returned 0, rfl, h.turn (.inr ⟨0, rfl⟩)⟩
    | _ =>
      rcases h.idle with begun | ⟨failed, returned⟩ <;> simp_all
  · obtain ⟨w, found, unended⟩ := has_iff.mp going
    obtain ⟨inside, _⟩ := List.getElem?_eq_some_iff.mp found
    obtain ⟨w', found', done⟩ := has_iff.mp (h.done i inside)
    cases found.symm.trans found'
    simp only [Bool.not_eq_true', Bool.and_eq_true] at unended done
    rw [unended] at done
    cases done.2

theorem Still.later (h : s.Still) (later : Relation.ReflTransGen Follows s t) :
    (∃ stage, t = { s with stopping := stage }) ∧ t.Still := by
  induction later with
  | refl => exact ⟨⟨s.stopping, rfl⟩, h⟩
  | tail _ next ih =>
    obtain ⟨⟨_, rfl⟩, still⟩ := ih
    obtain ⟨stage, rfl, still'⟩ := still.follows next
    exact ⟨⟨stage, rfl⟩, still'⟩

theorem Still.stop (h : s.Still) {failed : Nat} (returned : s.stopping = .returned failed) :
    ∃ t u, s.step .stop = some t ∧ t.step .halt = some u ∧ u.stopping = .returned 0 := by
  obtain ⟨running, _⟩ := h.past
  have begun : s.step .stop =
      some { s with listener := false, handle := s.listener, stopping := .begun } := by
    show (none : Option Shutdown).or ((s.stoppingStep .stop).or none) = _
    simp only [stoppingStep, returned]
    rfl
  refine ⟨_, _, begun, rfl, ?_⟩
  simp only [running, h.listener]
  rfl

end Afterwards

/-- When the call that stops the server has returned: the thread that takes connections has ended and
was waited for once, no connection is tracked, every worker ever started was waited for once, has ended
and its connection is not active, and the end was reported once. Whatever comes then, all of this stays
as it is, and a second call does nothing but return without failure. -/
theorem returned_still {s : Shutdown} {failed : Nat} (h : Reachable s)
    (returned : s.stopping = .returned failed) :
    s.intake = .ended ∧ s.intakeJoins = 1 ∧ s.live = [] ∧
    (∀ i < s.workers.length, s.joins.count i = 1) ∧ (∀ i ∈ s.joins, i < s.workers.length) ∧
    (∀ w ∈ s.workers, w.active = false ∧ w.ended = true) ∧
    s.reports.length = 1 ∧
    (∃ t u, s.step .stop = some t ∧ t.step .halt = some u ∧ u.stopping.answer = some (.ok ())) ∧
    ∀ t, Relation.ReflTransGen Follows s t → ∃ stage, t = { s with stopping := stage } := by
  have ordered := h.orderly
  have still := ordered.still returned
  obtain ⟨_, ⟨_, waited, ended⟩, untracked, reported⟩ := still.past
  refine ⟨ended, waited, untracked, still.once, ?_, ?_, reported, ?_, fun t later => (still.later later).1⟩
  · intro i joined
    obtain ⟨w, found, _⟩ := has_iff.mp (ordered.joined i joined)
    exact (List.getElem?_eq_some_iff.mp found).1
  · intro w member
    obtain ⟨i, inside, rfl⟩ := List.getElem_of_mem member
    obtain ⟨w, found, done⟩ := has_iff.mp (still.done i inside)
    rw [List.getElem?_eq_getElem inside, Option.some.injEq] at found
    simpa [found] using done
  · obtain ⟨t, u, stopped, left, answered⟩ := still.stop returned
    refine ⟨t, u, stopped, left, ?_⟩
    rw [answered]
    rfl

theorem Reachable.after {s t : Shutdown} (events : List Event) (h : Reachable s)
    (run : events.foldlM Shutdown.step s = some t) : Reachable t := by
  apply foldlM_kept run _ h
  intro _ e _ _ reached stepped
  exact reached.step e stepped

/-- The first worker was cleared away. The connection of the second was tracked only after all others
had been asked to stop, and that worker broke down. -/
def lateArrival : Shutdown where
  running := false
  listener := false
  flagged := true
  intake := .ended
  intakeJoins := 1
  stopping := .returned 1
  workers := [{ active := false, ended := true }, { active := false, ended := true, failed := true }]
  joins := [0, 1]
  reports := [1]

theorem lateArrival_still :
    Reachable lateArrival ∧ lateArrival.stopping = .returned 1 ∧
    (∀ i < 2, lateArrival.joins.count i = 1) ∧
    ∃ t u, lateArrival.step .stop = some t ∧ t.step .halt = some u ∧
      u.stopping.answer = some (.ok ()) := by
  have reached : Reachable lateArrival := Reachable.start.after
    [.poll, .arrive, .spawn, .track, .reap [], .cleared, .poll, .stop, .arrive, .halt, .spawn, .warn,
     .warnNext, .warned, .track, .finish 0, .reap [], .clear, .cleared, .flag, .poll, .joinIntake,
     .takeLive, .warnNext, .fail 1, .joinWorker, .report] rfl
  obtain ⟨_, _, _, once, _, _, _, again, _⟩ := returned_still reached rfl
  exact ⟨reached, rfl, once, again⟩

end DebugGateway.Server.Shutdown
