import DebugGateway.Server.Shutdown

/-! What each of those who take part in stopping a server can do, said once: the thread that takes
connections (`IntakeMoves`), the call that stops the server (`StoppingMoves`), and the workers, which
only go on (`Ages`). Each move tells which workers are handed from one to another. -/
namespace DebugGateway.Server

def Intake.holds : Intake → List Nat
  | .tracking i => [i]
  | .clearing left => left
  | _ => []

def Stopping.holds : Stopping → List Nat
  | .joining _ _ left => left
  | .awaiting _ _ i left => i :: left
  | _ => []

namespace Shutdown

def held (s : Shutdown) : List Nat := s.intake.holds ++ s.live ++ s.stopping.holds

/-- What the thread that takes connections can do. Between two connections it holds no worker. -/
inductive IntakeMoves (s : Shutdown) : Shutdown → Prop where
  | turn (next : Intake) : s.intake ≠ .ended → s.intake.holds = [] → next.holds = [] →
    IntakeMoves s { s with intake := next }
  | spawn : s.intake = .admitting →
    IntakeMoves s { s with intake := .tracking s.workers.length, workers := s.workers ++ [{}] }
  | track (i : Nat) : s.intake = .tracking i →
    IntakeMoves s { s with intake := .reaping, live := s.live ++ [i] }
  | reap (done live : List Nat) : s.intake = .reaping → (done ++ live).Perm s.live →
    (∀ i ∈ done, s.isDone i = true) → IntakeMoves s { s with intake := .clearing done, live }
  | clear (i : Nat) (left : List Nat) : s.intake = .clearing (i :: left) →
    IntakeMoves s { s with intake := .clearing left, joins := s.joins ++ [i] }

inductive StoppingMoves (s : Shutdown) : Shutdown → Prop where
  | stop : s.stopping = .notBegun ∨ (∃ failed, s.stopping = .returned failed) →
    StoppingMoves s { s with listener := false, handle := s.listener, stopping := .begun }
  | halt : s.stopping = .begun → (s.running || s.handle) = true →
    StoppingMoves s { s with running := false, stopping := .halted }
  | leave : s.stopping = .begun → (s.running || s.handle) = false →
    StoppingMoves s { s with running := false, stopping := .returned 0 }
  | warn : s.stopping = .halted → StoppingMoves s { s with stopping := .warning s.live }
  | warnNext (i : Nat) (left : List Nat) : s.stopping = .warning (i :: left) →
    StoppingMoves s { s.deactivate i with stopping := .warning left }
  | warned : s.stopping = .warning [] → StoppingMoves s { s with stopping := .warned }
  | flag : s.stopping = .warned → s.handle = true →
    StoppingMoves s { s with flagged := true, stopping := .flagged }
  | skip : s.stopping = .warned → s.handle = false → StoppingMoves s { s with stopping := .alone }
  | joinIntake : s.stopping = .flagged → s.intake = .ended →
    StoppingMoves s { s with handle := false, intakeJoins := s.intakeJoins + 1, stopping := .alone }
  | takeLive : s.stopping = .alone →
    StoppingMoves s { s with live := [], stopping := .joining s.live.length 0 s.live }
  | ask (tracked failed i : Nat) (left : List Nat) : s.stopping = .joining tracked failed (i :: left) →
    StoppingMoves s { s.deactivate i with stopping := .awaiting tracked failed i left }
  | joinWorker (tracked failed failed' i : Nat) (left : List Nat) :
    s.stopping = .awaiting tracked failed i left → s.has (·.ended) i = true →
    StoppingMoves s { s with stopping := .joining tracked failed' left, joins := s.joins ++ [i] }
  | report (tracked failed : Nat) : s.stopping = .joining tracked failed [] →
    StoppingMoves s { s with stopping := .returned failed, reports := s.reports ++ [tracked] }

/-- A change after which a worker is no more active than before and has ended if it had. -/
def Ages (f : Labour → Labour) : Prop :=
  ∀ w, (w.active = false → (f w).active = false) ∧ (w.ended = true → (f w).ended = true)

theorem ages_deactivate : Ages fun w => { w with active := false } := fun _ => ⟨fun _ => rfl, id⟩

theorem has_iff {s : Shutdown} {p : Labour → Bool} {i : Nat} :
    s.has p i = true ↔ ∃ w, s.workers[i]? = some w ∧ p w = true :=
  Option.any_eq_true _ _

/-- A step on which the thread that takes connections holds no worker, before or after. -/
theorem IntakeMoves.of_turn {s t : Shutdown} {stage next : Intake}
    (h : (if s.intake = stage then some { s with intake := next } else none) = some t)
    (goes : stage ≠ .ended) (before : stage.holds = []) (after : next.holds = []) :
    s.IntakeMoves t := by
  obtain ⟨stands, same⟩ := Option.ite_none_right_eq_some.mp h
  cases same
  rw [← stands] at before goes
  exact .turn next goes before after

theorem intakeStep_moves {s t : Shutdown} {e : Event} (h : s.intakeStep e = some t) :
    s.IntakeMoves t := by
  cases e with
  | poll => exact .of_turn h nofun rfl (by split <;> rfl)
  | arrive => exact .of_turn h nofun rfl (by split <;> rfl)
  | pause => exact .of_turn h nofun rfl rfl
  | retry => exact .of_turn h nofun rfl rfl
  | spawn =>
    obtain ⟨admitting, same⟩ := Option.ite_none_right_eq_some.mp h
    cases same
    exact .spawn admitting
  | spawnFailed => exact .of_turn h nofun rfl rfl
  | track =>
    simp only [intakeStep] at h
    split at h
    · rename_i i tracking
      split at h
      · contradiction
      · cases h
        exact .track i tracking
    · contradiction
  | reap overlooked =>
    simp only [intakeStep, List.partition_eq_filter_filter] at h
    obtain ⟨⟨reaping, _⟩, same⟩ := Option.ite_none_right_eq_some.mp h
    cases same
    refine .reap _ _ reaping (List.filter_append_perm _ _) ?_
    intro i found
    have kept := (List.mem_filter.mp found).2
    rw [Bool.and_eq_true] at kept
    exact kept.1
  | clear =>
    simp only [intakeStep] at h
    split at h
    · rename_i i left clearing
      obtain ⟨_, same⟩ := Option.ite_none_right_eq_some.mp h
      cases same
      exact .clear i left clearing
    · contradiction
  | cleared => exact .of_turn h nofun rfl rfl
  | _ => contradiction

theorem stoppingStep_moves {s t : Shutdown} {e : Event} (h : s.stoppingStep e = some t) :
    s.StoppingMoves t := by
  cases e with
  | stop =>
    simp only [stoppingStep] at h
    split at h
    · rename_i fresh
      cases h
      exact .stop (.inl fresh)
    · rename_i failed returned
      cases h
      exact .stop (.inr ⟨failed, returned⟩)
    · contradiction
  | halt =>
    obtain ⟨begun, same⟩ := Option.ite_none_right_eq_some.mp h
    cases same
    cases needed : s.running || s.handle with
    | true => exact .halt begun needed
    | false => exact .leave begun needed
  | warn =>
    obtain ⟨halted, same⟩ := Option.ite_none_right_eq_some.mp h
    cases same
    exact .warn halted
  | warnNext =>
    simp only [stoppingStep] at h
    split at h
    · rename_i i left warning
      cases h
      exact .warnNext i left warning
    · rename_i tracked failed i left joining
      cases h
      exact .ask tracked failed i left joining
    · contradiction
  | warned =>
    obtain ⟨warning, same⟩ := Option.ite_none_right_eq_some.mp h
    cases same
    exact .warned warning
  | flag =>
    obtain ⟨warned, same⟩ := Option.ite_none_right_eq_some.mp h
    cases same
    split
    · rename_i held
      exact .flag warned held
    · rename_i lost
      exact .skip warned (by simpa using lost)
  | joinIntake =>
    obtain ⟨⟨flagged, ended⟩, same⟩ := Option.ite_none_right_eq_some.mp h
    cases same
    exact .joinIntake flagged ended
  | takeLive =>
    obtain ⟨alone, same⟩ := Option.ite_none_right_eq_some.mp h
    cases same
    exact .takeLive alone
  | joinWorker =>
    simp only [stoppingStep] at h
    split at h
    · rename_i tracked failed i left awaiting
      obtain ⟨ended, same⟩ := Option.ite_none_right_eq_some.mp h
      cases same
      exact .joinWorker tracked failed _ i left awaiting ended
    · contradiction
  | report =>
    simp only [stoppingStep] at h
    split at h
    · rename_i tracked failed joining
      cases h
      exact .report tracked failed joining
    · contradiction
  | _ => contradiction

theorem workerStep_ages {s t : Shutdown} {e : Event} (h : s.workerStep e = some t) :
    ∃ i f, s.has (!·.ended) i = true ∧ Ages f ∧ t = s.change i f := by
  cases e with
  | quit i =>
    obtain ⟨going, same⟩ := Option.ite_none_right_eq_some.mp h
    exact ⟨i, _, going, ages_deactivate, (Option.some.inj same).symm⟩
  | finish i =>
    obtain ⟨idle, same⟩ := Option.ite_none_right_eq_some.mp h
    obtain ⟨w, found, holds⟩ := has_iff.mp idle
    rw [Bool.and_eq_true] at holds
    have going : s.has (!·.ended) i = true := has_iff.mpr ⟨w, found, holds.2⟩
    exact ⟨i, fun w => { w with ended := true }, going, fun _ => ⟨id, fun _ => rfl⟩,
      (Option.some.inj same).symm⟩
  | fail i =>
    obtain ⟨going, same⟩ := Option.ite_none_right_eq_some.mp h
    exact ⟨i, fun w => { w with ended := true, failed := true }, going, fun _ => ⟨id, fun _ => rfl⟩,
      (Option.some.inj same).symm⟩
  | _ => contradiction

/-- Every event is a move of one of the two threads or ages a worker that has not ended. -/
theorem step_cases {s t : Shutdown} {e : Event} (h : s.step e = some t) :
    s.IntakeMoves t ∨ s.StoppingMoves t ∨
      ∃ i f, s.has (!·.ended) i = true ∧ Ages f ∧ t = s.change i f := by
  rcases Option.or_eq_some_iff.mp h with intake | ⟨_, rest⟩
  · exact .inl (intakeStep_moves intake)
  · rcases Option.or_eq_some_iff.mp rest with stopping | ⟨_, worker⟩
    · exact .inr (.inl (stoppingStep_moves stopping))
    · exact .inr (.inr (workerStep_ages worker))

theorem IntakeMoves.goes_on {s t : Shutdown} (move : s.IntakeMoves t) : s.intake ≠ .ended := by
  intro ended
  cases move with
  | turn next busy => exact busy ended
  | spawn admitting => rw [ended] at admitting; cases admitting
  | track i tracking => rw [ended] at tracking; cases tracking
  | reap done live reaping => rw [ended] at reaping; cases reaping
  | clear i left clearing => rw [ended] at clearing; cases clearing

/-! ## Workers only go on -/

section Aging

variable {s : Shutdown} {p : Labour → Bool} {i j : Nat} {f : Labour → Labour}

theorem has_change (keeps : ∀ w, p w = true → p (f w) = true) (h : s.has p i = true) :
    (s.change j f).has p i = true := by
  obtain ⟨w, found, holds⟩ := has_iff.mp h
  rw [has_iff]
  show ∃ w, (s.workers.modify j f)[i]? = some w ∧ p w = true
  rw [List.getElem?_modify, found]
  split
  · exact ⟨f w, rfl, keeps w holds⟩
  · exact ⟨w, rfl, holds⟩

theorem has_append (h : s.has p i = true) (new : Labour) :
    ({ s with workers := s.workers ++ [new] } : Shutdown).has p i = true := by
  obtain ⟨w, found, holds⟩ := has_iff.mp h
  obtain ⟨inside, _⟩ := List.getElem?_eq_some_iff.mp found
  refine has_iff.mpr ⟨w, ?_, holds⟩
  show (s.workers ++ [new])[i]? = some w
  rw [List.getElem?_append_left inside, found]

theorem isDone_change (ages : Ages f) (h : s.isDone i = true) : (s.change j f).isDone i = true := by
  refine has_change ?_ h
  intro w done
  simp only [Bool.and_eq_true, Bool.not_eq_true'] at done ⊢
  exact ⟨(ages w).1 done.1, (ages w).2 done.2⟩

theorem isIdle_change (ages : Ages f) (h : s.has (!·.active) i = true) :
    (s.change j f).has (!·.active) i = true := by
  refine has_change ?_ h
  intro w idle
  simp only [Bool.not_eq_true'] at idle ⊢
  exact (ages w).1 idle

theorem isDone_of_ended (idle : s.has (!·.active) i = true) (ended : s.has (·.ended) i = true) :
    s.isDone i = true := by
  obtain ⟨w, found, quiet⟩ := has_iff.mp idle
  obtain ⟨w', found', gone⟩ := has_iff.mp ended
  cases found.symm.trans found'
  refine has_iff.mpr ⟨w, found, ?_⟩
  rw [quiet, gone]
  rfl

theorem isIdle_deactivate (inside : i < s.workers.length) :
    (s.deactivate i).has (!·.active) i = true := by
  refine has_iff.mpr ⟨{ s.workers[i] with active := false }, ?_, rfl⟩
  show (s.workers.modify i _)[i]? = _
  simp [inside]

end Aging

end Shutdown

end DebugGateway.Server
