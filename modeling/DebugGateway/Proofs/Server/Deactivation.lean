import DebugGateway.Proofs.FrameBuffer.Harvest
import DebugGateway.Proofs.Server.Steps

/-! What a connection still answers once it has been asked to stop. It asks whether it shall go on only
between two parts of a round, never between two frames: a part that has begun runs to its end, and so
all the frames of the last read are answered, however many they are. -/
namespace DebugGateway

def Stage.isPast : Stage → Bool
  | .answering | .reading => false
  | _ => true

namespace Connection

/-- The frames a buffer gives out before more is read, up to one that is too long. -/
def framesHeld (b : FrameBuffer) : List (List UInt8) := (b.harvest []).filterMap Except.toOption

theorem framesHeld_frame {b b' : FrameBuffer} {frame : List UInt8}
    (found : b.next = (.ok (some frame), b')) : framesHeld b = frame :: framesHeld b' := by
  rw [framesHeld, FrameBuffer.harvest_frame found]
  rfl

theorem framesHeld_none {b b' : FrameBuffer} (found : b.next = (.ok none, b')) :
    framesHeld b = [] := by
  rw [framesHeld, FrameBuffer.harvest_none found]
  rfl

theorem framesHeld_refused {b b' : FrameBuffer} {e : FrameTooLarge}
    (found : b.next = (.error e, b')) : framesHeld b = [] := by
  rw [framesHeld, FrameBuffer.harvest_refused found]
  rfl

/-- The frames that are answered before the connection next asks whether it shall go on, where `read`
is what a read that is due brings. -/
def due (c : Connection) (read : Option (List UInt8)) : List (List UInt8) :=
  match c.stage, read with
  | .answering, _ => framesHeld c.frames
  | .reading, some bytes => framesHeld (c.frames.extend bytes)
  | _, _ => []

section Stages

variable {c c' : Connection}

theorem due_past (past : c.stage.isPast = true) (read : Option (List UInt8)) : c.due read = [] := by
  unfold due
  split
  · rename_i answering
    rw [answering] at past
    cases past
  · rename_i bytes reading
    rw [reading] at past
    cases past
  · rfl

theorem past_afterWriting (pending : List UInt8) : (afterWriting pending).isPast = true := by
  unfold afterWriting
  split <;> rfl

theorem past_afterDraining (pending : List UInt8) (queued : List Outbound) :
    (afterDraining pending queued).isPast = true := by
  unfold afterDraining
  split
  · cases queued <;> rfl
  · rfl

theorem past_afterFault (c : Connection) (f : StreamFault) : (c.afterFault f).isPast = true := by
  unfold afterFault
  split
  · cases f <;> rfl
  · rfl

theorem past_afterWriteFault (c : Connection) (pending : List UInt8) (f : StreamFault) :
    (c.afterWriteFault pending f).isPast = true := by
  cases f with
  | idle =>
    simp only [afterWriteFault]
    split <;> rfl
  | gone => exact past_afterFault c .gone
  | failed => exact past_afterFault c .failed

theorem accepted_past {pending : List UInt8} {next : List UInt8 → Stage} {lost : StreamFault → Stage}
    {outcome : WriteOutcome} (goes : ∀ pending, (next pending).isPast = true)
    (fails : ∀ f, (lost f).isPast = true) (done : c.accepted pending next lost outcome = some c') :
    c'.active = c.active ∧ c'.answered = c.answered ∧ c'.stage.isPast = true := by
  obtain ⟨wire, stage, rfl, ⟨rest, rfl⟩ | ⟨f, rfl⟩⟩ := accepted_cases done
  · exact ⟨rfl, rfl, goes rest⟩
  · exact ⟨rfl, rfl, fails f⟩

/-- What is answered on the way from `c` to `c'` and what is due then was due before. -/
def Pays (c c' : Connection) : Prop :=
  ∃ more, c'.answered = c.answered ++ more ∧ ∀ read, ∃ read', more ++ c'.due read = c.due read'

theorem Pays.refl (c : Connection) : Pays c c :=
  ⟨[], (List.append_nil _).symm, fun read => ⟨read, rfl⟩⟩

theorem Pays.trans {d : Connection} (first : Pays c c') (second : Pays c' d) : Pays c d := by
  obtain ⟨more, answered, before⟩ := first
  obtain ⟨more', answered', before'⟩ := second
  refine ⟨more ++ more', ?_, ?_⟩
  · rw [answered', answered, List.append_assoc]
  · intro read
    obtain ⟨read', due'⟩ := before' read
    obtain ⟨read'', due''⟩ := before read'
    exact ⟨read'', by rw [List.append_assoc, due', due'']⟩

theorem Pays.past (before : c.stage.isPast = true ∨ c.stage = .reading)
    (after : c'.stage.isPast = true) (unanswered : c'.answered = c.answered) : Pays c c' := by
  refine ⟨[], by rw [unanswered, List.append_nil], fun read => ⟨none, ?_⟩⟩
  rw [due_past after]
  rcases before with past | reading
  · rw [due_past past]
    rfl
  · simp only [due, reading]
    rfl

end Stages

/-! ## What each event does -/

section Events

variable {σ : Type} {answer : List UInt8 → σ → Response × σ} {c c' : Connection} {s s' : σ}

theorem pays_step {e : Event} (idle : c.active = false)
    (done : c.step answer s e = some (c', s')) : c'.active = false ∧ Pays c c' := by
  have elsewhere {stage stage' : Stage} {outbox : Outbox} {active : Bool} (here : c.stage = stage)
      (before : stage.isPast = true) (after : stage'.isPast = true) :
      Pays c { c with active, outbox, stage := stage' } :=
    .past (.inl (by rw [here]; exact before)) after rfl
  cases step_becomes done with
  | configures here =>
    refine ⟨idle, elsewhere here rfl ?_⟩
    split <;> rfl
  | starts here => exact ⟨idle, elsewhere here rfl (by rw [idle]; rfl)⟩
  | turns here => exact ⟨idle, elsewhere here rfl (by rw [idle]; rfl)⟩
  | takes here => exact ⟨idle, elsewhere here rfl (past_afterWriting _)⟩
  | idles here => exact ⟨idle, elsewhere here rfl rfl⟩
  | writes here accepted =>
    obtain ⟨active, answered, after⟩ :=
      accepted_past past_afterWriting (past_afterWriteFault c _) accepted
    exact ⟨active.trans idle, .past (.inl (by rw [here]; rfl)) after answered⟩
  | drains here accepted =>
    obtain ⟨active, answered, after⟩ :=
      accepted_past (past_afterDraining · _) (fun _ => rfl) accepted
    exact ⟨active.trans idle, .past (.inl (by rw [here]; rfl)) after answered⟩
  | @reads bytes reading =>
    refine ⟨idle, [], (List.append_nil _).symm, fun _ => ⟨some bytes, ?_⟩⟩
    simp only [due, reading]
    rfl
  | ends reading => exact ⟨idle, .past (.inr reading) rfl rfl⟩
  | waits reading => exact ⟨idle, .past (.inr reading) rfl rfl⟩
  | @loses f reading => exact ⟨idle, .past (.inr reading) (past_afterFault c f) rfl⟩
  | @answers frame frames answering found =>
    refine ⟨idle, [frame], rfl, fun _ => ⟨none, ?_⟩⟩
    simp only [due, answering, framesHeld_frame found]
    rfl
  | exhausts answering found =>
    refine ⟨idle, [], (List.append_nil _).symm, fun _ => ⟨none, ?_⟩⟩
    simp only [due, answering, framesHeld_none found]
    rfl
  | chokes answering found =>
    refine ⟨idle, [], (List.append_nil _).symm, fun _ => ⟨none, ?_⟩⟩
    simp only [due, answering, framesHeld_refused found]
    rfl
  | empties here => exact ⟨idle, elsewhere here rfl (past_afterDraining [] _)⟩
  | closes here => exact ⟨rfl, elsewhere here rfl rfl⟩
  | queues active =>
    rw [idle] at active
    cases active
  | refuses => exact ⟨idle, .refl c⟩
  | deactivates => exact ⟨rfl, .refl c⟩

theorem pays_run {start state : Connection × σ} {events : List Event} (idle : start.1.active = false)
    (run : Run answer start events state) : state.1.active = false ∧ Pays start.1 state.1 := by
  induction run with
  | nil => exact ⟨idle, .refl _⟩
  | snoc e _ stepped ih =>
    obtain ⟨idle', pays⟩ := ih
    obtain ⟨idle'', pays'⟩ := pays_step idle' stepped
    exact ⟨idle'', pays.trans pays'⟩

theorem Run.cons {start next state : Connection × σ} {e : Event} {events : List Event}
    (stepped : step answer start.1 start.2 e = some next) (run : Run answer next events state) :
    Run answer start (e :: events) state := by
  induction run with
  | nil => exact .snoc e .nil stepped
  | snoc e' _ stepped' ih => exact .snoc e' ih stepped'

/-- Nothing keeps a connection that answers from answering every frame it holds. -/
theorem answers_held (answering : c.stage = .answering) (s : σ) :
    ∃ c' s', Run answer (c, s) (List.replicate (framesHeld c.frames).length .answer) (c', s') ∧
      c'.answered = c.answered ++ framesHeld c.frames := by
  -- each frame taken leaves fewer bytes to search
  generalize left : c.frames.unsearched.length = n
  induction n using Nat.strongRecOn generalizing c s with
  | ind n ih =>
    have ends (none : framesHeld c.frames = []) :
        ∃ c' s', Run answer (c, s) (List.replicate (framesHeld c.frames).length .answer) (c', s') ∧
          c'.answered = c.answered ++ framesHeld c.frames := by
      rw [none, List.append_nil]
      exact ⟨c, s, .nil, rfl⟩
    rcases found : c.frames.next with ⟨_ | (_ | frame), frames⟩
    · exact ends (framesHeld_refused found)
    · exact ends (framesHeld_none found)
    · have shorter := FrameBuffer.next_some_shorter found
      rw [left] at shorter
      have stepped : step answer c s .answer = some (c.answerNext answer s) := by
        simp only [step, answering]
      simp only [answerNext, found] at stepped
      obtain ⟨c', s', run, answered⟩ := ih _ shorter (c := { c with
        frames
        outbox := c.outbox.push (.response (answer frame s).1)
        answered := c.answered ++ [frame] }) answering (answer frame s).2 rfl
      rw [framesHeld_frame found]
      refine ⟨c', s', .cons stepped run, ?_⟩
      rw [answered]
      exact List.append_assoc ..

end Events

/-- A connection that has been asked to stop stays so. What it answers from there on are the frames that
were due, in their order and none beyond them, and when it has ended it has answered all of these. Where
it was asked while it answered, nothing keeps it from answering every frame it holds. -/
theorem deactivated_answers {σ : Type} (answer : List UInt8 → σ → Response × σ) {c : Connection} (s : σ)
    (idle : c.active = false) :
    (∀ events c' s', Run answer (c, s) events (c', s') →
      c'.active = false ∧ ∃ read more, c'.answered = c.answered ++ more ∧ more <+: c.due read ∧
        (c'.isClosed = true → more = c.due read)) ∧
    (c.stage = .answering →
      ∃ c' s', Run answer (c, s) (List.replicate (c.due none).length .answer) (c', s') ∧
        c'.answered = c.answered ++ c.due none) := by
  constructor
  · intro events c' s' run
    obtain ⟨idle', more, answered, before⟩ := pays_run idle run
    obtain ⟨read, due⟩ := before none
    refine ⟨idle', read, more, answered, ⟨_, due⟩, ?_⟩
    intro closed
    have nothing : c'.due none = [] := by
      apply due_past
      unfold isClosed at closed
      split at closed
      · rename_i ended
        show c'.stage.isPast = true
        rw [ended]
        rfl
      · contradiction
    have all : more ++ c'.due none = c.due read := due
    rw [← all, nothing, List.append_nil]
  · intro answering
    have held : c.due none = framesHeld c.frames := by simp only [due, answering]
    rw [held]
    exact answers_held answering s

def pipelined : Connection where
  id := 1
  active := false
  frames := { unsearched := [97, 10, 98, 10] }
  stage := .answering

theorem framesHeld_pipelined : framesHeld pipelined.frames = [[97], [98]] := by
  have first : pipelined.frames.next = (.ok (some [97]), { unsearched := [98, 10] }) := rfl
  have second : ({ unsearched := [98, 10] } : FrameBuffer).next = (.ok (some [98]), {}) := rfl
  have last : ({} : FrameBuffer).next = (.ok none, {}) := rfl
  rw [framesHeld_frame first, framesHeld_frame second, framesHeld_none last]

theorem pipelined_answers :
    pipelined.active = false ∧
    ∃ c s, Run (Dispatch.frame {}) (pipelined, ()) [.answer, .answer] (c, s) ∧
      c.answered = [[97], [98]] := by
  obtain ⟨_, all⟩ := deactivated_answers (Dispatch.frame {}) (c := pipelined) () rfl
  have held : pipelined.due none = [[97], [98]] := framesHeld_pipelined
  rw [held] at all
  exact ⟨rfl, all rfl⟩

/-- It is not so that one that was asked to stop answers at most one frame more. -/
theorem pipelined_unheeded :
    ¬ ∀ (before after : List Event) (c c' : Connection) (s s' : Unit),
      Run (Dispatch.frame {}) ({ id := 1 }, ()) before (c, s) → c.active = false →
        Run (Dispatch.frame {}) (c, s) after (c', s') →
          c'.answered.length ≤ c.answered.length + 1 := by
  intro heeded
  have reached : Run (Dispatch.frame {}) ({ id := 1 }, ())
      [.configure true, .look, .take, .look, .read (.data [97, 10, 98, 10]), .deactivate]
      (pipelined, ()) :=
    (((((Run.nil.snoc (.configure true) rfl).snoc .look rfl).snoc .take rfl).snoc .look rfl).snoc
      (.read (.data [97, 10, 98, 10])) rfl).snoc .deactivate rfl
  have all : ∃ c' s', Run (Dispatch.frame {}) (pipelined, ()) _ (c', s') ∧
      c'.answered = [] ++ framesHeld pipelined.frames := answers_held rfl ()
  obtain ⟨c', s', run, answered⟩ := all
  have few := heeded _ _ pipelined c' () s' reached rfl run
  rw [answered, framesHeld_pipelined] at few
  exact absurd few (by decide)

end Connection

end DebugGateway
