import DebugGateway.Proofs.FrameBuffer.Reassembly
import DebugGateway.Proofs.Server.Correlation

namespace DebugGateway

namespace FrameBuffer

structure Proper (frame : List UInt8) : Prop where
  short : frame.length ≤ greatestFrame
  single : 10 ∉ frame
  spoken : isBlank frame = false

/-- What an answer says of the frame given out and of what is held behind it, where `size` bytes were held
before. -/
def Leaves (size : Nat) : Answer × FrameBuffer → Prop
  | (.ok none, b) =>
    b.pendingLength ≤ size ∧ b.pendingLength ≤ greatestFrame ∧ 10 ∉ b.pending ∧ 10 ∉ b.searched
  | (.ok (some frame), b) => b.pendingLength ≤ size ∧ Proper frame ∧ 10 ∉ b.searched
  | (.error _, b) => b.pendingLength ≤ size ∧ 10 ∉ b.searched

theorem Leaves.imp {size size' : Nat} {r : Answer × FrameBuffer} (more : size ≤ size')
    (leaves : Leaves size r) : Leaves size' r := by
  match r with
  | (.ok none, b) => exact ⟨Nat.le_trans leaves.1 more, leaves.2⟩
  | (.ok (some frame), b) => exact ⟨Nat.le_trans leaves.1 more, leaves.2⟩
  | (.error _, b) => exact ⟨Nat.le_trans leaves.1 more, leaves.2⟩

theorem proper_line {searched : List UInt8} (clean : 10 ∉ searched)
    (short : (dropReturn searched).length ≤ greatestFrame)
    (spoken : ¬ (dropReturn searched).all isBlankByte = true) : Proper (dropReturn searched).reverse := by
  refine ⟨?_, fun member => clean ?_, ?_⟩
  · rw [List.length_reverse]
    exact short
  · exact (dropReturn_suffix searched).subset (List.mem_reverse.mp member)
  · rw [isBlank, List.all_reverse]
    exact Bool.not_eq_true _ ▸ spoken

theorem takeFrame_leaves (searched rest : List UInt8) (clean : 10 ∉ searched) :
    Leaves (searched.length + rest.length) (takeFrame searched rest) := by
  -- a byte moves from `rest` to `searched` only if it is no newline, so `clean` is kept on the way
  induction rest generalizing searched with
  | nil =>
    unfold takeFrame
    split
    · exact ⟨Nat.zero_le _, List.not_mem_nil⟩
    · rename_i short
      refine ⟨Nat.le_refl _, Nat.not_lt.mp short, ?_, clean⟩
      simpa [pending] using clean
  | cons b rest ih =>
    unfold takeFrame
    split
    · dsimp only
      have later : ([] : List UInt8).length + rest.length ≤ searched.length + (b :: rest).length := by
        simp only [List.length_nil, List.length_cons]
        omega
      split
      · exact ⟨later, List.not_mem_nil⟩
      · rename_i short
        split
        -- a blank frame is dropped and the search goes on behind it
        · exact (ih [] List.not_mem_nil).imp later
        · rename_i spoken
          exact ⟨later, proper_line clean (Nat.not_lt.mp short) spoken, List.not_mem_nil⟩
    · rename_i other
      have clean' : 10 ∉ b :: searched := by
        rw [List.mem_cons, not_or]
        exact ⟨fun same => other same.symm, clean⟩
      refine (ih (b :: searched) clean').imp ?_
      simp only [List.length_cons]
      omega

theorem next_leaves (b : FrameBuffer) (clean : 10 ∉ b.searched) : Leaves b.pendingLength b.next :=
  takeFrame_leaves b.searched b.unsearched clean

theorem pendingLength_extend (b : FrameBuffer) (bytes : List UInt8) :
    (b.extend bytes).pendingLength = b.pendingLength + bytes.length := by
  simp only [pendingLength, extend, List.length_append]
  omega

end FrameBuffer

namespace Connection

open FrameBuffer

/-- What is held is bounded, and more tightly while nothing waits to be answered; what has been answered
could be. -/
structure Bounded (c : Connection) : Prop where
  searched : 10 ∉ c.frames.searched
  held : c.frames.pendingLength ≤ greatestFrame + readChunk
  settled : c.stage.isOpen = true → c.frames.pendingLength ≤ greatestFrame ∧ 10 ∉ c.frames.pending
  proper : ∀ frame ∈ c.answered, Proper frame

theorem bounded_new (id : Nat) : Bounded { id } where
  searched := List.not_mem_nil
  held := Nat.zero_le _
  settled _ := ⟨Nat.zero_le _, List.not_mem_nil⟩
  proper := nofun

section Steps

variable {σ : Type} {answer : List UInt8 → σ → Response × σ} {c c' : Connection} {s s' : σ} {e : Event}

theorem afterDraining_not_open (pending : List UInt8) (queued : List Outbound) :
    (afterDraining pending queued).isOpen = false := by
  unfold afterDraining
  split
  · cases queued <;> rfl
  · rfl

theorem Bounded.leave (bounded : Bounded c) (frames : c'.frames = c.frames)
    (answered : c'.answered = c.answered) (opens : c'.stage.isOpen = true → c.stage.isOpen = true) :
    Bounded c' := by
  obtain ⟨searched, held, settled, proper⟩ := bounded
  rw [← frames] at searched held settled
  exact ⟨searched, held, fun opened => settled (opens opened), answered ▸ proper⟩

/-- Only a read makes the buffer grow, and it finds no more than a frame there. -/
theorem Bounded.step (bounded : Bounded c) (done : c.step answer s e = some (c', s')) : Bounded c' := by
  have leaves := next_leaves c.frames bounded.searched
  have elsewhere {stage stage' : Stage} {active : Bool} {outbox : Outbox} (here : c.stage = stage)
      (opens : stage'.isOpen = true → stage.isOpen = true) :
      Bounded { c with active, outbox, stage := stage' } :=
    bounded.leave rfl rfl fun opened => by rw [here]; exact opens opened
  have shut (pending : List UInt8) (queued : List Outbound) {p : Prop}
      (opened : (afterDraining pending queued).isOpen = true) : p := by
    rw [afterDraining_not_open] at opened
    cases opened
  cases step_becomes done with
  | configures here | starts here | turns here | takes here | idles here | ends here | waits here
  | loses here => exact elsewhere here fun _ => rfl
  | writes here accepted =>
    obtain ⟨wire, stage, rfl, -⟩ := accepted_cases accepted
    exact bounded.leave rfl rfl fun _ => by rw [here]; rfl
  | drains here accepted =>
    obtain ⟨wire, stage, rfl, ⟨rest, rfl⟩ | ⟨f, rfl⟩⟩ := accepted_cases accepted
    · exact bounded.leave rfl rfl (shut rest _)
    · exact bounded.leave rfl rfl nofun
  | empties here => exact elsewhere here (shut [] _)
  | closes here => exact elsewhere here nofun
  | queues | refuses | deactivates => exact bounded.leave rfl rfl fun opened => opened
  | reads here short =>
    have before := bounded.settled (by rw [here]; rfl)
    refine ⟨bounded.searched, ?_, nofun, bounded.proper⟩
    rw [pendingLength_extend]
    exact Nat.add_le_add before.1 short
  | answers here taken =>
    rw [taken] at leaves
    obtain ⟨size, proper, searched⟩ := leaves
    refine ⟨searched, Nat.le_trans size bounded.held, fun opened => ?_, ?_⟩
    · simp [here, Stage.isOpen] at opened
    · exact List.forall_mem_append.mpr ⟨bounded.proper, List.forall_mem_singleton.mpr proper⟩
  | exhausts here taken =>
    rw [taken] at leaves
    obtain ⟨size, short, single, searched⟩ := leaves
    exact ⟨searched, Nat.le_trans size bounded.held, fun _ => ⟨short, single⟩, bounded.proper⟩
  | chokes here taken =>
    rw [taken] at leaves
    obtain ⟨size, searched⟩ := leaves
    exact ⟨searched, Nat.le_trans size bounded.held, nofun, bounded.proper⟩

theorem Run.bounded {id : Nat} {events : List Event} {state : Connection × σ}
    (run : Run answer ({ id }, s) events state) : Bounded state.1 := by
  induction run with
  | nil => exact bounded_new id
  | snoc e _ stepped ih => exact ih.step stepped

/-- A step asks the dispatcher for no other frame than one that may be handed on. -/
theorem Bounded.step_agrees {answer' : List UInt8 → σ → Response × σ} (bounded : Bounded c)
    (agree : ∀ frame, Proper frame → ∀ s, answer' frame s = answer frame s) :
    c.step answer' s e = c.step answer s e := by
  cases e with
  | answer =>
    have leaves := next_leaves c.frames bounded.searched
    have same : c.answerNext answer' s = c.answerNext answer s := by
      unfold answerNext
      split
      · rename_i frame frames taken
        rw [taken] at leaves
        rw [agree frame leaves.2.1]
      · rfl
      · rfl
    rw [Connection.step, Connection.step, same]
  | _ => rfl

end Steps

/-- However a connection goes, it never holds more than a frame and a read. Whenever the frames held have
been answered it holds no more than a frame, and no newline. Every frame answered is one that may be, and
the dispatcher is handed no other: one that would answer any other differently makes no difference. -/
theorem buffers_bounded {σ : Type} (answer : List UInt8 → σ → Response × σ) (id : Nat) (s : σ)
    {events : List Event} {c : Connection} {s' : σ} (run : Run answer ({ id }, s) events (c, s')) :
    c.frames.pendingLength ≤ greatestFrame + readChunk ∧
    (c.stage.isOpen = true → c.frames.pendingLength ≤ greatestFrame ∧ 10 ∉ c.frames.pending) ∧
    (∀ frame ∈ c.answered, Proper frame) ∧
    ∀ answer' : List UInt8 → σ → Response × σ,
      (∀ frame, Proper frame → ∀ s, answer' frame s = answer frame s) →
        Run answer' ({ id }, s) events (c, s') := by
  obtain ⟨-, held, settled, proper⟩ := run.bounded
  refine ⟨held, settled, proper, fun answer' agree => ?_⟩
  clear held settled proper
  generalize (c, s') = state at run
  induction run with
  | nil => exact .nil
  | @snoc state next events e before stepped ih =>
    exact .snoc e ih (before.bounded.step_agrees agree ▸ stepped)

theorem buffers_bounded_split :
    let answer : List UInt8 → Unit → Response × Unit := fun _ s => (Dispatch.oversize "", s)
    let events : List Event := [.configure true, .look, .take, .look,
      .read (.data [97, 13, 10, 98]), .answer, .answer]
    ∃ c, Run answer ({ id := 1 }, ()) events (c, ()) ∧ c.stage.isOpen = true ∧
      c.frames.pending = [98] ∧ c.answered = [[97]] ∧ 10 ∉ c.frames.pending ∧ Proper [97] := by
  intro answer events
  obtain ⟨c, run, opened, held, answered⟩ : ∃ c, Run answer ({ id := 1 }, ()) events (c, ()) ∧
      c.stage.isOpen = true ∧ c.frames.pending = [98] ∧ c.answered = [[97]] :=
    ⟨_, .snoc _ (.snoc _ (.snoc _ (.snoc _ (.snoc _ (.snoc _ (.snoc _ .nil rfl) rfl) rfl) rfl) rfl) rfl)
      rfl, rfl, rfl, rfl⟩
  obtain ⟨-, settled, proper, -⟩ := buffers_bounded answer 1 () run
  exact ⟨c, run, opened, held, answered, (settled opened).2, proper [97] (by simp [answered])⟩

end Connection

end DebugGateway
