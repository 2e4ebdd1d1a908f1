import DebugGateway.Proofs.Server.Correlation

namespace DebugGateway.Connection

def Sized (reads : List (List UInt8)) : Prop :=
  ∀ bytes ∈ reads, bytes ≠ [] ∧ bytes.length ≤ FrameBuffer.readChunk

instance (reads : List (List UInt8)) : Decidable (Sized reads) :=
  List.decidableBAll _ reads

variable {σ : Type}

inductive Ends (reply : List UInt8 → σ → Response × σ) :
    List (List UInt8) → Connection → σ → Prop where
  | closed {reads : List (List UInt8)} {c : Connection} {s : σ} :
    c.isClosed = true → Ends reply reads c s
  | next {reads reads' : List (List UInt8)} {c c' : Connection} {s s' : σ} {e : Event} :
    Smooth c.stage reads e reads' → c.step reply s e = some (c', s') → Ends reply reads' c' s' →
      Ends reply reads c s

variable {reply : List UInt8 → σ → Response × σ} {reads : List (List UInt8)}

theorem accepted_all (c : Connection) {pending : List UInt8} (nonempty : pending ≠ [])
    (next : List UInt8 → Stage) (lost : StreamFault → Stage) :
    c.accepted pending next lost (.took pending.length) =
      some { c with wire := pending.reverse ++ c.wire, stage := next [] } := by
  simp [accepted, nonempty]

theorem afterWriting_begun {pending : List UInt8} (nonempty : pending ≠ []) :
    afterWriting pending = .writing pending := by
  simp [afterWriting, nonempty]

theorem ends_closing {c : Connection} {s : σ} (closing : c.stage = .closing) :
    Ends reply reads c s := by
  have done : c.step reply s .close = some ({ c with active := false, stage := .closed }, s) := by
    simp only [step, closing]
  exact .next .close done (.closed rfl)

theorem ends_draining {c : Connection} {s : σ} {pending : List UInt8} {queued : List Outbound}
    (nonempty : pending ≠ []) (draining : c.stage = .draining pending queued) :
    Ends reply reads c s := by
  have count := List.length_pos_iff.mpr nonempty
  induction queued generalizing c pending with
  | nil =>
    have done : c.step reply s (.write (.took pending.length)) =
        some ({ c with wire := pending.reverse ++ c.wire, stage := .closing }, s) := by
      simp only [step, draining, accepted_all c nonempty]
      rfl
    refine .next (.write _ count) done ?_
    apply ends_closing
    rfl
  | cons m queued ih =>
    have done : c.step reply s (.write (.took pending.length)) =
        some ({ c with wire := pending.reverse ++ c.wire, stage := .draining m.encode queued }, s) := by
      simp only [step, draining, accepted_all c nonempty]
      rfl
    refine .next (.write _ count) done ?_
    apply ih m.encode_ne_nil
    · rfl
    · exact List.length_pos_iff.mpr m.encode_ne_nil

theorem ends_emptying {c : Connection} {s : σ} (emptying : c.stage = .emptying) :
    Ends reply reads c s := by
  have done : c.step reply s .empty =
      some ({ c with outbox := {}, stage := afterDraining [] c.outbox.queue }, s) := by
    simp only [step, emptying]
    rfl
  refine .next .empty done ?_
  cases c.outbox.queue with
  | nil =>
    apply ends_closing
    rfl
  | cons m queued =>
    apply ends_draining m.encode_ne_nil
    rfl

def Reads (reply : List UInt8 → σ → Response × σ) (reads : List (List UInt8)) : Prop :=
  ∀ (c : Connection) (s : σ), c.active = true → c.stage = .reading → Ends reply reads c s

theorem Reads.turning (further : Reads reply reads) {c : Connection} {s : σ}
    (live : c.active = true) (turning : c.stage = .turning) : Ends reply reads c s := by
  have done : c.step reply s .look = some ({ c with stage := .reading }, s) := by
    simp only [step, turning, live, if_true]
  exact .next .look done (further _ s live rfl)

theorem Reads.writing (further : Reads reply reads) {c : Connection} {s : σ}
    (live : c.active = true) {pending : List UInt8} (nonempty : pending ≠ [])
    (writing : c.stage = .writing pending) : Ends reply reads c s := by
  have done : c.step reply s (.write (.took pending.length)) =
      some ({ c with wire := pending.reverse ++ c.wire, stage := .turning }, s) := by
    simp only [step, writing, accepted_all c nonempty]
    rfl
  refine .next (.write _ (List.length_pos_iff.mpr nonempty)) done ?_
  apply further.turning
  · exact live
  · rfl

theorem Reads.taking (further : Reads reply reads) {c : Connection} {s : σ}
    (live : c.active = true) (taking : c.stage = .taking) : Ends reply reads c s := by
  cases waiting : c.outbox.queue with
  | nil =>
    have done : c.step reply s .take = some ({ c with stage := .turning }, s) := by
      simp only [step, taking, Outbox.pop, waiting]
    refine .next .take done ?_
    apply further.turning
    · exact live
    · rfl
  | cons m queue =>
    have done : c.step reply s .take =
        some ({ c with outbox := ⟨queue⟩, stage := .writing m.encode }, s) := by
      simp only [step, taking, Outbox.pop, waiting, afterWriting_begun m.encode_ne_nil]
    refine .next .take done ?_
    apply further.writing _ m.encode_ne_nil
    · rfl
    · exact live

theorem Reads.starting (further : Reads reply reads) {c : Connection} {s : σ}
    (live : c.active = true) (starting : c.stage = .starting) : Ends reply reads c s := by
  have done : c.step reply s .look = some ({ c with stage := .taking }, s) := by
    simp only [step, starting, live, if_true]
  refine .next .look done ?_
  apply further.taking
  · exact live
  · rfl

theorem Reads.answering (further : Reads reply reads) {c : Connection} {s : σ}
    (live : c.active = true) (answering : c.stage = .answering) : Ends reply reads c s := by
  -- each frame taken leaves fewer bytes to search
  generalize left : c.frames.unsearched.length = n
  induction n using Nat.strongRecOn generalizing c s with
  | ind n ih =>
    have done : c.step reply s .answer = some (c.answerNext reply s) := by
      simp only [step, answering]
    refine .next .answer done ?_
    split
    · rename_i frame frames found
      have shorter := FrameBuffer.next_some_shorter found
      rw [left] at shorter
      apply ih _ shorter
      · exact live
      · exact answering
      · rfl
    · apply further.starting
      · exact live
      · rfl
    · apply ends_emptying
      rfl

theorem reads_sized (sized : Sized reads) : Reads reply reads := by
  induction reads with
  | nil =>
    intro c s _ reading
    have done : c.step reply s (.read .ended) = some ({ c with stage := .emptying }, s) := by
      simp only [step, reading]
      rfl
    refine .next .ended done ?_
    apply ends_emptying
    rfl
  | cons bytes reads ih =>
    intro c s live reading
    obtain ⟨nonempty, fits⟩ := sized bytes (List.mem_cons_self ..)
    have further : Reads reply reads := ih fun more member => sized more (List.mem_cons_of_mem _ member)
    have done : c.step reply s (.read (.data bytes)) =
        some ({ c with frames := c.frames.extend bytes, stage := .answering }, s) := by
      simp [step, reading, received, nonempty, fits]
    refine .next (.read bytes) done ?_
    apply further.answering
    · exact live
    · rfl

theorem Faithful.ends (reply : List UInt8 → σ → Response × σ) {answer : List UInt8 → Response}
    {plan : List (List UInt8)}
    {sent : List Outbound} {taken : List (Except FrameTooLarge (List UInt8))} {c : Connection}
    (faithful : Faithful answer plan reads sent taken c) (sized : Sized reads) (s : σ) :
    Ends reply reads c s := by
  have further : Reads reply reads := reads_sized sized
  have live := faithful.live
  have busy := faithful.busy
  cases stands : c.stage with
  | configuring =>
    have active := live (by rw [stands]; rfl)
    have done : c.step reply s (.configure true) = some ({ c with stage := .starting }, s) := by
      simp only [Connection.step, stands]
      rfl
    refine .next .configure done ?_
    apply further.starting
    · exact active
    · rfl
  | starting => exact further.starting (live (by rw [stands]; rfl)) stands
  | taking => exact further.taking (live (by rw [stands]; rfl)) stands
  | writing pending =>
    rw [stands] at busy
    exact further.writing (live (by rw [stands]; rfl)) busy stands
  | turning => exact further.turning (live (by rw [stands]; rfl)) stands
  | reading => exact further c s (live (by rw [stands]; rfl)) stands
  | answering => exact further.answering (live (by rw [stands]; rfl)) stands
  | emptying => exact ends_emptying stands
  | draining pending queued =>
    rw [stands] at busy
    exact ends_draining busy stands
  | closing => exact ends_closing stands
  | closed => exact .closed (by rw [isClosed, stands])

end DebugGateway.Connection
