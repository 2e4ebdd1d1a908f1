import DebugGateway.Proofs.FrameBuffer.Harvest
import DebugGateway.Proofs.Message.SingleLine
import DebugGateway.Proofs.Server.Steps
import DebugGateway.Server.Connection

/-! One response for each frame of one connection, in the order of the frames. What has gone over the
wire, what is being written and what waits make up one sequence of messages; its responses answer the
frames taken so far. Others may push notifications between any two steps. -/
namespace DebugGateway

def responses (messages : List Outbound) : List Response :=
  messages.filterMap fun
    | .response r => some r
    | .notification _ => none

theorem responses_append (m n : List Outbound) : responses (m ++ n) = responses m ++ responses n :=
  List.filterMap_append

theorem responses_response (r : Response) : responses [.response r] = [r] := rfl

theorem responses_notification (n : Notification) : responses [.notification n] = [] := rfl

/-- The whole lines of a stream that are no notifications, each with its delimiter. -/
def answersIn (stream : List UInt8) : List (List UInt8) :=
  ((Text.cutLines stream).1.filter fun line => !isNotificationLine line).map (· ++ [delimiter])

theorem answersIn_encode (messages : List Outbound) :
    answersIn (messages.flatMap Outbound.encode) = (responses messages).map Response.encode := by
  unfold answersIn
  rw [Outbound.cutLines_encode]
  induction messages with
  | nil => rfl
  | cons m messages ih =>
    cases m with
    | response r =>
      have kept := Outbound.response_line r
      simp only [List.map_cons, List.filter_cons, kept, Bool.not_false, if_true, ih]
      rfl
    | notification n =>
      have dropped := Outbound.notification_line n
      simp only [List.map_cons, List.filter_cons, dropped, Bool.not_true, Bool.false_eq_true,
        if_false, ih]
      rfl

theorem answersIn_grows (s t : List UInt8) : answersIn s <+: answersIn (s ++ t) := by
  unfold answersIn
  rw [Text.cutLines_append, List.filter_append, List.map_append]
  exact List.prefix_append _ _

def replyTo (answer : List UInt8 → Response) : Except FrameTooLarge (List UInt8) → Response
  | .ok frame => answer frame
  | .error e => Dispatch.oversize e.message

namespace Stage

def begun : Stage → List UInt8
  | .writing pending | .draining pending _ => pending
  | _ => []

def queued : Stage → List Outbound
  | .draining _ queued => queued
  | _ => []

def isOpen : Stage → Bool
  | .configuring | .starting | .taking | .writing _ | .turning | .reading => true
  | _ => false

def receives : Stage → Bool
  | .emptying | .draining _ _ | .closing | .closed => false
  | _ => true

def isEmptied : Stage → Bool
  | .draining _ _ | .closing | .closed => true
  | _ => false

def isIdle : Stage → Bool
  | .configuring | .starting | .taking | .turning | .reading => true
  | _ => false

def Busy : Stage → Prop
  | .writing pending | .draining pending _ => pending ≠ []
  | _ => True

theorem idle_plain {s : Stage} (idle : s.isIdle = true) :
    s.begun = [] ∧ s.queued = [] ∧ s.isOpen = true ∧ s.receives = true ∧ s.isEmptied = false ∧
      s.Busy := by
  cases s <;> first | exact ⟨rfl, rfl, rfl, rfl, rfl, trivial⟩ | cases idle

end Stage

namespace Connection

/-- What can happen to a connection with a client that goes on reading what is written and sends what
it sends in these reads: nothing fails, and writing is held up only while the connection serves. -/
inductive Smooth : Stage → List (List UInt8) → Event → List (List UInt8) → Prop where
  | configure {stage : Stage} {reads : List (List UInt8)} :
    Smooth stage reads (.configure true) reads
  | look {stage : Stage} {reads : List (List UInt8)} : Smooth stage reads .look reads
  | take {stage : Stage} {reads : List (List UInt8)} : Smooth stage reads .take reads
  | write {stage : Stage} {reads : List (List UInt8)} (count : Nat) : 0 < count →
    Smooth stage reads (.write (.took count)) reads
  | stall {pending : List UInt8} {reads : List (List UInt8)} :
    Smooth (.writing pending) reads (.write (.fault .idle)) reads
  | read {stage : Stage} {reads : List (List UInt8)} (bytes : List UInt8) :
    Smooth stage (bytes :: reads) (.read (.data bytes)) reads
  | quiet {stage : Stage} {reads : List (List UInt8)} : Smooth stage reads (.read (.fault .idle)) reads
  | ended {stage : Stage} : Smooth stage [] (.read .ended) []
  | answer {stage : Stage} {reads : List (List UInt8)} : Smooth stage reads .answer reads
  | empty {stage : Stage} {reads : List (List UInt8)} : Smooth stage reads .empty reads
  | close {stage : Stage} {reads : List (List UInt8)} : Smooth stage reads .close reads

def toCome (c : Connection) (reads : List (List UInt8)) : List (Except FrameTooLarge (List UInt8)) :=
  if c.stage.receives then c.frames.harvest reads else []

/-- With these messages begun or written and this taken from the buffer, the connection owes no
response but those that wait in its outbox. -/
structure Faithful (answer : List UInt8 → Response) (plan reads : List (List UInt8))
    (sent : List Outbound) (taken : List (Except FrameTooLarge (List UInt8))) (c : Connection) :
    Prop where
  wire : c.written ++ c.stage.begun = sent.flatMap Outbound.encode
  balance : responses (sent ++ c.stage.queued ++ c.outbox.queue) = taken.map (replyTo answer)
  harvest : taken ++ c.toCome reads = FrameBuffer.harvest {} plan
  answered : c.answered = taken.filterMap Except.toOption
  live : c.stage.receives = true → c.active = true
  dry : c.stage.isOpen = true → c.frames.Dry
  busy : c.stage.Busy
  emptied : c.stage.isEmptied = true → responses c.outbox.queue = []

variable {answer : List UInt8 → Response} {plan reads : List (List UInt8)}
  {sent : List Outbound} {taken : List (Except FrameTooLarge (List UInt8))} {c : Connection}

theorem faithful_new (answer : List UInt8 → Response) (plan : List (List UInt8)) (id : Nat) :
    Faithful answer plan plan [] [] { id } where
  wire := rfl
  balance := rfl
  harvest := rfl
  answered := rfl
  live _ := rfl
  dry _ := FrameBuffer.dry_empty
  busy := trivial
  emptied none := nomatch none

/-! ## What each event does -/

theorem Faithful.turn (faithful : Faithful answer plan reads sent taken c) {next : Stage}
    (idle : c.stage.isIdle = true) (idles : next.isIdle = true) :
    Faithful answer plan reads sent taken { c with stage := next } := by
  obtain ⟨begun, queued, opened, receives, -, -⟩ := Stage.idle_plain idle
  obtain ⟨begun', queued', -, receives', unemptied, busy⟩ := Stage.idle_plain idles
  have wire := faithful.wire
  have balance := faithful.balance
  have harvest := faithful.harvest
  rw [begun] at wire
  rw [queued] at balance
  rw [toCome, if_pos receives] at harvest
  constructor
  · rw [begun']
    exact wire
  · rw [queued']
    exact balance
  · rw [toCome, if_pos receives']
    exact harvest
  · exact faithful.answered
  · exact fun _ => faithful.live receives
  · exact fun _ => faithful.dry opened
  · exact busy
  · intro emptied
    rw [unemptied] at emptied
    cases emptied

theorem faithful_afterWriting {pending : List UInt8}
    (wire : c.written ++ pending = sent.flatMap Outbound.encode)
    (balance : responses (sent ++ c.outbox.queue) = taken.map (replyTo answer))
    (harvest : taken ++ c.frames.harvest reads = FrameBuffer.harvest {} plan)
    (answered : c.answered = taken.filterMap Except.toOption) (live : c.active = true)
    (dry : c.frames.Dry) :
    Faithful answer plan reads sent taken { c with stage := afterWriting pending } := by
  have balance' : responses (sent ++ [] ++ c.outbox.queue) = taken.map (replyTo answer) := by
    rw [List.append_nil]
    exact balance
  cases pending with
  | nil => exact ⟨wire, balance', harvest, answered, fun _ => live, fun _ => dry, trivial, nofun⟩
  | cons b pending =>
    exact ⟨wire, balance', harvest, answered, fun _ => live, fun _ => dry, List.cons_ne_nil _ _, nofun⟩

theorem faithful_afterDraining {pending : List UInt8} {queued : List Outbound}
    (wire : c.written ++ pending = sent.flatMap Outbound.encode)
    (balance : responses (sent ++ queued) = taken.map (replyTo answer))
    (harvest : taken = FrameBuffer.harvest {} plan)
    (answered : c.answered = taken.filterMap Except.toOption)
    (emptied : responses c.outbox.queue = []) :
    ∃ sent', Faithful answer plan reads sent' taken { c with stage := afterDraining pending queued } := by
  have harvest' : taken ++ [] = FrameBuffer.harvest {} plan := (List.append_nil _).trans harvest
  have balance' : responses (sent ++ queued ++ c.outbox.queue) = taken.map (replyTo answer) := by
    rw [responses_append, emptied, List.append_nil]
    exact balance
  cases pending with
  | cons b pending =>
    exact ⟨sent, wire, balance', harvest', answered, nofun, nofun, List.cons_ne_nil _ _, fun _ => emptied⟩
  | nil =>
    cases queued with
    | nil => exact ⟨sent, wire, balance', harvest', answered, nofun, nofun, trivial, fun _ => emptied⟩
    | cons m queued =>
      -- what was begun is written, and the next message is begun
      refine ⟨sent ++ [m], ?_, ?_, harvest', answered, nofun, nofun, m.encode_ne_nil, fun _ => emptied⟩
      · rw [List.append_nil] at wire
        show c.written ++ m.encode = _
        rw [wire, List.flatMap_append, List.flatMap_singleton]
      · show responses (sent ++ [m] ++ queued ++ c.outbox.queue) = _
        rw [List.append_assoc sent]
        exact balance'

section Events

variable {σ : Type} {s s' : σ} {reply : List UInt8 → σ → Response × σ} {c' : Connection}

theorem Faithful.configure (faithful : Faithful answer plan reads sent taken c)
    (done : c.step reply s (.configure true) = some (c', s')) :
    Faithful answer plan reads sent taken c' := by
  cases step_becomes done with
  | configures configuring => exact faithful.turn (by rw [configuring]; rfl) rfl

theorem Faithful.look (faithful : Faithful answer plan reads sent taken c)
    (done : c.step reply s .look = some (c', s')) : Faithful answer plan reads sent taken c' := by
  cases step_becomes done with
  | starts starting =>
    rw [if_pos (faithful.live (by rw [starting]; rfl))]
    exact faithful.turn (by rw [starting]; rfl) rfl
  | turns turning =>
    rw [if_pos (faithful.live (by rw [turning]; rfl))]
    exact faithful.turn (by rw [turning]; rfl) rfl

theorem Faithful.take (faithful : Faithful answer plan reads sent taken c)
    (done : c.step reply s .take = some (c', s')) :
    ∃ sent', Faithful answer plan reads sent' taken c' := by
  obtain ⟨id, active, ⟨queue⟩, frames, stage, wire, answered⟩ := c
  cases stage with
  | taking =>
    cases queue with
    | nil =>
      cases done
      exact ⟨sent, faithful.turn rfl rfl⟩
    | cons m queue =>
      cases done
      refine ⟨sent ++ [m], faithful_afterWriting
        (c := ⟨id, active, ⟨queue⟩, frames, .taking, wire, answered⟩) ?_ ?_ faithful.harvest
        faithful.answered (faithful.live rfl) (faithful.dry rfl)⟩
      · rw [List.flatMap_append, ← faithful.wire, List.flatMap_singleton]
        simp only [Stage.begun, List.append_nil]
        rfl
      · rw [← faithful.balance]
        simp only [Stage.queued, List.append_assoc, List.append_nil, List.singleton_append]
  | _ => cases done

theorem accepted_took {pending : List UInt8} {count : Nat} {next : List UInt8 → Stage}
    {lost : StreamFault → Stage} (positive : 0 < count)
    (done : c.accepted pending next lost (.took count) = some c') :
    ∃ wire stage, c' = { c with wire, stage } ∧ stage = next (pending.drop count) ∧
      { c with wire }.written ++ pending.drop count = c.written ++ pending := by
  simp only [accepted] at done
  split at done
  · cases done
  · split at done
    · omega
    · cases done
      refine ⟨_, _, rfl, rfl, ?_⟩
      rw [written, written, List.reverse_append, List.reverse_reverse, List.append_assoc,
        List.take_append_drop]

theorem Faithful.write (faithful : Faithful answer plan reads sent taken c) {count : Nat}
    (positive : 0 < count) (done : c.step reply s (.write (.took count)) = some (c', s')) :
    ∃ sent', Faithful answer plan reads sent' taken c' := by
  obtain ⟨id, active, outbox, frames, stage, wire, answered⟩ := c
  cases stage with
  | writing pending =>
    obtain ⟨d, took, same⟩ := Option.map_eq_some_iff.mp done
    cases same
    obtain ⟨wire', stage', rfl, rfl, written⟩ := accepted_took positive took
    have balance := faithful.balance
    simp only [Stage.queued, List.append_nil] at balance
    exact ⟨sent, faithful_afterWriting (written.trans faithful.wire) balance faithful.harvest
      faithful.answered (faithful.live rfl) (faithful.dry rfl)⟩
  | draining pending queued =>
    obtain ⟨d, took, same⟩ := Option.map_eq_some_iff.mp done
    cases same
    obtain ⟨wire', stage', rfl, rfl, written⟩ := accepted_took positive took
    have balance := faithful.balance
    have emptied : responses outbox.queue = [] := faithful.emptied rfl
    rw [responses_append, emptied, List.append_nil] at balance
    exact faithful_afterDraining (written.trans faithful.wire) balance
      ((List.append_nil _).symm.trans faithful.harvest) faithful.answered emptied
  | _ => cases done

theorem Faithful.stall (faithful : Faithful answer plan reads sent taken c) {pending : List UInt8}
    (writing : c.stage = .writing pending)
    (done : c.step reply s (.write (.fault .idle)) = some (c', s')) :
    Faithful answer plan reads sent taken c' := by
  obtain ⟨id, active, outbox, frames, stage, wire, answered⟩ := c
  cases writing
  have live : active = true := faithful.live rfl
  subst live
  cases done
  exact faithful

theorem Faithful.quiet (faithful : Faithful answer plan reads sent taken c)
    (done : c.step reply s (.read (.fault .idle)) = some (c', s')) :
    Faithful answer plan reads sent taken c' := by
  cases step_becomes done with
  | waits reading => exact faithful.turn (by rw [reading]; rfl) rfl
  | loses reading lost => exact absurd rfl lost

theorem Faithful.read {bytes : List UInt8}
    (faithful : Faithful answer plan (bytes :: reads) sent taken c)
    (done : c.step reply s (.read (.data bytes)) = some (c', s')) :
    Faithful answer plan reads sent taken c' := by
  cases step_becomes done with
  | reads reading =>
    obtain ⟨id, active, outbox, frames, stage, wire, answered⟩ := c
    cases reading
    have dry : frames.Dry := faithful.dry rfl
    have harvest := faithful.harvest
    simp only [toCome, Stage.receives, if_true, FrameBuffer.harvest_read dry] at harvest
    exact ⟨faithful.wire, faithful.balance, harvest, faithful.answered, fun _ => faithful.live rfl,
      nofun, trivial, nofun⟩

theorem Faithful.ended (faithful : Faithful answer plan [] sent taken c)
    (done : c.step reply s (.read .ended) = some (c', s')) :
    Faithful answer plan [] sent taken c' := by
  cases step_becomes done with
  | ends reading =>
    obtain ⟨id, active, outbox, frames, stage, wire, answered⟩ := c
    cases reading
    have dry : frames.Dry := faithful.dry rfl
    have harvest := faithful.harvest
    simp only [toCome, Stage.receives, if_true, FrameBuffer.harvest_end dry] at harvest
    exact ⟨faithful.wire, faithful.balance, harvest, faithful.answered, nofun, nofun, trivial, nofun⟩

theorem Faithful.empty (faithful : Faithful answer plan reads sent taken c)
    (done : c.step reply s .empty = some (c', s')) :
    ∃ sent', Faithful answer plan reads sent' taken c' := by
  obtain ⟨id, active, outbox, frames, stage, wire, answered⟩ := c
  cases stage with
  | emptying =>
    cases done
    have balance := faithful.balance
    simp only [Stage.queued, List.append_nil] at balance
    exact faithful_afterDraining (c := ⟨id, active, {}, frames, .emptying, wire, answered⟩)
      faithful.wire balance ((List.append_nil _).symm.trans faithful.harvest) faithful.answered rfl
  | _ => cases done

theorem Faithful.close (faithful : Faithful answer plan reads sent taken c)
    (done : c.step reply s .close = some (c', s')) : Faithful answer plan reads sent taken c' := by
  obtain ⟨id, active, outbox, frames, stage, wire, answered⟩ := c
  cases stage with
  | closing =>
    cases done
    exact ⟨faithful.wire, faithful.balance, faithful.harvest, faithful.answered, nofun, nofun, trivial,
      fun _ => faithful.emptied rfl⟩
  | _ => cases done

/-- What comes out of the buffer next is answered behind everything that waits. -/
theorem Faithful.balance_push (faithful : Faithful answer plan reads sent taken c) {r : Response}
    {out : Except FrameTooLarge (List UInt8)} (answers : r = replyTo answer out) :
    responses (sent ++ c.stage.queued ++ (c.outbox.push (.response r)).queue) =
      (taken ++ [out]).map (replyTo answer) := by
  have balance := faithful.balance
  show responses (sent ++ c.stage.queued ++ (c.outbox.queue ++ [.response r])) = _
  rw [← List.append_assoc, responses_append, balance, responses_response, List.map_append, answers]
  rfl

theorem Faithful.answerNext (faithful : Faithful answer plan reads sent taken c)
    (replies : ∀ frame s, (reply frame s).1 = answer frame)
    (done : c.step reply s .answer = some (c', s')) :
    ∃ taken', Faithful answer plan reads sent taken' c' := by
  have becomes := step_becomes done
  obtain ⟨id, active, outbox, frames, stage, wire, answered⟩ := c
  have harvest := faithful.harvest
  have known := faithful.answered
  cases becomes with
  | @answers frame frames' answering found =>
    cases answering
    have live : active = true := faithful.live rfl
    simp only [toCome, Stage.receives, if_true] at harvest
    rw [FrameBuffer.harvest_frame found, List.append_cons] at harvest
    refine ⟨taken ++ [.ok frame], faithful.wire, faithful.balance_push (replies _ _), harvest, ?_,
      fun _ => live, nofun, trivial, nofun⟩
    show answered ++ [frame] = _
    rw [List.filterMap_append, ← known]
    rfl
  | exhausts answering found =>
    cases answering
    have live : active = true := faithful.live rfl
    simp only [toCome, Stage.receives, if_true] at harvest
    -- the search has moved on in the buffer, but it will give out the same
    rw [FrameBuffer.harvest_searched found] at harvest
    exact ⟨taken, faithful.wire, faithful.balance, harvest, known, fun _ => live,
      fun _ => FrameBuffer.next_none_again found, trivial, nofun⟩
  | @chokes e frames' answering found =>
    cases answering
    simp only [toCome, Stage.receives, if_true] at harvest
    -- nothing comes after a refusal, whatever the buffer still holds
    rw [FrameBuffer.harvest_refused found] at harvest
    refine ⟨taken ++ [.error e], faithful.wire, faithful.balance_push rfl, ?_, ?_, nofun, nofun,
      trivial, nofun⟩
    · rw [← harvest]
      exact List.append_nil _
    · rw [List.filterMap_append, ← known]
      exact (List.append_nil _).symm

theorem Faithful.step (faithful : Faithful answer plan reads sent taken c)
    (replies : ∀ frame s, (reply frame s).1 = answer frame) {e : Event} {reads' : List (List UInt8)}
    (smooth : Smooth c.stage reads e reads') (done : c.step reply s e = some (c', s')) :
    ∃ sent' taken', Faithful answer plan reads' sent' taken' c' := by
  generalize same : c.stage = stage at smooth
  cases smooth with
  | configure => exact ⟨sent, taken, faithful.configure done⟩
  | look => exact ⟨sent, taken, faithful.look done⟩
  | take =>
    obtain ⟨sent', faithful'⟩ := faithful.take done
    exact ⟨sent', taken, faithful'⟩
  | write count positive =>
    obtain ⟨sent', faithful'⟩ := faithful.write positive done
    exact ⟨sent', taken, faithful'⟩
  | stall => exact ⟨sent, taken, faithful.stall same done⟩
  | read bytes => exact ⟨sent, taken, faithful.read done⟩
  | quiet => exact ⟨sent, taken, faithful.quiet done⟩
  | ended => exact ⟨sent, taken, faithful.ended done⟩
  | answer =>
    obtain ⟨taken', faithful'⟩ := faithful.answerNext replies done
    exact ⟨sent, taken', faithful'⟩
  | empty =>
    obtain ⟨sent', faithful'⟩ := faithful.empty done
    exact ⟨sent', taken, faithful'⟩
  | close => exact ⟨sent, taken, faithful.close done⟩

end Events

theorem Faithful.notified (faithful : Faithful answer plan reads sent taken c) (n : Notification) :
    Faithful answer plan reads sent taken (c.enqueue (.notification n)).2 := by
  have silent : responses (c.outbox.push (.notification n)).queue = responses c.outbox.queue := by
    show responses (c.outbox.queue ++ [.notification n]) = _
    rw [responses_append, responses_notification, List.append_nil]
  unfold enqueue
  split
  · refine ⟨faithful.wire, ?_, faithful.harvest, faithful.answered, faithful.live, faithful.dry,
      faithful.busy, ?_⟩
    · rw [responses_append, silent, ← responses_append]
      exact faithful.balance
    · intro emptied
      exact silent.trans (faithful.emptied emptied)
  · exact faithful

/-! ## What the client reads -/

theorem Faithful.answers_prefix (faithful : Faithful answer plan reads sent taken c) :
    answersIn c.written <+: ((FrameBuffer.harvest {} plan).map (replyTo answer)).map Response.encode := by
  have begun : answersIn c.written <+: (responses sent).map Response.encode := by
    rw [← answersIn_encode, ← faithful.wire]
    exact answersIn_grows _ _
  have owed : responses sent <+: taken.map (replyTo answer) := by
    rw [← faithful.balance, List.append_assoc, responses_append]
    exact List.prefix_append _ _
  have all : taken <+: FrameBuffer.harvest {} plan := ⟨_, faithful.harvest⟩
  exact begun.trans ((owed.trans (all.map _)).map _)

theorem Faithful.answered_prefix (faithful : Faithful answer plan reads sent taken c) :
    c.answered <+: (FrameBuffer.harvest {} plan).filterMap Except.toOption := by
  rw [faithful.answered, ← faithful.harvest]
  exact (List.prefix_append taken _).filterMap _

theorem Faithful.closed (faithful : Faithful answer plan reads sent taken c)
    (closed : c.isClosed = true) :
    answersIn c.written = ((FrameBuffer.harvest {} plan).map (replyTo answer)).map Response.encode ∧
      Text.Whole c.written ∧ c.answered = (FrameBuffer.harvest {} plan).filterMap Except.toOption := by
  obtain ⟨id, active, outbox, frames, stage, wire, answered⟩ := c
  cases stage with
  | closed =>
    have written := faithful.wire
    have balance := faithful.balance
    have emptied : responses outbox.queue = [] := faithful.emptied rfl
    have harvest : taken = FrameBuffer.harvest {} plan :=
      (List.append_nil _).symm.trans faithful.harvest
    simp only [Stage.begun, List.append_nil] at written
    simp only [Stage.queued, List.append_nil, responses_append, emptied] at balance
    refine ⟨?_, ?_, ?_⟩
    · rw [written, answersIn_encode, balance, harvest]
    · rw [written, Text.Whole, Outbound.cutLines_encode]
    · rw [← harvest]
      exact faithful.answered
  | _ => cases closed

end Connection

end DebugGateway
