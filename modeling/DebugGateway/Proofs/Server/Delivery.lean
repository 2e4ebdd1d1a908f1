import DebugGateway.Proofs.Server.Correlation

/-! What a client receives, whatever its stream does. The bytes that were written, those that are being
written and the messages that wait make up one account of everything that was put into the outbox; only
a write that falters takes from it, and then nothing more is written. -/
namespace DebugGateway

/-- Bytes of messages that were taken from the outbox and are not yet written. -/
def Stage.unwritten : Stage → List UInt8
  | .writing pending => pending
  | .draining pending queued => pending ++ queued.flatMap Outbound.encode
  | _ => []

def Stage.isOver : Stage → Bool
  | .closing | .closed => true
  | _ => false

namespace Connection

def Event.falters : Event → Bool
  | .write (.took 0) | .write (.fault _) => true
  | _ => false

def Event.failsWriting : Event → Bool
  | .write (.took 0) | .write (.fault .gone) | .write (.fault .failed) => true
  | _ => false

def carried (c : Connection) : List UInt8 := c.written ++ c.stage.unwritten

def account (c : Connection) : List UInt8 :=
  c.carried ++ c.outbox.queue.flatMap Outbound.encode

/-- The messages put into the outbox on the way from `c` to `c'`: those behind all that were there. -/
def gained (c c' : Connection) : List Outbound := c'.outbox.queue.drop c.outbox.queue.length

/-- A run, with the messages that were put into the outbox on the way, in their order. -/
inductive Queues {σ : Type} (answer : List UInt8 → σ → Response × σ) :
    Connection × σ → List Event → List Outbound → Connection × σ → Prop where
  | nil {start : Connection × σ} : Queues answer start [] [] start
  | snoc {start state next : Connection × σ} {events : List Event} {queued : List Outbound} (e : Event) :
    Queues answer start events queued state → step answer state.1 state.2 e = some next →
      Queues answer start (events ++ [e]) (queued ++ gained state.1 next.1) next

/-- Once a write has told that the client is gone, the stream takes nothing more. -/
def StaysGone (events : List Event) : Prop :=
  events.Pairwise fun e later =>
    e = .write (.fault .gone) → ∀ count, 0 < count → later ≠ .write (.took count)

inductive Moves (c c' : Connection) : Event → Prop where
  | passes {e : Event} (pushed : List Outbound) : c'.carried = c.carried →
    c'.outbox.queue = c.outbox.queue ++ pushed → (c.stage = .emptying → c'.stage = .emptying) →
      Moves c c' e
  | takes (taken : List Outbound) : c.stage = .taking → c.outbox.queue = taken ++ c'.outbox.queue →
    c'.carried = c.carried ++ taken.flatMap Outbound.encode → Moves c c' .take
  | empties : c.stage = .emptying → c'.outbox.queue = [] → c'.stage.isEmptied = true →
    c'.carried = c.account → Moves c c' .empty
  | falters {e : Event} : e.falters = true → c'.wire = c.wire → c'.outbox = c.outbox →
    c'.stage.isOver = true ∨ e = .write (.fault .gone) → Moves c c' e

theorem unwritten_afterWriting (pending : List UInt8) : (afterWriting pending).unwritten = pending := by
  cases pending <;> rfl

theorem unwritten_afterDraining (pending : List UInt8) (queued : List Outbound) :
    (afterDraining pending queued).unwritten = pending ++ queued.flatMap Outbound.encode := by
  cases pending with
  | cons b pending => rfl
  | nil => cases queued <;> simp [afterDraining, Stage.unwritten]

theorem isEmptied_afterDraining (pending : List UInt8) (queued : List Outbound) :
    (afterDraining pending queued).isEmptied = true := by
  cases pending with
  | cons b pending => rfl
  | nil => cases queued <;> rfl

theorem isOver_afterFault (c : Connection) {f : StreamFault} (other : f ≠ .gone) :
    (c.afterFault f).isOver = true := by
  unfold afterFault
  cases f with
  | gone => exact absurd rfl other
  | idle => split <;> rfl
  | failed => split <;> rfl

section Steps

variable {σ : Type} {answer : List UInt8 → σ → Response × σ} {c c' : Connection} {s s' : σ} {e : Event}

theorem Moves.quiet (carried : c'.carried = c.carried) (outbox : c'.outbox = c.outbox)
    (stage : c.stage = .emptying → c'.stage = .emptying) : Moves c c' e :=
  .passes [] carried (by simp [outbox]) stage

theorem moves_writing {pending : List UInt8} {outcome : WriteOutcome} (writing : c.stage = .writing pending)
    (done : c.accepted pending afterWriting (c.afterWriteFault pending) outcome = some c') :
    Moves c c' (.write outcome) := by
  have serving {d : Connection} : c.stage = .emptying → d.stage = .emptying := by simp [writing]
  cases outcome with
  | took count =>
    rcases Nat.eq_zero_or_pos count with rfl | positive
    · simp [accepted] at done
      subst done
      have ceased : (c.afterFault .failed).isOver = true := isOver_afterFault c (by decide)
      exact .falters rfl rfl rfl (.inl ceased)
    · obtain ⟨wire, stage, rfl, rfl, kept⟩ := accepted_took positive done
      refine .quiet ?_ rfl serving
      show _ ++ (afterWriting _).unwritten = _
      rw [unwritten_afterWriting, carried, writing]
      exact kept
  | fault f =>
    cases done
    cases f with
    | idle =>
      by_cases live : c.active = true
      · refine .quiet ?_ rfl serving
        simp [carried, written, afterWriteFault, live, writing]
      · refine .falters rfl rfl rfl (.inl ?_)
        simp [afterWriteFault, live, Stage.isOver]
    | gone => exact .falters rfl rfl rfl (.inr rfl)
    | failed =>
      have ceased : (c.afterFault .failed).isOver = true := isOver_afterFault c (by decide)
      exact .falters rfl rfl rfl (.inl ceased)

theorem moves_draining {pending : List UInt8} {queued : List Outbound} {outcome : WriteOutcome}
    (draining : c.stage = .draining pending queued)
    (done : c.accepted pending (afterDraining · queued) (fun _ => .closing) outcome = some c') :
    Moves c c' (.write outcome) := by
  cases outcome with
  | took count =>
    rcases Nat.eq_zero_or_pos count with rfl | positive
    · simp [accepted] at done
      subst done
      exact .falters rfl rfl rfl (.inl rfl)
    · obtain ⟨wire, stage, rfl, rfl, kept⟩ := accepted_took positive done
      refine .quiet ?_ rfl (by simp [draining])
      have split := unwritten_afterDraining (pending.drop count) queued
      calc { c with wire }.written ++ (afterDraining (pending.drop count) queued).unwritten
        _ = { c with wire }.written ++ pending.drop count ++ queued.flatMap Outbound.encode := by
            rw [split, List.append_assoc]
        _ = c.written ++ (pending ++ queued.flatMap Outbound.encode) := by
            rw [kept, List.append_assoc]
        _ = c.carried := by rw [carried, draining, Stage.unwritten]
  | fault f =>
    cases done
    exact .falters rfl rfl rfl (.inl rfl)

theorem unwritten_afterFault (c : Connection) (f : StreamFault) : (c.afterFault f).unwritten = [] := by
  unfold afterFault
  cases f <;> split <;> rfl

theorem step_moves (done : c.step answer s e = some (c', s')) : Moves c c' e := by
  have turned {stage stage' : Stage} {active : Bool} (here : c.stage = stage)
      (still : stage ≠ .emptying) (held : stage.unwritten = []) (nothing : stage'.unwritten = []) :
      Moves c { c with active, stage := stage' } e := by
    refine .quiet ?_ rfl fun emptying => absurd (here.symm.trans emptying) still
    show c.written ++ stage'.unwritten = _
    rw [nothing, carried, here, held]
  cases step_becomes done with
  | configures here => exact turned here (by simp) rfl (by split <;> rfl)
  | starts here => exact turned here (by simp) rfl (by split <;> rfl)
  | turns here => exact turned here (by simp) rfl (by split <;> rfl)
  | takes taking waiting =>
    refine .takes [_] taking waiting ?_
    show c.written ++ (afterWriting _).unwritten = _
    rw [unwritten_afterWriting, carried, taking]
    simp [Stage.unwritten]
  | idles here => exact turned here (by simp) rfl rfl
  | writes writing accepted => exact moves_writing writing accepted
  | drains draining accepted => exact moves_draining draining accepted
  | reads here =>
    refine .quiet ?_ rfl (by simp [here])
    simp [carried, written, here, Stage.unwritten]
  | ends here => exact turned here (by simp) rfl rfl
  | waits here => exact turned here (by simp) rfl rfl
  | @loses f here => exact turned here (by simp) rfl (unwritten_afterFault c f)
  | answers here => exact .passes [_] rfl rfl (by simp [here])
  | exhausts here =>
    refine .quiet ?_ rfl (by simp [here])
    simp [carried, written, here, Stage.unwritten]
  | chokes here =>
    refine .passes [_] ?_ rfl (by simp [here])
    simp [carried, written, here, Stage.unwritten]
  | empties emptying =>
    refine .empties emptying rfl (isEmptied_afterDraining [] c.outbox.queue) ?_
    show c.written ++ (afterDraining [] c.outbox.queue).unwritten = _
    rw [unwritten_afterDraining, account, carried, emptying]
    simp [Stage.unwritten]
  | closes here => exact turned here (by simp) rfl rfl
  | @queues m active => exact .passes [m] rfl rfl fun emptying => emptying
  | refuses => exact .quiet rfl rfl fun emptying => emptying
  | deactivates => exact .quiet rfl rfl fun emptying => emptying

/-- Unless a write falters, what is put into the outbox is all that the account gains. -/
theorem Moves.account (moves : Moves c c' e) :
    c'.account = c.account ++ (gained c c').flatMap Outbound.encode ∨
      e.falters = true ∧ c'.wire = c.wire ∧ gained c c' = [] ∧
        (c'.stage.isOver = true ∨ e = .write (.fault .gone)) := by
  cases moves with
  | passes pushed carried queue _ =>
    left
    rw [gained, Connection.account, Connection.account, carried, queue]
    simp
  | takes taken _ queue carried =>
    left
    have none : gained c c' = [] := by simp [gained, queue]
    rw [none, Connection.account, Connection.account, carried, queue]
    simp
  | empties _ queue _ carried =>
    left
    have none : gained c c' = [] := by simp [gained, queue]
    rw [none, Connection.account, carried, queue]
  | falters falters wire outbox lost =>
    right
    exact ⟨falters, wire, by simp [gained, outbox], lost⟩

theorem step_over (ceased : c.stage.isOver = true) (done : c.step answer s e = some (c', s')) :
    c'.wire = c.wire ∧ c'.stage.isOver = true := by
  cases step_becomes done with
  | queues | refuses | deactivates => exact ⟨rfl, ceased⟩
  | closes => exact ⟨rfl, rfl⟩
  | configures here | starts here | turns here | takes here | idles here | writes here | drains here
  | reads here | ends here | waits here | loses here | answers here | exhausts here | chokes here
  | empties here =>
    rw [here] at ceased
    cases ceased

theorem accepted_wire {pending : List UInt8} {next : List UInt8 → Stage} {lost : StreamFault → Stage}
    {outcome : WriteOutcome} (done : c.accepted pending next lost outcome = some c') :
    c'.wire = c.wire ∨ ∃ count, 0 < count ∧ Event.write outcome = .write (.took count) := by
  cases outcome with
  | took count =>
    rcases Nat.eq_zero_or_pos count with rfl | positive
    · simp [accepted] at done
      subst done
      exact .inl rfl
    · exact .inr ⟨count, positive, rfl⟩
  | fault f =>
    cases done
    exact .inl rfl

theorem step_wire (done : c.step answer s e = some (c', s')) :
    c'.wire = c.wire ∨ ∃ count, 0 < count ∧ e = .write (.took count) := by
  cases step_becomes done with
  | writes _ accepted => exact accepted_wire accepted
  | drains _ accepted => exact accepted_wire accepted
  | _ => exact .inl rfl

end Steps

/-- These messages were put into the outbox before it was emptied for the last time. -/
def BeforeDrain {σ : Type} (answer : List UInt8 → σ → Response × σ) (start : Connection × σ)
    (events : List Event) (drained : List Outbound) : Prop :=
  ∃ before after mid, events = before ++ .empty :: after ∧ Queues answer start before drained mid

section Runs

variable {σ : Type} {answer : List UInt8 → σ → Response × σ} {start : Connection × σ}
  {events : List Event} {queued : List Outbound} {c c' : Connection} {s s' : σ} {e : Event}

/-- Everything queued is on its way, or some of it is lost and nothing more will be written. -/
def Sound (events : List Event) (queued : List Outbound) (c : Connection) : Prop :=
  c.account = queued.flatMap Outbound.encode ∨
    c.written <+: queued.flatMap Outbound.encode ∧
      (c.stage.isOver = true ∨ Event.write (.fault .gone) ∈ events)

theorem written_account (c : Connection) : c.written <+: c.account := by
  rw [account, carried, List.append_assoc]
  exact List.prefix_append _ _

theorem Sound.begun (sound : Sound events queued c) :
    c.written <+: queued.flatMap Outbound.encode := by
  rcases sound with whole | ⟨begun, _⟩
  · rw [← whole]
    exact written_account c
  · exact begun

theorem StaysGone.init (gone : StaysGone (events ++ [e])) : StaysGone events :=
  (List.pairwise_append.mp gone).1

theorem step_lost (gone : StaysGone (events ++ [e])) (done : c.step answer s e = some (c', s'))
    (lost : c.stage.isOver = true ∨ Event.write (.fault .gone) ∈ events) :
    c'.wire = c.wire ∧ (c'.stage.isOver = true ∨ Event.write (.fault .gone) ∈ events ++ [e]) := by
  rcases lost with ceased | told
  · obtain ⟨wire, ceased'⟩ := step_over ceased done
    exact ⟨wire, .inl ceased'⟩
  · have later := (List.pairwise_append.mp gone).2.2 _ told e (List.mem_singleton_self e) rfl
    refine ⟨?_, .inr (List.mem_append_left _ told)⟩
    rcases step_wire done with wire | ⟨count, positive, took⟩
    · exact wire
    · exact absurd took (later count positive)

theorem Sound.step (sound : Sound events queued c) (gone : StaysGone (events ++ [e]))
    (done : c.step answer s e = some (c', s')) :
    Sound (events ++ [e]) (queued ++ gained c c') c' := by
  rcases sound with whole | ⟨begun, lost⟩
  · rcases (step_moves done).account with kept | ⟨_, wire, none, lost⟩
    · left
      rw [kept, whole, List.flatMap_append]
    · right
      constructor
      · rw [none, List.append_nil, ← whole, written, wire]
        exact written_account c
      · rcases lost with ceased | rfl
        · exact .inl ceased
        · exact .inr (List.mem_append_right _ (List.mem_singleton_self _))
  · right
    obtain ⟨wire, lost⟩ := step_lost gone done lost
    constructor
    · rw [written, wire, List.flatMap_append]
      exact begun.trans (List.prefix_append _ _)
    · exact lost

theorem Queues.sound {id : Nat} {state : Connection × σ}
    (run : Queues answer ({ id }, s) events queued state) (gone : StaysGone events) :
    Sound events queued state.1 := by
  induction run with
  | nil => exact .inl rfl
  | snoc e _ done ih => exact (ih gone.init).step gone done

/-! ## The end of a connection whose client sends nothing more -/

def DrainsSteadily (events : List Event) : Prop :=
  events.Pairwise fun e later => e = .empty → later ≠ .write (.fault .idle)

/-- What is left once the client sends nothing more: all that is queued is about to be taken from the
outbox, or all that was queued has been taken. -/
inductive Ending (answer : List UInt8 → σ → Response × σ) (start : Connection × σ)
    (events : List Event) (queued : List Outbound) (c : Connection) : Prop where
  | whole : c.stage = .emptying → c.account = queued.flatMap Outbound.encode →
    Ending answer start events queued c
  | drained (messages : List Outbound) : BeforeDrain answer start events messages →
    c.stage.isEmptied = true → c.carried = messages.flatMap Outbound.encode →
      Ending answer start events queued c

theorem BeforeDrain.snoc {messages : List Outbound} (before : BeforeDrain answer start events messages)
    (e : Event) : BeforeDrain answer start (events ++ [e]) messages := by
  obtain ⟨first, after, mid, rfl, run⟩ := before
  exact ⟨first, after ++ [e], mid, by simp, run⟩

theorem step_emptied (emptied : c.stage.isEmptied = true) (done : c.step answer s e = some (c', s')) :
    c'.stage.isEmptied = true := by
  cases step_becomes done with
  | drains _ accepted =>
    obtain ⟨wire, stage, rfl, ⟨rest, rfl⟩ | ⟨f, rfl⟩⟩ := accepted_cases accepted
    · exact isEmptied_afterDraining rest _
    · rfl
  | closes => rfl
  | queues | refuses | deactivates => exact emptied
  | configures here | starts here | turns here | takes here | idles here | writes here | reads here
  | ends here | waits here | loses here | answers here | exhausts here | chokes here | empties here =>
    rw [here] at emptied
    cases emptied

theorem falters_cases (falters : e.falters = true) :
    e.failsWriting = true ∨ e = .write (.fault .idle) := by
  unfold Event.falters at falters
  split at falters
  · exact .inl rfl
  · rename_i f
    cases f with
    | idle => exact .inr rfl
    | gone | failed => exact .inl rfl
  · contradiction

theorem not_falters (emptying : c.stage = .emptying) (done : c.step answer s e = some (c', s')) :
    e.falters = false := by
  cases step_becomes done with
  | writes writing => cases emptying.symm.trans writing
  | drains draining => cases emptying.symm.trans draining
  | _ => rfl

theorem Ending.step (ending : Ending answer start events queued c)
    (run : Queues answer start events queued (c, s)) (safe : e.failsWriting = false)
    (steady : DrainsSteadily (events ++ [e])) (done : c.step answer s e = some (c', s')) :
    Ending answer start (events ++ [e]) (queued ++ gained c c') c' := by
  have moves := step_moves done
  -- only emptying the outbox leads from the first case to the second, and nothing leads back
  cases ending with
  | whole emptying whole =>
    have calm := not_falters emptying done
    have kept : c'.account = c.account ++ (gained c c').flatMap Outbound.encode := by
      rcases moves.account with kept | ⟨falters, _⟩
      · exact kept
      · rw [calm] at falters
        contradiction
    cases moves with
    | passes pushed _ _ stays =>
      apply Ending.whole (stays emptying)
      rw [kept, whole, List.flatMap_append]
    | takes taken taking => rw [emptying] at taking; contradiction
    | empties _ _ emptied carried =>
      exact .drained queued ⟨events, [], _, rfl, run⟩ emptied (carried.trans whole)
    | falters falters => rw [calm] at falters; contradiction
  | drained messages before emptied carried =>
    apply Ending.drained messages (before.snoc e) (step_emptied emptied done)
    cases moves with
    | passes pushed same => exact same.trans carried
    | takes taken taking => rw [taking] at emptied; contradiction
    | empties emptying => rw [emptying] at emptied; contradiction
    | falters falters =>
      rcases falters_cases falters with fails | rfl
      · rw [safe] at fails
        contradiction
      · -- the only fault that is left is a write that is held up behind the emptying
        obtain ⟨first, after, mid, rfl, _⟩ := before
        have held := (List.pairwise_append.mp steady).2.2 .empty (by simp) _ (List.mem_singleton_self _)
        exact absurd rfl (held rfl)

theorem step_ended (done : c.step answer s (.read .ended) = some (c', s')) :
    c.stage = .reading ∧ c' = { c with stage := .emptying } := by
  cases step_becomes done with
  | ends reading => exact ⟨reading, rfl⟩

theorem staysGone_of_safe (safe : ∀ e ∈ events, e.failsWriting = false) : StaysGone events := by
  apply List.pairwise_of_forall_mem_list
  intro e member later _ gone
  have fine := safe e member
  rw [gone] at fine
  contradiction

theorem Queues.ending {id : Nat} {state : Connection × σ}
    (run : Queues answer ({ id }, s) events queued state)
    (safe : ∀ e ∈ events, e.failsWriting = false) (steady : DrainsSteadily events)
    (ended : Event.read .ended ∈ events) : Ending answer ({ id }, s) events queued state.1 := by
  induction run with
  | nil => cases ended
  | @snoc state next events queued e run done ih =>
    have safe' : ∀ e ∈ events, e.failsWriting = false :=
      fun e member => safe e (List.mem_append_left _ member)
    -- the client's end is seen before the last event, or is the last event
    rcases List.mem_append.mp ended with earlier | now
    · have steady' : DrainsSteadily events := (List.pairwise_append.mp steady).1
      have safe_e := safe e (List.mem_append_right _ (List.mem_singleton_self e))
      exact (ih safe' steady' earlier).step run safe_e steady done
    · obtain rfl := List.mem_singleton.mp now
      obtain ⟨reading, turned⟩ := step_ended done
      have gained : gained state.1 next.1 = [] := by simp [gained, turned]
      rcases run.sound (staysGone_of_safe safe') with whole | ⟨_, ceased | gone⟩
      · apply Ending.whole
        · rw [turned]
        · rw [gained, List.append_nil, ← whole, turned]
          simp [account, carried, written, reading, Stage.unwritten]
      · rw [reading] at ceased
        contradiction
      · have fine := safe' _ gone
        contradiction

end Runs

theorem closed_stage {c : Connection} (closed : c.isClosed = true) : c.stage = .closed := by
  unfold isClosed at closed
  split at closed
  · assumption
  · contradiction

/-- Whatever the stream does, what it took is the beginning of all messages in the order in which they
were put into the outbox. A connection that ended because its client sent nothing more has written all
that waited when the outbox was emptied, unless a write failed or was held up after that. -/
theorem written_in_order {σ : Type} (answer : List UInt8 → σ → Response × σ) (id : Nat) (s : σ)
    {events : List Event} {queued : List Outbound} {c : Connection} {s' : σ}
    (run : Queues answer ({ id }, s) events queued (c, s')) (gone : StaysGone events) :
    c.written <+: queued.flatMap Outbound.encode ∧
      (c.isClosed = true → Event.read .ended ∈ events → (∀ e ∈ events, e.failsWriting = false) →
        DrainsSteadily events → ∃ drained, BeforeDrain answer ({ id }, s) events drained ∧
          c.written = drained.flatMap Outbound.encode) := by
  constructor
  · exact (run.sound gone).begun
  · intro closed ended safe steady
    have stands : c.stage = .closed := closed_stage closed
    cases run.ending safe steady ended with
    | whole emptying =>
      rw [stands] at emptying
      contradiction
    | drained messages before _ carried =>
      refine ⟨messages, before, ?_⟩
      rw [← carried, Connection.carried, stands]
      exact (List.append_nil _).symm

def words : Outbound × Outbound :=
  (.notification ⟨"breakpoint", .null⟩, .notification ⟨"output", .null⟩)

/-- The first word is written in two pieces with a pause between them, the second once the client sends
nothing more; the connection is asked to stop while it is being written. -/
def pieces : List Event :=
  [.configure true, .send words.1, .look, .take, .write (.took 3), .write (.fault .idle),
    .send words.2, .write (.took (words.1.encode.length - 3)), .look, .read .ended, .empty,
    .write (.took 5), .deactivate, .write (.took (words.2.encode.length - 5)), .close]

theorem pieces_run : ∃ c : Connection, c.isClosed = true ∧
    Queues (fun _ _ => (Dispatch.oversize "", ())) ({ id := 7 }, ()) pieces [words.1, words.2] (c, ()) := by
  have run : Queues (fun _ _ => (Dispatch.oversize "", ())) ({ id := 7 }, ()) _ _ _ :=
    .snoc .close (.snoc (.write (.took (words.2.encode.length - 5))) (.snoc .deactivate
    (.snoc (.write (.took 5)) (.snoc .empty (.snoc (.read .ended) (.snoc .look
    (.snoc (.write (.took (words.1.encode.length - 3))) (.snoc (.send words.2)
    (.snoc (.write (.fault .idle)) (.snoc (.write (.took 3)) (.snoc .take (.snoc .look
    (.snoc (.send words.1) (.snoc (.configure true) .nil rfl) rfl) rfl) rfl) rfl) rfl) rfl) rfl) rfl)
    rfl) rfl) rfl) rfl) rfl) rfl
  exact ⟨_, rfl, run⟩

theorem pieces_safe : ∀ e ∈ pieces, e.failsWriting = false := by
  have first : 0 < words.1.encode.length - 3 := by decide +kernel
  have second : 0 < words.2.encode.length - 5 := by decide +kernel
  simp [pieces, Event.failsWriting, Nat.ne_of_gt first, Nat.ne_of_gt second]

theorem pieces_steady : DrainsSteadily pieces := by
  simp [DrainsSteadily, pieces]

theorem pieces_in_order : ∃ c : Connection,
    c.isClosed = true ∧ StaysGone pieces ∧ DrainsSteadily pieces ∧
      c.written <+: [words.1, words.2].flatMap Outbound.encode ∧
      ∃ drained, BeforeDrain (fun _ _ => (Dispatch.oversize "", ())) ({ id := 7 }, ()) pieces drained ∧
        c.written = drained.flatMap Outbound.encode := by
  obtain ⟨c, closed, run⟩ := pieces_run
  have gone := staysGone_of_safe pieces_safe
  have ended : Event.read .ended ∈ pieces := by simp [pieces]
  obtain ⟨begun, whole⟩ := written_in_order _ 7 () run gone
  exact ⟨c, closed, gone, pieces_steady, begun, whole closed ended pieces_safe pieces_steady⟩

end Connection

end DebugGateway
