import DebugGateway.Proofs.Server.Delivery
import DebugGateway.Proofs.Server.Steps
import DebugGateway.Server.Connection
import Mathlib.Data.List.Induction

/-! What becomes of a message that a connection has taken. While the connection is active, asking and
then putting a message in does what it does in one go, so all that is put in before the outbox is emptied
for the last time is written. Only once all of that is written does the connection tell that it has ended;
what is put in meanwhile is lost. -/
namespace DebugGateway

namespace Connection

theorem step_close {σ : Type} {answer : List UInt8 → σ → Response × σ} {c c' : Connection} {s s' : σ}
    (done : c.step answer s .close = some (c', s')) : c.stage = .closing := by
  cases step_becomes done with
  | closes closing => exact closing

section Runs

variable {σ : Type} {answer : List UInt8 → σ → Response × σ} {start fin fin' : Connection × σ}
  {events : List Event} {queued queued' : List Outbound} {e : Event}

theorem Queues.last (run : Queues answer start (events ++ [e]) queued fin) :
    ∃ earlier state, Queues answer start events earlier state ∧
      step answer state.1 state.2 e = some fin ∧ queued = earlier ++ gained state.1 fin.1 := by
  generalize whole : events ++ [e] = all at run
  cases run with
  | nil => simp at whole
  | snoc e' run done =>
    obtain ⟨rfl, same⟩ := List.append_inj' whole rfl
    cases same
    exact ⟨_, _, run, done, rfl⟩

/-- What is queued on the way, and where a run leads, depends on its events only. -/
theorem Queues.unique (run : Queues answer start events queued fin)
    (run' : Queues answer start events queued' fin') : queued = queued' ∧ fin = fin' := by
  induction run generalizing queued' fin' with
  | nil =>
    generalize none : [] = events at run'
    cases run' with
    | nil => exact ⟨rfl, rfl⟩
    | snoc e run done => simp at none
  | snoc e _ done ih =>
    obtain ⟨earlier, state, before, done', rfl⟩ := run'.last
    obtain ⟨rfl, rfl⟩ := ih before
    obtain rfl := Option.some.inj (done.symm.trans done')
    exact ⟨rfl, rfl⟩

end Runs

end Connection

namespace Sending

open Connection (gained words DrainsSteadily)

/-- What an event is for the connection: a message that is put in after asking comes as one that is
taken at once. -/
def Event.deed : Event → Option Connection.Event
  | .own e => some e
  | .ask _ => none
  | .put m => some (.send m)

def deeds (events : List Event) : List Connection.Event := events.filterMap Event.deed

theorem deeds_append (events later : List Event) :
    deeds (events ++ later) = deeds events ++ deeds later := List.filterMap_append

theorem deeds_ask (m : Outbound) : deeds [.ask m] = [] := rfl

/-- A run, with the messages that were put into the outbox on the way, in their order. -/
inductive Queues {σ : Type} (answer : List UInt8 → σ → Response × σ) :
    Sending × σ → List Event → List Outbound → Sending × σ → Prop where
  | nil {start : Sending × σ} : Queues answer start [] [] start
  | snoc {start state next : Sending × σ} {events : List Event} {queued : List Outbound} (e : Event) :
    Queues answer start events queued state → Step answer state e next →
      Queues answer start (events ++ [e]) (queued ++ gained state.1.connection next.1.connection) next

section Steps

variable {σ : Type} {answer : List UInt8 → σ → Response × σ} {state next : Sending × σ} {c : Connection}
  {e : Event}

theorem ask_put (answer : List UInt8 → σ → Response × σ) (admitted : List Outbound) (m : Outbound) (s : σ)
    (live : c.active = true) :
    (c.enqueue m).1 = true ∧ Step answer (⟨c, admitted⟩, s) (.ask m) (⟨c, admitted ++ [m]⟩, s) ∧
      Step answer (⟨c, admitted ++ [m]⟩, s) (.put m) (⟨(c.enqueue m).2, admitted⟩, s) := by
  rw [Connection.enqueue, if_pos live]
  have put : Step answer (⟨c, admitted ++ [m]⟩, s) (.put m)
      (⟨{ c with outbox := c.outbox.push m }, admitted ++ []⟩, s) := .put
  rw [List.append_nil] at put
  exact ⟨rfl, .admitted live, put⟩

theorem ask_refused (answer : List UInt8 → σ → Response × σ) (admitted : List Outbound) (m : Outbound)
    (s : σ) (idle : c.active = false) :
    (c.enqueue m).1 = false ∧
      Step answer (⟨c, admitted⟩, s) (.ask m) (⟨(c.enqueue m).2, admitted⟩, s) := by
  rw [Connection.enqueue, if_neg (by simp [idle])]
  exact ⟨rfl, .refused idle⟩

theorem Step.lasting (step : Step answer state e next) (live : state.1.connection.active = true)
    (unstopped : e ≠ .own .deactivate) (lasts : e ≠ .own .close) :
    next.1.connection.active = true := by
  cases step with
  | own done =>
    rw [← live]
    exact Connection.step_active done (fun same => unstopped (congrArg _ same))
      fun same => lasts (congrArg _ same)
  | admitted | refused | put => exact live

end Steps

section Runs

variable {σ : Type} {answer : List UInt8 → σ → Response × σ} {start fin : Sending × σ}
  {events rest : List Event} {queued : List Outbound} {e : Event} {m : Outbound}

theorem Queues.last (run : Queues answer start (events ++ [e]) queued fin) :
    ∃ earlier state, Queues answer start events earlier state ∧ Step answer state e fin ∧
      queued = earlier ++ gained state.1.connection fin.1.connection := by
  generalize whole : events ++ [e] = all at run
  cases run with
  | nil => simp at whole
  | snoc e' run step =>
    obtain ⟨rfl, same⟩ := List.append_inj' whole rfl
    cases same
    exact ⟨_, _, run, step, rfl⟩

theorem Queues.none (run : Queues answer start [] queued fin) : start = fin := by
  generalize whole : [] = all at run
  cases run with
  | nil => rfl
  | snoc e run step => simp at whole

theorem Queues.middle (run : Queues answer start (events ++ rest) queued fin) :
    ∃ early late mid, Queues answer start events early mid ∧ Queues answer mid rest late fin ∧
      queued = early ++ late := by
  induction rest using List.reverseRecOn generalizing queued fin with
  | nil =>
    rw [List.append_nil] at run
    exact ⟨queued, [], fin, run, .nil, (List.append_nil _).symm⟩
  | append_singleton rest e ih =>
    rw [← List.append_assoc] at run
    obtain ⟨earlier, state, before, step, rfl⟩ := run.last
    obtain ⟨early, late, mid, first, second, rfl⟩ := ih before
    exact ⟨early, _, mid, first, second.snoc e step, List.append_assoc _ _ _⟩

theorem Queues.first (run : Queues answer start (e :: rest) queued fin) :
    ∃ next late, Step answer start e next ∧ Queues answer next rest late fin := by
  have split : Queues answer start ([e] ++ rest) queued fin := run
  obtain ⟨_, late, next, one, others, rfl⟩ := split.middle
  have last : Queues answer start ([] ++ [e]) _ next := one
  obtain ⟨_, state, before, step, rfl⟩ := last.last
  obtain rfl := before.none
  exact ⟨next, late, step, others⟩

theorem Queues.lasting (run : Queues answer start events queued fin)
    (live : start.1.connection.active = true) (unstopped : .own .deactivate ∉ events)
    (lasts : .own .close ∉ events) : fin.1.connection.active = true ∧
      Connection.Queues answer (start.1.connection, start.2) (deeds events) queued
        (fin.1.connection, fin.2) := by
  induction run with
  | nil => exact ⟨live, .nil⟩
  | snoc e _ step ih =>
    simp only [List.mem_append, List.mem_singleton, not_or] at unstopped lasts
    obtain ⟨live, plain⟩ := ih unstopped.1 lasts.1
    refine ⟨step.lasting live (Ne.symm unstopped.2) (Ne.symm lasts.2), ?_⟩
    rw [deeds_append]
    cases step with
    | own done => exact plain.snoc _ done
    | admitted | refused => simpa [deeds_ask, gained] using plain
    | @put c s _ _ m =>
      have taken : c.step answer s (.send m) = some ({ c with outbox := c.outbox.push m }, s) := by
        rw [Connection.step, Connection.enqueue, if_pos live]
      exact plain.snoc _ taken

theorem Queues.silent (run : Queues answer start events queued fin)
    (ceased : start.1.connection.stage.isOver = true) :
    fin.1.connection.stage.isOver = true ∧ fin.1.connection.wire = start.1.connection.wire ∧
      .own (.read .ended) ∉ events := by
  induction run with
  | nil => exact ⟨ceased, rfl, List.not_mem_nil⟩
  | snoc e run step ih =>
    obtain ⟨ceased, wire, unread⟩ := ih
    cases step with
    | own done =>
      obtain ⟨wire', ceased'⟩ := Connection.step_over ceased done
      refine ⟨ceased', wire'.trans wire, ?_⟩
      intro read
      rcases List.mem_append.mp read with earlier | now
      · exact unread earlier
      · cases List.mem_singleton.mp now
        rw [(Connection.step_ended done).1] at ceased
        contradiction
    | admitted | refused | put => exact ⟨ceased, wire, by simpa using unread⟩

theorem deeds_split {before after : List Connection.Event} {d : Connection.Event}
    (split : deeds events = before ++ d :: after) (silent : ∀ m, d ≠ .send m) :
    ∃ first rest, events = first ++ .own d :: rest ∧ deeds first = before := by
  obtain ⟨first, others, rfl, before_eq, others_eq⟩ := List.filterMap_eq_append_iff.mp split
  obtain ⟨quiet, e, rest, rfl, nothing, deed, _⟩ := List.filterMap_eq_cons_iff.mp others_eq
  cases e with
  | own e =>
    cases deed
    refine ⟨first ++ quiet, rest, (List.append_assoc _ _ _).symm, ?_⟩
    rw [deeds_append, deeds, before_eq, deeds, List.filterMap_eq_nil_iff.mpr nothing,
      List.append_nil]
  | ask m => contradiction
  | put m =>
    cases deed
    exact absurd rfl (silent m)

theorem Queues.ceased (run : Queues answer start rest queued fin)
    (closed : fin.1.connection.isClosed = true)
    (closes : rest = [] ∨ ∃ later, rest = .own .close :: later) :
    start.1.connection.stage.isOver = true := by
  rcases closes with rfl | ⟨later, rfl⟩
  · rw [run.none, Connection.closed_stage closed]
    rfl
  · obtain ⟨next, late, step, _⟩ := run.first
    cases step with
    | own done =>
      rw [Connection.step_close done]
      rfl

theorem Queues.emptied (run : Queues answer start events queued fin)
    (live : start.1.connection.active = true) (unstopped : .own .deactivate ∉ events)
    (lasts : .own .close ∉ events) {drained : List Outbound}
    (before : Connection.BeforeDrain answer (start.1.connection, start.2) (deeds events) drained) :
    ∃ first rest mid, events = first ++ .own .empty :: rest ∧ Queues answer start first drained mid ∧
      drained <+: queued := by
  obtain ⟨before, after, state, split, plain⟩ := before
  obtain ⟨first, rest, rfl, rfl⟩ := deeds_split split (by simp)
  obtain ⟨early, late, mid, begun, _, rfl⟩ := run.middle
  simp only [List.mem_append, not_or] at unstopped lasts
  obtain ⟨rfl, _⟩ := (begun.lasting live unstopped.1 lasts.1).2.unique plain
  exact ⟨first, rest, mid, rfl, begun, List.prefix_append _ _⟩

end Runs

/-- A client that keeps reading has sent all it wanted to send. One word is put in before the outbox is
emptied for the last time, another one while the first is being written. -/
def overtaken : List Event :=
  [.own (.configure true), .own .look, .own .take, .own .look, .ask words.1, .put words.1,
    .own (.read .ended), .own .empty, .ask words.2, .own (.write (.took words.1.encode.length)),
    .put words.2, .own .close]

theorem overtaken_run : ∃ q : Sending, q.connection.isClosed = true ∧
    q.connection.written = words.1.encode ∧
    Queues (fun _ _ => (Dispatch.oversize "", ())) ({ connection := { id := 7 } }, ()) overtaken
      [words.1, words.2] (q, ()) := by
  have put {c : Connection} (m : Outbound) :
      Step (fun _ _ => (Dispatch.oversize "", ())) (⟨c, [m]⟩, ()) (.put m)
        (⟨{ c with outbox := c.outbox.push m }, []⟩, ()) := @Step.put _ _ c () [] [] m
  have run : Queues (fun _ _ => (Dispatch.oversize "", ())) ({ connection := { id := 7 } }, ()) _ _ _ :=
    .snoc (.own .close) (.snoc (.put words.2)
    (.snoc (.own (.write (.took words.1.encode.length))) (.snoc (.ask words.2) (.snoc (.own .empty)
    (.snoc (.own (.read .ended)) (.snoc (.put words.1) (.snoc (.ask words.1) (.snoc (.own .look)
    (.snoc (.own .take) (.snoc (.own .look) (.snoc (.own (.configure true)) .nil (.own rfl)) (.own rfl))
    (.own rfl)) (.own rfl)) (.admitted rfl)) (put _)) (.own rfl)) (.own rfl)) (.admitted rfl))
    (.own rfl)) (put _)) (.own rfl)
  exact ⟨_, rfl, by decide +kernel, run⟩

end Sending

end DebugGateway
