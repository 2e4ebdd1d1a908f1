import DebugGateway.Server
import DebugGateway.Server.Connection

namespace DebugGateway.Connection

variable {σ : Type} {answer : List UInt8 → σ → Response × σ} {c c' : Connection} {s s' : σ} {e : Event}

inductive Becomes (answer : List UInt8 → σ → Response × σ) (c : Connection) (s : σ) :
    Event → Connection → σ → Prop where
  | configures {ready : Bool} : c.stage = .configuring →
    Becomes answer c s (.configure ready) { c with stage := if ready then .starting else .closing } s
  | starts : c.stage = .starting →
    Becomes answer c s .look { c with stage := if c.active then .taking else .closing } s
  | turns : c.stage = .turning →
    Becomes answer c s .look { c with stage := if c.active then .reading else .closing } s
  | takes {m : Outbound} {rest : List Outbound} : c.stage = .taking → c.outbox.queue = m :: rest →
    Becomes answer c s .take { c with outbox := ⟨rest⟩, stage := afterWriting m.encode } s
  | idles : c.stage = .taking → c.outbox.queue = [] →
    Becomes answer c s .take { c with stage := .turning } s
  | writes {pending : List UInt8} {outcome : WriteOutcome} {c' : Connection} : c.stage = .writing pending →
    c.accepted pending afterWriting (c.afterWriteFault pending) outcome = some c' →
      Becomes answer c s (.write outcome) c' s
  | drains {pending : List UInt8} {queued : List Outbound} {outcome : WriteOutcome} {c' : Connection} :
    c.stage = .draining pending queued →
    c.accepted pending (afterDraining · queued) (fun _ => .closing) outcome = some c' →
      Becomes answer c s (.write outcome) c' s
  | reads {bytes : List UInt8} : c.stage = .reading → bytes.length ≤ FrameBuffer.readChunk →
    Becomes answer c s (.read (.data bytes)) { c with frames := c.frames.extend bytes, stage := .answering } s
  | ends : c.stage = .reading → Becomes answer c s (.read .ended) { c with stage := .emptying } s
  | waits : c.stage = .reading → Becomes answer c s (.read (.fault .idle)) { c with stage := .starting } s
  | loses {f : StreamFault} : c.stage = .reading → f ≠ .idle →
    Becomes answer c s (.read (.fault f)) { c with stage := c.afterFault f } s
  | answers {frame : List UInt8} {frames : FrameBuffer} : c.stage = .answering →
    c.frames.next = (.ok (some frame), frames) →
      Becomes answer c s .answer
        { c with
          frames
          outbox := c.outbox.push (.response (answer frame s).1)
          answered := c.answered ++ [frame] }
        (answer frame s).2
  | exhausts {frames : FrameBuffer} : c.stage = .answering → c.frames.next = (.ok none, frames) →
    Becomes answer c s .answer { c with frames, stage := .starting } s
  | chokes {e : FrameTooLarge} {frames : FrameBuffer} : c.stage = .answering →
    c.frames.next = (.error e, frames) →
      Becomes answer c s .answer
        { c with
          frames
          outbox := c.outbox.push (.response (Dispatch.oversize e.message))
          stage := .emptying }
        s
  | empties : c.stage = .emptying →
    Becomes answer c s .empty { c with outbox := {}, stage := afterDraining [] c.outbox.queue } s
  | closes : c.stage = .closing →
    Becomes answer c s .close { c with active := false, stage := .closed } s
  | queues {m : Outbound} : c.active = true →
    Becomes answer c s (.send m) { c with outbox := c.outbox.push m } s
  | refuses {m : Outbound} : c.active = false → Becomes answer c s (.send m) c s
  | deactivates : Becomes answer c s .deactivate { c with active := false } s

theorem received_becomes {outcome : ReadOutcome} (reading : c.stage = .reading)
    (done : c.received outcome = some c') : Becomes answer c s (.read outcome) c' s := by
  cases outcome with
  | data bytes =>
    simp only [received, Option.ite_none_left_eq_some, Bool.or_eq_true, decide_eq_true_eq, not_or,
      Option.some.injEq] at done
    obtain ⟨⟨-, short⟩, rfl⟩ := done
    exact .reads reading (Nat.not_lt.mp short)
  | ended =>
    cases done
    exact .ends reading
  | fault f =>
    cases f with
    | idle =>
      cases done
      exact .waits reading
    | gone | failed =>
      cases done
      exact .loses reading nofun

theorem answerNext_becomes (answering : c.stage = .answering)
    (done : c.answerNext answer s = (c', s')) : Becomes answer c s .answer c' s' := by
  rcases taken : c.frames.next with ⟨_ | (_ | frame), frames⟩
  all_goals
    simp only [answerNext, taken] at done
    cases done
  · exact .chokes answering taken
  · exact .exhausts answering taken
  · exact .answers answering taken

theorem step_becomes (done : c.step answer s e = some (c', s')) : Becomes answer c s e c' s' := by
  cases e with
  | configure ready =>
    simp only [step] at done
    split at done
    · cases done
      exact .configures ‹_›
    · cases done
  | look =>
    simp only [step] at done
    split at done
    · cases done
      exact .starts ‹_›
    · cases done
      exact .turns ‹_›
    · cases done
  | take =>
    simp only [step] at done
    split at done
    · rename_i taking
      unfold Outbox.pop at done
      cases waiting : c.outbox.queue with
      | nil =>
        simp only [waiting] at done
        cases done
        exact .idles taking waiting
      | cons m rest =>
        simp only [waiting] at done
        cases done
        exact .takes taking waiting
    · cases done
  | write outcome =>
    simp only [step] at done
    split at done
    · obtain ⟨d, accepted, same⟩ := Option.map_eq_some_iff.mp done
      cases same
      exact .writes ‹_› accepted
    · obtain ⟨d, accepted, same⟩ := Option.map_eq_some_iff.mp done
      cases same
      exact .drains ‹_› accepted
    · cases done
  | read outcome =>
    simp only [step] at done
    split at done
    · obtain ⟨d, received, same⟩ := Option.map_eq_some_iff.mp done
      cases same
      exact received_becomes ‹_› received
    · cases done
  | answer =>
    simp only [step] at done
    split at done
    · exact answerNext_becomes ‹_› (Option.some.inj done)
    · cases done
  | empty =>
    simp only [step, Outbox.drain] at done
    split at done
    · cases done
      exact .empties ‹_›
    · cases done
  | close =>
    simp only [step] at done
    split at done
    · cases done
      exact .closes ‹_›
    · cases done
  | send m =>
    simp only [step, enqueue] at done
    split at done
    · cases done
      exact .queues ‹_›
    · rename_i idle
      cases done
      exact .refuses (Bool.not_eq_true _ ▸ idle)
  | deactivate =>
    cases done
    exact .deactivates

end DebugGateway.Connection

namespace DebugGateway

namespace Connection

theorem enqueue_id (c : Connection) (m : Outbound) : (c.enqueue m).2.id = c.id := by
  unfold enqueue
  split <;> rfl

section Steps

variable {σ : Type} {reply : List UInt8 → σ → Response × σ} {c c' : Connection} {s s' : σ} {e : Event}

theorem step_same (done : c.step reply s e = some (c', s')) :
    c'.id = c.id ∧ (e ≠ .deactivate → e ≠ .close → c'.active = c.active) := by
  cases step_becomes done with
  | writes _ accepted | drains _ accepted =>
    obtain ⟨wire, stage, rfl, -⟩ := accepted_cases accepted
    exact ⟨rfl, fun _ _ => rfl⟩
  | closes => exact ⟨rfl, fun _ lasts => absurd rfl lasts⟩
  | deactivates => exact ⟨rfl, fun unstopped => absurd rfl unstopped⟩
  | _ => exact ⟨rfl, fun _ _ => rfl⟩

theorem step_id (done : c.step reply s e = some (c', s')) : c'.id = c.id := (step_same done).1

theorem step_active (done : c.step reply s e = some (c', s')) (unstopped : e ≠ .deactivate)
    (lasts : e ≠ .close) : c'.active = c.active := (step_same done).2 unstopped lasts

end Steps

end Connection

namespace Server

variable {σ : Type}

theorem map_id_put (c : Connection) (tracked : List Connection) :
    (put c tracked).map (·.id) = tracked.map (·.id) := by
  induction tracked with
  | nil => rfl
  | cons d tracked ih =>
    unfold put
    split
    · rename_i same
      rw [List.map_cons, List.map_cons, same]
    · rw [List.map_cons, List.map_cons, ih]

theorem mem_put {c d : Connection} {tracked : List Connection}
    (distinct : (tracked.map (·.id)).Nodup) (member : d ∈ put c tracked) :
    d = c ∨ d ∈ tracked ∧ d.id ≠ c.id := by
  induction tracked with
  | nil => cases member
  | cons e tracked ih =>
    rw [List.map_cons, List.nodup_cons] at distinct
    unfold put at member
    split at member
    · rename_i same
      rcases List.mem_cons.mp member with rfl | other
      · exact .inl rfl
      · refine .inr ⟨List.mem_cons_of_mem _ other, ?_⟩
        intro again
        apply distinct.1
        rw [same, ← again]
        exact List.mem_map_of_mem other
    · rename_i differs
      rcases List.mem_cons.mp member with rfl | other
      · exact .inr ⟨List.mem_cons_self .., differs⟩
      · rcases ih distinct.2 other with here | ⟨there, apart⟩
        · exact .inl here
        · exact .inr ⟨List.mem_cons_of_mem _ there, apart⟩

theorem find?_put {c d : Connection} {tracked : List Connection}
    (found : tracked.find? (·.id = c.id) = some d) :
    (put c tracked).find? (·.id = c.id) = some c := by
  induction tracked with
  | nil => cases found
  | cons e tracked ih =>
    unfold put
    by_cases same : e.id = c.id
    · rw [if_pos same, List.find?_cons_of_pos (by simp)]
    · rw [if_neg same, List.find?_cons_of_neg (by simpa using same)]
      rw [List.find?_cons_of_neg (by simpa using same)] at found
      exact ih found

theorem find?_of_mem {tracked : List Connection} (distinct : (tracked.map (·.id)).Nodup)
    {c : Connection} (member : c ∈ tracked) : tracked.find? (·.id = c.id) = some c := by
  induction tracked with
  | nil => cases member
  | cons d tracked ih =>
    rw [List.map_cons, List.nodup_cons] at distinct
    rcases List.mem_cons.mp member with rfl | other
    · exact List.find?_cons_of_pos (by simp)
    · have differs : d.id ≠ c.id := by
        intro same
        apply distinct.1
        rw [same]
        exact List.mem_map_of_mem other
      rw [List.find?_cons_of_neg (by simpa using differs)]
      exact ih distinct.2 other

theorem find?_id {s : Server σ} {id : Nat} {c : Connection} (found : s.find? id = some c) :
    c.id = id := by
  have holds := List.find?_some found
  exact of_decide_eq_true holds

theorem find?_tracked {s : Server σ} {id : Nat} {c : Connection} (found : s.find? id = some c) :
    c ∈ s.connections :=
  List.mem_of_find?_eq_some found

theorem serve_some {s s' : Server σ} {id : Nat} {e : Connection.Event} {world world' : σ}
    (done : s.serve id e world = some (s', world')) :
    ∃ c c' events, s.find? id = some c ∧
      c.step (Dispatch.frame s.registry) world e = some (c', world') ∧
      s' = { s with connections := put c' s.connections, events } := by
  simp only [serve, Option.bind_eq_bind, Option.bind_eq_some_iff] at done
  obtain ⟨c, found, ⟨c', world''⟩, stepped, same⟩ := done
  cases same
  exact ⟨c, c', _, found, stepped, rfl⟩

theorem serve_step {s : Server σ} {id : Nat} {e : Connection.Event} {world world' : σ}
    {c c' : Connection} (found : s.find? id = some c)
    (stepped : c.step (Dispatch.frame s.registry) world e = some (c', world')) :
    ∃ s', s.serve id e world = some (s', world') ∧ s'.registry = s.registry ∧
      s'.connections = put c' s.connections := by
  simp only [serve, found, Option.bind_eq_bind, Option.bind_some, stepped]
  exact ⟨_, rfl, rfl, rfl⟩

end Server

end DebugGateway
