import DebugGateway.Proofs.Server.Steps

/-! What a server sends goes to the connection it names, over the whole life of the server: it takes
connections and loses them, is stopped and started again, and sends in between, in any order. Ids count
the connections taken, so none comes back, and the connections tracked stand in the order of their ids.
What is tracked goes away while the server is stopped, so there is no one then who could be sent to. -/
namespace DebugGateway.Server

variable {σ : Type}

/-- What can happen to a server and the world of its handlers, each at one stroke; the list holds the
connection taken by it, as it was taken. -/
inductive Happens : Server σ × σ → List Connection → Server σ × σ → Prop where
  | accept {s : Server σ} {world : σ} :
    Happens (s, world) (s.accept.connections.drop s.connections.length) (s.accept, world)
  | serve {s s' : Server σ} {world world' : σ} (id : Nat) (e : Connection.Event) :
    s.serve id e world = some (s', world') → Happens (s, world) [] (s', world')
  | reap {s : Server σ} {world : σ} : Happens (s, world) [] (s.reap, world)
  | start {s s' : Server σ} {world : σ} (channel : Channel) (host : Host) {host' : Host} :
    s.start channel host = .ok (s', host') → Happens (s, world) [] (s', world)
  | stop {s : Server σ} {world : σ} (host : Host) : Happens (s, world) [] ((s.stop host).1, world)
  | send {s : Server σ} {world : σ} (id : Nat) (m : Outbound) :
    Happens (s, world) [] ((s.send id m).2, world)
  | broadcast {s : Server σ} {world : σ} (m : Outbound) :
    Happens (s, world) [] ((s.broadcast m).2, world)

/-- A life of a server, with all connections taken in it, oldest first. -/
inductive Life (born : Server σ × σ) : List Connection → Server σ × σ → Prop where
  | nil : Life born [] born
  | snoc {taken more : List Connection} {now next : Server σ × σ} :
    Life born taken now → Happens now more next → Life born (taken ++ more) next

/-- A message is taken exactly for a connection that is tracked under the id and active, on a server that
runs; then it waits behind what waits there already, and nothing else has changed. -/
structure Sends (s : Server σ) (id : Nat) (m : Outbound) : Prop where
  taken : (s.send id m).1 = true ↔
    s.running = true ∧ ∃ c ∈ s.connections, c.id = id ∧ c.active = true
  queued : (s.send id m).1 = true → ∃ before c after, s.connections = before ++ c :: after ∧
    c.id = id ∧ (∀ d ∈ before ++ after, d.id ≠ id) ∧
    (s.send id m).2 = { s with
      connections := before ++ { c with outbox := ⟨c.outbox.queue ++ [m]⟩ } :: after }
  refused : (s.send id m).1 = false → (s.send id m).2 = s

/-- A message to all is taken exactly where there is an active connection on a server that runs; then it
waits behind what waits on each active connection, and nothing else has changed. -/
structure Broadcasts (s : Server σ) (m : Outbound) : Prop where
  taken : (s.broadcast m).1 = true ↔ s.running = true ∧ ∃ c ∈ s.connections, c.active = true
  queued : (s.broadcast m).2 = { s with
    connections := s.connections.map fun c =>
      if c.active then { c with outbox := ⟨c.outbox.queue ++ [m]⟩ } else c }

/-- The ids given so far are the numbers from one on, in this order, and what is tracked is what is left
of the connections taken. -/
structure Numbered (taken : List Connection) (s : Server σ) : Prop where
  given : taken.map (·.id) = List.range' 1 taken.length
  last : s.lastId = taken.length
  left : (s.connections.map (·.id)).Sublist (taken.map (·.id))
  stopped : s.running = false → s.connections = []

theorem Numbered.ascending {taken : List Connection} {s : Server σ} (numbered : Numbered taken s) :
    (s.connections.map (·.id)).Pairwise (· < ·) := by
  have all : (taken.map (·.id)).Pairwise (· < ·) := by
    rw [numbered.given]
    exact List.pairwise_lt_range'
  exact all.sublist numbered.left

theorem Numbered.distinct {taken : List Connection} {s : Server σ} (numbered : Numbered taken s) :
    (s.connections.map (·.id)).Nodup :=
  numbered.ascending.imp Nat.ne_of_lt

/-! ## One connection replaced -/

theorem put_append {c d : Connection} {before : List Connection} (after : List Connection)
    (same : d.id = c.id) (others : ∀ e ∈ before, e.id ≠ c.id) :
    put c (before ++ d :: after) = before ++ c :: after := by
  induction before with
  | nil => rw [List.nil_append, put, if_pos same, List.nil_append]
  | cons e before ih =>
    have here : e.id ≠ c.id := others e List.mem_cons_self
    rw [List.cons_append, put, if_neg here, ih fun e' member => others e' (List.mem_cons_of_mem e member)]
    rfl

/-- Where ids are distinct, the connection found is the only one with its id. -/
theorem find?_split {s : Server σ} {id : Nat} {c : Connection} (found : s.find? id = some c)
    (distinct : (s.connections.map (·.id)).Nodup) :
    ∃ before after, s.connections = before ++ c :: after ∧ ∀ d ∈ before ++ after, d.id ≠ id := by
  obtain ⟨before, after, shape⟩ := List.append_of_mem (find?_tracked found)
  have apart : ((c :: (before ++ after)).map (·.id)).Nodup := by
    rw [shape] at distinct
    exact (List.perm_middle.map _).nodup_iff.mp distinct
  rw [List.map_cons, List.nodup_cons, find?_id found] at apart
  refine ⟨before, after, shape, ?_⟩
  intro d member same
  exact apart.1 (same ▸ List.mem_map_of_mem member)

/-! ## Sending -/

section Sending

variable {s : Server σ} {id : Nat} {c : Connection} (m : Outbound)

theorem send_halted (halted : s.running = false) : s.send id m = (false, s) := by
  rw [send, if_neg (by simp [halted])]

theorem send_missing (missing : s.find? id = none) : s.send id m = (false, s) := by
  rw [send, missing]
  exact ite_self _

theorem send_found (running : s.running = true) (found : s.find? id = some c) :
    s.send id m = ((c.enqueue m).1, { s with connections := put (c.enqueue m).2 s.connections }) := by
  rw [send, if_pos running, found]

variable {before after : List Connection}

theorem send_live (running : s.running = true) (found : s.find? id = some c)
    (live : c.active = true) (shape : s.connections = before ++ c :: after)
    (others : ∀ d ∈ before ++ after, d.id ≠ id) :
    s.send id m = (true, { s with
      connections := before ++ { c with outbox := ⟨c.outbox.queue ++ [m]⟩ } :: after }) := by
  have here := find?_id found
  have taken : c.enqueue m = (true, { c with outbox := ⟨c.outbox.queue ++ [m]⟩ }) := by
    rw [Connection.enqueue, if_pos live]
    rfl
  have placed := put_append (c := (c.enqueue m).2) (d := c) after (c.enqueue_id m).symm
    fun e member => by
      rw [c.enqueue_id m, here]
      exact others e (List.mem_append_left after member)
  rw [send_found m running found, shape, placed, taken]

theorem send_idle (running : s.running = true) (found : s.find? id = some c)
    (idle : c.active = false) (shape : s.connections = before ++ c :: after)
    (others : ∀ d ∈ before ++ after, d.id ≠ id) : s.send id m = (false, s) := by
  have here := find?_id found
  have refused : c.enqueue m = (false, c) := by
    rw [Connection.enqueue, if_neg (by simp [idle])]
  have same := put_append (c := c) after rfl fun e member => by
    rw [here]
    exact others e (List.mem_append_left after member)
  rw [send_found m running found, refused]
  show (false, { s with connections := put c s.connections }) = (false, s)
  rw [shape, same, ← shape]

theorem sends_refused (refused : s.send id m = (false, s))
    (nobody : s.running = true → ∀ c ∈ s.connections, c.id = id → c.active = false) :
    Sends s id m := by
  constructor
  · rw [refused]
    constructor
    · intro impossible
      cases impossible
    · rintro ⟨running, c, member, here, live⟩
      rw [nobody running c member here] at live
      cases live
  · rw [refused]
    exact nofun
  · rw [refused]
    exact fun _ => rfl

end Sending

theorem Numbered.sends {taken : List Connection} {s : Server σ} (numbered : Numbered taken s)
    (id : Nat) (m : Outbound) : Sends s id m := by
  by_cases running : s.running = true
  · cases found : s.find? id with
    | none =>
      refine sends_refused m (send_missing m found) ?_
      intro _ c member here
      have other := List.find?_eq_none.mp found c member
      exact absurd here (by simpa using other)
    | some c =>
      obtain ⟨before, after, shape, others⟩ := find?_split found numbered.distinct
      have here := find?_id found
      cases live : c.active with
      | true =>
        have answer := send_live m running found live shape others
        constructor
        · rw [answer]
          exact ⟨fun _ => ⟨running, c, find?_tracked found, here, live⟩, fun _ => rfl⟩
        · rw [answer]
          exact fun _ => ⟨before, c, after, shape, here, others, rfl⟩
        · rw [answer]
          exact nofun
      | false =>
        refine sends_refused m (send_idle m running found live shape others) ?_
        intro _ d member same
        rw [shape] at member
        rcases List.mem_append.mp member with early | late
        · exact absurd same (others d (List.mem_append_left after early))
        · rcases List.mem_cons.mp late with rfl | late
          · exact live
          · exact absurd same (others d (List.mem_append_right before late))
  · exact sends_refused m (send_halted m (by simpa using running)) fun yes => absurd yes running

theorem Numbered.broadcasts {taken : List Connection} {s : Server σ} (numbered : Numbered taken s)
    (m : Outbound) : Broadcasts s m := by
  cases running : s.running with
  | false =>
    have nobody := numbered.stopped running
    have answer : s.broadcast m = (false, s) := by rw [broadcast, running]; rfl
    constructor
    · simp [answer, running]
    · rw [answer, nobody, List.map_nil, ← nobody]
  | true =>
    have everyone : (fun c : Connection => (c.enqueue m).2) = fun c =>
        if c.active then { c with outbox := ⟨c.outbox.queue ++ [m]⟩ } else c := by
      funext c
      unfold Connection.enqueue
      split <;> rfl
    constructor
    · simp [broadcast, running, active]
    · rw [broadcast, if_pos running, everyone]

/-! ## What a step leaves of it -/

section Steps

variable {taken : List Connection} {s : Server σ}

theorem Numbered.accept (numbered : Numbered taken s) :
    Numbered (taken ++ s.accept.connections.drop s.connections.length) s.accept := by
  unfold Server.accept
  split
  · rename_i running
    have new : s.lastId + 1 = 1 + taken.length := by rw [numbered.last, Nat.add_comm]
    constructor
    · simp [numbered.given, new, List.range'_concat]
    · simp [numbered.last]
    · simpa using numbered.left
    · intro halted
      exact absurd (running.symm.trans halted) (by decide)
  · simpa using numbered

theorem Numbered.less (numbered : Numbered taken s) {s' : Server σ} (last : s'.lastId = s.lastId)
    (left : (s'.connections.map (·.id)).Sublist (s.connections.map (·.id)))
    (stopped : s'.running = false → s.running = false ∨ s'.connections = []) : Numbered taken s' where
  given := numbered.given
  last := last.trans numbered.last
  left := left.trans numbered.left
  stopped := by
    intro halted
    rcases stopped halted with before | nobody
    · rw [numbered.stopped before] at left
      exact List.map_eq_nil_iff.mp (List.sublist_nil.mp left)
    · exact nobody

theorem Numbered.same (numbered : Numbered taken s) {s' : Server σ} (last : s'.lastId = s.lastId)
    (running : s'.running = s.running)
    (ids : s'.connections.map (·.id) = s.connections.map (·.id)) : Numbered taken s' := by
  have left := List.Sublist.refl (s.connections.map (·.id))
  exact numbered.less last (ids ▸ left) fun halted => .inl (running ▸ halted)

theorem Numbered.put (numbered : Numbered taken s) (c : Connection) (events : List HealthEvent) :
    Numbered taken { s with connections := Server.put c s.connections, events } :=
  numbered.same rfl rfl (map_id_put c s.connections)

theorem Numbered.happens {now next : Server σ × σ} {more : List Connection}
    (numbered : Numbered taken now.1) (happens : Happens now more next) :
    Numbered (taken ++ more) next.1 := by
  cases happens with
  | accept => exact numbered.accept
  | serve id e done =>
    obtain ⟨c, c', events, _, _, rfl⟩ := serve_some done
    rw [List.append_nil]
    exact numbered.put c' events
  | reap =>
    rw [List.append_nil]
    exact numbered.less rfl (List.filter_sublist.map _) .inl
  | start channel host done =>
    rw [List.append_nil]
    unfold Server.start at done
    split at done
    · cases done
    · cases done
      exact numbered.less rfl (List.Sublist.refl _) nofun
  | stop host =>
    rw [List.append_nil]
    unfold Server.stop
    split
    · exact numbered
    · exact numbered.less rfl (List.nil_sublist _) fun _ => .inr rfl
  | send id m =>
    rw [List.append_nil]
    unfold Server.send
    split
    · split
      · exact numbered.put _ _
      · exact numbered
    · exact numbered
  | broadcast m =>
    rw [List.append_nil]
    unfold Server.broadcast
    split
    · rename_i s _ _
      have same : (s.connections.map fun c => (c.enqueue m).2).map (·.id) = s.connections.map (·.id) := by
        rw [List.map_map]
        exact List.map_congr_left fun c _ => c.enqueue_id m
      exact numbered.same rfl rfl same
    · exact numbered

end Steps

theorem Life.numbered {registry : Registry (Handler σ)} {world : σ} {taken : List Connection}
    {now : Server σ × σ} (life : Life ({ registry }, world) taken now) : Numbered taken now.1 := by
  induction life with
  | nil => exact ⟨rfl, rfl, List.Sublist.refl _, fun _ => rfl⟩
  | snoc _ happens ih => exact ih.happens happens

/-- Whatever has happened since a server was new: it has numbered its connections from one on and never
given a number twice, those tracked stand in ascending order, and what it sends, to one or to all, is
taken where it can be delivered and reaches no one else. -/
theorem pushes_reach_addressee {registry : Registry (Handler σ)} {world world' : σ}
    {taken : List Connection} {s : Server σ} (life : Life ({ registry }, world) taken (s, world')) :
    taken.map (·.id) = List.range' 1 taken.length ∧
    (s.connections.map (·.id)).Sublist (taken.map (·.id)) ∧
    (s.connections.map (·.id)).Pairwise (· < ·) ∧
    (∀ id m, Sends s id m) ∧ ∀ m, Broadcasts s m := by
  have numbered := life.numbered
  exact ⟨numbered.given, numbered.left, numbered.ascending, numbered.sends, numbered.broadcasts⟩

def somewhere : Channel := .tcp "localhost" 0

theorem restarted_life : ∃ (taken : List Connection) (s : Server Unit),
    Life ({ registry := {} }, ()) taken (s, ()) ∧ taken.length = 2 ∧ s.running = true ∧
      s.connections = [{ id := 2 }] := by
  have begun : Life (({ registry := {} } : Server Unit), ()) _ _ :=
    .snoc .nil (.start somewhere {} rfl)
  have first := begun.snoc .accept
  have unready := first.snoc (.serve 1 (.configure false) rfl)
  have ended := unready.snoc (.serve 1 .close rfl)
  have cleared := ended.snoc .reap
  have stopped := cleared.snoc (.stop {})
  have again := stopped.snoc (.start somewhere {} rfl)
  have second := again.snoc .accept
  exact ⟨_, _, second, rfl, rfl, rfl⟩

def tick : Outbound := .notification { event := "tick", data := .null }

/-- The first connection is gone and its id does not come back; the second one has the message. -/
theorem restarted_addressed : ∃ (taken : List Connection) (s : Server Unit),
    Life ({ registry := {} }, ()) taken (s, ()) ∧ taken.map (·.id) = [1, 2] ∧
      (s.send 1 tick).2 = s ∧ (s.send 2 tick).1 = true ∧
      (s.broadcast tick).2.connections = [{ id := 2, outbox := ⟨[tick]⟩ }] := by
  obtain ⟨taken, s, life, count, running, tracked⟩ := restarted_life
  obtain ⟨given, -, -, sends, broadcasts⟩ := pushes_reach_addressee life
  refine ⟨taken, s, life, ?_, ?_, ?_, ?_⟩
  · rw [given, count]
    rfl
  · apply (sends 1 tick).refused
    rw [Bool.eq_false_iff]
    intro taken
    obtain ⟨_, c, member, first, _⟩ := (sends 1 tick).taken.mp taken
    rw [tracked, List.mem_singleton] at member
    rw [member] at first
    exact absurd first (by decide)
  · exact (sends 2 tick).taken.mpr ⟨running, _, by rw [tracked]; exact List.mem_cons_self, rfl, rfl⟩
  · rw [(broadcasts tick).queued, tracked]
    rfl

end DebugGateway.Server
