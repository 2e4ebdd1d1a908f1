import DebugGateway.Proofs.Server.Completion
import DebugGateway.Proofs.Server.Steps
import Mathlib.Logic.Relation

namespace DebugGateway

def Registry.Steady {σ : Type} (registry : Registry (Handler σ)) : Prop :=
  ∀ name handler, registry.lookup name = some handler →
    ∀ (r : Request) (s s' : σ), (handler r s).1 = (handler r s').1

theorem Dispatch.frame_steady {σ : Type} {registry : Registry (Handler σ)} (steady : registry.Steady)
    (bytes : List UInt8) (s s' : σ) : (frame registry bytes s).1 = (frame registry bytes s').1 := by
  unfold frame
  split
  · rename_i r parsed
    unfold request
    split
    · split
      · rename_i handler found
        have same := steady r.command handler found r s s'
        show afterHandler r (handler r s).1 = afterHandler r (handler r s').1
        rw [same]
      · rfl
    · rfl
  · rfl

/-- A server, the world of its handlers and what clients will still send on each connection. -/
structure Traffic (σ : Type) where
  server : Server σ
  world : σ
  coming : Nat → List (List UInt8)

namespace Traffic

variable {σ : Type}

def advance (coming : Nat → List (List UInt8)) (id : Nat) (reads : List (List UInt8)) :
    Nat → List (List UInt8) :=
  fun i => if i = id then reads else coming i

inductive Work (id : Nat) : Traffic σ → Traffic σ → Prop where
  | mk {t : Traffic σ} {c : Connection} {e : Connection.Event} {reads : List (List UInt8)}
      {server : Server σ} {world : σ} :
    t.server.find? id = some c → Connection.Smooth c.stage (t.coming id) e reads →
      t.server.serve id e t.world = some (server, world) →
        Work id t ⟨server, world, advance t.coming id reads⟩

inductive Step : Traffic σ → Traffic σ → Prop where
  | accept {t : Traffic σ} : Step t { t with server := t.server.accept }
  | reap {t : Traffic σ} : Step t { t with server := t.server.reap }
  | work {t u : Traffic σ} (id : Nat) : Work id t u → Step t u
  | send {t : Traffic σ} (id : Nat) (n : Notification) :
    Step t { t with server := (t.server.send id (.notification n)).2 }
  | broadcast {t : Traffic σ} (n : Notification) :
    Step t { t with server := (t.server.broadcast (.notification n)).2 }

def answer (registry : Registry (Handler σ)) (world : σ) (frame : List UInt8) : Response :=
  (Dispatch.frame registry frame world).1

def Correlates (registry : Registry (Handler σ)) (world : σ) (plan : Nat → List (List UInt8))
    (coming : Nat → List (List UInt8)) (c : Connection) : Prop :=
  ∃ sent taken, c.Faithful (answer registry world) (plan c.id) (coming c.id) sent taken

/-- Ids are given once, and nothing has been read on an id that is not given yet. -/
structure Orderly (registry : Registry (Handler σ)) (world : σ) (plan : Nat → List (List UInt8))
    (server : Server σ) (coming : Nat → List (List UInt8)) : Prop where
  running : server.running = true
  unchanged : server.registry = registry
  distinct : (server.connections.map (·.id)).Nodup
  given : ∀ c ∈ server.connections, c.id ≤ server.lastId
  untouched : ∀ id, server.lastId < id → coming id = plan id
  left : ∀ id, coming id ⊆ plan id
  correlates : ∀ c ∈ server.connections, Correlates registry world plan coming c

section Steps

variable {registry : Registry (Handler σ)} {world : σ} {plan coming : Nat → List (List UInt8)}
  {server : Server σ}

theorem advance_self (id : Nat) (reads : List (List UInt8)) : advance coming id reads id = reads :=
  if_pos rfl

theorem advance_other {id i : Nat} (differs : i ≠ id) (reads : List (List UInt8)) :
    advance coming id reads i = coming i :=
  if_neg differs

theorem advance_coming (id : Nat) : advance coming id (coming id) = coming := by
  funext i
  by_cases here : i = id
  · rw [here, advance_self]
  · rw [advance_other here]

theorem Orderly.accept (orderly : Orderly registry world plan server coming) :
    Orderly registry world plan server.accept coming := by
  have fresh : ∀ c ∈ server.connections, c.id ≠ server.lastId + 1 := by
    intro c member same
    have le := orderly.given c member
    omega
  rw [Server.accept, if_pos orderly.running]
  constructor
  · exact orderly.running
  · exact orderly.unchanged
  · rw [List.map_append, List.nodup_append]
    refine ⟨orderly.distinct, by simp, ?_⟩
    intro i old j new
    obtain ⟨c, member, rfl⟩ := List.mem_map.mp old
    rw [List.mem_singleton.mp new]
    exact fresh c member
  · intro c member
    rcases List.mem_append.mp member with old | new
    · exact Nat.le_succ_of_le (orderly.given c old)
    · exact Nat.le_of_eq (congrArg Connection.id (List.mem_singleton.mp new))
  · intro id later
    exact orderly.untouched id (Nat.lt_of_succ_lt later)
  · exact orderly.left
  · intro c member
    rcases List.mem_append.mp member with old | new
    · exact orderly.correlates c old
    · rw [List.mem_singleton.mp new]
      have unread := orderly.untouched _ (Nat.lt_succ_self server.lastId)
      refine ⟨[], [], ?_⟩
      rw [unread]
      exact Connection.faithful_new _ _ _

theorem Orderly.reap (orderly : Orderly registry world plan server coming) :
    Orderly registry world plan server.reap coming := by
  have kept : ∀ c ∈ server.reap.connections, c ∈ server.connections :=
    fun c member => (List.mem_filter.mp member).1
  constructor
  · exact orderly.running
  · exact orderly.unchanged
  · exact orderly.distinct.sublist (List.filter_sublist.map _)
  · exact fun c member => orderly.given c (kept c member)
  · exact orderly.untouched
  · exact orderly.left
  · exact fun c member => orderly.correlates c (kept c member)

/-- Another state of one connection, and other reads to come on it, leave the rest as it is. -/
theorem Orderly.put (orderly : Orderly registry world plan server coming) {c c' : Connection}
    (tracked : c ∈ server.connections) (same : c'.id = c.id) {reads : List (List UInt8)}
    (less : reads ⊆ coming c.id)
    (correlates : Correlates registry world plan (advance coming c.id reads) c')
    (events : List HealthEvent) :
    Orderly registry world plan
      { server with connections := Server.put c' server.connections, events }
      (advance coming c.id reads) := by
  have known := orderly.given c tracked
  constructor
  · exact orderly.running
  · exact orderly.unchanged
  · rw [Server.map_id_put]
    exact orderly.distinct
  · intro d member
    rcases Server.mem_put orderly.distinct member with rfl | ⟨other, _⟩
    · rw [same]
      exact known
    · exact orderly.given d other
  · intro id later
    have differs : id ≠ c.id := by
      have later' : server.lastId < id := later
      omega
    rw [advance_other differs]
    exact orderly.untouched id later
  · intro id
    by_cases here : id = c.id
    · rw [here, advance_self]
      exact List.Subset.trans less (orderly.left c.id)
    · rw [advance_other here]
      exact orderly.left id
  · intro d member
    rcases Server.mem_put orderly.distinct member with rfl | ⟨other, differs⟩
    · exact correlates
    · rw [same] at differs
      rw [Correlates, advance_other differs]
      exact orderly.correlates d other

theorem Correlates.notified {c : Connection} (correlates : Correlates registry world plan coming c)
    (n : Notification) : Correlates registry world plan coming (c.enqueue (.notification n)).2 := by
  obtain ⟨sent, taken, faithful⟩ := correlates
  refine ⟨sent, taken, ?_⟩
  rw [Connection.enqueue_id]
  exact faithful.notified n

theorem Orderly.send (orderly : Orderly registry world plan server coming) (id : Nat)
    (n : Notification) :
    Orderly registry world plan (server.send id (.notification n)).2 coming := by
  rw [Server.send, if_pos orderly.running]
  cases found : server.find? id with
  | none => exact orderly
  | some c =>
    have member := Server.find?_tracked found
    have put := orderly.put member (c.enqueue_id (.notification n)) (List.Subset.refl _)
      (by rw [advance_coming]; exact (orderly.correlates c member).notified n) server.events
    rw [advance_coming] at put
    exact put

theorem Orderly.broadcast (orderly : Orderly registry world plan server coming) (n : Notification) :
    Orderly registry world plan (server.broadcast (.notification n)).2 coming := by
  rw [Server.broadcast, if_pos orderly.running]
  constructor
  · exact orderly.running
  · exact orderly.unchanged
  · rw [List.map_map]
    have ids := List.map_congr_left fun c (_ : c ∈ server.connections) =>
      c.enqueue_id (.notification n)
    exact ids ▸ orderly.distinct
  · intro c member
    obtain ⟨d, old, rfl⟩ := List.mem_map.mp member
    rw [Connection.enqueue_id]
    exact orderly.given d old
  · exact orderly.untouched
  · exact orderly.left
  · intro c member
    obtain ⟨d, old, rfl⟩ := List.mem_map.mp member
    exact (orderly.correlates d old).notified n

theorem smooth_less {stage : Stage} {e : Connection.Event} {reads reads' : List (List UInt8)}
    (smooth : Connection.Smooth stage reads e reads') : reads' ⊆ reads := by
  cases smooth with
  | read bytes => exact List.subset_cons_self _ _
  | _ => exact List.Subset.refl _

theorem Orderly.work {t u : Traffic σ} {id : Nat} (steady : registry.Steady)
    (orderly : Orderly registry world plan t.server t.coming) (work : Work id t u) :
    Orderly registry world plan u.server u.coming := by
  cases work with
  | @mk c e reads server' world' found smooth served =>
    obtain ⟨d, c', events, found', stepped, rfl⟩ := Server.serve_some served
    cases found.symm.trans found'
    -- the first connection with the id is the only one, so the others keep their reads
    have member := Server.find?_tracked found
    have same := Connection.step_id stepped
    cases Server.find?_id found
    obtain ⟨sent, taken, faithful⟩ := orderly.correlates c member
    rw [orderly.unchanged] at stepped
    have replies := fun frame s => Dispatch.frame_steady steady frame s world
    obtain ⟨sent', taken', faithful'⟩ := faithful.step replies smooth stepped
    refine orderly.put member same (smooth_less smooth) ⟨sent', taken', ?_⟩ events
    rw [same, advance_self]
    exact faithful'

theorem Orderly.step {t u : Traffic σ} (steady : registry.Steady)
    (orderly : Orderly registry world plan t.server t.coming) (step : Step t u) :
    Orderly registry world plan u.server u.coming := by
  cases step with
  | accept => exact orderly.accept
  | reap => exact orderly.reap
  | work id work => exact orderly.work steady work
  | send id n => exact orderly.send id n
  | broadcast n => exact orderly.broadcast n

theorem orderly_start (world : σ) (plan : Nat → List (List UInt8))
    (running : server.running = true) (fresh : server.connections = []) :
    Orderly server.registry world plan server plan := by
  constructor
  · exact running
  · rfl
  · rw [fresh]
    exact List.nodup_nil
  · rw [fresh]
    exact nofun
  · exact fun _ _ => rfl
  · exact fun _ => List.Subset.refl _
  · rw [fresh]
    exact nofun

theorem Orderly.reached {t u : Traffic σ} (steady : registry.Steady)
    (orderly : Orderly registry world plan t.server t.coming)
    (reached : Relation.ReflTransGen Step t u) : Orderly registry world plan u.server u.coming := by
  induction reached with
  | refl => exact orderly
  | tail _ step ih => exact ih.step steady step

theorem ends_work {reads : List (List UInt8)} {c : Connection} {s : σ}
    (ends : Connection.Ends (Dispatch.frame registry) reads c s) {t : Traffic σ}
    (unchanged : t.server.registry = registry) (found : t.server.find? c.id = some c)
    (coming : t.coming c.id = reads) (world : t.world = s) :
    ∃ u c', Relation.ReflTransGen (Work c.id) t u ∧ u.server.find? c.id = some c' ∧
      c'.isClosed = true := by
  induction ends generalizing t with
  | closed done => exact ⟨t, _, .refl, found, done⟩
  | @next reads reads' c c' s s' e smooth stepped _ ih =>
    -- `ih` speaks of the traffic after this step, where the connection has its new state
    have same := Connection.step_id stepped
    rw [← unchanged, ← world] at stepped
    obtain ⟨server, served, unchanged', tracked⟩ := Server.serve_step found stepped
    have found' : server.find? c'.id = some c' := by
      rw [Server.find?, tracked]
      rw [← same] at found
      exact Server.find?_put found
    rw [← coming] at smooth
    have advanced : advance t.coming c.id reads' c'.id = reads' := by rw [same, advance_self]
    obtain ⟨u, d, further, last, done⟩ := ih (t := ⟨server, s', advance t.coming c.id reads'⟩)
      (unchanged'.trans unchanged) found' advanced rfl
    rw [same] at further last
    exact ⟨u, d, .head (.mk found smooth served) further, last, done⟩

end Steps

def due (registry : Registry (Handler σ)) (world : σ) (frames : List (List UInt8))
    (refused : Option FrameTooLarge) : List (List UInt8) :=
  frames.map (fun frame => (Dispatch.frame registry frame world).1.encode) ++
    refused.toList.map fun e => (Dispatch.oversize e.message).encode

/-- The connection has answered these frames and has written these lines and notifications, and nothing
else. -/
structure Complete (frames lines : List (List UInt8)) (c : Connection) : Prop where
  ended : c.isClosed = true
  lines : answersIn c.written = lines
  whole : Text.Whole c.written
  frames : c.answered = frames

section Shape

variable {registry : Registry (Handler σ)} {world : σ} {plan coming : Nat → List (List UInt8)}
  {c : Connection} {frames : List (List UInt8)} {refused : Option FrameTooLarge}
  {taken : List (Except FrameTooLarge (List UInt8))}

theorem due_eq (shape : taken = frames.map .ok ++ refused.toList.map .error) :
    (taken.map (replyTo (answer registry world))).map Response.encode =
      due registry world frames refused := by
  rw [shape, due, List.map_append, List.map_append, List.map_map, List.map_map, List.map_map,
    List.map_map]
  rfl

theorem frames_eq (shape : taken = frames.map .ok ++ refused.toList.map .error) :
    taken.filterMap Except.toOption = frames := by
  rw [shape, List.filterMap_append, List.filterMap_map, List.filterMap_map]
  have none : refused.toList.filterMap (Except.toOption ∘ .error) = ([] : List (List UInt8)) :=
    List.filterMap_eq_nil_iff.mpr fun _ _ => rfl
  rw [none, List.append_nil]
  exact List.filterMap_some

theorem Correlates.complete (correlates : Correlates registry world plan coming c)
    (shape : FrameBuffer.harvest {} (plan c.id) = frames.map .ok ++ refused.toList.map .error)
    (ended : c.isClosed = true) : Complete frames (due registry world frames refused) c := by
  obtain ⟨sent, taken, faithful⟩ := correlates
  obtain ⟨lines, whole, answered⟩ := faithful.closed ended
  exact ⟨ended, lines.trans (due_eq shape), whole, answered.trans (frames_eq shape)⟩

theorem Orderly.reads_sized {server : Server σ}
    (orderly : Orderly registry world plan server coming)
    (sized : ∀ id, Connection.Sized (plan id)) (id : Nat) : Connection.Sized (coming id) :=
  fun bytes member => sized id bytes (orderly.left id member)

end Shape

/-- From a server that runs and has no connections yet, whatever happens: what a connection has
written, notifications apart, begins what its own reads demand, and is all of it once the connection
has ended, which steps of its own can bring about. -/
theorem responses_in_order (server : Server σ) (world : σ) (plan : Nat → List (List UInt8))
    (running : server.running = true) (fresh : server.connections = [])
    (steady : server.registry.Steady) (sized : ∀ id, Connection.Sized (plan id)) (t : Traffic σ)
    (reached : Relation.ReflTransGen Step ⟨server, world, plan⟩ t) (c : Connection)
    (tracked : c ∈ t.server.connections) :
    ∃ frames refused,
      FrameBuffer.harvest {} (plan c.id) = frames.map .ok ++ refused.toList.map .error ∧
      answersIn c.written <+: due server.registry world frames refused ∧
      c.answered <+: frames ∧
      (c.isClosed = true → Complete frames (due server.registry world frames refused) c) ∧
      ∃ u c', Relation.ReflTransGen (Work c.id) t u ∧ u.server.find? c.id = some c' ∧
        Complete frames (due server.registry world frames refused) c' := by
  have orderly := (orderly_start world plan running fresh).reached steady reached
  have correlates := orderly.correlates c tracked
  obtain ⟨sent, taken, faithful⟩ := orderly.correlates c tracked
  obtain ⟨frames, refused, shape⟩ := FrameBuffer.harvest_refusal_last {} (plan c.id)
  refine ⟨frames, refused, shape, ?_, ?_, correlates.complete shape, ?_⟩
  · rw [← due_eq shape]
    exact faithful.answers_prefix
  · rw [← frames_eq shape]
    exact faithful.answered_prefix
  · have found : t.server.find? c.id = some c := Server.find?_of_mem orderly.distinct tracked
    have ends := faithful.ends (Dispatch.frame server.registry) (orderly.reads_sized sized c.id) t.world
    obtain ⟨u, c', further, found', done⟩ := ends_work ends orderly.unchanged found rfl rfl
    have onward := further.lift id fun _ _ work => Step.work c.id work
    have later := (orderly.reached steady onward).correlates c' (Server.find?_tracked found')
    rw [← Server.find?_id found'] at shape
    exact ⟨u, c', further, found', later.complete shape done⟩

def counting : Server Nat where
  registry := ⟨[], some [("count", fun _ calls => (.panic .other, calls + 1))]⟩
  running := true

/-- The first client sends a line and then a blank one, the others send nothing. -/
def oneLine : Nat → List (List UInt8) := advance (fun _ => []) 1 [[120, 10, 32], [10]]

theorem counting_steady : counting.registry.Steady := by
  intro name handler found r s s'
  have only : List.lookup name [("count", fun (_ : Request) calls => (Handled.panic .other, calls + 1))] =
      some handler := found
  rw [List.lookup_cons] at only
  split at only
  · cases only
    rfl
  · cases only

theorem oneLine_sized (id : Nat) : Connection.Sized (oneLine id) := by
  by_cases first : id = 1
  · rw [first]
    decide
  · rw [oneLine, advance_other first]
    exact nofun

theorem oneLine_answered :
    ∃ t, Relation.ReflTransGen Step ⟨counting, 0, oneLine⟩ t ∧
      ∃ c ∈ t.server.connections, c.id = 1 ∧ c.answered = [[120]] := by
  have accepted : Relation.ReflTransGen Step (⟨counting, 0, oneLine⟩ : Traffic Nat) _ := .single .accept
  have ready := accepted.tail (.work 1 (.mk rfl .configure rfl))
  have begun := ready.tail (.work 1 (.mk rfl .look rfl))
  have unwritten := begun.tail (.work 1 (.mk rfl .take rfl))
  have turned := unwritten.tail (.work 1 (.mk rfl .look rfl))
  have read := turned.tail (.work 1 (.mk rfl (.read [120, 10, 32]) rfl))
  have answered := read.tail (.work 1 (.mk rfl .answer rfl))
  exact ⟨_, answered, _, .head _, rfl, rfl⟩

theorem oneLine_in_order :
    ∃ (t u : Traffic Nat) (c c' : Connection) (frames : List (List UInt8))
      (refused : Option FrameTooLarge),
      Relation.ReflTransGen Step ⟨counting, 0, oneLine⟩ t ∧ c ∈ t.server.connections ∧
      c.answered = [[120]] ∧ c.answered <+: frames ∧
      FrameBuffer.harvest {} (oneLine 1) = frames.map .ok ++ refused.toList.map .error ∧
      answersIn c.written <+: due counting.registry 0 frames refused ∧
      Relation.ReflTransGen (Work 1) t u ∧ u.server.find? 1 = some c' ∧
      Complete frames (due counting.registry 0 frames refused) c' := by
  obtain ⟨t, reached, c, tracked, first, answered⟩ := oneLine_answered
  obtain ⟨frames, refused, shape, lines, begun, -, u, c', further, found, complete⟩ :=
    responses_in_order counting 0 oneLine rfl rfl counting_steady oneLine_sized t reached c tracked
  rw [first] at shape further found
  exact ⟨t, u, c, c', frames, refused, reached, tracked, answered, begun, shape, lines, further, found,
    complete⟩

end Traffic

end DebugGateway
