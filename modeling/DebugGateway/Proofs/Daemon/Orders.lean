import DebugGateway.Daemon
import DebugGateway.Proofs.Basics
import Mathlib.Data.List.Chain
import Mathlib.Data.List.Forall2
import Mathlib.Data.List.Induction

namespace DebugGateway

variable {σ : Type}

/-- The turn that a report tells of: the server was started, or it was stopped. -/
def HealthEvent.turn? : HealthEvent → Option Bool
  | .started .. => some true
  | .stopped _ => some false
  | _ => none

def Server.turns (s : Server σ) : List Bool := s.events.filterMap HealthEvent.turn?

def Daemon.Event.closes : Daemon.Event → Bool
  | .operator .exit | .signal => true
  | _ => false

structure Regime where
  running : Bool := true
  turns : List Bool := [true]
  statuses : List Bool := []

namespace Regime

def turn (c : Regime) : Regime := { c with running := !c.running, turns := c.turns ++ [!c.running] }

def seek (running : Bool) (c : Regime) : Regime := if c.running = running then c else c.turn

def obey (c : Regime) : Daemon.Event → Regime
  | .operator .start => c.seek true
  | .operator .stop | .operator .exit | .signal => c.seek false
  | .operator .status => { c with statuses := c.statuses ++ [c.running] }

def after (orders : List Daemon.Event) : Regime := orders.foldl obey {}

theorem after_snoc (orders : List Daemon.Event) (e : Daemon.Event) :
    after (orders ++ [e]) = (after orders).obey e := by
  rw [after, List.foldl_append]
  rfl

/-- Whatever was started was stopped before it was started again, beginning with a start; the last turn
led to where the server is now. -/
structure Alternating (c : Regime) : Prop where
  apart : c.turns.IsChain (· ≠ ·)
  first : c.turns.head? = some true
  last : c.turns.getLast? = some c.running

variable {c : Regime}

theorem Alternating.turn (alternating : c.Alternating) : c.turn.Alternating where
  apart := by
    refine List.isChain_append.mpr ⟨alternating.apart, List.isChain_singleton _, ?_⟩
    -- the last turn led to where the server was, the new one leads away from it
    intro last before next after
    rw [Option.mem_def, alternating.last] at before
    cases before
    cases after
    cases c.running <;> decide
  first := by rw [Regime.turn, List.head?_append, alternating.first]; rfl
  last := by simp [Regime.turn]

theorem Alternating.seek (alternating : c.Alternating) (running : Bool) :
    (c.seek running).Alternating := by
  unfold Regime.seek
  split
  · exact alternating
  · exact alternating.turn

theorem Alternating.obey (alternating : c.Alternating) (e : Daemon.Event) : (c.obey e).Alternating := by
  cases e with
  | signal => exact alternating.seek false
  | operator command =>
    cases command with
    | start => exact alternating.seek true
    | stop | exit => exact alternating.seek false
    | status => exact ⟨alternating.apart, alternating.first, alternating.last⟩

end Regime

namespace Server

variable {s s' : Server σ}

theorem turns_start {channel : Channel} {host host' : Host}
    (started : s.start channel host = .ok (s', host')) :
    s'.running = true ∧ s'.listener.isSome = true ∧ s'.turns = s.turns ++ [true] := by
  unfold start at started
  split at started
  · cases started
  · cases started
    refine ⟨rfl, rfl, ?_⟩
    cases Listener.bind channel host <;> simp only [turns, List.append_assoc, List.filterMap_append] <;> rfl

theorem turns_serve {id : Nat} {e : Connection.Event} {world world' : σ}
    (done : s.serve id e world = some (s', world')) :
    s'.running = s.running ∧ s'.listener = s.listener ∧ s'.turns = s.turns := by
  simp only [serve, Option.bind_eq_bind, Option.bind_eq_some_iff] at done
  obtain ⟨c, found, ⟨c', world''⟩, stepped, same⟩ := done
  cases same
  refine ⟨rfl, rfl, ?_⟩
  cases e <;> simp [turns, HealthEvent.turn?]

end Server

namespace Daemon

structure Follows (d : Daemon σ) (c : Regime) : Prop where
  running : d.server.running = c.running
  listening : d.server.listener.isSome = c.running
  turns : d.server.turns = c.turns
  printed : List.Forall₂ (fun line running => Text.startsWith "running on" line = running) d.printed
    c.statuses

variable {d d' : Daemon σ} {c : Regime}

theorem statusLine_opening (d : Daemon σ) :
    Text.startsWith "running on" d.statusLine = d.server.running := by
  unfold statusLine
  dsimp only
  split
  · rename_i running
    rw [running]
    simp [Text.startsWith, String.toList_append, toString]
  · rename_i stopped
    rw [Bool.not_eq_true] at stopped
    rw [stopped]
    simp [Text.startsWith, String.toList_append, toString, List.isPrefixOf]

/-! ## Starting and stopping -/

theorem startServer_running (running : d.server.running = true) : d.startServer = d := by
  rw [startServer, Server.start, if_pos running]

theorem startServer_stopped (stopped : d.server.running = false) :
    ∃ (server : Server (Desk σ)) (host : Host), d.startServer = { d with server, host } ∧
      server.running = true ∧ server.listener.isSome = true ∧
      server.turns = d.server.turns ++ [true] := by
  cases started : d.server.start d.config.channel d.host with
  | error e =>
    rw [Server.start, if_neg (by simp [stopped])] at started
    cases started
  | ok next =>
    rw [startServer, started]
    exact ⟨next.1, next.2, rfl, Server.turns_start started⟩

theorem stopServer_stopped (stopped : d.server.running = false)
    (closed : d.server.listener.isSome = false) : d.stopServer = d := by
  have nothing : (!d.server.running && d.server.listener.isNone) = true := by
    rw [stopped, ← Option.not_isSome, closed]
    rfl
  rw [stopServer, Server.stop, if_pos nothing]

theorem stopServer_running (running : d.server.running = true) :
    ∃ (server : Server (Desk σ)) (host : Host), d.stopServer = { d with server, host } ∧
      server.running = false ∧ server.listener.isSome = false ∧
      server.turns = d.server.turns ++ [false] := by
  rw [stopServer, Server.stop, if_neg (by simp [running])]
  refine ⟨_, _, rfl, rfl, rfl, ?_⟩
  simp [Server.turns, HealthEvent.turn?]

theorem Follows.startServer (follows : d.Follows c) : d.startServer.Follows (c.seek true) := by
  have running := follows.running
  cases runs : c.running with
  | true =>
    rw [startServer_running (running.trans runs), Regime.seek, if_pos runs]
    exact follows
  | false =>
    obtain ⟨server, host, started, up, listening, turns⟩ := startServer_stopped (running.trans runs)
    rw [started, Regime.seek, if_neg (by simp [runs]), Regime.turn, runs]
    exact ⟨up, listening, by rw [turns, follows.turns]; rfl, follows.printed⟩

theorem Follows.stopServer (follows : d.Follows c) : d.stopServer.Follows (c.seek false) := by
  have running := follows.running
  cases runs : c.running with
  | false =>
    rw [stopServer_stopped (running.trans runs) (follows.listening.trans runs), Regime.seek, if_pos runs]
    exact follows
  | true =>
    obtain ⟨server, host, halted, down, closed, turns⟩ := stopServer_running (running.trans runs)
    rw [halted, Regime.seek, if_neg (by simp [runs]), Regime.turn, runs]
    exact ⟨down, closed, by rw [turns, follows.turns]; rfl, follows.printed⟩

/-! ## Orders -/

theorem ended_startServer (d : Daemon σ) : d.startServer.ended = d.ended := by
  unfold startServer
  split <;> rfl

theorem ended_handle (waiting : d.ended = false) (e : Event) : (d.handle e).ended = e.closes := by
  unfold handle
  rw [if_neg (by simp [waiting])]
  cases e with
  | signal => rfl
  | operator command =>
    cases command with
    | start => exact (ended_startServer d).trans waiting
    | stop | status => exact waiting
    | exit => rfl

theorem Follows.handle (follows : d.Follows c) (waiting : d.ended = false) (e : Event) :
    (d.handle e).Follows (c.obey e) := by
  have stopped := follows.stopServer
  unfold Daemon.handle
  rw [if_neg (by simp [waiting])]
  cases e with
  | signal => exact ⟨stopped.running, stopped.listening, stopped.turns, stopped.printed⟩
  | operator command =>
    cases command with
    | start => exact follows.startServer
    | stop => exact stopped
    | exit => exact ⟨stopped.running, stopped.listening, stopped.turns, stopped.printed⟩
    | status =>
      refine ⟨follows.running, follows.listening, follows.turns, ?_⟩
      refine List.rel_append follows.printed (.cons ?_ .nil)
      rw [statusLine_opening, follows.running]

theorem Meanwhile.ended (meanwhile : d.Meanwhile d') : d'.ended = d.ended := by
  cases meanwhile <;> rfl

theorem Follows.meanwhile (follows : d.Follows c) (meanwhile : d.Meanwhile d') : d'.Follows c := by
  obtain ⟨running, listening, turns, printed⟩ := follows
  cases meanwhile with
  | accept =>
    unfold Server.accept
    split
    · refine ⟨running, listening, ?_, printed⟩
      rw [← turns]
      simp [Server.turns, HealthEvent.turn?]
    · exact ⟨running, listening, turns, printed⟩
  | serve id e served =>
    obtain ⟨same, still, told⟩ := Server.turns_serve served
    exact ⟨same.trans running, by rw [still, listening], told.trans turns, printed⟩
  | reap => exact ⟨running, listening, turns, printed⟩
  | retry found => exact ⟨running, by rw [← listening, found]; rfl, turns, printed⟩
  | passing => exact ⟨running, listening, turns, printed⟩

/-! ## The launch -/

end Daemon

end DebugGateway
