import DebugGateway.Execution.Phase
import DebugGateway.Proofs.Daemon.Orders
import DebugGateway.Proofs.Daemon.Typing

/-! A gateway obeys its operator. Whatever the order in which the lines are read, the signal comes and
clients are served, the orders obeyed are what the console dictates, up to the first that is to end, and
the gateway stands as they have it. The end of the console is no order. -/
namespace DebugGateway

variable {σ : Type}

namespace Supervision

open Daemon (Event)

def commandsIn (events : List Event) : List OperatorCommand :=
  events.filterMap fun
    | .operator c => some c
    | .signal => none

def unread (console : Option (List (List UInt8))) : List OperatorCommand :=
  OperatorCommand.ofLines (Text.readable (console.getD [])).1

/-- The orders obeyed: none is to end as long as the gateway has not ended, and then only the last. -/
structure Orderly (ended : Bool) (obeyed : List Event) : Prop where
  going : ended = false → ∀ e ∈ obeyed, e.closes = false
  closed : ended = true → ∃ before last, obeyed = before ++ [last] ∧ last.closes = true ∧
    ∀ e ∈ before, e.closes = false

structure Sound (input : List UInt8) (obeyed : List Event) (s : Supervision σ) : Prop where
  account : commandsIn (obeyed ++ s.told) ++ unread s.console = OperatorCommand.ofStream input
  signalled : s.watching = false → .signal ∈ obeyed ++ s.told
  orderly : Orderly s.daemon.ended obeyed
  follows : s.daemon.Follows (Regime.after obeyed)

theorem Orderly.obey {d : Daemon σ} {obeyed : List Event} (waiting : d.ended = false)
    (orderly : Orderly d.ended obeyed) (e : Event) :
    Orderly (d.handle e).ended (obeyed ++ [e]) := by
  have going := orderly.going waiting
  rw [Daemon.ended_handle waiting]
  refine ⟨fun goesOn f member => ?_, fun closes => ⟨obeyed, e, rfl, closes, going⟩⟩
  rcases List.mem_append.mp member with before | last
  · exact going f before
  · rw [List.mem_singleton.mp last, goesOn]

theorem exists_commands {events : List Event} (going : ∀ e ∈ events, e.closes = false) :
    ∃ commands : List OperatorCommand, events = commands.map .operator ∧ .exit ∉ commands := by
  induction events with
  | nil => exact ⟨[], rfl, List.not_mem_nil⟩
  | cons e events ih =>
    obtain ⟨commands, rfl, without⟩ := ih fun f member => going f (List.mem_cons_of_mem e member)
    have here := going e List.mem_cons_self
    cases e with
    | signal => cases here
    | operator c =>
      refine ⟨c :: commands, rfl, ?_⟩
      rw [List.mem_cons, not_or]
      refine ⟨?_, without⟩
      rintro rfl
      cases here

theorem commandsIn_append (first second : List Event) :
    commandsIn (first ++ second) = commandsIn first ++ commandsIn second := List.filterMap_append

theorem commandsIn_operator (commands : List OperatorCommand) :
    commandsIn (commands.map .operator) = commands := by
  rw [commandsIn, List.filterMap_map]
  exact List.filterMap_some

theorem Sound.step {input : List UInt8} {obeyed more : List Event} {s next : Supervision σ}
    (sound : Sound input obeyed s) (step : Step s more next) : Sound input (obeyed ++ more) next := by
  obtain ⟨account, signalled, orderly, follows⟩ := sound
  cases step with
  | @hear d line lines text watching told read =>
    rw [List.append_nil]
    refine ⟨?_, fun unwatched => ?_, orderly, follows⟩
    · rw [← account]
      simp only [unread, Option.getD_some, Text.readable_text read, commandsIn_append,
        commandsIn_operator, List.append_assoc]
      rw [← OperatorCommand.ofLines_append]
      rfl
    · rw [← List.append_assoc]
      exact List.mem_append_left _ (signalled unwatched)
  | garbled read =>
    rw [List.append_nil]
    refine ⟨?_, signalled, orderly, follows⟩
    rw [← account]
    simp only [unread, Option.getD_some, Option.getD_none, Text.readable_fault read]
    rfl
  | closed =>
    rw [List.append_nil]
    exact ⟨account, signalled, orderly, follows⟩
  | signal =>
    rw [List.append_nil]
    refine ⟨?_, fun _ => by simp, orderly, follows⟩
    rw [← account, ← List.append_assoc, commandsIn_append (_ ++ _)]
    simp [commandsIn]
  | @obey d console watching e told waiting =>
    have whole : obeyed ++ [e] ++ told = obeyed ++ e :: told := by simp
    refine ⟨whole ▸ account, whole ▸ signalled, orderly.obey waiting e, ?_⟩
    rw [Regime.after_snoc]
    exact follows.handle waiting e
  | forsaken waiting =>
    -- a signal has been told of and waits no more, so it was obeyed
    have obeyed_signal := signalled rfl
    rw [List.append_nil] at obeyed_signal
    have ends := orderly.going waiting _ obeyed_signal
    cases ends
  | meanwhile waiting goes =>
    rw [List.append_nil]
    exact ⟨account, signalled, goes.ended.symm ▸ orderly, follows.meanwhile goes⟩

theorem Reaches.sound {input : List UInt8} {obeyed : List Event} {s fin : Supervision σ}
    (sound : Sound input [] s) (reached : Reaches s obeyed fin) : Sound input obeyed fin := by
  induction reached with
  | nil => exact sound
  | snoc _ step ih => exact ih.step step

section Going

variable {s mid fin : Supervision σ} {first second : List Event}

theorem Reaches.trans (earlier : Reaches s first mid) (later : Reaches mid second fin) :
    Reaches s (first ++ second) fin := by
  induction later with
  | nil =>
    rw [List.append_nil]
    exact earlier
  | snoc _ step ih =>
    rw [← List.append_assoc]
    exact ih.snoc step

theorem Reaches.closed (ended : s.daemon.ended = true) (later : Reaches s second fin) :
    second = [] ∧ fin.daemon = s.daemon := by
  induction later with
  | nil => exact ⟨rfl, rfl⟩
  | snoc _ step ih =>
    obtain ⟨rfl, same⟩ := ih
    cases step with
    | hear | garbled | closed | signal => exact ⟨rfl, same⟩
    | obey waiting | forsaken waiting | meanwhile waiting =>
      rw [← same] at ended
      cases ended.symm.trans waiting

end Going

/-! ## What a gateway under orders does -/

/-- The orders obeyed are these commands, which the console dictates in this order, and where the gateway
has ended one more that is to end. A gateway that has not ended and is told nothing more has obeyed all
that was dictated, and there has been no signal. -/
structure Ordered (dictated commands : List OperatorCommand) (obeyed : List Event) (s : Supervision σ) :
    Prop where
  lasting : .exit ∉ commands
  going : s.daemon.ended = false → obeyed = commands.map .operator ∧ commands <+: dictated
  idle : s.daemon.ended = false → s.console = none → s.told = [] →
    commands = dictated ∧ s.watching = true
  ending : s.daemon.ended = true →
    obeyed = commands.map .operator ++ [.operator .exit] ∧ commands ++ [.exit] <+: dictated ∨
    obeyed = commands.map .operator ++ [.signal] ∧ commands <+: dictated

theorem Sound.ordered {input : List UInt8} {obeyed : List Event} {s : Supervision σ}
    (sound : Sound input obeyed s) :
    ∃ commands, Ordered (OperatorCommand.ofStream input) commands obeyed s := by
  obtain ⟨account, signalled, orderly, -⟩ := sound
  rw [commandsIn_append, List.append_assoc] at account
  cases ended : s.daemon.ended with
  | false =>
    obtain ⟨commands, rfl, lasting⟩ := exists_commands (orderly.going ended)
    rw [commandsIn_operator] at account
    refine ⟨commands, lasting, fun _ => ⟨rfl, _, account⟩, fun _ read obeyed => ?_, fun past => ?_⟩
    · rw [read, obeyed] at account
      refine ⟨by rw [← account]; exact (List.append_nil _).symm, ?_⟩
      cases watching : s.watching with
      | true => rfl
      | false =>
        have signal := signalled watching
        rw [obeyed, List.append_nil] at signal
        obtain ⟨c, -, same⟩ := List.mem_map.mp signal
        cases same
    · cases ended.symm.trans past
  | true =>
    obtain ⟨before, last, rfl, closes, going⟩ := orderly.closed ended
    obtain ⟨commands, rfl, lasting⟩ := exists_commands going
    rw [commandsIn_append, commandsIn_operator] at account
    have past {p : Prop} (going : s.daemon.ended = false) : p := nomatch ended.symm.trans going
    refine ⟨commands, lasting, past, past, fun _ => ?_⟩
    cases last with
    | signal =>
      rw [List.append_assoc] at account
      exact .inr ⟨rfl, _, account⟩
    | operator c =>
      cases c with
      | exit => exact .inl ⟨rfl, _, account⟩
      | start | stop | status => cases closes

end Supervision

end DebugGateway
