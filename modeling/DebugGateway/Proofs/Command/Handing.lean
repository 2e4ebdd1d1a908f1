import DebugGateway.Proofs.Command.Arguments
import DebugGateway.Proofs.Command.Runs
import DebugGateway.Proofs.Engine.Writing

namespace DebugGateway.Builtin

open Arguments Console Console.Conversation

/-- The native commands of a built-in command: its own, or those made of the texts of the request. -/
def Native (name : String) (args : Json.Members) (command : String) : Prop :=
  match name with
  | "lm" => command = "lm"
  | "dt" =>
    ∃ typeName, HasText args "type_name" typeName ∧ (command = "dt " ++ typeName ∨
      ∃ address, HasText args "address" address ∧ command = "dt " ++ typeName ++ " " ++ address)
  | "dd" =>
    ∃ address, HasText args "address" address ∧
      ∃ length : Nat, command = "dd " ++ address ++ " " ++ toString length
  | "get_metadata" => command = "!target" ∨ command = "lm"
  | "execute_command" | "execute_command_enhanced" | "execute_command_streaming" =>
    HasText args "command" command
  | "for_each_module" =>
    ∃ inner, HasText args "command" inner ∧ command = "!for_each_module " ++ inner
  | "health_check" | "performance_metrics" => command = "version"
  | _ => False

section Texts

open Plan

variable {allowed : String → Nat → Prop}

theorem within_reply (reply : Reply) : Within allowed (fun _ => True) (.reply reply) := .done trivial

theorem within_output {command : String} {budget : Nat} {next : String → Plan}
    (may : allowed command budget) (each : ∀ output, Within allowed (fun _ => True) (next output)) :
    Within allowed (fun _ => True) (.output command budget next) :=
  .execute may fun _ => .given (fun _ _ => trivial) fun output _ => each output

theorem within_run {command : String} {requested : Nat} {next : String → Json.Value → Plan}
    (may : ∀ budget, allowed command budget)
    (each : ∀ output metadata, Within allowed (fun _ => True) (next output metadata)) :
    Within allowed (fun _ => True) (run command requested next) :=
  .execute (may _) fun _ => .given (fun _ _ => trivial) fun output _ => .look fun _ => each output _

/-- Whatever stands in its arguments, a request leads to no other native commands. -/
theorem plans_native (defaultBudget : Nat) {name : String} {plan : Request → Plan}
    (member : (name, plan) ∈ plans defaultBudget) (r : Request) :
    Within (fun command _ => Native name r.args command) (fun _ => True) (plan r) := by
  cases member using plans_cases with
  | check_connection => exact within_reply _
  | version => exact within_reply _
  | lm => exact .given (fun _ _ => trivial) fun _ _ => within_output rfl fun _ => within_reply _
  | dt =>
    refine .given (fun _ _ => trivial) fun typeName named =>
      .given (fun _ _ => trivial) fun address located => .given (fun _ _ => trivial) fun _ _ =>
        within_output ⟨typeName, text_eq_ok_iff.mp named, ?_⟩ fun _ => within_reply _
    cases address with
    | none => exact .inl rfl
    | some address => exact .inr ⟨address, text?_eq_some_iff.mp located, rfl⟩
  | dd =>
    exact .given (fun _ _ => trivial) fun length _ =>
      .given (fun _ _ => trivial) fun address located => .given (fun _ _ => trivial) fun _ _ =>
        within_output ⟨address, text_eq_ok_iff.mp located, length, rfl⟩ fun _ => within_reply _
  | get_metadata =>
    exact .given (fun _ _ => trivial) fun _ _ => within_output (.inl rfl) fun _ =>
      within_output (.inr rfl) fun _ => within_reply _
  | execute_command =>
    exact .given (fun _ _ => trivial) fun _ asked => within_run (fun _ => requestedCommand_text asked)
      fun _ _ => .given (fun _ _ => trivial) fun _ _ => within_reply _
  | execute_command_enhanced =>
    exact .given (fun _ _ => trivial) fun _ asked => .given (fun _ _ => trivial) fun _ _ =>
      within_run (fun _ => requestedCommand_text asked) fun _ _ => within_reply _
  | execute_command_streaming =>
    exact .given (fun _ _ => trivial) fun _ asked => within_run (fun _ => requestedCommand_text asked)
      fun _ _ => within_reply _
  | for_each_module =>
    exact .given (fun _ _ => trivial) fun asked read =>
      within_run (fun _ => ⟨asked.1, requestedCommand_text read, rfl⟩) fun _ _ => within_reply _
  | health_check => exact .look fun _ => .execute rfl fun _ => .look fun _ => within_reply _
  | performance_metrics => exact .look fun _ => .execute rfl fun _ => .look fun _ => within_reply _

end Texts

/-- What becomes of a command that is given to a session: one that is no single line is refused and
changes nothing, any other is taken while the debugger lives, and then its line and the request for its
marker are all that reaches the debugger for it. The debugger gets what is written for the calls, one
call after another, and reads no other lines. -/
structure Handed (reply : Entry → List UInt8) (s : Conversation) (read : List Entry)
    (command : String) : Prop where
  refused : Broken command →
    refusal? s.program command s.wire.ended = some (.failed "commands must fit on a single line") ∧
      s.step reply (.prepare command) = some s ∧ ∀ call ∈ s.calls, call.command ≠ command
  taken : ¬ Broken command → s.wire.ended = none →
    s.step reply (.prepare command) = some { s with calls := s.calls ++ [{ command }] }
  arrives : ∀ i call, s.calls[i]? = some call → call.command = command →
    OnOneLine s (s.input read) i command
  stream : ∃ order : List Nat, order.Nodup ∧ (∀ i ∈ order, ∃ call, s.calls[i]? = some call) ∧
    let due := order.flatMap fun i =>
      Text.toBytes (written (s.lineOf (.command i)) (marker s.nonce i))
    s.sent (s.input read) <+: due ∧
      (s.wire.ended = none → s.turn = none → s.sent (s.input read) = due)
  heard : Text.cutLines (s.sent (s.input read)) =
    ((s.input read).map fun e => Text.toBytes (s.lineOf e), [])

theorem handed {reply : Entry → List UInt8} {program : String} {nonce : Nat} {s : Conversation}
    {read : List Entry} (observed : Observed reply program nonce s read) (command : String) :
    Handed reply s read command where
  refused broken := by
    refine ⟨refusal_broken broken, ?_, fun call member same => ?_⟩
    · simp only [Conversation.step, refusal_broken broken]
    · exact observed.reachable.unbroken call member (same ▸ broken)
  taken single living := by
    have accepted : refusal? s.program command s.wire.ended = none := by
      rw [refusal?, if_neg (mt (broken_iff command).mpr single), living]
      rfl
    simp only [Conversation.step, accepted]
  arrives i call found same := same ▸ observed.onOneLine found
  stream := by
    obtain ⟨order, rest, tidy⟩ := observed.tidy
    have prepared : ∀ i ∈ order, ∃ call, s.calls[i]? = some call := fun i begun => tidy.prepared begun
    have due := sent_pairs prepared
    rw [← tidy.shape, sent_append] at due
    refine ⟨order, tidy.nodup, prepared, ⟨s.sent rest, due⟩, fun living free => ?_⟩
    have nothing : rest = [] := by
      rw [tidy.living living, writing, free]
      rfl
    rw [← due, nothing]
    exact (List.append_nil _).symm
  heard := observed.cut

/-- Whatever texts stand in the arguments of a request, the native commands that it leads to are those
of its command, and of each the debugger gets one line or nothing at all. -/
theorem runs_handed {σ : Type} {runner : Runner σ} {defaultBudget : Nat} {r : Request} {d : Desk σ}
    {x : Run} (made : x ∈ runs runner defaultBudget r d) {reply : Entry → List UInt8}
    {program : String} {nonce : Nat} {s : Conversation} {read : List Entry}
    (observed : Observed reply program nonce s read) :
    Native r.command r.args x.command ∧ Handed reply s read x.command := by
  refine ⟨?_, handed observed x.command⟩
  rcases request_cases runner defaultBudget r d with
    ⟨plan, _, member, executions, _⟩ | ⟨_, nothing, _⟩
  · rw [executions] at made
    exact (plans_native defaultBudget member r).runs runner d x made
  · rw [nothing] at made
    exact absurd made List.not_mem_nil

/-- A backtrace reaches the debugger in two lines, the first of which it has read; a type name with a
newline in it is refused. -/
theorem runs_handed_backtrace :
    let d : Desk (List Ending) := ⟨[], .start "session" {}⟩
    let asked := Request.ofCommand 1 "execute_command" [("command", .text " bt\t")]
    let split := Request.ofCommand 2 "dt" [("type_name", .text "task\nquit")]
    ∃ s read x y, Observed (fun _ => []) "gdb" 7 s read ∧
      x ∈ runs Runner.told 2000 asked d ∧ y ∈ runs Runner.told 2000 split d ∧
      read = [.command 0] ∧ s.wire.entries = [.marker 0] ∧
      x.command = "bt" ∧ Arrived s (s.input read) 0 "bt" ∧ y.command = "dt task\nquit" ∧
      refusal? s.program y.command s.wire.ended =
        some (.failed "commands must fit on a single line") := by
  intro d asked split
  let x : Run := ⟨"bt", 30000, .refused 30000 30000⟩
  let y : Run := ⟨"dt task\nquit", 2000, .refused 2000 2000⟩
  have bt : x ∈ runs Runner.told 2000 asked d := by
    rw [show runs Runner.told 2000 asked d = [x] by decide]
    exact List.mem_cons_self
  have dt : y ∈ runs Runner.told 2000 split d := by
    rw [show runs Runner.told 2000 split d = [y] by decide]
    exact List.mem_cons_self
  have fresh : Observed (fun _ => []) "gdb" 7 _ [] := .start
  have observed := ((((fresh.step (.prepare "bt") rfl).step (.begin 0) rfl).step .write rfl).step
    .fetch rfl).step .write rfl
  refine ⟨_, _, x, y, observed, bt, dt, rfl, rfl, rfl, ?_, rfl, ?_⟩
  · exact ((runs_handed bt observed).2.arrives 0 _ rfl rfl).complete rfl
  · exact ((runs_handed dt observed).2.refused (.inl (by decide))).1

end DebugGateway.Builtin
