import DebugGateway.Command.Dispatch
import DebugGateway.Proofs.Command.Registration

/-! The answer to a frame. What becomes of a frame is decided in a fixed order, each decision with the
response it leads to and with what the handlers have done to their world. The world and the handlers
are arbitrary: a handler that counts its runs, or writes them down, is one of them. -/
namespace DebugGateway

namespace CommandError

def hint : CommandError → String
  | execution _ _ (some text) => text
  | e => e.category.suggestion

def details : CommandError → Json.Members
  | timeout budget none => [("timeout_ms", .int (min budget greatestBudget))]
  | timeout budget (some output) =>
    [("partial_output", .text output), ("timeout_ms", .int (min budget greatestBudget))]
  | _ => []

theorem toFailure_eq (e : CommandError) :
    e.toFailure =
      { error := e.message, code := e.code, category := e.category, suggestion := e.hint,
        fields := e.details } := by
  cases e with
  | invalidArguments m => rfl
  | execution m category suggestion => cases suggestion <;> rfl
  | timeout budget output =>
    cases output with
    | none => rfl
    | some text =>
      have order : "partial_output" < "timeout_ms" := by decide
      simp [toFailure, Failure.withField, Failure.of, Json.Members.put, order, details, hint]
  | sessionUnavailable m => rfl

theorem code_not_protocol (e : CommandError) : e.code.isProtocol = false := by
  cases e <;> rfl

end CommandError

def protocolCodes : List ErrorCode :=
  [.invalidMessage, .invalidMessageType, .invalidCommand, .commandFailed]

theorem isProtocol_iff (code : ErrorCode) : code.isProtocol = true ↔ code ∈ protocolCodes := by
  cases code <;> decide

namespace Response

def FailsWith (r : Response) (code : ErrorCode) : Prop :=
  ∃ f, r.outcome = .failure f ∧ f.code = code

def KindAgrees (r : Response) : Prop :=
  r.kind = .error ↔ ∃ code ∈ protocolCodes, r.FailsWith code

def Succeeds (r : Response) : Prop := r.status = "success"

theorem succeeds_iff (r : Response) : r.Succeeds ↔ ∃ reply, r.outcome = .success reply := by
  unfold Succeeds status
  cases r.outcome <;> simp

theorem kindAgrees_success (id : Int) (command : String) (reply : Reply) :
    (success id command reply).KindAgrees := by
  simp [KindAgrees, FailsWith, success]

theorem kindAgrees_failure (id : Int) (command : String) (f : Failure) :
    (failure id command f).KindAgrees := by
  have agree := isProtocol_iff f.code
  cases protocol : f.code.isProtocol with
  | true =>
    rw [protocol] at agree
    simpa [KindAgrees, FailsWith, failure, protocol] using agree
  | false =>
    rw [protocol] at agree
    simpa [KindAgrees, FailsWith, failure, protocol] using agree

theorem kindAgrees_protocolError (id : Option Int) (command : Option String) (f : Failure)
    (protocol : f.code ∈ protocolCodes) : (protocolError id command f).KindAgrees := by
  simpa [KindAgrees, FailsWith, protocolError] using protocol

end Response

namespace Dispatch

open Registry (registered)

variable {σ : Type}

def Tells (r : Response) : Handled → Prop
  | .reply reply => r.outcome = .success reply
  | .error e =>
    r.outcome = .failure
      { error := e.message, code := e.code, category := e.category, suggestion := e.hint,
        fields := e.details }
  | .panic _ => r.FailsWith .commandFailed

/-- How a request is answered: another type than a command first, then a name that nothing is
registered under, then what the handler makes of it in its one run. -/
def Decided (handler? : String → Option (Handler σ)) (r : Request) (s : σ)
    (answer : Response × σ) : Prop :=
  if r.kind ≠ "command" then answer.1.FailsWith .invalidMessageType ∧ answer.2 = s
  else match handler? r.command with
    | none => answer.1.FailsWith .invalidCommand ∧ answer.2 = s
    | some handler => Tells answer.1 (handler r s).1 ∧ answer.2 = (handler r s).2

def Replied (handler? : String → Option (Handler σ)) (bytes : List UInt8) (s : σ) : Prop :=
  ∃ r handler reply, Request.parse bytes = .ok r ∧ r.kind = "command" ∧
    handler? r.command = some handler ∧ (handler r s).1 = .reply reply

theorem afterHandler_tells (r : Request) (handled : Handled) :
    Tells (afterHandler r handled) handled := by
  cases handled with
  | reply reply => rfl
  | error e => exact congrArg Outcome.failure e.toFailure_eq
  | panic p => exact ⟨_, rfl, rfl⟩

theorem afterHandler_kindAgrees (r : Request) (handled : Handled) :
    (afterHandler r handled).KindAgrees := by
  cases handled with
  | reply reply => exact Response.kindAgrees_success _ _ _
  | error e => exact Response.kindAgrees_failure _ _ _
  | panic p => exact Response.kindAgrees_failure _ _ _

theorem request_correlated (registry : Registry (Handler σ)) (r : Request) (s : σ) :
    (request registry r s).1.id = some r.id ∧ (request registry r s).1.command = some r.command := by
  unfold request
  split
  · split
    · rename_i handler _
      cases handled : (handler r s).1 <;> simp [handled, afterHandler, Response.success, Response.failure]
    · exact ⟨rfl, rfl⟩
  · exact ⟨rfl, rfl⟩

theorem request_decided (registry : Registry (Handler σ)) (r : Request) (s : σ) :
    Decided registry.lookup r s (request registry r s) := by
  unfold Decided request Request.isCommand Request.commandKind
  by_cases command : r.kind = "command"
  · cases found : registry.lookup r.command with
    | none => simpa [command, found] using ⟨_, rfl, rfl⟩
    | some handler => simpa [command, found] using afterHandler_tells r (handler r s).1
  · simpa [command] using ⟨_, rfl, rfl⟩

theorem request_kindAgrees (registry : Registry (Handler σ)) (r : Request) (s : σ) :
    (request registry r s).1.KindAgrees := by
  unfold request
  split
  · split
    · exact afterHandler_kindAgrees _ _
    · exact Response.kindAgrees_failure _ _ _
  · exact Response.kindAgrees_failure _ _ _

theorem Decided.succeeds_iff {handler? : String → Option (Handler σ)} {r : Request} {s : σ}
    {answer : Response × σ} (h : Decided handler? r s answer) :
    answer.1.Succeeds ↔ r.kind = "command" ∧
      ∃ handler reply, handler? r.command = some handler ∧ (handler r s).1 = .reply reply := by
  rw [Response.succeeds_iff]
  unfold Decided at h
  split at h
  · rename_i other
    obtain ⟨⟨f, failed, _⟩, _⟩ := h
    simp [failed, other]
  · rename_i command
    have command : r.kind = "command" := Decidable.of_not_not command
    cases found : handler? r.command with
    | none =>
      simp only [found] at h
      obtain ⟨⟨f, failed, _⟩, _⟩ := h
      simp [failed]
    | some handler =>
      simp only [found] at h
      obtain ⟨told, _⟩ := h
      cases handled : (handler r s).1 with
      | reply reply =>
        rw [handled] at told
        exact ⟨fun _ => ⟨command, handler, reply, rfl, handled⟩, fun _ => ⟨reply, told⟩⟩
      | error e =>
        rw [handled] at told
        simp [show answer.1.outcome = _ from told, handled]
      | panic p =>
        rw [handled] at told
        obtain ⟨f, failed, _⟩ := told
        simp [failed, handled]

/-- Every frame gets one response. Bytes that are no request are refused without an id and without a
command. The response to a request bears its id and its command whatever a handler does, and what it
tells is decided in order; the world is left as it was or as the one handler run on it has left it.
The type of the response agrees with its code, and it says success just when a handler has replied. -/
theorem frame_answered (operations : List (Registry.Operation (Handler σ))) (bytes : List UInt8)
    (s : σ) :
    let handler? := fun name => registered name operations
    let answer := frame (Registry.after operations) bytes s
    (match Request.parse bytes with
      | .error _ =>
        answer.1.id = none ∧ answer.1.command = none ∧ answer.1.FailsWith .invalidMessage ∧
          answer.2 = s
      | .ok r =>
        answer.1.id = some r.id ∧ answer.1.command = some r.command ∧ Decided handler? r s answer) ∧
    handler? "" = none ∧ answer.1.KindAgrees ∧ (answer.1.Succeeds ↔ Replied handler? bytes s) := by
  intro handler? answer
  have nameless : handler? "" = none := Registry.registered_blank (by decide) operations
  have lookup : (Registry.after operations).lookup = handler? :=
    funext fun name => Registry.lookup_after operations name
  cases parsed : Request.parse bytes with
  | error e =>
    have result : answer = (malformed e, s) := by simp only [answer, frame, parsed]
    rw [result]
    refine ⟨⟨rfl, rfl, ⟨_, rfl, rfl⟩, rfl⟩, nameless, ?_, ?_⟩
    · exact Response.kindAgrees_protocolError _ _ _ (.head _)
    · rw [Response.succeeds_iff]
      simp [malformed, Response.protocolError, Replied, parsed]
  | ok r =>
    have result : answer = request (Registry.after operations) r s := by
      simp only [answer, frame, parsed]
    have decided : Decided handler? r s answer := by
      rw [result, ← lookup]
      exact request_decided _ r s
    obtain ⟨id, command⟩ := request_correlated (Registry.after operations) r s
    refine ⟨⟨result ▸ id, result ▸ command, decided⟩, nameless, ?_, ?_⟩
    · rw [result]
      exact request_kindAgrees _ r s
    · rw [decided.succeeds_iff]
      simp [Replied, parsed]

end Dispatch

end DebugGateway
