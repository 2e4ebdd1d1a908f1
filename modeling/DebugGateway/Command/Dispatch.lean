import DebugGateway.Command.Outcome
import DebugGateway.Command.Registry
import DebugGateway.Message
import DebugGateway.Session
import DebugGateway.Text

namespace DebugGateway

inductive Panic where
  | text (message : String)
  | other
deriving DecidableEq, Repr

def Panic.message : Panic → String
  | .text m => m
  | .other => "handler panicked"

inductive Handled where
  | reply (reply : Reply)
  | error (e : CommandError)
  | panic (p : Panic)
deriving Repr

abbrev Handler (σ : Type) := Request → σ → Handled × σ

namespace Dispatch

def malformed (e : RequestError) : Response :=
  .protocolError none none
    ((Failure.of .invalidMessage .commandSyntax ("error processing message: " ++ e.message)).withSuggestion
      "Send one JSON object per line.")

def wrongKind (r : Request) : Response :=
  .failure r.id r.command
    ((Failure.of .invalidMessageType .commandSyntax "only command messages are supported").withSuggestion
      "Set \"type\" to \"command\".")

/-- The response to a command that is not registered; `names` are those that are. -/
def unknownCommand (r : Request) (names : List String) : Response :=
  .failure r.id r.command
    ((Failure.of .invalidCommand .commandSyntax ("unknown command: " ++ r.command)).withSuggestion
      ("Registered commands: " ++ ", ".intercalate names ++ "."))

def afterHandler (r : Request) : Handled → Response
  | .reply reply => .success r.id r.command reply
  | .error e => .failure r.id r.command e.toFailure
  | .panic p =>
    .failure r.id r.command
      (Failure.of .commandFailed .internalError ("command execution failed: " ++ p.message))

def oversize (message : String) : Response :=
  .protocolError none none
    ((Failure.of .invalidMessage .resourceExhaustion
        ("error processing message: " ++ message)).withSuggestion
      "Split the request so each message stays under the frame limit.")

variable {σ : Type}

def request (registry : Registry (Handler σ)) (r : Request) (s : σ) : Response × σ :=
  if r.isCommand then
    match registry.lookup r.command with
    | some handler =>
      let (handled, s) := handler r s
      (afterHandler r handled, s)
    | none => (unknownCommand r registry.names, s)
  else (wrongKind r, s)

def frame (registry : Registry (Handler σ)) (bytes : List UInt8) (s : σ) : Response × σ :=
  match Request.parse bytes with
  | .ok r => request registry r s
  | .error e => (malformed e, s)

end Dispatch

end DebugGateway

namespace DebugGateway.Arguments

open Json

/-- An argument that may be left out: a text without the blanks at its ends, a blank text being as
good as none. -/
def text? (args : Members) (key : String) : Except CommandError (Option String) :=
  match args.get? key with
  | none | some .null => .ok none
  | some (.text s) => .ok (if Text.isAllBlank s then none else some (Text.trim s))
  | some _ => .error (.invalidArguments (key ++ " must be a string"))

def text (args : Members) (key : String) : Except CommandError String :=
  match text? args key with
  | .ok (some s) => .ok s
  | .ok none => .error (.invalidArguments (key ++ " is required"))
  | .error e => .error e

def count? (args : Members) (key : String) : Except CommandError (Option Nat) :=
  match args.get? key with
  | none | some .null => .ok none
  | some value =>
    match value.asNat? with
    | some n => .ok (some n)
    | none => .error (.invalidArguments (key ++ " must be a non-negative integer"))

def positive (args : Members) (key : String) (fallback : Nat) : Except CommandError Nat :=
  match count? args key with
  | .ok (some n) => if n = 0 then .error (.invalidArguments (key ++ " must be positive")) else .ok n
  | .ok none => .ok fallback
  | .error e => .error e

def budget (args : Members) (fallback : Nat) : Except CommandError Nat :=
  positive args "timeout_ms" fallback

def flag (args : Members) (key : String) (fallback : Bool) : Except CommandError Bool :=
  match args.get? key with
  | none | some .null => .ok fallback
  | some (.bool b) => .ok b
  | some _ => .error (.invalidArguments (key ++ " must be a boolean"))

end DebugGateway.Arguments

namespace DebugGateway

/-- What a command sees when it looks up: the session and the time. -/
structure Sight where
  session : Session
  now : Moment

/-- What a built-in command does, as data: it looks at the session, has native commands run, and ends in an
answer. A plan that ends at once runs nothing, whoever follows it. -/
inductive Plan where
  | done (answer : Except CommandError Reply)
  | look (next : Sight → Plan)
  | execute (command : String) (budget : Nat) (next : ExecutionResult → Plan)

namespace Plan

def reply (r : Reply) : Plan := done (.ok r)

def fail (e : CommandError) : Plan := done (.error e)

def given {α : Type} (x : Except CommandError α) (next : α → Plan) : Plan :=
  match x with
  | .ok a => next a
  | .error e => fail e

/-- Runs a command and goes on with its output, or fails as the execution did. -/
def output (command : String) (budget : Nat) (next : String → Plan) : Plan :=
  execute command budget fun r => given (r.outcome command budget) next

variable {σ : Type}

def follow (runner : Runner σ) : Plan → Desk σ → Except CommandError Reply × Desk σ
  | done a, d => (a, d)
  | look next, d => follow runner (next ⟨d.session, runner.now d.world⟩) d
  | execute command budget next, d =>
    let (r, d) := d.execute runner command budget
    follow runner (next r) d

def handler (runner : Runner σ) (plan : Request → Plan) : Handler (Desk σ) := fun r d =>
  match (plan r).follow runner d with
  | (.ok reply, d) => (.reply reply, d)
  | (.error e, d) => (.error e, d)

end Plan

end DebugGateway
