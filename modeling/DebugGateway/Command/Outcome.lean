import DebugGateway.Message
import DebugGateway.Session
import DebugGateway.Text

namespace DebugGateway

open Json

inductive CommandError where
  | invalidArguments (message : String)
  | execution (message : String) (category : ErrorCategory) (suggestion : Option String)
  | timeout (budget : Nat) (partialOutput : Option String)
  | sessionUnavailable (message : String)
deriving DecidableEq, Repr

namespace CommandError

def message : CommandError → String
  | invalidArguments m => "invalid arguments: " ++ m
  | execution m _ _ => m
  | timeout budget _ => s!"command timed out after {budget} ms"
  | sessionUnavailable m => "debugging session unavailable: " ++ m

def code : CommandError → ErrorCode
  | invalidArguments _ => .invalidArguments
  | execution .. => .executionFailed
  | timeout .. => .timeout
  | sessionUnavailable _ => .sessionUnavailable

def category : CommandError → ErrorCategory
  | invalidArguments _ => .commandSyntax
  | execution _ category _ => category
  | timeout .. => .timeout
  | sessionUnavailable _ => .connectionLost

/-- Replaces the hint of a failed execution; other errors keep the one of their category. -/
def withSuggestion (text : String) : CommandError → CommandError
  | execution m category _ => execution m category (some text)
  | e => e

def greatestBudget : Nat := 0xffffffffffffffff

def toFailure (e : CommandError) : Failure :=
  let f := Failure.of e.code e.category e.message
  match e with
  | execution _ _ (some hint) => f.withSuggestion hint
  | timeout budget output =>
    let f := f.withField "timeout_ms" (.int (min budget greatestBudget))
    match output with
    | some text => f.withField "partial_output" (.text text)
    | none => f
  | _ => f

end CommandError

/-- The phrases of each kind of failure, in the order in which the kinds are tried. -/
def failurePhrases : List (ErrorCategory × List String) := [
  (.commandSyntax,
    ["syntax error", "invalid command", "unknown command", "undefined command",
      "ambiguous command"]),
  (.permissionDenied, ["access denied", "permission denied", "operation not permitted"]),
  (.memoryAccess,
    ["cannot access memory", "access violation", "invalid address", "memory read failed"]),
  (.resourceExhaustion,
    ["out of memory", "memory allocation", "resource temporarily unavailable"]),
  (.symbolOrTargetResolution,
    ["no symbol", "symbol not found", "could not resolve", "couldn't resolve",
      "unable to resolve", "no such file"]),
  (.connectionLost,
    ["connection", "disconnect", "rpc", "session unavailable", "debugger exited"]),
  (.timeout, ["timeout", "timed out"]),
  (.executionContext,
    ["not being run", "no frame", "no stack", "process", "thread", "context"])]

namespace ErrorCategory

def ofMessage (message : String) : ErrorCategory :=
  let text := Text.lowerForSearch message
  let spoken := failurePhrases.find? fun kind =>
    kind.2.any fun phrase => Text.occursIn phrase.toList text
  (spoken.map (·.1)).getD .unknown

/-- The hint given when `command` failed in this way: a command that was not understood is named. -/
def hint (category : ErrorCategory) (command : String) : String :=
  if category = .commandSyntax then
    let verb := (Text.words command).head?.getD command
    s!"Check the command syntax; run 'help {verb}' in the debugger for usage."
  else category.suggestion

end ErrorCategory

def ExecutionResult.outcome (command : String) (budget : Nat) (r : ExecutionResult) :
    Except CommandError String :=
  if r.timedOut then
    .error (.timeout budget (if r.output.isEmpty then none else some r.output))
  else if r.sessionUnavailable then
    .error (.sessionUnavailable (r.errorDetail.getD "no debugging session"))
  else if r.failed then
    let detail := match r.errorDetail with
      | some d => if Text.isAllBlank d then Text.trim r.output else d
      | none => Text.trim r.output
    let category := ErrorCategory.ofMessage detail
    .error (.execution detail category (some (category.hint command)))
  else .ok r.output

def greatestOutput : Nat := 64 * 1024

def capped (output note : String) : String :=
  if output.utf8ByteSize ≤ greatestOutput then output
  else Text.fitting greatestOutput output ++ "\n... [" ++ note ++ "]"

end DebugGateway
