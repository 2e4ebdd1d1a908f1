import DebugGateway.Command.Cost
import DebugGateway.Command.Dispatch

namespace DebugGateway.Builtin

open Json

def executeBudget : Nat := 30000

def longBudget : Nat := 60000

def requestedCommand (args : Members) (fallback : Nat) : Except CommandError (String × Nat) :=
  match Arguments.text args "command" with
  | .ok command => (Arguments.budget args fallback).map (command, ·)
  | .error e => .error e

def seconds (millis : Nat) : Value :=
  .real ((Number.Double.ofRatio millis 1000).getD .zero)

def runMetadata (elapsed budget : Nat) (cost : Cost) (now : Moment) : Value :=
  .object (Members.ofArrivals [
    ("execution_time", seconds elapsed),
    ("timeout_ms", .int budget),
    ("timeout_category", .text cost.name),
    ("timestamp", .text now.timestamp)])

/-- Runs a native command with the budget its cost demands and goes on with its output and what is
told of the run. -/
def run (command : String) (requested : Nat) (next : String → Value → Plan) : Plan :=
  let budget := grantedBudget command requested
  .execute command budget fun r =>
    .given (r.outcome command budget) fun output =>
      .look fun sight =>
        next output (runMetadata r.elapsed budget (Cost.ofCommand command) sight.now)

def silent : CommandError :=
  .execution "Command returned no output. The command might be invalid or unsupported." .unknown
    (some "Check that the command is valid in the current context.")

/-- What is shown of an output: itself, or where it says nothing the confirmation of the command. -/
def spoken (command output : String) : Except CommandError String :=
  if isEffectivelyEmpty output then
    match confirmation? command with
    | some text => .ok text
    | none => .error silent
  else .ok output

def executeCommand (r : Request) : Plan :=
  .given (requestedCommand r.args executeBudget) fun (command, requested) =>
    run command requested fun output metadata =>
      .given (spoken command output) fun text =>
        .reply ((Reply.ofOutput text).withField "metadata" metadata)

def executeCommandEnhanced (r : Request) : Plan :=
  .given (requestedCommand r.args executeBudget) fun (command, requested) =>
    .given (Arguments.flag r.args "include_metadata" true) fun described =>
      run command requested fun output metadata =>
        .reply (if described then (Reply.ofOutput output).withField "metadata" metadata
          else .ofOutput output)

def streamingThreshold : Nat := 50000

def streamingChunk : Nat := 4096

def streamingHint (size : Nat) : Value :=
  let enabled : Bool := streamingThreshold < size
  .object (Members.ofArrivals [
    ("enabled", .bool enabled),
    ("output_size", .int size),
    ("chunk_count",
      .int (if enabled then (size + streamingChunk - 1) / streamingChunk else 1 : Nat))])

def executeCommandStreaming (r : Request) : Plan :=
  .given (requestedCommand r.args longBudget) fun (command, requested) =>
    run command requested fun output metadata =>
      .reply (((Reply.ofOutput output).withField "metadata" metadata).withField "streaming"
        (streamingHint output.utf8ByteSize))

def forEachModule (r : Request) : Plan :=
  .given (requestedCommand r.args longBudget) fun (command, requested) =>
    let wrapped := "!for_each_module " ++ command
    run wrapped requested fun output metadata =>
      .reply (((Reply.ofOutput output).withField "metadata" metadata).withField "native_command"
        (.text wrapped))

def checkConnection (_ : Request) : Plan :=
  .reply (.ofOutput "Connection verified successfully")

def version (_ : Request) : Plan :=
  .reply (.ofOutput "dbgbridged v0.1.0")

def listModules (defaultBudget : Nat) (r : Request) : Plan :=
  .given (Arguments.budget r.args defaultBudget) fun budget =>
    .output "lm" budget fun output =>
      .reply (.ofOutput (capped output
        "Output truncated due to size limit - use more specific lm options for a full listing"))

def displayTypeText (typeName : String) : Option String → String
  | some address => "dt " ++ typeName ++ " " ++ address
  | none => "dt " ++ typeName

def displayType (defaultBudget : Nat) (r : Request) : Plan :=
  .given (Arguments.text r.args "type_name") fun typeName =>
    .given (Arguments.text? r.args "address") fun address =>
      .given (Arguments.budget r.args defaultBudget) fun budget =>
        .output (displayTypeText typeName address) budget fun output => .reply (.ofOutput output)

def defaultLength : Nat := 32

def displayMemory (defaultBudget : Nat) (r : Request) : Plan :=
  .given (Arguments.positive r.args "length" defaultLength) fun length =>
    .given (Arguments.text r.args "address") fun address =>
      .given (Arguments.budget r.args defaultBudget) fun budget =>
        .output ("dd " ++ address ++ " " ++ toString length) budget fun output =>
          .reply (.ofOutput output)

/-- The budget of each part of the description when a request does not name one. -/
def metadataBudget : Nat := 15000

def getMetadata (r : Request) : Plan :=
  let note := "Output truncated due to size limit"
  .given (Arguments.budget r.args metadataBudget) fun budget =>
    .output "!target" budget fun target =>
      .output "lm" budget fun modules =>
        .reply (.ofOutput ("Target Information:\n" ++ capped target note ++ "\n\nModules:\n" ++
          capped modules note))

def testCommand : String := "version"

def healthBudget : Nat := 5000

def metricsBudget : Nat := 3000

def idleAfter : Nat := 300000

def testError (trial : ExecutionResult) : Value :=
  if trial.failed then (trial.errorDetail.map Value.text).getD .null else .null

def healthOf (responsive : Bool) (idle : Nat) : String × String :=
  if !responsive then ("unhealthy", "Debugger is not responding")
  else if idleAfter < idle then ("idle", "No commands executed recently")
  else ("healthy", "All systems operational")

def healthCheck (_ : Request) : Plan :=
  .look fun before =>
    .execute testCommand healthBudget fun trial =>
      .look fun after =>
        let responsive := !trial.failed
        let idle := before.session.sinceLastCommand before.now
        let (status, message) := healthOf responsive idle
        .reply ((Reply.ofOutput (status ++ ": " ++ message)).withField "health"
          (.object (Members.ofArrivals [
            ("status", .text status),
            ("message", .text message),
            ("engine_responsive", .bool responsive),
            ("test_error", testError trial),
            ("time_since_last_command", .int (idle / 1000 : Nat)),
            ("last_execution_time", (before.session.lastExecution.map seconds).getD .null),
            ("session_id", .text before.session.id),
            ("timestamp", .text after.now.timestamp)])))

def rating (elapsed : Nat) : String :=
  if elapsed < 1000 then "good" else if elapsed < 3000 then "fair" else "poor"

/-- Tells the counters of the session and how fast the debugger answers. The counters are read
together with the time, before the test. -/
def performanceMetrics (_ : Request) : Plan :=
  .look fun before =>
    .execute testCommand metricsBudget fun trial =>
      let session := before.session
      let metrics := Members.ofArrivals [
        ("last_execution_time_ms", (session.lastExecution.map fun n => Value.int n).getD .null),
        ("time_since_last_command_ms", .int (session.sinceLastCommand before.now)),
        ("uptime_seconds", .int (session.uptime before.now / 1000 : Nat)),
        ("commands", .int session.commands),
        ("failures", .int session.failures),
        ("timeouts", .int session.timeouts),
        ("detached_calls", .int session.detached),
        ("session_id", .text session.id)]
      let (status, tested) :=
        if trial.failed then
          ("error", (metrics.put "test_command_time_ms" (.int (-1))).put "performance_error"
            (testError trial))
        else (rating trial.elapsed, metrics.put "test_command_time_ms" (.int trial.elapsed))
      .look fun after =>
        .reply ((Reply.ofOutput ("performance: " ++ status)).withField "performance_metrics"
          (.object ((tested.put "performance_status" (.text status)).put "timestamp"
            (.text after.now.timestamp))))

/-- The built-in commands in the order in which they are registered; `defaultBudget` is the budget of
a listing when a request does not name one. -/
def plans (defaultBudget : Nat) : List (String × (Request → Plan)) := [
  ("check_connection", checkConnection),
  ("version", version),
  ("lm", listModules defaultBudget),
  ("dt", displayType defaultBudget),
  ("dd", displayMemory defaultBudget),
  ("get_metadata", getMetadata),
  ("execute_command", executeCommand),
  ("execute_command_enhanced", executeCommandEnhanced),
  ("execute_command_streaming", executeCommandStreaming),
  ("for_each_module", forEachModule),
  ("health_check", healthCheck),
  ("performance_metrics", performanceMetrics)]

def handlers {σ : Type} (runner : Runner σ) (defaultBudget : Nat) :
    List (String × Handler (Desk σ)) :=
  (plans defaultBudget).map fun entry => (entry.1, Plan.handler runner entry.2)

end DebugGateway.Builtin
