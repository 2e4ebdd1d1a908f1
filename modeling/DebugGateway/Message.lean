import DebugGateway.Json.Record
import DebugGateway.Json.Value

namespace DebugGateway

inductive ErrorCode where
  | invalidMessage
  | invalidMessageType
  | invalidCommand
  | commandFailed
  | invalidArguments
  | executionFailed
  | timeout
  | sessionUnavailable
deriving DecidableEq, Repr

namespace ErrorCode

def all : List ErrorCode :=
  [invalidMessage, invalidMessageType, invalidCommand, commandFailed, invalidArguments,
    executionFailed, timeout, sessionUnavailable]

def name : ErrorCode → String
  | invalidMessage => "invalid_message"
  | invalidMessageType => "invalid_message_type"
  | invalidCommand => "invalid_command"
  | commandFailed => "command_failed"
  | invalidArguments => "invalid_arguments"
  | executionFailed => "execution_failed"
  | timeout => "timeout"
  | sessionUnavailable => "session_unavailable"

/-- Whether the failure is one of the exchange itself rather than of a command that ran. -/
def isProtocol : ErrorCode → Bool
  | invalidMessage | invalidMessageType | invalidCommand | commandFailed => true
  | _ => false

end ErrorCode

/-- What kind of failure a person should think of, as a message says it in `error_category`. -/
inductive ErrorCategory where
  | commandSyntax
  | executionContext
  | timeout
  | symbolOrTargetResolution
  | permissionDenied
  | memoryAccess
  | resourceExhaustion
  | connectionLost
  | internalError
  | unknown
deriving DecidableEq, Repr

namespace ErrorCategory

def all : List ErrorCategory :=
  [commandSyntax, executionContext, timeout, symbolOrTargetResolution, permissionDenied,
    memoryAccess, resourceExhaustion, connectionLost, internalError, unknown]

def name : ErrorCategory → String
  | commandSyntax => "CommandSyntax"
  | executionContext => "ExecutionContext"
  | timeout => "Timeout"
  | symbolOrTargetResolution => "SymbolOrTargetResolution"
  | permissionDenied => "PermissionDenied"
  | memoryAccess => "MemoryAccess"
  | resourceExhaustion => "ResourceExhaustion"
  | connectionLost => "ConnectionLost"
  | internalError => "InternalError"
  | unknown => "Unknown"

def suggestion : ErrorCategory → String
  | commandSyntax =>
    "Check the command syntax; the debugger's help command lists valid usage."
  | executionContext =>
    "Ensure the target is in the expected process, thread and frame before retrying."
  | timeout => "Increase the timeout or split the command into smaller steps."
  | symbolOrTargetResolution =>
    "Check that symbols are loaded and the symbol or address exists in the target."
  | permissionDenied =>
    "The debugger lacks the privileges required; check ptrace and process permissions."
  | memoryAccess => "The address is not readable in the target; verify it is mapped and valid."
  | resourceExhaustion =>
    "The system is low on resources; narrow the request or free resources and retry."
  | connectionLost =>
    "The debugging session is gone; restart the debugger or reattach to the target."
  | internalError => "An internal error occurred; check the daemon logs and retry."
  | unknown => "Check the command syntax and the current debugging context."

end ErrorCategory

open Json

structure Reply where
  output : Option String := none
  fields : Members := []
deriving Repr

namespace Reply

def ofOutput (text : String) : Reply := { output := some text }

def withField (r : Reply) (key : String) (value : Value) : Reply :=
  { r with fields := r.fields.put key value }

end Reply

structure Failure where
  error : String
  code : ErrorCode
  category : ErrorCategory
  suggestion : String
  fields : Members := []
deriving Repr

namespace Failure

def of (code : ErrorCode) (category : ErrorCategory) (error : String) : Failure :=
  { error, code, category, suggestion := category.suggestion }

def withSuggestion (f : Failure) (suggestion : String) : Failure :=
  { f with suggestion }

def withField (f : Failure) (key : String) (value : Value) : Failure :=
  { f with fields := f.fields.put key value }

end Failure

inductive Outcome where
  | success (reply : Reply)
  | failure (failure : Failure)
deriving Repr

/-- Whether a message answers a command or reports a failure of the exchange. -/
inductive ResponseKind where
  | response
  | error
deriving DecidableEq, Repr

def ResponseKind.name : ResponseKind → String
  | .response => "response"
  | .error => "error"

structure Response where
  id : Option Int
  kind : ResponseKind
  command : Option String
  outcome : Outcome
deriving Repr

namespace Response

def success (id : Int) (command : String) (reply : Reply) : Response :=
  ⟨some id, .response, some command, .success reply⟩

def failure (id : Int) (command : String) (f : Failure) : Response :=
  ⟨some id, if f.code.isProtocol then .error else .response, some command, .failure f⟩

def protocolError (id : Option Int) (command : Option String) (f : Failure) : Response :=
  ⟨id, .error, command, .failure f⟩

def status (r : Response) : String :=
  match r.outcome with
  | .success _ => "success"
  | .failure _ => "error"

def envelopeKeys : List String :=
  ["id", "type", "command", "status", "output", "error", "error_code", "error_category",
    "suggestion"]

def optional (key : String) (value : Option Value) : Members :=
  match value with
  | some v => [(key, v)]
  | none => []

def envelope (r : Response) : Members :=
  optional "id" (r.id.map .int) ++ ("type", .text r.kind.name) ::
    optional "command" (r.command.map .text) ++ ("status", .text r.status) ::
    match r.outcome with
    | .success reply => optional "output" (reply.output.map .text)
    | .failure f =>
      [("error", .text f.error), ("error_code", .text f.code.name),
        ("error_category", .text f.category.name), ("suggestion", .text f.suggestion)]

def extraFields (r : Response) : Members :=
  match r.outcome with
  | .success reply => reply.fields
  | .failure f => f.fields

/-- The members of the message: the envelope, then the extra fields under other names. -/
def toMembers (r : Response) : Members :=
  r.envelope ++ r.extraFields.filter fun kv => !envelopeKeys.contains kv.1

end Response

structure Request where
  kind : String := ""
  id : Int := 0
  command : String := ""
  args : Members := []
deriving Repr

inductive RequestError where
  | notText (fault : Text.Utf8Fault)
  | malformed (refusal : Refusal)
deriving DecidableEq, Repr

def RequestError.message : RequestError → String
  | .notText fault => "malformed message: frame is not UTF-8: " ++ fault.message
  | .malformed refusal => "malformed message: " ++ refusal.message

namespace Request

def commandKind : String := "command"

def ofCommand (id : Int) (command : String) (args : Members) : Request :=
  { kind := commandKind, id, command, args }

def isCommand (r : Request) : Bool := r.kind == commandKind

def arg? (r : Request) (key : String) : Option Value := r.args.get? key

def argText? (r : Request) (key : String) : Option String :=
  (r.arg? key).bind Value.asText?

def shape : Shape Request where
  wanted := "struct Request"
  fields := [
    ⟨"type", fun r text => (readText "a string" text).map fun (kind, rest) => ({ r with kind }, rest)⟩,
    ⟨"id", fun r text => (readInt .signed64 text).map fun (id, rest) => ({ r with id }, rest)⟩,
    ⟨"command", fun r text =>
      (readText "a string" text).map fun (command, rest) => ({ r with command }, rest)⟩,
    ⟨"args", fun r text =>
      (readBag (greatestDepth - 1) text).map fun (args, rest) =>
        ({ r with args := Members.ofArrivals (Value.settledMembers args) }, rest)⟩]
  other := ignoreOther

def parse (frame : List UInt8) : Except RequestError Request :=
  match Text.ofBytes frame with
  | .error fault => .error (.notText fault)
  | .ok text => (parseWith (shape.read {}) text).mapError .malformed

def toMembers (r : Request) : Members :=
  [("type", .text r.kind), ("id", .int r.id), ("command", .text r.command), ("args", .object r.args)]

end Request

structure Notification where
  event : String
  data : Value
deriving Repr

def Notification.toMembers (n : Notification) : Members :=
  [("type", .text "notification"), ("event", .text n.event), ("data", n.data)]

inductive Outbound where
  | response (r : Response)
  | notification (n : Notification)
deriving Repr

def Outbound.toMembers : Outbound → Members
  | .response r => r.toMembers
  | .notification n => n.toMembers

def delimiter : UInt8 := 10

def encodeMembers (members : Members) : List UInt8 :=
  Text.toBytes (Value.object members).compact ++ [delimiter]

def Request.encode (r : Request) : List UInt8 := encodeMembers r.toMembers

def Response.encode (r : Response) : List UInt8 := encodeMembers r.toMembers

def Notification.encode (n : Notification) : List UInt8 := encodeMembers n.toMembers

def Outbound.encode (m : Outbound) : List UInt8 := encodeMembers m.toMembers

end DebugGateway
