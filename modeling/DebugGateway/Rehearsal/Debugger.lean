import DebugGateway.Engine.Console
import DebugGateway.Execution.Phase
import DebugGateway.Text

namespace DebugGateway.Rehearsal

inductive Reaction where
  | prints (bytes : List UInt8)
  -- prints, and goes on to the next line only when it is interrupted
  | spins (bytes : List UInt8)
  | exits (status : ExitStatus)
deriving Repr

def octal : Nat → Nat → List Char → Nat × List Char
  | 0, value, rest => (value, rest)
  | _ + 1, value, [] => (value, [])
  | n + 1, value, c :: rest =>
    if '0' ≤ c && c ≤ '7' then octal n (value * 8 + (c.toNat - 48)) rest else (value, c :: rest)

def unescaped : Nat → List Char → List UInt8
  | 0, _ => []
  | _ + 1, [] => []
  | n + 1, '\\' :: 'n' :: rest => 10 :: unescaped n rest
  | n + 1, '\\' :: 't' :: rest => 9 :: unescaped n rest
  | n + 1, '\\' :: 'r' :: rest => 13 :: unescaped n rest
  | n + 1, '\\' :: '\\' :: rest => 92 :: unescaped n rest
  | n + 1, '\\' :: '0' :: rest =>
    let (value, rest) := octal 3 0 rest
    UInt8.ofNat value :: unescaped n rest
  | n + 1, c :: rest => Text.toBytes c.toString ++ unescaped n rest

def after? (opening line : String) : Option String :=
  if Text.startsWith opening line then some (String.ofList (line.toList.drop opening.length))
  else none

def printed? (line : String) : Option (List UInt8) :=
  let escaped (text : String) := unescaped text.length text.toList
  ((after? "say " line).map fun text => Text.toBytes (text ++ "\n")).orElse fun _ =>
    ((after? "err " line).map fun text => Text.toBytes (text ++ "\n")).orElse fun _ =>
      ((after? "fmt " line).map escaped).orElse fun _ =>
        ((after? "echo " line).map escaped).orElse fun _ =>
          (after? "bp " line).map fun _ => []

def standIn (line : String) : Reaction :=
  match printed? line with
  | some bytes => .prints bytes
  | none =>
    if line = "quiet" then .prints []
    else if line = "die" then .exits (.exited 3)
    else if line = "spin" then .spins (Text.toBytes "spinning\n")
    else if line = "version" then .prints (Text.toBytes "fake 1.0\n")
    else if line = "lm" then .prints (Text.toBytes "libc.so.6\nld-linux.so.2\n")
    else if line = "!target" then .prints (Text.toBytes "live process 4242\n")
    else .prints (Text.toBytes ("ran " ++ line ++ "\n"))

/-- A program that was started: how it reacts, and how it has ended if it has. -/
structure Program where
  react : String → Reaction
  ended : Option ExitStatus := none

def Program.brief (status : ExitStatus) : Program := ⟨fun _ => .prints [], some status⟩

def Program.copying : Program := { react := fun line => .prints (Text.toBytes (line ++ "\n")) }

def endingShell? (text : String) : Option ExitStatus :=
  match Text.words text with
  | ["exit", code] => code.toNat?.map .exited
  | ["exit"] => some (.exited 0)
  | ["true"] | [":"] => some (.exited 0)
  | ["false"] => some (.exited 1)
  | ["kill", signal, "$$"] =>
    match signal.toList with
    | '-' :: number => (String.ofList number).toNat?.map .signalled
    | _ => none
  | _ => none

def Program.start (program : String) (args : List String) : Except IoError Program :=
  match program, args with
  | "true", _ => .ok (brief (.exited 0))
  | "false", _ => .ok (brief (.exited 1))
  | "cat", [] => .ok copying
  | "sh", ["-c", text] =>
    match endingShell? text with
    | some status => .ok (brief status)
    | none => .ok (brief (.exited 127))
  | "sh", [script] =>
    if script.endsWith "fake_gdb.sh" then .ok { react := standIn } else .ok (brief (.exited 2))
  | _, _ => .error (.system .noEntry)

structure Console where
  program : String
  process : Program
  calls : Nat := 0
  unread : List UInt8 := []
  deaf : Bool := false

def trialNonce : Nat := 0x2a

structure ConsoleCall where
  finish : Option CallEnd
  spins : Bool := false
  after : Console

namespace Console

def launch (program : String) (args : List String) : Except EngineError Console :=
  match Program.start program args with
  | .ok process => .ok { program, process }
  | .error e => .error (.launch program e)

def heard (stream : List UInt8) (closed : Bool) : (List String × Bool) × List UInt8 :=
  let (whole, rest) := Text.cutLines stream
  let whole := whole.map Text.withoutReturn
  if closed && !rest.isEmpty then (Text.readable (whole ++ [rest]), [])
  else (Text.readable whole, rest)

def refusal? (c : Console) (command : String) : Option EngineError :=
  DebugGateway.Console.refusal? c.program command c.process.ended

def conclude (c : Console) (mark : String) (spins : Bool) (stream : List UInt8)
    (ended : Option ExitStatus) : ConsoleCall :=
  let ((lines, deaf), unread) := heard stream ended.isSome
  let after := { c with
    process := { c.process with ended }, calls := c.calls + 1, unread, deaf }
  match DebugGateway.Console.listen mark {} lines with
  | .done output _ => { finish := some (.returned output.text (.ok ())), spins, after }
  | .waiting output =>
    if deaf || ended.isSome then
      { finish := some (.returned output.text (.error .exited)), spins, after }
    else { finish := none, spins, after }

def run (c : Console) (command : String) : ConsoleCall :=
  if c.deaf then
    { finish := some (.returned "" (.error .exited))
      after := { c with
        calls := c.calls + 1, process := { c.process with ended := some (.signalled 13) } } }
  else
    let mark := DebugGateway.Console.marker trialNonce c.calls
    match c.process.react command with
    | .exits status => c.conclude mark false c.unread (some status)
    | first =>
      let (bytes, spins) := match first with
        | .prints b => (b, false)
        | .spins b => (b, true)
        | .exits _ => ([], false)
      match c.process.react ("echo " ++ mark ++ "\\n") with
      | .prints b => c.conclude mark spins (c.unread ++ bytes ++ b) none
      | .spins b => c.conclude mark true (c.unread ++ bytes ++ b) none
      | .exits status => c.conclude mark spins (c.unread ++ bytes) (some status)

/-- The course of a call: its end comes at once, or at once after the interrupt. -/
def course (call : ConsoleCall) : Course where
  alone := if call.spins then none else call.finish.map fun e => (0, e)
  interruptedAt t := call.finish.map fun e => (t, e)

end Console

end DebugGateway.Rehearsal
