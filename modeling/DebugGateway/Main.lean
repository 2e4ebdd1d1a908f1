import DebugGateway.Config
import DebugGateway.Daemon
import DebugGateway.Execution.Phase
import DebugGateway.System.Snapshot

namespace DebugGateway.Main

def content? (path : String) : IO (Option String) := do
  try return some (← IO.FS.readFile path)
  catch _ => return none

def environment : IO Environment := do
  return .ofBlock ((← content? "/proc/self/environ").getD "")

def user : IO String := do
  let lines := ((← content? "/proc/self/status").getD "").splitOn "\n"
  return (lines.findSome? fun line =>
    match Text.words line with
    | "Uid:" :: _ :: effective :: _ => some effective
    | _ => none).getD "0"

def now : IO Moment := do
  let file := (← IO.currentDir) / "/proc/self/status"
  let time := (← file.metadata).modified
  return ⟨time.sec.toNat * 1000 + time.nsec.toNat / 1000000⟩

partial def withFile (path : String) (files : Files) : IO Files := do
  if files.hasPath path then return files
  match ← content? path with
  | none => return files
  | some content =>
    let files := files.withNode path (.file content)
    match Config.Discovery.readFile files path >>= Config.Discovery.base? path with
    | .ok (some base) => withFile (joinPath ((parentPath? path).getD "/") base) files
    | _ => return files

def files (words : List String) (env : Environment) : IO Files := do
  let given := (Config.Arguments.parse words).toOption.getD []
  let asked := (List.lookup "config_path" given).bind Json.Value.asText?
  (Config.Discovery.candidates asked env).foldlM (fun files candidate => withFile candidate.path files)
    (.ofDirectory (← IO.currentDir).toString)

/-- Obeys what the operator types until the gateway ends. After the end of the typing there is
nothing left that could end it but a signal. -/
partial def operate (input : OperatorInput) (d : Daemon Moment) : IO Unit := do
  let bytes ← (← IO.getStdin).read 4096
  let (commands, input) :=
    if bytes.isEmpty then (input.finish, { deaf := true }) else input.feed bytes.toList
  let d := d.run (commands.map .operator)
  let out ← IO.getStdout
  d.printed.forM fun line => out.putStrLn line
  out.flush
  if !d.ended then
    if bytes.isEmpty then IO.sleep 1000
    operate input { d with printed := [] }

def launch (words : List String) : IO (Except LaunchError (Daemon Moment)) := do
  let env ← environment
  let files ← files words env
  let user ← user
  let time ← now
  let session := Session.start (Session.nameFor time (← IO.rand 0 8999)) time
  return do
    let config ← (Config.load words env user files).mapError .config
    Daemon.launch .absent config ⟨time, session⟩ { files }

end DebugGateway.Main

def main (words : List String) : IO UInt32 := do
  match ← DebugGateway.Main.launch words with
  | .error e =>
    IO.eprintln s!"dbgbridged: {e.message}"
    return 1
  | .ok d =>
    DebugGateway.Main.operate {} d
    return 0
