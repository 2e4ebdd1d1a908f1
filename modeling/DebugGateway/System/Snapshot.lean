import DebugGateway.System.Files
import DebugGateway.Text

namespace DebugGateway

structure Moment where
  millis : Nat := 0
deriving DecidableEq, Repr

namespace Moment

def since (m earlier : Moment) : Nat := m.millis - earlier.millis

def plus (m : Moment) (millis : Nat) : Moment := ⟨m.millis + millis⟩

def digits (width n : Nat) : String :=
  let written := toString n
  String.ofList (List.replicate (width - written.length) '0') ++ written

/-- Year, month and day of a day counted from the start of 1970. The count is moved to years that
begin in March, of which 400 have 146097 days. -/
def civil (day : Nat) : Nat × Nat × Nat :=
  let shifted := day + 719468
  let era := shifted / 146097
  let inEra := shifted % 146097
  let year := (inEra - inEra / 1460 + inEra / 36524 - inEra / 146096) / 365
  let inYear := inEra - (365 * year + year / 4 - year / 100)
  let marched := (5 * inYear + 2) / 153
  let dayOfMonth := inYear - (153 * marched + 2) / 5 + 1
  let month := if marched < 10 then marched + 3 else marched - 9
  (year + era * 400 + (if month ≤ 2 then 1 else 0), month, dayOfMonth)

def fraction (millis : Nat) : String :=
  if millis = 0 then ""
  else if millis % 100 = 0 then "." ++ digits 1 (millis / 100)
  else if millis % 10 = 0 then "." ++ digits 2 (millis / 10)
  else "." ++ digits 3 millis

def timestamp (m : Moment) : String :=
  let seconds := m.millis / 1000
  let (year, month, day) := civil (seconds / 86400)
  let rest := seconds % 86400
  digits 4 year ++ "-" ++ digits 2 month ++ "-" ++ digits 2 day ++ "T" ++ digits 2 (rest / 3600) ++
    ":" ++ digits 2 (rest / 60 % 60) ++ ":" ++ digits 2 (rest % 60) ++ fraction (m.millis % 1000) ++
    "Z"

/-- The moment in the form that names of sessions hold, such as 20260118_093015. -/
def stamp (m : Moment) : String :=
  let seconds := m.millis / 1000
  let (year, month, day) := civil (seconds / 86400)
  let rest := seconds % 86400
  digits 4 year ++ digits 2 month ++ digits 2 day ++ "_" ++ digits 2 (rest / 3600) ++
    digits 2 (rest / 60 % 60) ++ digits 2 (rest % 60)

end Moment

abbrev Environment := List (String × String)

namespace Environment

def get? (env : Environment) (name : String) : Option String :=
  List.lookup name env

/-- A variable written with a sign of equality between its name and its value. -/
def entry? (text : List Char) : Option (String × String) :=
  match text.span (· ≠ '=') with
  | (name, _ :: value) => some (String.ofList name, String.ofList value)
  | _ => none

def ofBlock (block : String) : Environment :=
  (splitAtChar '\x00' block.toList).filterMap entry?

end Environment

end DebugGateway

namespace DebugGateway.Files

def openMode : Nat := 0o755

def ofDirectory (directory : String) : Files :=
  let place := (names directory).filter (!·.isEmpty)
  { nodes := (List.range place.length).map fun n => (place.take (n + 1), .directory openMode)
    here := place }

def withDirectory (files : Files) (path : String) : Files :=
  (files.createDirectories openMode (path.length + 1) path).toOption.getD files

/-- Puts something at a path that leads to nothing yet, in directories made for it. -/
def withNode (files : Files) (path : String) (node : FileNode) : Files :=
  let files := match parentPath? path with
    | some parent => files.withDirectory parent
    | none => files
  (files.create node path).toOption.getD files

end DebugGateway.Files
