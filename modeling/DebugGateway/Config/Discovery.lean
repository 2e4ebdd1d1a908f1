import DebugGateway.Channel
import DebugGateway.System.Files
import DebugGateway.System.IoError
import DebugGateway.Toml

/-! Settings in the variables of a process and in files. A variable gives the setting its name tells; two
underscores lead into a record. Values are written plainly: a truth value, a number, a list in brackets, a
record in braces, a quoted text, and anything else is a text. Of the files the first that is there counts;
it may build on another, whose settings it may replace. -/
namespace DebugGateway.Config.Variables

open Json (Value Members)
open Number (Double)

def opening : String := "dbgbridge_"

def pathVariable : String := "DBGBRIDGE_CONFIG_PATH"

def isSeparator (c : Char) : Bool := [',', '\x7b', '\x7d', '[', ']'].contains c

def isGap (c : Char) : Bool := [' ', '\t', '\n', '\r', '\x0c'].contains c

def skipGaps (text : List Char) : List Char := text.dropWhile isGap

def isKeyChar (c : Char) : Bool := c.isAlphanum || c = '_' || c = '-'

def nat? (digits : List Char) : Option Nat :=
  if digits.isEmpty || !digits.all Char.isDigit then none
  else some (digits.foldl (fun n c => n * 10 + (c.toNat - 48)) 0)

def integer? (word : List Char) : Option Value :=
  let (negative, digits) := Toml.sign word
  (nat? digits).bind fun n =>
    if negative then if n ≤ 0x8000000000000000 then some (.int (-(n : Int))) else none
    else if n < 0x10000000000000000 then some (.int n) else none

def fraction? (word : List Char) : Option Value := do
  let (negative, rest) := Toml.sign word
  let (mantissa, power) := rest.span fun c => c ≠ 'e' && c ≠ 'E'
  let (before, after) := mantissa.span (· ≠ '.')
  let digits := before ++ after.drop 1
  if after.isEmpty then none
  else
    let n ← nat? digits
    let e ← if power.isEmpty then some 0 else
      let (down, digits) := Toml.sign (power.drop 1)
      (nat? digits).map fun n => if down then -(n : Int) else n
    match Double.ofDecimal n (e - (after.drop 1).length) with
    | some x => some (.real (x.withSign negative))
    | none => some .null

def plain (word : List Char) : Value :=
  let word := Text.trimChars word
  ((fraction? word).or (integer? word)).getD (.text (String.ofList word))

def readItems {α : Type} (item : List Char → Option (α × List Char)) (closing : Char) :
    (bound : Nat) → List α → List Char → Option (List α × List Char)
  | 0, _, _ => none
  | bound + 1, seen, text =>
    match text with
    | [] => none
    | c :: rest =>
      if c = closing then some (seen.reverse, rest)
      else do
        let (a, rest) ← item (c :: rest)
        match rest with
        | ',' :: rest => readItems item closing bound (a :: seen) rest
        | d :: rest => if d = closing then some ((a :: seen).reverse, rest) else none
        | [] => none

def readMember (value : List Char → Option (Value × List Char)) (text : List Char) :
    Option ((String × Value) × List Char) := do
  let (key, rest) ← match skipGaps text with
    | '"' :: rest => (Toml.readBasic false (rest.length + 1) [] rest).toOption
    | text =>
      match text.span isKeyChar with
      | ([], _) => none
      | (key, rest) => some (String.ofList key, rest)
  match skipGaps rest with
  | '=' :: rest =>
    let (v, rest) ← value rest
    return ((key, v), rest)
  | _ => none

/-- Reads a value and the blanks around it; `levels` is how deep it may nest. -/
def readValue : (levels : Nat) → List Char → Option (Value × List Char)
  | 0, _ => none
  | levels + 1, text =>
    let read : Option (Value × List Char) :=
      match skipGaps text with
      | 't' :: 'r' :: 'u' :: 'e' :: rest => some (.bool true, rest)
      | 'f' :: 'a' :: 'l' :: 's' :: 'e' :: rest => some (.bool false, rest)
      | '\x7b' :: rest =>
        (readItems (readMember (readValue levels)) '\x7d' (rest.length + 1) [] rest).map
          fun (members, rest) => (.object members, rest)
      | '[' :: rest =>
        (readItems (readValue levels) ']' (rest.length + 1) [] rest).map
          fun (items, rest) => (.list items, rest)
      | '"' :: rest =>
        (Toml.readBasic false (rest.length + 1) [] rest).toOption.map
          fun (s, rest) => (.text s, rest)
      | '\x27' :: c :: '\x27' :: rest => some (.text c.toString, rest)
      | '\x27' :: _ => none
      | text =>
        let (word, rest) := text.span fun c => !isSeparator c
        some (plain word, rest)
    read.map fun (v, rest) => (v, skipGaps rest)

def isEnclosed (text : List Char) : Bool :=
  (text.dropWhile isGap).head?.any fun c => ['[', '\x7b', '"', '\x27'].contains c

def valueOf (text : String) : Value :=
  let chars := text.toList
  if chars.contains ',' && !isEnclosed chars then
    .list ((splitAtChar ',' chars).map fun piece => .text (String.ofList (Text.trimChars piece)))
  else match readValue (chars.length + 1) chars with
    | some (v, []) => v
    | _ => .text text

def steps : List Char → List (List Char)
  | [] => [[]]
  | '_' :: '_' :: rest => [] :: steps rest
  | c :: rest =>
    if c = '.' then [] :: steps rest
    else match steps rest with
      | [] => [[c]]
      | step :: more => (c :: step) :: more

def nested (v : Value) : List String → Value
  | [] => v
  | key :: path => .object [(key, nested v path)]

def setting? (entry : String × String) : Option (String × Value) :=
  let name := Text.lowerAscii entry.1
  if Text.startsWith opening name then
    let path := (steps (name.toList.drop opening.length)).map String.ofList
    if path.any (·.isEmpty) then none
    else match path with
      | key :: rest => some (key, nested (valueOf entry.2) rest)
      | [] => none
  else none

/-- The settings in the variables; of two that lead into one record the later counts. -/
def members (env : Environment) : Members :=
  (env.filterMap setting?).foldl (fun members kv => members.put kv.1 kv.2) []

end DebugGateway.Config.Variables

namespace DebugGateway

inductive ConfigError where
  | arguments (message : String)
  | file (path message : String)
  | cyclicExtends (paths : List String)
  | merge (message : String)
  | aggregate (errors : List ConfigError)
deriving Repr

namespace ConfigError

def all : List ConfigError → ConfigError
  | [e] => e
  | errors => aggregate errors

mutual

def message : ConfigError → String
  | arguments message => s!"Failed to parse command-line arguments: {message}"
  | file path message => s!"Configuration file error in '{path}': {message}"
  | cyclicExtends paths => "Cyclic extends detected: " ++ " -> ".intercalate paths
  | merge message => s!"Failed to merge CLI with configuration: {message}"
  | aggregate errors => "multiple configuration errors:" ++ listed 1 errors

def listed (number : Nat) : List ConfigError → String
  | [] => ""
  | e :: rest => s!"\n{number}: {e.message}" ++ listed (number + 1) rest

end

end ConfigError

end DebugGateway

namespace DebugGateway.Config.Discovery

open Json (Value Members)

structure Candidate where
  path : String
  required : Bool := false

def directoryName : String := "dbgbridge"

def fileName : String := "config.toml"

def dotName : String := ".dbgbridge.toml"

def below (base : String) : List String :=
  [joinPath (joinPath base directoryName) fileName, joinPath base dotName]

def candidates (asked : Option String) (env : Environment) : List Candidate :=
  let asked := asked.toList.map fun path => ({ path, required := true } : Candidate)
  let named := ((env.get? Variables.pathVariable).filter (!·.isEmpty)).toList
  let own := (env.get? "XDG_CONFIG_HOME").toList.flatMap below
  let shared := match env.get? "XDG_CONFIG_DIRS" with
    | some directories =>
      ((splitAtChar ':' directories.toList).map String.ofList).flatMap below
    | none => below "/etc/xdg"
  let home := (env.get? "HOME").toList.flatMap fun home =>
    below (joinPath home ".config") ++ [joinPath home dotName]
  asked ++ (named ++ own ++ shared ++ home ++ [dotName]).map ({ path := · })

def pathOf (names : List String) : String := "/" ++ "/".intercalate names

def ending (path : String) : Option String :=
  let reversed := (path.toList.reverse.takeWhile (· ≠ '/'))
  match reversed.span (· ≠ '.') with
  | (ending, '.' :: _ :: _) => some (Text.lowerAscii (String.ofList ending.reverse))
  | _ => none

def unreadEndings : List String := ["json", "json5", "yaml", "yml"]

def readFile (files : Files) (path : String) : Except ConfigError Members := do
  let content ← (files.read path).mapError fun e => .file path e.message
  match ending path with
  | some e => if unreadEndings.contains e then throw (.file path s!"{e} files are not supported")
  | none => pure ()
  (Toml.parse content).mapError fun (line, column) =>
    .file path s!"TOML parse error at line {line}, column {column}"

def base? (path : String) (members : Members) : Except ConfigError (Option String) :=
  match List.lookup "extends" members with
  | none => .ok none
  | some (.text "") => .error (.file path "'extends' key must be a non-empty string")
  | some (.text base) => .ok (some base)
  | some _ => .error (.file path "'extends' key must be a string")

/-- The settings of a file and of those it builds on, which come first. At most `bound` files are
read; `seen` holds the places of those read before. -/
def chain (files : Files) : (bound : Nat) → (seen : List (List String)) → (path : String) →
    Except ConfigError (List Members)
  | 0, seen, path => .error (.cyclicExtends (seen.map pathOf ++ [path]))
  | bound + 1, seen, path => do
    let place ← (files.find true path).mapError fun e => .file path e.message
    let full := pathOf place.names
    if seen.contains place.names then throw (.cyclicExtends ((seen ++ [place.names]).map pathOf))
    let members ← readFile files full
    match ← base? full members with
    | none => return [members]
    | some base =>
      let path := joinPath ((parentPath? full).getD "/") base
      match files.stat true path with
      | .ok (.file _) => return (← chain files bound (seen ++ [place.names]) path) ++ [members]
      | .ok _ => throw (.file path "extended path is not a regular file")
      | .error _ => throw (.file path s!"extended file does not exist (referenced from '{full}')")

/-- The settings found in files, and what went wrong on the way. -/
structure Found where
  layers : List Members := []
  required : List ConfigError := []
  optional : List ConfigError := []

def look (files : Files) (found : Found) : List Candidate → Found
  | [] => found
  | candidate :: rest =>
    let missed (e : ConfigError) : Found :=
      if candidate.required then { found with required := found.required ++ [e] }
      else { found with optional := found.optional ++ [e] }
    match files.stat true candidate.path with
    | .ok (.file _) =>
      match chain files (files.nodes.length + 1) [] candidate.path with
      | .ok layers => { found with layers }
      | .error e => look files (missed e) rest
    | _ =>
      if candidate.required then
        look files (missed (.file candidate.path "required configuration file not found")) rest
      else look files found rest

/-- The failures that count: those of files asked for by name, and the others if nothing was found. -/
def Found.failures (found : Found) : List ConfigError :=
  found.required ++ (if found.layers.isEmpty then found.optional else [])

end DebugGateway.Config.Discovery
