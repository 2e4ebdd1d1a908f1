import DebugGateway.System.IoError
import DebugGateway.Text

/-! The files of a host as the gateway meets them: directories, files, sockets and links, found by
walking a path from the root or from the working directory. Links on the way are always followed, a
link at the end only if the operation asks for it. -/
namespace DebugGateway

def joinPath (base name : String) : String :=
  if Text.startsWith "/" name then name
  else if base.isEmpty || base.toList.getLast? = some '/' then base ++ name
  else base ++ "/" ++ name

def withoutSelf (pieces : List (List Char)) : List (List Char) :=
  pieces.dropWhile fun piece => piece = [] || piece = ['.']

def pathHead : List Char → List Char × List Char
  | '/' :: rest => (['/'], rest)
  | ['.'] => (['.'], [])
  | '.' :: '/' :: rest => (['.'], '/' :: rest)
  | text => ([], text)

/-- The directory that a path names something in: the path without its last name and what stands for
the directory itself before it. The root is in no directory. -/
def parentPath? (path : String) : Option String :=
  let (head, body) := pathHead path.toList
  match withoutSelf (splitAtChar '/' body).reverse with
  | [] => if head = ['.'] then some "" else none
  | _ :: above => some (String.ofList (head ++ joinWith '/' (withoutSelf above).reverse))

inductive FileNode where
  | directory (mode : Nat)
  | file (content : String)
  | socket (served : Bool)
  | link (target : String)
deriving DecidableEq, Repr

/-- The files of a host; places are the names on the way from the root. -/
structure Files where
  nodes : List (List String × FileNode) := []
  here : List String := []
deriving Repr

/-- Where a walk ends: at something, or at a name that a directory does not have yet. -/
structure Place where
  names : List String
  node : Option FileNode
deriving DecidableEq, Repr

namespace Files

def linkLimit : Nat := 40

def longestName : Nat := 255

def longestPath : Nat := 4095

def get? (files : Files) (names : List String) : Option FileNode :=
  if names.isEmpty then some (.directory 0o755) else List.lookup names files.nodes

def put (files : Files) (names : List String) (node : FileNode) : Files :=
  { files with nodes := (names, node) :: files.nodes.filter (·.1 != names) }

def erase (files : Files) (names : List String) : Files :=
  { files with nodes := files.nodes.filter (·.1 != names) }

def names (path : String) : List String :=
  (splitAtChar '/' path.toList).map String.ofList

def isEnd (rest : List String) : Bool := rest.all (·.isEmpty)

def walk (files : Files) (follow : Bool) :
    (links : Nat) → (rest : List String) → List String → Except Errno Place
  | _, [], at_ => .ok ⟨at_, files.get? at_⟩
  | links, name :: rest, at_ =>
    match files.get? at_ with
    | some (.directory _) =>
      if name = "" || name = "." then walk files follow links rest at_
      else if name = ".." then walk files follow links rest at_.dropLast
      else if longestName < name.utf8ByteSize then .error .nameTooLong
      else
        let there := at_ ++ [name]
        match files.get? there with
        | none => if isEnd rest then .ok ⟨there, none⟩ else .error .noEntry
        | some (.link target) =>
          if rest.isEmpty && !follow then .ok ⟨there, some (.link target)⟩
          else match links with
            | 0 => .error .linkLoop
            | links + 1 =>
              walk files follow links (names target ++ rest)
                (if Text.startsWith "/" target then [] else at_)
        | some _ => walk files follow links rest there
    | _ => .error .notDirectory
termination_by links rest => (links, rest.length)

def find (files : Files) (follow : Bool) (path : String) : Except IoError Place :=
  if path.toList.contains '\x00' then
    .error (.custom .invalidInput "file name contained an unexpected NUL byte")
  else if longestPath < path.utf8ByteSize then .error (.system .nameTooLong)
  else if path.isEmpty then .error (.system .noEntry)
  else
    (walk files follow linkLimit (names path) (if Text.startsWith "/" path then [] else files.here)).mapError
      IoError.system

def stat (files : Files) (follow : Bool) (path : String) : Except IoError FileNode := do
  match (← files.find follow path).node with
  | some node => return node
  | none => throw (.system .noEntry)

def hasPath (files : Files) (path : String) : Bool := (files.stat true path).toOption.isSome

def isDirectory (files : Files) (path : String) : Bool :=
  match files.stat true path with
  | .ok (.directory _) => true
  | _ => false

def read (files : Files) (path : String) : Except IoError String := do
  match ← files.stat true path with
  | .file content => return content
  | .directory _ => throw (.system .isDirectory)
  | _ => throw (.system .noDevice)

/-- Puts a new node at a path that leads to nothing yet. Only a directory may be named with a slash
at the end. -/
def create (files : Files) (node : FileNode) (path : String) : Except IoError Files := do
  match ← files.find false path with
  | ⟨place, none⟩ =>
    if path.toList.getLast? = some '/' && !(node matches .directory _) then throw (.system .noEntry)
    else return files.put place node
  | _ => throw (.system .exists)

def remove (files : Files) (path : String) : Except IoError Files := do
  match ← files.find false path with
  | ⟨_, none⟩ => throw (.system .noEntry)
  | ⟨_, some (.directory _)⟩ => throw (.system .isDirectory)
  | ⟨place, some _⟩ => return files.erase place

/-- Makes a directory, and before it those it is in; one that is there already will do. At most
`bound` directories are made. -/
def createDirectories (files : Files) (mode : Nat) : (bound : Nat) → String → Except IoError Files
  | 0, _ => .error (.system .nameTooLong)
  | bound + 1, path =>
    if path.isEmpty then .ok files
    else match files.create (.directory mode) path with
      | .ok files => .ok files
      | .error e =>
        if e.kind = .notFound then
          match parentPath? path with
          | none => .error (.custom .other "failed to create whole tree")
          | some parent => do
            let files ← createDirectories files mode bound parent
            settle files path (files.create (.directory mode) path)
        else settle files path (.error e)
where
  settle (files : Files) (path : String) (made : Except IoError Files) : Except IoError Files :=
    match made with
    | .ok files => .ok files
    | .error e => if files.isDirectory path then .ok files else .error e

end Files

end DebugGateway
