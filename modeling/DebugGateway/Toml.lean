import DebugGateway.Json.Value
import DebugGateway.Text
import DebugGateway.Toml.Scalar

/-! Reading a TOML document as an object. A table is opened by a header or comes about on the way to a
deeper one; what a dotted key has made, only dotted keys add to, and what a header has opened, no
other header opens again. -/
namespace DebugGateway.Toml

inductive Origin where
  | opened
  | passed
  | dotted
deriving DecidableEq, Repr

inductive Entry where
  | value (v : Json.Value)
  | table (origin : Origin) (members : List (String × Entry))
  | tables (earlier : List (List (String × Entry))) (last : List (String × Entry))
deriving Repr

abbrev Entries := List (String × Entry)

namespace Entries

def replace (key : String) (entry : Entry) (members : Entries) : Entries :=
  members.map fun member => if member.1 = key then (key, entry) else member

/-- Works on the table that a path leads to through `step`, which says what a table on the way must
be and what is put where nothing is yet. -/
def descend (missing : Option Origin) (mayPass : Origin → Bool) (key : String)
    (work : Origin → Entries → Option Entries) (members : Entries) : Option Entries :=
  match List.lookup key members with
  | none => missing.bind fun origin =>
      (work origin []).map fun inner => members ++ [(key, .table origin inner)]
  | some (.value _) => none
  | some (.table origin inner) =>
    if mayPass origin then (work origin inner).map fun inner => members.replace key (.table origin inner)
    else none
  | some (.tables earlier last) =>
    (work .opened last).map fun last => members.replace key (.tables earlier last)

/-- Adds a value under a key, which may be dotted; `open_` says whether the table takes keys. -/
def add (open_ : Bool) : (path : List String) → Json.Value → Entries → Option Entries
  | [], _, _ => none
  | [key], v, members =>
    if !open_ || (List.lookup key members).isSome then none
    else some (members ++ [(key, .value v)])
  | key :: path, v, members =>
    descend (some .dotted) (· ≠ .opened) key (fun origin => add (origin = .dotted) path v) members

def openTable : (path : List String) → Entries → Option Entries
  | [], _ => none
  | [key], members =>
    match List.lookup key members with
    | none => some (members ++ [(key, .table .opened [])])
    | some (.table .passed inner) => some (members.replace key (.table .opened inner))
    | some _ => none
  | key :: path, members =>
    descend (some .passed) (fun _ => true) key (fun _ => openTable path) members

def openItem : (path : List String) → Entries → Option Entries
  | [], _ => none
  | [key], members =>
    match List.lookup key members with
    | none => some (members ++ [(key, .tables [] [])])
    | some (.tables earlier last) => some (members.replace key (.tables (earlier ++ [last]) []))
    | some _ => none
  | key :: path, members =>
    descend (some .passed) (fun _ => true) key (fun _ => openItem path) members

def under (work : Entries → Option Entries) : (header : List String) → Entries → Option Entries
  | [], members => work members
  | key :: path, members =>
    descend none (fun _ => true) key (fun _ => under work path) members

end Entries

mutual

def Entry.toValue : Entry → Json.Value
  | .value v => v
  | .table _ members => .object (entriesToMembers members)
  | .tables earlier last => .list (tablesToValues earlier ++ [.object (entriesToMembers last)])

def entriesToMembers : List (String × Entry) → List (String × Json.Value)
  | [] => []
  | (key, entry) :: rest => (key, entry.toValue) :: entriesToMembers rest

def tablesToValues : List (List (String × Entry)) → List Json.Value
  | [] => []
  | members :: rest => .object (entriesToMembers members) :: tablesToValues rest

end

open Json (Value Members)

def placed {α : Type} (text : List Char) (edit : Option α) : Except Stop α :=
  edit.elim (.error ⟨text⟩) .ok

def readItems (item : List Char → Read Value) :
    (bound : Nat) → (seen : List Value) → List Char → Except Stop (Value × List Char)
  | 0, _, text => .error ⟨text⟩
  | bound + 1, seen, text =>
    match skipGaps text with
    | ']' :: rest => .ok (.list seen.reverse, rest)
    | text => do
      let (v, rest) ← item text
      match skipGaps rest with
      | ',' :: rest => readItems item bound (v :: seen) rest
      | ']' :: rest => return (.list (v :: seen).reverse, rest)
      | rest => throw ⟨rest⟩

def readMember (value : List Char → Read Value) (text : List Char) :
    Except Stop ((List String × Value) × List Char) := do
  let (path, rest) ← readPath (text.length + 1) text
  match rest with
  | '=' :: rest =>
    let (v, rest) ← value (skipSpaces rest)
    return ((path, v), rest)
  | rest => throw ⟨rest⟩

/-- Reads the members of a table in one line after the first brace, up to the closing brace. -/
def readInline (value : List Char → Read Value) :
    (bound : Nat) → Entries → List Char → Except Stop (Value × List Char)
  | 0, _, text => .error ⟨text⟩
  | bound + 1, members, text => do
    let ((path, v), rest) ← readMember value text
    let members ← placed text (members.add true path v)
    match skipSpaces rest with
    | ',' :: rest => readInline value bound members rest
    | '\x7d' :: rest => return (.object (entriesToMembers members), rest)
    | rest => throw ⟨rest⟩

def greatestDepth : Nat := 80

def readValue : (levels : Nat) → List Char → Read Value
  | 0, text => .error ⟨text⟩
  | levels + 1, text =>
    match readString? text with
    | some read => read.map fun (s, rest) => (.text s, rest)
    | none =>
      match text with
      | '[' :: rest => readItems (readValue levels) (rest.length + 1) [] rest
      | '\x7b' :: rest =>
        match skipSpaces rest with
        | '\x7d' :: rest => .ok (.object [], rest)
        | _ => readInline (readValue levels) (rest.length + 1) [] rest
      | text => readScalar text

structure Document where
  members : Entries := []
  header : List String := []

def readHeader (edit : List String → Entries → Option Entries) (closing : List Char)
    (document : Document) (text : List Char) : Except Stop (Document × List Char) := do
  let (path, rest) ← readPath (text.length + 1) text
  if closing.isPrefixOf rest then
    let members ← placed text (edit path document.members)
    return (⟨members, path⟩, rest.drop closing.length)
  else throw ⟨rest⟩

def readLines : (bound : Nat) → Document → List Char → Except Stop Document
  | 0, _, text => .error ⟨text⟩
  | bound + 1, document, text =>
    match skipGaps text with
    | [] => .ok document
    | '[' :: '[' :: rest => do
      let (document, rest) ← readHeader Entries.openItem [']', ']'] document rest
      readLines bound document (← endLine rest)
    | '[' :: rest => do
      let (document, rest) ← readHeader Entries.openTable [']'] document rest
      readLines bound document (← endLine rest)
    | text => do
      let ((path, v), rest) ← readMember (readValue greatestDepth) text
      let members ← placed text
        (Entries.under (Entries.add true path v) document.header document.members)
      readLines bound { document with members } (← endLine rest)

def placeOf (text rest : List Char) : Nat × Nat :=
  let before := text.take (text.length - rest.length)
  let line := before.reverse.takeWhile (· ≠ '\n')
  (before.count '\n' + 1, line.length + 1)

def withoutMark : List Char → List Char
  | '\uFEFF' :: rest => rest
  | text => text

def parse (text : String) : Except (Nat × Nat) Members :=
  let chars := withoutMark text.toList
  match readLines (chars.length + 1) {} chars with
  | .ok document => .ok (entriesToMembers document.members)
  | .error stop => .error (placeOf chars stop.rest)

end DebugGateway.Toml
