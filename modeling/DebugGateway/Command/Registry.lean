import DebugGateway.Text
import DebugGateway.Text.Quoted

/-! The table of commands: filled by registration, then frozen once and read only. Registering and
freezing hold the lock of the table and happen at one stroke; a reader takes two steps, and anything may
happen between them. -/
namespace DebugGateway

inductive RegistryError where
  | emptyName
  | frozen (name : String)
  | duplicate (name : String)
deriving DecidableEq, Repr

def RegistryError.message : RegistryError → String
  | .emptyName => "command names must not be empty"
  | .frozen name => s!"cannot register '{name}': the registry is frozen"
  | .duplicate name => s!"command '{name}' is already registered"

abbrev Table (α : Type) := List (String × α)

namespace Table

def add {α : Type} (name : String) (a : α) : Table α → Table α
  | [] => [(name, a)]
  | entry :: rest =>
    if name < entry.1 then (name, a) :: entry :: rest else entry :: add name a rest

def get? {α : Type} (t : Table α) (name : String) : Option α :=
  List.lookup name t

def names {α : Type} (t : Table α) : List String :=
  t.map (·.1)

end Table

/-- The table under construction and, once frozen, the table that answers. -/
structure Registry (α : Type) where
  building : Table α := []
  frozen : Option (Table α) := none
deriving Repr

namespace Registry

variable {α : Type}

def isFrozen (r : Registry α) : Bool := r.frozen.isSome

def table (r : Registry α) : Table α := r.frozen.getD r.building

/-- Registers `a` under a name: the name must hold more than blanks, the registry must be open and
the name new; the first of these that fails is told. -/
def register (r : Registry α) (name : String) (a : α) : Except RegistryError (Registry α) :=
  if Text.isAllBlank name then .error .emptyName
  else if r.isFrozen then .error (.frozen name)
  else if (r.building.get? name).isSome then .error (.duplicate name)
  else .ok { r with building := r.building.add name a }

def registerAll (r : Registry α) (entries : List (String × α)) :
    Except RegistryError (Registry α) :=
  entries.foldlM (fun r entry => r.register entry.1 entry.2) r

def freeze (r : Registry α) : Registry α :=
  match r.frozen with
  | some _ => r
  | none => ⟨[], some r.building⟩

def lookup (r : Registry α) (name : String) : Option α := r.table.get? name

def names (r : Registry α) : List String := r.table.names

def describe (r : Registry α) : String :=
  "CommandRegistry \x7b commands: [" ++ ", ".intercalate (r.names.map Text.quote) ++
    "], frozen: " ++ toString r.isFrozen ++ " \x7d"

/-! ## Reading in two steps

Whoever reads a registry first asks whether it is frozen and, if it is not, reads the table under
construction in a second step; the registry may change in between. -/

inductive Query where
  | lookup (name : String)
  | names
deriving DecidableEq, Repr

inductive Reading (α : Type) where
  | entry (found : Option α)
  | names (names : List String)
deriving DecidableEq, Repr

def Query.read (t : Table α) : Query → Reading α
  | lookup name => .entry (t.get? name)
  | names => .names t.names

inductive Reader (α : Type) where
  | answered (answer : Reading α)
  | readingTable (q : Query)
deriving DecidableEq, Repr

def beginReading (r : Registry α) (q : Query) : Reader α :=
  match r.frozen with
  | some t => .answered (q.read t)
  | none => .readingTable q

def endReading (r : Registry α) : Reader α → Reading α
  | .answered answer => answer
  | .readingTable q => q.read r.building

theorem endReading_beginReading (r : Registry α) (q : Query) :
    r.endReading (r.beginReading q) = q.read r.table := by
  obtain ⟨building, frozen⟩ := r
  cases frozen <;> rfl

end Registry

/-- A registry and those who are reading it, each under a number. -/
structure Shared (α : Type) where
  registry : Registry α := {}
  readers : Nat → Option (Registry.Reader α) := fun _ => none

namespace Shared

open Registry (Query Reading)

inductive Event (α : Type) where
  | registered (name : String) (a : α)
  | refused (name : String) (a : α) (cause : RegistryError)
  | frozen
  | began (reader : Nat) (q : Query)
  | told (reader : Nat) (answer : Reading α)
deriving DecidableEq, Repr

inductive Step {α : Type} : Shared α → Event α → Shared α → Prop where
  | registered {s : Shared α} {name : String} {a : α} {registry : Registry α} :
    s.registry.register name a = .ok registry →
      Step s (.registered name a) { s with registry }
  | refused {s : Shared α} {name : String} {a : α} {cause : RegistryError} :
    s.registry.register name a = .error cause → Step s (.refused name a cause) s
  | frozen {s : Shared α} : Step s .frozen { s with registry := s.registry.freeze }
  | began {s : Shared α} {i : Nat} {q : Query} : s.readers i = none →
    Step s (.began i q)
      { s with readers := fun j => if j = i then some (s.registry.beginReading q) else s.readers j }
  | told {s : Shared α} {i : Nat} {reader : Registry.Reader α} : s.readers i = some reader →
    Step s (.told i (s.registry.endReading reader))
      { s with readers := fun j => if j = i then none else s.readers j }

/-- What can come of a shared registry, with all that happens on the way, oldest first. -/
inductive Run {α : Type} (start : Shared α) : List (Event α) → Shared α → Prop where
  | nil : Run start [] start
  | snoc {events : List (Event α)} {s next : Shared α} {e : Event α} :
    Run start events s → Step s e next → Run start (events ++ [e]) next

end Shared

end DebugGateway
