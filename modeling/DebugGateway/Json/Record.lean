import DebugGateway.Json.Skip

namespace DebugGateway.Json

/-! ## Kinds of values -/

def haltKind (wanted : String) (text : List Char) : Halt :=
  match text with
  | [] => halt .missingValue []
  | c :: rest =>
    match readScalar? (c :: rest) with
    | some (.ok (v, rest)) => halt (.wrongKind v.found wanted) rest
    | some (.error h) => h
    | none =>
      if c = '[' then halt (.wrongKind .list wanted) (c :: rest)
      else if c = '\x7b' then halt (.wrongKind .object wanted) (c :: rest)
      else haltOn .expectedValue (c :: rest)

def readText (wanted : String) (text : List Char) : Except Halt (String × List Char) :=
  match skipGap text with
  | [] => .error (halt .missingValue [])
  | c :: rest => if c = '"' then readQuoted [] rest else .error (haltKind wanted (c :: rest))

structure IntRange where
  name : String
  least : Int
  greatest : Int

def IntRange.signed64 : IntRange := ⟨"i64", -0x8000000000000000, 0x7fffffffffffffff⟩

def IntRange.unsigned64 : IntRange := ⟨"u64", 0, 0xffffffffffffffff⟩

def IntRange.unsigned16 : IntRange := ⟨"u16", 0, 0xffff⟩

def IntRange.ofValue (range : IntRange) : Value → Except Fault Int
  | .int n =>
    if range.least ≤ n ∧ n ≤ range.greatest then .ok n else .error (.outOfRange (.int n) range.name)
  | v => .error (.wrongKind v.found range.name)

def readInt (range : IntRange) (text : List Char) : Except Halt (Int × List Char) :=
  match skipGap text with
  | [] => .error (halt .missingValue [])
  | c :: rest =>
    if c = '-' ∨ isDigit c then do
      let (v, rest) ← if c = '-' then readNumber true rest else readNumber false (c :: rest)
      match range.ofValue v with
      | .ok n => return (n, rest)
      | .error fault => throw (halt fault rest)
    else .error (haltKind range.name (c :: rest))

/-- Reads an object, or `null` for one without members; the members as written. -/
def readBag (levels : Nat) (text : List Char) : Except Halt (Members × List Char) :=
  match skipGap text with
  | [] => .error (halt .missingValue [])
  | c :: rest =>
    if c = 'n' then (expectWord ['u', 'l', 'l'] rest).map fun (_, rest) => ([], rest)
    else if c = '\x7b' then
      match levels with
      | 0 => .error (haltOn .tooDeep (c :: rest))
      | levels + 1 => readMembers (readValue levels) (rest.length + 1) [] rest
    else .error (haltKind "a map" (c :: rest))

/-! ## Records -/

structure Field (σ : Type) where
  name : String
  read : σ → List Char → Except Halt (σ × List Char)

structure Shape (σ : Type) where
  wanted : String
  fields : List (Field σ)
  other : String → σ → List Char → Except Halt (σ × List Char)

def ignoreOther {σ : Type} (_ : String) (s : σ) (text : List Char) : Except Halt (σ × List Char) :=
  (skipValue text).map fun rest => (s, rest)

namespace Shape

/-- Reads the members of a record and the closing brace; `seen` holds the fields read so far. -/
def readNamed {σ : Type} (shape : Shape σ) :
    (bound : Nat) → (first : Bool) → (seen : List String) → σ → List Char →
      Except Halt (σ × List Char)
  | 0, _, _, _, text => .error (halt .unclosedObject text)
  | bound + 1, first, seen, s, text => do
    match ← nextKey first text with
    | .done rest => return (s, rest)
    | .item text =>
      let (key, rest) ← readQuoted [] text
      match shape.fields.find? (·.name == key) with
      | some field =>
        if seen.contains key then throw (haltRecord (.repeatedField key) rest)
        let rest ← expectColon rest
        let (s, rest) ← field.read s rest
        shape.readNamed bound false (key :: seen) s rest
      | none =>
        let rest ← expectColon rest
        let (s, rest) ← shape.other key s rest
        shape.readNamed bound false seen s rest

/-- Reads fields in their order and the closing bracket; fields at the end may be left out. -/
def readListed {σ : Type} :
    List (Field σ) → (first : Bool) → σ → List Char → Except Halt (σ × List Char)
  | [], _, s, text =>
    match skipGap text with
    | [] => .error (halt .unclosedList [])
    | c :: rest =>
      if c = ']' then .ok (s, rest)
      else if c = ',' then
        match skipGap rest with
        | d :: rest =>
          .error (haltOn (if d = ']' then .trailingComma else .trailingText) (d :: rest))
        | [] => .error (halt .trailingText [])
      else .error (haltOn .trailingText (c :: rest))
  | field :: fields, first, s, text => do
    match ← nextItem first text with
    | .done rest => return (s, rest)
    | .item text =>
      let (s, rest) ← field.read s text
      readListed fields false s rest

def closeObject (text : List Char) : List Char :=
  match skipGap text with
  | c :: rest => if c = '\x7d' then rest else c :: rest
  | [] => []

/-- The text after the closing bracket, if it is next; a comma is passed too. -/
def closeList (text : List Char) : List Char :=
  match skipGap text with
  | c :: rest => if c = ']' then rest else if c = ',' then skipGap rest else c :: rest
  | [] => []

/-- Gives a fault of the whole record the place where the record, if it can be, is closed. -/
def settle {α : Type} (close : List Char → List Char) : Except Halt α → Except Halt α
  | .error h => .error (if h.placed then h else ⟨h.fault, close h.rest, 0, true⟩)
  | .ok a => .ok a

def read {σ : Type} (shape : Shape σ) (start : σ) (text : List Char) :
    Except Halt (σ × List Char) :=
  match skipGap text with
  | [] => .error (halt .missingValue [])
  | c :: rest =>
    if c = '[' then settle closeList (readListed shape.fields true start rest)
    else if c = '\x7b' then
      settle closeObject (shape.readNamed (rest.length + 1) true [] start rest)
    else .error (haltKind shape.wanted (c :: rest))

end Shape

def readAll {α : Type} (reader : List Char → Except Halt (α × List Char)) (text : List Char) :
    Except Halt α := do
  let (a, rest) ← reader text
  match skipGap rest with
  | [] => return a
  | c :: rest => throw (haltOn .trailingText (c :: rest))

def parseWith {α : Type} (reader : List Char → Except Halt (α × List Char)) (text : String) :
    Except Refusal α :=
  (readAll reader text.toList).mapError (·.refusal text)

def listed {α : Type} (known : List (String × α)) : String :=
  let names := known.map fun entry => "`" ++ entry.1 ++ "`"
  match names with
  | [one] => one
  | [one, other] => one ++ " or " ++ other
  | names => "one of " ++ ", ".intercalate names

def readTag {α : Type} (known : List (String × α)) (text : List Char) :
    Except Halt (α × List Char) := do
  let (name, rest) ← readText "variant identifier" text
  match List.lookup name known with
  | some a => return (a, rest)
  | none => throw (halt (.unknownVariant name (listed known)) rest)

def readNothing (text : List Char) : Except Halt (List Char) :=
  match skipGap text with
  | [] => .error (halt .missingValue [])
  | c :: rest =>
    if c = 'n' then (expectWord ['u', 'l', 'l'] rest).map (·.2)
    else .error (haltKind "unit" (c :: rest))

def readVariant {α : Type} (known : List (String × α)) (text : List Char) :
    Except Halt (α × List Char) :=
  match skipGap text with
  | [] => .error (halt .missingValue [])
  | c :: rest =>
    if c = '"' then readTag known (c :: rest)
    else if c = '\x7b' then do
      let (a, rest) ← readTag known rest
      let rest ← expectColon rest
      let rest ← readNothing rest
      match skipGap rest with
      | [] => throw (halt .unclosedObject [])
      | d :: rest => if d = '\x7d' then return (a, rest) else throw (halt .expectedValue (d :: rest))
    else .error (haltOn .expectedValue (c :: rest))

end DebugGateway.Json
