import DebugGateway.Number.Double

namespace DebugGateway.Json

open Number (Double)

/-- A JSON value. Integers from -2^63 to 2^64 - 1 are exact, other numbers are `real`. -/
inductive Value where
  | null
  | bool (b : Bool)
  | int (n : Int)
  | real (x : Double)
  | text (s : String)
  | list (items : List Value)
  | object (members : List (String × Value))
deriving Inhabited, Repr

abbrev Members := List (String × Value)

namespace Members

/-- Gives `key` its value, in place of an earlier one, keeping the keys in ascending order. -/
def put (key : String) (value : Value) : Members → Members
  | [] => [(key, value)]
  | (k, v) :: rest =>
    if key < k then (key, value) :: (k, v) :: rest
    else if key = k then (key, value) :: rest
    else (k, v) :: put key value rest

def get? (key : String) (members : Members) : Option Value :=
  List.lookup key members

/-- The members in ascending order of their keys, a repeated key with its last value. -/
def ofArrivals (arrivals : Members) : Members :=
  arrivals.foldl (fun members kv => members.put kv.1 kv.2) []

def Ordered (members : Members) : Prop :=
  members.Pairwise (·.1 < ·.1)

end Members

namespace Value

mutual

/-- Every object inside in ascending order of its keys, a repeated key with its last value. -/
def settled : Value → Value
  | .list items => .list (settledItems items)
  | .object members => .object (Members.ofArrivals (settledMembers members))
  | .null => .null
  | .bool b => .bool b
  | .int n => .int n
  | .real x => .real x
  | .text s => .text s

def settledItems : List Value → List Value
  | [] => []
  | v :: rest => v.settled :: settledItems rest

def settledMembers : List (String × Value) → List (String × Value)
  | [] => []
  | (k, v) :: rest => (k, v.settled) :: settledMembers rest

end

def asText? : Value → Option String
  | .text s => some s
  | _ => none

def asNat? : Value → Option Nat
  | .int (.ofNat n) => some n
  | _ => none

end Value

def hexDigit (n : Nat) : Char :=
  Nat.digitChar n

def escapeChar (c : Char) : List Char :=
  if c = '"' then ['\\', '"']
  else if c = '\\' then ['\\', '\\']
  else if c.toNat = 8 then ['\\', 'b']
  else if c.toNat = 9 then ['\\', 't']
  else if c.toNat = 10 then ['\\', 'n']
  else if c.toNat = 12 then ['\\', 'f']
  else if c.toNat = 13 then ['\\', 'r']
  else if c.toNat < 32 then
    ['\\', 'u', '0', '0', hexDigit (c.toNat / 16), hexDigit (c.toNat % 16)]
  else [c]

def renderText (s : String) : List Char :=
  '"' :: s.toList.flatMap escapeChar ++ ['"']

def renderInt : Int → List Char
  | .ofNat n => Nat.toDigits 10 n
  | .negSucc n => '-' :: Nat.toDigits 10 (n + 1)

def renderBool (b : Bool) : List Char :=
  if b then ['t', 'r', 'u', 'e'] else ['f', 'a', 'l', 's', 'e']

namespace Value

mutual

def render : Value → List Char
  | .null => ['n', 'u', 'l', 'l']
  | .bool b => renderBool b
  | .int n => renderInt n
  | .real x => x.render
  | .text s => renderText s
  | .list items => '[' :: renderItems items ++ [']']
  | .object members => '\x7b' :: renderMembers members ++ ['\x7d']

def renderItems : List Value → List Char
  | [] => []
  | [v] => v.render
  | v :: w :: rest => v.render ++ ',' :: renderItems (w :: rest)

def renderMembers : List (String × Value) → List Char
  | [] => []
  | [(k, v)] => renderText k ++ ':' :: v.render
  | (k, v) :: w :: rest => renderText k ++ ':' :: v.render ++ ',' :: renderMembers (w :: rest)

end

def compact (v : Value) : String :=
  String.ofList v.render

end Value

end DebugGateway.Json
