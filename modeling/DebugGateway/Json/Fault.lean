import DebugGateway.Json.Value
import DebugGateway.Text
import DebugGateway.Text.Quoted

namespace DebugGateway.Json

open Number (Double)

inductive Found where
  | null
  | bool (b : Bool)
  | int (n : Int)
  | real (x : Double)
  | text (s : String)
  | list
  | object
deriving DecidableEq, Repr

def Found.message : Found → String
  | .null => "null"
  | .bool b => s!"boolean `{b}`"
  | .int n => s!"integer `{n}`"
  | .real x => "floating point `" ++ String.ofList x.render ++ "`"
  | .text s => "string " ++ Text.quote s
  | .list => "sequence"
  | .object => "map"

def Value.found : Value → Found
  | .null => .null
  | .bool b => .bool b
  | .int n => .int n
  | .real x => .real x
  | .text s => .text s
  | .list _ => .list
  | .object _ => .object

inductive Fault where
  | unclosedList
  | unclosedObject
  | unclosedText
  | missingValue
  | expectedColon
  | expectedListEnd
  | expectedObjectEnd
  | expectedWord
  | expectedValue
  | invalidEscape
  | invalidNumber
  | numberOutOfRange
  | controlCharacter
  | keyNotText
  | loneSurrogate
  | trailingComma
  | trailingText
  | unfinishedSurrogate
  | tooDeep
  | wrongKind (found : Found) (wanted : String)
  | outOfRange (found : Found) (wanted : String)
  | repeatedField (name : String)
  | missingField (name : String)
  | unknownVariant (name : String) (known : String)
  | wrongLength (length : Nat) (wanted : String)
deriving DecidableEq, Repr

def Fault.message : Fault → String
  | .unclosedList => "EOF while parsing a list"
  | .unclosedObject => "EOF while parsing an object"
  | .unclosedText => "EOF while parsing a string"
  | .missingValue => "EOF while parsing a value"
  | .expectedColon => "expected `:`"
  | .expectedListEnd => "expected `,` or `]`"
  | .expectedObjectEnd => "expected `,` or `\x7d`"
  | .expectedWord => "expected ident"
  | .expectedValue => "expected value"
  | .invalidEscape => "invalid escape"
  | .invalidNumber => "invalid number"
  | .numberOutOfRange => "number out of range"
  | .controlCharacter => "control character (\\u0000-\\u001F) found while parsing a string"
  | .keyNotText => "key must be a string"
  | .loneSurrogate => "lone leading surrogate in hex escape"
  | .trailingComma => "trailing comma"
  | .trailingText => "trailing characters"
  | .unfinishedSurrogate => "unexpected end of hex escape"
  | .tooDeep => "recursion limit exceeded"
  | .wrongKind found wanted => "invalid type: " ++ found.message ++ ", expected " ++ wanted
  | .outOfRange found wanted => "invalid value: " ++ found.message ++ ", expected " ++ wanted
  | .repeatedField name => s!"duplicate field `{name}`"
  | .missingField name => s!"missing field `{name}`"
  | .unknownVariant name known => s!"unknown variant `{name}`, expected {known}"
  | .wrongLength length wanted => s!"invalid length {length}, expected {wanted}"

/-- A fault with the text not yet read when it was found. `past` counts bytes of that text already
looked at. A fault of a whole record has no place until the record ends: then `placed` is false. -/
structure Halt where
  fault : Fault
  rest : List Char
  past : Nat
  placed : Bool
deriving DecidableEq, Repr

abbrev Read (α : Type) := Except Halt (α × List Char)

def halt (fault : Fault) (rest : List Char) : Halt := ⟨fault, rest, 0, true⟩

def haltOn (fault : Fault) (rest : List Char) : Halt :=
  ⟨fault, rest, if rest.isEmpty then 0 else 1, true⟩

def haltRecord (fault : Fault) (rest : List Char) : Halt := ⟨fault, rest, 0, false⟩

structure Place where
  line : Nat
  column : Nat
deriving DecidableEq, Repr

/-- The place after the given bytes: lines are counted from 1, bytes of a line from its start. -/
def Place.after (bytes : List UInt8) : Place :=
  ⟨1 + bytes.count 10, (bytes.reverse.takeWhile (· != 10)).length⟩

def Halt.place (h : Halt) (text : String) : Place :=
  let bytes := Text.toBytes text
  .after (bytes.take (bytes.length - Text.byteLength h.rest + h.past))

/-- Why a whole text was refused, and where if the fault has a place. -/
structure Refusal where
  fault : Fault
  place : Option Place
deriving DecidableEq, Repr

def Halt.refusal (h : Halt) (text : String) : Refusal :=
  ⟨h.fault, if h.placed then some (h.place text) else none⟩

def Refusal.message (r : Refusal) : String :=
  match r.place with
  | some p => s!"{r.fault.message} at line {p.line} column {p.column}"
  | none => r.fault.message

end DebugGateway.Json
