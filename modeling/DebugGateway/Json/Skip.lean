import DebugGateway.Json.Reader

/-!
Passing over a value that nobody asked for. Nesting is not bounded here, numbers may be of any size
and units of a string need not pair up; the marks between values are checked as everywhere.
-/
namespace DebugGateway.Json

def skipQuoted : List Char → Except Halt (List Char)
  | [] => .error (halt .unclosedText [])
  | c :: rest =>
    if c = '"' then .ok rest
    else if c = '\\' then
      match rest with
      | [] => .error (halt .unclosedText [])
      | e :: rest =>
        if e = 'u' then
          match rest with
          | h₁ :: h₂ :: h₃ :: h₄ :: rest =>
            if (unit? h₁ h₂ h₃ h₄).isSome then skipQuoted rest
            else .error (haltUnit (h₁ :: h₂ :: h₃ :: h₄ :: rest))
          | few => .error (haltUnit few)
        else if (shortEscape? e).isSome then skipQuoted rest
        else .error (haltOn .invalidEscape (e :: rest))
    else if c.toNat < 32 then .error (halt .controlCharacter (c :: rest))
    else skipQuoted rest

def skipExponent (text : List Char) : Except Halt (List Char) :=
  let text := match text with
    | c :: rest => if c = '+' ∨ c = '-' then rest else c :: rest
    | [] => []
  match text with
  | [] => .error (halt .invalidNumber [])
  | c :: rest =>
    if isDigit c then .ok (rest.dropWhile isDigit) else .error (haltOn .invalidNumber (c :: rest))

def skipFraction (text : List Char) : Except Halt (List Char) :=
  let rest := text.dropWhile isDigit
  if (text.takeWhile isDigit).isEmpty then .error (haltOn .invalidNumber rest)
  else if startsExponent rest then skipExponent (rest.drop 1)
  else .ok rest

def skipNumber (text : List Char) : Except Halt (List Char) :=
  let digits := text.takeWhile isDigit
  if digits.isEmpty then .error (haltOn .invalidNumber text)
  else if digits.head? = some '0' ∧ 1 < digits.length then
    .error (haltOn .invalidNumber (text.drop 1))
  else
    match text.dropWhile isDigit with
    | [] => .ok []
    | c :: rest =>
      if c = '.' then skipFraction rest
      else if c = 'e' ∨ c = 'E' then skipExponent rest
      else .ok (c :: rest)

def skipScalar (text : List Char) : Except Halt (List Char) :=
  match text with
  | [] => .error (halt .missingValue [])
  | c :: rest =>
    if c = 'n' then (expectWord ['u', 'l', 'l'] rest).map (·.2)
    else if c = 't' then (expectWord ['r', 'u', 'e'] rest).map (·.2)
    else if c = 'f' then (expectWord ['a', 'l', 's', 'e'] rest).map (·.2)
    else if c = '-' then skipNumber rest
    else if isDigit c then skipNumber text
    else if c = '"' then skipQuoted rest
    else .error (haltOn .expectedValue text)

inductive Bracket where
  | list
  | object
deriving DecidableEq, Repr

def Bracket.close : Bracket → Char
  | .list => ']'
  | .object => '\x7d'

def Bracket.unclosed : Bracket → Fault
  | .list => .unclosedList
  | .object => .unclosedObject

def Bracket.expectedEnd : Bracket → Fault
  | .list => .expectedListEnd
  | .object => .expectedObjectEnd

/-- Passes what stands before the value of an element: nothing in a list, a key and its colon in an
object. -/
def Bracket.skipKey : Bracket → List Char → Except Halt (List Char)
  | .list, text => .ok text
  | .object, text =>
    match skipGap text with
    | [] => .error (halt .unclosedObject [])
    | c :: rest =>
      if c = '"' then do
        let rest ← skipQuoted rest
        expectColon rest
      else .error (haltOn .keyNotText (c :: rest))

inductive Due where
  | value
  -- more of the innermost bracket, which has just been opened if `fresh`
  | more (fresh : Bool)

/-- Passes over values until every bracket of `opened`, the innermost first, is closed. The bound
on the number of steps is never reached when it is twice the length of the text. -/
def skipUntilClosed : (bound : Nat) → Due → (opened : List Bracket) → List Char →
    Except Halt (List Char)
  | 0, _, _, text => .error (halt .missingValue text)
  | bound + 1, .value, opened, text =>
    match skipGap text with
    | [] => .error (halt .missingValue [])
    | c :: rest =>
      if c = '[' then skipUntilClosed bound (.more true) (.list :: opened) rest
      else if c = '\x7b' then skipUntilClosed bound (.more true) (.object :: opened) rest
      else do
        let rest ← skipScalar (c :: rest)
        skipUntilClosed bound (.more false) opened rest
  | _ + 1, .more _, [], text => .ok text
  | bound + 1, .more fresh, b :: opened, text =>
    match skipGap text with
    | [] => .error (halt b.unclosed [])
    | c :: rest =>
      if c = b.close then skipUntilClosed bound (.more false) opened rest
      else if fresh then do
        let rest ← b.skipKey (c :: rest)
        skipUntilClosed bound .value (b :: opened) rest
      else if c = ',' then do
        let rest ← b.skipKey rest
        skipUntilClosed bound .value (b :: opened) rest
      else .error (haltOn b.expectedEnd (c :: rest))

def skipValue (text : List Char) : Except Halt (List Char) :=
  skipUntilClosed (2 * text.length + 2) .value [] text

end DebugGateway.Json
