import DebugGateway.Json.Fault

/-!
Reading JSON values. A reader takes the text from where it stands and answers with a value and the
text left, or with the first fault. Nesting is bounded by a number of levels; objects come back
with their members as they were written.
-/
namespace DebugGateway.Json

open Number (Double)

def isGap (c : Char) : Bool :=
  c = ' ' || c = '\n' || c = '\t' || c = '\r'

def skipGap (text : List Char) : List Char :=
  text.dropWhile isGap

def expectWord : List Char → List Char → Read Unit
  | [], rest => .ok ((), rest)
  | _ :: _, [] => .error (halt .missingValue [])
  | w :: ws, c :: rest =>
    if c = w then expectWord ws rest else .error (haltOn .expectedWord (c :: rest))

/-! ## Strings -/

def hexValue? (c : Char) : Option Nat :=
  let n := c.toNat
  if 48 ≤ n ∧ n ≤ 57 then some (n - 48)
  else if 97 ≤ n ∧ n ≤ 102 then some (n - 87)
  else if 65 ≤ n ∧ n ≤ 70 then some (n - 55)
  else none

def unit? (a b c d : Char) : Option Nat := do
  let a ← hexValue? a
  let b ← hexValue? b
  let c ← hexValue? c
  let d ← hexValue? d
  return ((a * 16 + b) * 16 + c) * 16 + d

def isLeadUnit (n : Nat) : Bool := 0xD800 ≤ n && n ≤ 0xDBFF

def isTrailUnit (n : Nat) : Bool := 0xDC00 ≤ n && n ≤ 0xDFFF

def pairUnits (lead trail : Nat) : Char :=
  Char.ofNat ((lead - 0xD800) * 0x400 + (trail - 0xDC00) + 0x10000)

def shortEscape? (c : Char) : Option Char :=
  if c = '"' then some '"'
  else if c = '\\' then some '\\'
  else if c = '/' then some '/'
  else if c = 'b' then some (Char.ofNat 8)
  else if c = 'f' then some (Char.ofNat 12)
  else if c = 'n' then some '\n'
  else if c = 'r' then some '\r'
  else if c = 't' then some '\t'
  else none

/-- The fault of a unit whose digits should stand at the start of the rest: fewer than four bytes
are left, or one of four is no digit. -/
def haltUnit (rest : List Char) : Halt :=
  if Text.byteLength rest < 4 then halt .unclosedText []
  else ⟨.invalidEscape, rest, 4, true⟩

/-- The fault of a lead unit that `rest`, which does not start a second unit, follows. -/
def haltLead : List Char → Halt
  | [] => halt .unclosedText []
  | c :: rest =>
    if c = '\\' then
      match rest with
      | [] => halt .unclosedText []
      | d :: rest => if d = 'u' then haltUnit rest else haltOn .unfinishedSurrogate (d :: rest)
    else haltOn .unfinishedSurrogate (c :: rest)

/-- Reads the inside of a string and its closing quote; `seen` holds what was read, last first. -/
def readQuoted (seen : List Char) : List Char → Read String
  | [] => .error (halt .unclosedText [])
  | c :: rest =>
    if c = '"' then .ok (String.ofList seen.reverse, rest)
    else if c = '\\' then
      match rest with
      | [] => .error (halt .unclosedText [])
      | e :: rest =>
        if e = 'u' then
          match rest with
          | h₁ :: h₂ :: h₃ :: h₄ :: rest =>
            match unit? h₁ h₂ h₃ h₄ with
            | none => .error (haltUnit (h₁ :: h₂ :: h₃ :: h₄ :: rest))
            | some n =>
              if isTrailUnit n then .error (halt .loneSurrogate rest)
              else if isLeadUnit n then
                match rest with
                | s :: u :: t₁ :: t₂ :: t₃ :: t₄ :: rest =>
                  if s = '\\' ∧ u = 'u' then
                    match unit? t₁ t₂ t₃ t₄ with
                    | none => .error (haltUnit (t₁ :: t₂ :: t₃ :: t₄ :: rest))
                    | some m =>
                      if isTrailUnit m then readQuoted (pairUnits n m :: seen) rest
                      else .error (halt .loneSurrogate rest)
                  else .error (haltLead (s :: u :: t₁ :: t₂ :: t₃ :: t₄ :: rest))
                | few => .error (haltLead few)
              else readQuoted (Char.ofNat n :: seen) rest
          | few => .error (haltUnit few)
        else
          match shortEscape? e with
          | some meant => readQuoted (meant :: seen) rest
          | none => .error (haltOn .invalidEscape (e :: rest))
    else if c.toNat < 32 then .error (haltOn .controlCharacter (c :: rest))
    else readQuoted (c :: seen) rest

/-! ## Numbers -/

def isDigit (c : Char) : Bool := 48 ≤ c.toNat && c.toNat ≤ 57

def digitValue (c : Char) : Nat := c.toNat - 48

def greatestSignificand : Nat := 0xffffffffffffffff

/-- Takes digits into a significand as long as it stays within bounds; answers with it and the
number of digits taken, `taken` of them before. -/
def takeDigits (significand taken : Nat) : List Char → Nat × Nat
  | [] => (significand, taken)
  | c :: rest =>
    let next := significand * 10 + digitValue c
    if greatestSignificand < next then (significand, taken) else takeDigits next (taken + 1) rest

def greatestExponent : Nat := 0x7fffffff

/-- Takes the digits of an exponent. None if they pass the bound, with the text after the digit
that did. -/
def takeExponent (e : Nat) : List Char → Option Nat × List Char
  | [] => (some e, [])
  | c :: rest =>
    if isDigit c then
      let next := e * 10 + digitValue c
      if greatestExponent < next then (none, rest) else takeExponent next rest
    else (some e, c :: rest)

def realOf (negative : Bool) (significand : Nat) (e : Int) (rest : List Char) : Read Value :=
  match Double.ofDecimal significand e with
  | some x => .ok (.real (x.withSign negative), rest)
  | none => .error (halt .numberOutOfRange rest)

def readExponent (negative : Bool) (significand : Nat) (start : Int) (text : List Char) :
    Read Value :=
  let (down, text) := match text with
    | c :: rest => if c = '+' then (false, rest) else if c = '-' then (true, rest) else (false, c :: rest)
    | [] => (false, [])
  match text with
  | [] => .error (halt .missingValue [])
  | c :: rest =>
    if isDigit c then
      match takeExponent (digitValue c) rest with
      | (some e, rest) => realOf negative significand (if down then start - e else start + e) rest
      | (none, rest) =>
        if significand ≠ 0 ∧ down = false then .error (halt .numberOutOfRange rest)
        else .ok (.real (Double.zero.withSign negative), rest.dropWhile isDigit)
    else .error (haltOn .invalidNumber (c :: rest))

def startsExponent : List Char → Bool
  | c :: _ => c = 'e' || c = 'E'
  | [] => false

/-- Reads a fraction after its point; `before` is the exponent the whole digits leave. -/
def readFraction (negative : Bool) (significand : Nat) (before : Int) (text : List Char) :
    Read Value :=
  let digits := text.takeWhile isDigit
  let rest := text.dropWhile isDigit
  if digits.isEmpty then
    .error (haltOn (if rest.isEmpty then .missingValue else .invalidNumber) rest)
  else
    let (significand, taken) := takeDigits significand 0 digits
    let e := before - taken
    if startsExponent rest then readExponent negative significand e (rest.drop 1)
    else realOf negative significand e rest

/-- A whole number: exact if it fits 64 bits with its sign, else real. Zero below zero is real. -/
def wholeOf (negative : Bool) (significand : Nat) : Value :=
  if negative = false then .int significand
  else if significand = 0 ∨ 0x8000000000000000 < significand then
    .real (((Double.ofRatio significand 1).getD Double.zero).withSign true)
  else .int (-significand)

def readNumber (negative : Bool) (text : List Char) : Read Value :=
  match text with
  | [] => .error (halt .missingValue [])
  | c :: _ =>
    if isDigit c then
      let digits := text.takeWhile isDigit
      let rest := text.dropWhile isDigit
      if c = '0' ∧ 1 < digits.length then .error (haltOn .invalidNumber (text.drop 1))
      else
        let (significand, taken) := takeDigits 0 0 digits
        let dropped := digits.length - taken
        match rest with
        | d :: after =>
          if d = '.' then readFraction negative significand dropped after
          else if d = 'e' ∨ d = 'E' then readExponent negative significand dropped after
          else if dropped = 0 then .ok (wholeOf negative significand, rest)
          else realOf negative significand dropped rest
        | [] =>
          if dropped = 0 then .ok (wholeOf negative significand, [])
          else realOf negative significand dropped []
    else .error (haltOn .invalidNumber text)

/-! ## Lists and objects -/

/-- Steps to the next element of a list: the text at it, or the text after the closing bracket. -/
inductive Next where
  | item (text : List Char)
  | done (rest : List Char)

def nextItem (first : Bool) (text : List Char) : Except Halt Next :=
  match skipGap text with
  | [] => .error (halt .unclosedList [])
  | c :: rest =>
    if c = ']' then .ok (.done rest)
    else if first then .ok (.item (c :: rest))
    else if c = ',' then
      match skipGap rest with
      | [] => .error (halt .missingValue [])
      | d :: rest =>
        if d = ']' then .error (haltOn .trailingComma (d :: rest)) else .ok (.item (d :: rest))
    else .error (haltOn .expectedListEnd (c :: rest))

/-- Steps to the next key of an object: the text after its opening quote, or the text after the
closing brace. -/
def nextKey (first : Bool) (text : List Char) : Except Halt Next :=
  match skipGap text with
  | [] => .error (halt .unclosedObject [])
  | c :: rest =>
    if c = '\x7d' then .ok (.done rest)
    else if first then
      if c = '"' then .ok (.item rest) else .error (haltOn .keyNotText (c :: rest))
    else if c = ',' then
      match skipGap rest with
      | [] => .error (halt .missingValue [])
      | d :: rest =>
        if d = '"' then .ok (.item rest)
        else if d = '\x7d' then .error (haltOn .trailingComma (d :: rest))
        else .error (haltOn .keyNotText (d :: rest))
    else .error (haltOn .expectedObjectEnd (c :: rest))

def expectColon (text : List Char) : Except Halt (List Char) :=
  match skipGap text with
  | [] => .error (halt .unclosedObject [])
  | c :: rest => if c = ':' then .ok rest else .error (haltOn .expectedColon (c :: rest))

/-- Reads the elements of a list and its closing bracket. `seen` holds those read, last first; the
bound on their number is never reached when it is the length of the text. -/
def readItems {α : Type} (item : List Char → Read α) :
    (bound : Nat) → (seen : List α) → List Char → Except Halt (List α × List Char)
  | 0, _, text => .error (halt .unclosedList text)
  | bound + 1, seen, text => do
    match ← nextItem seen.isEmpty text with
    | .done rest => return (seen.reverse, rest)
    | .item text =>
      let (a, rest) ← item text
      readItems item bound (a :: seen) rest

def readMembers {α : Type} (item : List Char → Read α) :
    (bound : Nat) → (seen : List (String × α)) → List Char →
      Except Halt (List (String × α) × List Char)
  | 0, _, text => .error (halt .unclosedObject text)
  | bound + 1, seen, text => do
    match ← nextKey seen.isEmpty text with
    | .done rest => return (seen.reverse, rest)
    | .item text =>
      let (key, rest) ← readQuoted [] text
      let rest ← expectColon rest
      let (a, rest) ← item rest
      readMembers item bound ((key, a) :: seen) rest

/-! ## Values -/

def greatestDepth : Nat := 127

/-- Reads a value that is neither list nor object; none if the text starts one of those or nothing
at all. -/
def readScalar? (text : List Char) : Option (Read Value) :=
  match text with
  | [] => none
  | c :: rest =>
    if c = 'n' then
      some ((expectWord ['u', 'l', 'l'] rest).map fun (_, rest) => (.null, rest))
    else if c = 't' then
      some ((expectWord ['r', 'u', 'e'] rest).map fun (_, rest) => (.bool true, rest))
    else if c = 'f' then
      some ((expectWord ['a', 'l', 's', 'e'] rest).map fun (_, rest) => (.bool false, rest))
    else if c = '-' then some (readNumber true rest)
    else if isDigit c then some (readNumber false text)
    else if c = '"' then
      some ((readQuoted [] rest).map fun (s, rest) => (.text s, rest))
    else none

/-- Reads one value, objects with their members as written. `levels` is how many lists and objects
may still be opened inside one another. -/
def readValue (levels : Nat) (text : List Char) : Except Halt (Value × List Char) :=
  match skipGap text with
  | [] => .error (halt .missingValue [])
  | c :: rest =>
    match readScalar? (c :: rest) with
    | some answer => answer
    | none =>
      if c = '[' then
        match levels with
        | 0 => .error (haltOn .tooDeep (c :: rest))
        | levels + 1 => do
          let (items, rest) ← readItems (readValue levels) (rest.length + 1) [] rest
          return (.list items, rest)
      else if c = '\x7b' then
        match levels with
        | 0 => .error (haltOn .tooDeep (c :: rest))
        | levels + 1 => do
          let (members, rest) ← readMembers (readValue levels) (rest.length + 1) [] rest
          return (.object members, rest)
      else .error (haltOn .expectedValue (c :: rest))

end DebugGateway.Json
