namespace DebugGateway.Text

def isBlank (c : Char) : Bool :=
  let n := c.toNat
  (9 ≤ n && n ≤ 13) || n == 0x20 || n == 0x85 || n == 0xA0 || n == 0x1680 ||
    (0x2000 ≤ n && n ≤ 0x200A) || n == 0x2028 || n == 0x2029 || n == 0x202F ||
    n == 0x205F || n == 0x3000

def trimEndChars (s : List Char) : List Char :=
  (s.reverse.dropWhile isBlank).reverse

def trimChars (s : List Char) : List Char :=
  trimEndChars (s.dropWhile isBlank)

def trim (s : String) : String :=
  String.ofList (trimChars s.toList)

def trimEnd (s : String) : String :=
  String.ofList (trimEndChars s.toList)

def isAllBlank (s : String) : Bool :=
  s.toList.all isBlank

/-- One character taken in from the right: `grown` says whether the first word still touches it. -/
def takeIntoWords (c : Char) : Bool × List (List Char) → Bool × List (List Char)
  | (grown, ws) =>
    if isBlank c then (false, ws)
    else match grown, ws with
      | true, w :: rest => (true, (c :: w) :: rest)
      | _, _ => (true, [c] :: ws)

def wordsOf (s : List Char) : List (List Char) :=
  (s.foldr takeIntoWords (false, [])).2

/-- The words of a text: its longest runs of characters that are not blank, in order. -/
def words (s : String) : List String :=
  (wordsOf s.toList).map String.ofList

def lowerAscii (s : String) : String :=
  String.ofList (s.toList.map Char.toLower)

/-- The characters that lower-casing turns into text holding an ASCII letter: the capitals A to Z,
the Kelvin sign and the capital I with a dot above. All else stays, so the result agrees with full
lower-casing on every test for an ASCII text. -/
def lowerChar (c : Char) : List Char :=
  if c.toNat = 0x212A then ['k']
  else if c.toNat = 0x130 then ['i', Char.ofNat 0x307]
  else [c.toLower]

def lowerForSearch (s : String) : List Char :=
  s.toList.flatMap lowerChar

def startsWith (opening text : String) : Bool :=
  opening.toList.isPrefixOf text.toList

def occursIn (needle : List Char) : List Char → Bool
  | [] => needle.isEmpty
  | c :: rest => needle.isPrefixOf (c :: rest) || occursIn needle rest

/-- Looks for a place to cut a text, from this byte back one byte at a time; none if even the first
byte has been passed. -/
def cutBefore? (s : String) (place : Nat) : Option s.Pos :=
  if whole : String.Pos.Raw.isValid s ⟨place⟩ then
    some ⟨⟨place⟩, String.Pos.Raw.isValid_eq_true_iff.mp whole⟩
  else match place with
    | 0 => none
    | place + 1 => cutBefore? s place

theorem isSome_cutBefore? (s : String) (place : Nat) : (cutBefore? s place).isSome = true := by
  induction place with
  | zero =>
    have first : String.Pos.Raw.isValid s ⟨0⟩ = true :=
      String.Pos.Raw.isValid_eq_true_iff.mpr String.Pos.Raw.isValid_zero
    rw [cutBefore?, dif_pos first]
    rfl
  | succ place ih =>
    rw [cutBefore?]
    split
    · rfl
    · exact ih

def cutBefore (s : String) (place : Nat) : s.Pos :=
  (cutBefore? s place).get (isSome_cutBefore? s place)

def fitting (bytes : Nat) (s : String) : String :=
  (s.sliceTo (cutBefore s bytes)).copy

def dropZeros (digits : List Char) : List Char :=
  (digits.reverse.dropWhile (· = '0')).reverse

def duration (millis : Nat) : String :=
  if millis = 0 then "0ns"
  else if millis < 1000 then toString millis ++ "ms"
  else
    let fraction := dropZeros ((toString (1000 + millis % 1000)).toList.drop 1)
    toString (millis / 1000) ++ (if fraction.isEmpty then "" else "." ++ String.ofList fraction) ++
      "s"

example : duration 1500 = "1.5s" ∧ duration 10 = "10ms" ∧ duration 1001 = "1.001s" := by cbv

/-- Why bytes are not UTF-8: after `valid` good bytes come `length` bad ones, or the end. -/
structure Utf8Fault where
  valid : Nat
  length : Option Nat
deriving DecidableEq, Repr

def Utf8Fault.message (fault : Utf8Fault) : String :=
  match fault.length with
  | some n => s!"invalid utf-8 sequence of {n} bytes from index {fault.valid}"
  | none => s!"incomplete utf-8 byte sequence from index {fault.valid}"

/-- The bounds on the second byte and the number of bytes after it, by the first byte. -/
def sequenceBounds (first : Nat) : Option (Nat × Nat × Nat) :=
  if 0xC2 ≤ first ∧ first ≤ 0xDF then some (0x80, 0xBF, 0)
  else if first = 0xE0 then some (0xA0, 0xBF, 1)
  else if first = 0xED then some (0x80, 0x9F, 1)
  else if 0xE1 ≤ first ∧ first ≤ 0xEF then some (0x80, 0xBF, 1)
  else if first = 0xF0 then some (0x90, 0xBF, 2)
  else if 0xF1 ≤ first ∧ first ≤ 0xF3 then some (0x80, 0xBF, 2)
  else if first = 0xF4 then some (0x80, 0x8F, 2)
  else none

inductive Utf8State where
  | start
  -- inside a character: bytes taken, bounds on the next byte, bytes due after that
  | inside (taken low high due : Nat)

/-- Looks for the first fault, `valid` bytes of whole characters having been read. -/
def findFault (valid : Nat) : Utf8State → List UInt8 → Option Utf8Fault
  | .start, [] => none
  | .inside .., [] => some ⟨valid, none⟩
  | .start, b :: rest =>
    if b < 0x80 then findFault (valid + 1) .start rest
    else match sequenceBounds b.toNat with
      | some (low, high, due) => findFault valid (.inside 1 low high due) rest
      | none => some ⟨valid, some 1⟩
  | .inside taken low high due, b :: rest =>
    if low ≤ b.toNat ∧ b.toNat ≤ high then
      match due with
      | 0 => findFault (valid + taken + 1) .start rest
      | due + 1 => findFault valid (.inside (taken + 1) 0x80 0xBF due) rest
    else some ⟨valid, some taken⟩

def ofBytes (bytes : List UInt8) : Except Utf8Fault String :=
  match String.fromUTF8? ⟨bytes.toArray⟩ with
  | some text => .ok text
  | none => .error ((findFault 0 .start bytes).getD ⟨0, none⟩)

def toBytes (s : String) : List UInt8 :=
  s.toUTF8.data.toList

def byteLength (s : List Char) : Nat :=
  s.foldl (fun n c => n + c.utf8Size) 0

def takeIntoLines (b : UInt8) : List (List UInt8) × List UInt8 → List (List UInt8) × List UInt8
  | (lines, tail) =>
    if b = 10 then ([] :: lines, tail)
    else match lines with
      | [] => ([], b :: tail)
      | line :: lines => ((b :: line) :: lines, tail)

def cutLines (stream : List UInt8) : List (List UInt8) × List UInt8 :=
  stream.foldr takeIntoLines ([], [])

def withoutReturn (line : List UInt8) : List UInt8 :=
  if line.getLast? = some 13 then line.dropLast else line

def readable : List (List UInt8) → List String × Bool
  | [] => ([], false)
  | line :: rest =>
    match ofBytes line with
    | .ok s =>
      let (lines, stopped) := readable rest
      (s :: lines, stopped)
    | .error _ => ([], true)

/-- The lines of a whole stream; bytes after the last newline are a line as well. -/
def linesOf (stream : List UInt8) : List (List UInt8) :=
  let (lines, rest) := cutLines stream
  lines.map withoutReturn ++ (if rest.isEmpty then [] else [rest])

end DebugGateway.Text

namespace DebugGateway

def splitAtChar (separator : Char) : List Char → List (List Char)
  | [] => [[]]
  | c :: rest =>
    if c = separator then [] :: splitAtChar separator rest
    else match splitAtChar separator rest with
      | [] => [[c]]
      | piece :: pieces => (c :: piece) :: pieces

def joinWith (separator : Char) : List (List Char) → List Char
  | [] => []
  | [piece] => piece
  | piece :: pieces => piece ++ separator :: joinWith separator pieces

end DebugGateway
