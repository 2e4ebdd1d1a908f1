import DebugGateway.Json.Reader
import DebugGateway.Text

namespace DebugGateway.Toml

structure Stop where
  rest : List Char
deriving DecidableEq, Repr

abbrev Read (α : Type) := Except Stop (α × List Char)

def isSpace (c : Char) : Bool := c = ' ' || c = '\t'

def skipSpaces (text : List Char) : List Char := text.dropWhile isSpace

/-- The characters that may stand in comments and quoted texts: all but control characters, of which
only the tab may. -/
def isPlain (c : Char) : Bool := c = '\t' || (32 ≤ c.toNat && c.toNat ≠ 127)

def lineBreak? : List Char → Option (List Char)
  | '\n' :: rest => some rest
  | '\r' :: '\n' :: rest => some rest
  | _ => none

def skipGaps : List Char → List Char
  | [] => []
  | '\r' :: '\n' :: rest => skipGaps rest
  | '#' :: rest => skipGaps (rest.dropWhile isPlain)
  | c :: rest => if isSpace c || c = '\n' then skipGaps rest else c :: rest
termination_by text => text.length
decreasing_by
  all_goals simp only [List.length_cons]
  · omega
  · have := (List.dropWhile_suffix (l := rest) isPlain).length_le
    omega
  · omega

/-- The end of a line: blanks, a comment, and a break or the end of the document. -/
def endLine (text : List Char) : Except Stop (List Char) :=
  let rest := match skipSpaces text with
    | '#' :: comment => comment.dropWhile isPlain
    | rest => rest
  match rest, lineBreak? rest with
  | [], _ => .ok []
  | _, some rest => .ok rest
  | rest, none => .error ⟨rest⟩

/-! ## Quoted texts -/

def charOf? (digits : List Char) : Option Char := do
  let values ← digits.mapM Json.hexValue?
  let n := values.foldl (fun n d => n * 16 + d) 0
  if n < 0xD800 || (0xDFFF < n && n < 0x110000) then some (Char.ofNat n) else none

def escape? (c : Char) : Option Char :=
  match c with
  | 'b' => some '\x08'
  | 't' => some '\t'
  | 'n' => some '\n'
  | 'f' => some '\x0c'
  | 'r' => some '\r'
  | '"' => some '"'
  | '\\' => some '\\'
  | _ => none

/-- Passes over the break after a backslash and the blanks of the lines that follow. -/
def afterFold (text : List Char) : Option (List Char) :=
  (lineBreak? (skipSpaces text)).map fun rest => rest.dropWhile fun c => isSpace c || c = '\n' || c = '\r'

/-- Reads up to the quote that ends a text; `seen` holds its characters in reverse. A text of several
lines ends at three quotes and may have two more before those. -/
def readBasic (several : Bool) : (bound : Nat) → (seen : List Char) → List Char → Read String
  | 0, _, text => .error ⟨text⟩
  | bound + 1, seen, text =>
    let done (seen rest : List Char) : Read String := .ok (String.ofList seen.reverse, rest)
    match text with
    | [] => .error ⟨[]⟩
    | '"' :: rest =>
      if !several then done seen rest
      else match rest with
        | '"' :: '"' :: '"' :: '"' :: rest => done ('"' :: '"' :: seen) rest
        | '"' :: '"' :: '"' :: rest => done ('"' :: seen) rest
        | '"' :: '"' :: rest => done seen rest
        | rest => readBasic several bound ('"' :: seen) rest
    | '\\' :: 'u' :: a :: b :: c :: d :: rest =>
      match charOf? [a, b, c, d] with
      | some char => readBasic several bound (char :: seen) rest
      | none => .error ⟨text⟩
    | '\\' :: 'U' :: a :: b :: c :: d :: e :: f :: g :: h :: rest =>
      match charOf? [a, b, c, d, e, f, g, h] with
      | some char => readBasic several bound (char :: seen) rest
      | none => .error ⟨text⟩
    | '\\' :: c :: rest =>
      match escape? c, if several then afterFold (c :: rest) else none with
      | some char, _ => readBasic several bound (char :: seen) rest
      | none, some rest => readBasic several bound seen rest
      | none, none => .error ⟨text⟩
    | c :: rest =>
      if isPlain c then readBasic several bound (c :: seen) rest
      else match if several then lineBreak? text else none with
        | some rest => readBasic several bound ('\n' :: seen) rest
        | none => .error ⟨text⟩

def readLiteral (several : Bool) : (bound : Nat) → (seen : List Char) → List Char → Read String
  | 0, _, text => .error ⟨text⟩
  | bound + 1, seen, text =>
    let done (seen rest : List Char) : Read String := .ok (String.ofList seen.reverse, rest)
    match text with
    | [] => .error ⟨[]⟩
    | '\x27' :: rest =>
      if !several then done seen rest
      else match rest with
        | '\x27' :: '\x27' :: '\x27' :: '\x27' :: rest => done ('\x27' :: '\x27' :: seen) rest
        | '\x27' :: '\x27' :: '\x27' :: rest => done ('\x27' :: seen) rest
        | '\x27' :: '\x27' :: rest => done seen rest
        | rest => readLiteral several bound ('\x27' :: seen) rest
    | c :: rest =>
      if isPlain c then readLiteral several bound (c :: seen) rest
      else match if several then lineBreak? text else none with
        | some rest => readLiteral several bound ('\n' :: seen) rest
        | none => .error ⟨text⟩

def withoutBreak (text : List Char) : List Char := (lineBreak? text).getD text

def readString? (text : List Char) : Option (Read String) :=
  match text with
  | '"' :: '"' :: '"' :: rest => some (readBasic true (rest.length + 1) [] (withoutBreak rest))
  | '"' :: rest => some (readBasic false (rest.length + 1) [] rest)
  | '\x27' :: '\x27' :: '\x27' :: rest => some (readLiteral true (rest.length + 1) [] (withoutBreak rest))
  | '\x27' :: rest => some (readLiteral false (rest.length + 1) [] rest)
  | _ => none

/-! ## Keys -/

def isBareKey (c : Char) : Bool := c.isAlphanum || c = '_' || c = '-'

def readKey (text : List Char) : Read String :=
  match text with
  | '"' :: rest => readBasic false (rest.length + 1) [] rest
  | '\x27' :: rest => readLiteral false (rest.length + 1) [] rest
  | text =>
    match text.span isBareKey with
    | ([], rest) => .error ⟨rest⟩
    | (key, rest) => .ok (String.ofList key, rest)

def readPath : (bound : Nat) → List Char → Except Stop (List String × List Char)
  | 0, text => .error ⟨text⟩
  | bound + 1, text => do
    let (key, rest) ← readKey (skipSpaces text)
    match skipSpaces rest with
    | '.' :: rest =>
      let (path, rest) ← readPath bound rest
      return (key :: path, rest)
    | rest => return ([key], rest)

open Json (Value)
open Number (Double)

def digits? (base : Nat) (text : List Char) : Option (List Nat) :=
  let groups := splitAtChar '_' text
  if groups.any (·.isEmpty) then none
  else groups.flatten.mapM fun c => (Json.hexValue? c).filter (· < base)

def numberOf (base : Nat) (digits : List Nat) : Nat := digits.foldl (fun n d => n * base + d) 0

def sign : List Char → Bool × List Char
  | '-' :: rest => (true, rest)
  | '+' :: rest => (false, rest)
  | text => (false, text)

def whole? (text : List Char) : Option (List Nat) :=
  (digits? 10 text).filter fun digits => digits.length = 1 || digits.head? ≠ some 0

def bounded? (n : Int) : Option Value :=
  if -0x8000000000000000 ≤ n ∧ n < 0x8000000000000000 then some (.int n) else none

def integer? (text : List Char) : Option Value :=
  match text with
  | '0' :: 'x' :: rest => (digits? 16 rest).bind fun d => bounded? (numberOf 16 d)
  | '0' :: 'o' :: rest => (digits? 8 rest).bind fun d => bounded? (numberOf 8 d)
  | '0' :: 'b' :: rest => (digits? 2 rest).bind fun d => bounded? (numberOf 2 d)
  | text =>
    let (negative, rest) := sign text
    (whole? rest).bind fun d => bounded? (if negative then -(numberOf 10 d : Int) else numberOf 10 d)

def exponent? (text : List Char) : Option Int :=
  let (negative, rest) := sign text
  (digits? 10 rest).map fun d => if negative then -(numberOf 10 d : Int) else numberOf 10 d

def float? (text : List Char) : Option Value := do
  let (negative, rest) := sign text
  let (mantissa, power) := rest.span fun c => c ≠ 'e' && c ≠ 'E'
  let (before, after) := mantissa.span (· ≠ '.')
  if power.isEmpty && after.isEmpty then none
  else
    let e ← if power.isEmpty then some 0 else exponent? (power.drop 1)
    let front ← whole? before
    let back ← if after.isEmpty then some [] else digits? 10 (after.drop 1)
    match Double.ofDecimal (numberOf 10 (front ++ back)) (e - back.length) with
    | some x => some (.real (x.withSign negative))
    | none => if negative then some .null else none

def isPart (least greatest : Nat) (text : List Char) : Bool :=
  text.length = 2 && text.all Char.isDigit &&
    let n := numberOf 10 (text.map fun c => c.toNat - 48)
    least ≤ n && n ≤ greatest

def longestDay (year month : Nat) : Nat :=
  if month = 2 then if year % 4 = 0 && (year % 100 ≠ 0 || year % 400 = 0) then 29 else 28
  else if [4, 6, 9, 11].contains month then 30 else 31

def isDate (text : List Char) : Bool :=
  match splitAtChar '-' text with
  | [year, month, day] =>
    let value (ds : List Char) := numberOf 10 (ds.map fun c => c.toNat - 48)
    year.length = 4 && year.all Char.isDigit && isPart 1 12 month &&
      isPart 1 (longestDay (value year) (value month)) day
  | _ => false

def isTime (text : List Char) : Bool :=
  match splitAtChar ':' text with
  | [hour, minute, second] =>
    let (whole, fraction) := second.span (· ≠ '.')
    isPart 0 23 hour && isPart 0 59 minute && isPart 0 60 whole &&
      (fraction.isEmpty || (2 ≤ fraction.length && (fraction.drop 1).all Char.isDigit))
  | _ => false

def isOffset (text : List Char) : Bool :=
  match splitAtChar ':' text with
  | [hour, minute] => isPart 0 23 hour && isPart 0 59 minute
  | _ => false

def isOffsetTime (text : List Char) : Bool :=
  let (time, offset) := text.span fun c => c.isDigit || c = ':' || c = '.'
  isTime time && match offset with
    | [] | ['Z'] | ['z'] => true
    | mark :: offset => (mark = '+' || mark = '-') && isOffset offset

def isDateTime (text : List Char) : Bool :=
  isDate text || isTime text ||
    (isDate (text.take 10) &&
      ((text.drop 10).head?.any fun c => c = 'T' || c = 't' || c = ' ') && isOffsetTime (text.drop 11))

def scalar? (text : List Char) : Option Value :=
  match String.ofList text with
  | "true" => some (.bool true)
  | "false" => some (.bool false)
  | "inf" | "+inf" | "-inf" | "nan" | "+nan" | "-nan" => some .null
  | _ => (integer? text).or ((float? text).or (if isDateTime text then some .null else none))

def isScalarChar (c : Char) : Bool := c.isAlphanum || ['+', '-', '_', '.', ':'].contains c

def spanScalar (text : List Char) : List Char × List Char :=
  let (word, rest) := text.span isScalarChar
  match rest with
  | ' ' :: a :: b :: ':' :: more =>
    if isDate word && a.isDigit && b.isDigit then
      let (time, rest) := more.span isScalarChar
      (word ++ ' ' :: a :: b :: ':' :: time, rest)
    else (word, rest)
  | _ => (word, rest)

def readScalar (text : List Char) : Read Value :=
  let (word, rest) := spanScalar text
  match scalar? word with
  | some v => .ok (v, rest)
  | none => .error ⟨text⟩

end DebugGateway.Toml
