import DebugGateway.Text

/-!
Addresses of hosts in their written form: four decimal numbers, or eight hexadecimal pieces of which
one run of zeros may be left out. Each address has one shortest form, in which it is written.
-/
namespace DebugGateway

namespace Ipv4

def octet? (digits : List Char) : Option Nat :=
  if digits.isEmpty || !digits.all Char.isDigit then none
  else if digits.length ≠ 1 && digits.head? = some '0' then none
  else
    let n := digits.foldl (fun n c => n * 10 + (c.toNat - 48)) 0
    if digits.length ≤ 3 && n ≤ 255 then some n else none

def parse? (text : List Char) : Option (List Nat) :=
  let pieces := splitAtChar '.' text
  if pieces.length = 4 then pieces.mapM octet? else none

def isLoopback (address : List Nat) : Bool := address.head? == some 127

end Ipv4

namespace Ipv6

def hexDigit? (c : Char) : Option Nat :=
  if c.isDigit then some (c.toNat - 48)
  else if 'a' ≤ c && c ≤ 'f' then some (c.toNat - 87)
  else if 'A' ≤ c && c ≤ 'F' then some (c.toNat - 55)
  else none

def piece? (digits : List Char) : Option Nat :=
  if digits.isEmpty || 4 < digits.length then none
  else (digits.mapM hexDigit?).map (·.foldl (fun n d => n * 16 + d) 0)

/-- Reads the pieces between colons; the last may be a four-part address, which counts for two. -/
def pieces? : List (List Char) → Option (List Nat)
  | [] => some []
  | [last] =>
    match Ipv4.parse? last with
    | some [a, b, c, d] => some [a * 256 + b, c * 256 + d]
    | _ => (piece? last).map ([·])
  | first :: rest => do return (← piece? first) :: (← pieces? rest)

/-- Whether a text holds a four-part address; such a text is the end of an address. -/
def isDotted (digits : List Char) : Bool := digits.contains '.'

def cutAtGap : List Char → Option (List Char × List Char)
  | [] => none
  | ':' :: ':' :: rest => some ([], rest)
  | c :: rest => (cutAtGap rest).map fun (before, after) => (c :: before, after)

def side? (text : List Char) : Option (List Nat) :=
  if text.isEmpty then some [] else pieces? (splitAtChar ':' text)

/-- Reads an address: eight pieces, or fewer around a gap that stands for at least one zero. -/
def parse? (text : List Char) : Option (List Nat) :=
  match cutAtGap text with
  | none =>
    match pieces? (splitAtChar ':' text) with
    | some pieces => if pieces.length = 8 then some pieces else none
    | none => none
  | some (before, after) =>
    if isDotted before then none
    else match side? before, side? after with
      | some left, some right =>
        if left.length + right.length ≤ 7 then
          some (left ++ List.replicate (8 - left.length - right.length) 0 ++ right)
        else none
      | _, _ => none

def loopback : List Nat := [0, 0, 0, 0, 0, 0, 0, 1]

def zeros (pieces : List Nat) : Nat := (pieces.takeWhile (· == 0)).length

def longestRun : Nat → List Nat → Nat × Nat
  | _, [] => (0, 0)
  | place, p :: rest =>
    let later := longestRun (place + 1) rest
    let here := zeros (p :: rest)
    if later.2 ≤ here then (place, here) else later

def joined (pieces : List Nat) : String :=
  ":".intercalate (pieces.map fun p => String.ofList (Nat.toDigits 16 p))

def render (pieces : List Nat) : String :=
  let (place, length) := longestRun 0 pieces
  if length < 2 then joined pieces
  else joined (pieces.take place) ++ "::" ++ joined (pieces.drop (place + length))

end Ipv6

/-- Whether a host is the one that asks: its name in any case, or an address of it. -/
def isLoopbackHost (host : String) : Bool :=
  (String.ofList (host.toList.map Char.toLower)) == "localhost" ||
    (Ipv4.parse? host.toList).any Ipv4.isLoopback || Ipv6.parse? host.toList == some Ipv6.loopback

end DebugGateway
