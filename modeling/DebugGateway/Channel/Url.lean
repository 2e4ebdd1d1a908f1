import DebugGateway.Channel.Address
import DebugGateway.Text

/-!
Reading a URL: its scheme, host, port and path. Hosts of schemes that are not special are taken as
they are written, except for addresses in brackets; a path loses its dot segments. User names,
queries and fragments are read and forgotten.
-/
namespace DebugGateway

inductive UrlError where
  | noScheme
  | emptyHost
  | badPort
  | badIpv4
  | badIpv6
  | badHostCharacter
  | badDomain
deriving DecidableEq, Repr

def UrlError.message : UrlError → String
  | .noScheme => "relative URL without a base"
  | .emptyHost => "empty host"
  | .badPort => "invalid port number"
  | .badIpv4 => "invalid IPv4 address"
  | .badIpv6 => "invalid IPv6 address"
  | .badHostCharacter => "invalid domain character"
  | .badDomain => "invalid international domain name"

structure Url where
  scheme : String
  host : Option String := none
  port : Option Nat := none
  path : String := ""
deriving DecidableEq, Repr

namespace Url

/-! ## Characters -/

def isPassedOver (c : Char) : Bool := c = '\t' || c = '\n' || c = '\r'

def isControlOrSpace (c : Char) : Bool := c.toNat ≤ 32

def isControl (c : Char) : Bool := c.toNat < 32 || 126 < c.toNat

def isEscapedInPath (c : Char) : Bool :=
  isControl c || [' ', '"', '#', '<', '>', '?', '`', '\x7b', '\x7d'].contains c

def isRefusedInHost (c : Char) : Bool :=
  ['\x00', '\t', '\n', '\r', ' ', '#', '/', ':', '<', '>', '?', '@', '[', '\\', ']', '^', '|'].contains c

def isRefusedInDomain (c : Char) : Bool :=
  c.toNat ≤ 32 || c.toNat = 127 ||
    ['%', '#', '/', ':', '<', '>', '?', '@', '[', '\\', ']', '^', '|'].contains c

def hexPair (n : Nat) : List Char :=
  let digit (d : Nat) : Char := if d < 10 then Char.ofNat (48 + d) else Char.ofNat (55 + d)
  [digit (n / 16), digit (n % 16)]

def escaped (isEscaped : Char → Bool) (text : List Char) : List Char :=
  text.flatMap fun c =>
    if isEscaped c then (Text.toBytes c.toString).flatMap fun b => '%' :: hexPair b.toNat else [c]

def unescaped : List Char → List UInt8
  | [] => []
  | '%' :: a :: b :: rest =>
    match Ipv6.hexDigit? a, Ipv6.hexDigit? b with
    | some h, some l => UInt8.ofNat (h * 16 + l) :: unescaped rest
    | _, _ => 37 :: unescaped (a :: b :: rest)
  | c :: rest => Text.toBytes c.toString ++ unescaped rest
termination_by text => text.length

/-! ## Scheme -/

def isSchemeChar (c : Char) : Bool :=
  c.isAlphanum || c = '+' || c = '-' || c = '.'

def scheme? (text : List Char) : Option (String × List Char) :=
  match text.span isSchemeChar with
  | (c :: name, ':' :: rest) =>
    if c.isAlpha then some (String.ofList ((c :: name).map Char.toLower), rest) else none
  | _ => none

def isSpecial (scheme : String) : Bool :=
  ["http", "https", "ws", "wss", "ftp"].contains scheme

/-! ## Authority -/

def endsAuthority (special : Bool) (c : Char) : Bool :=
  c = '/' || c = '?' || c = '#' || (special && c = '\\')

def lastAt? (text : List Char) : Option (List Char × List Char) :=
  let reversed := text.reverse
  match reversed.span (· ≠ '@') with
  | (after, '@' :: before) => some (before.reverse, after.reverse)
  | _ => none

/-- Passes over the user. Says whether anything of the user is left, and the rest. -/
def afterUser (special : Bool) (text : List Char) : Except UrlError (Bool × List Char) :=
  let (authority, path) := text.span (fun c => !endsAuthority special c)
  match lastAt? authority with
  | none => .ok (false, text)
  | some ([], after) =>
    if after.isEmpty && !path.isEmpty then .error .emptyHost else .ok (false, after ++ path)
  | some (user, after) => .ok (user ≠ [':'], after ++ path)

/-- A host and what follows it: it ends before a colon outside brackets or where the path begins. -/
def spanHost (special : Bool) : Bool → List Char → List Char × List Char
  | _, [] => ([], [])
  | bracketed, c :: rest =>
    if (c = ':' && !bracketed) || endsAuthority special c then ([], c :: rest)
    else
      let (host, after) :=
        spanHost special (if c = '[' then true else if c = ']' then false else bracketed) rest
      (c :: host, after)

def bracketed (host : List Char) : Except UrlError String :=
  if host.getLast? = some ']' then
    match Ipv6.parse? ((host.drop 1).dropLast) with
    | some pieces => .ok ("[" ++ Ipv6.render pieces ++ "]")
    | none => .error .badIpv6
  else .error .badIpv6

def writtenHost (host : List Char) : Except UrlError String :=
  if host.head? = some '[' then bracketed host
  else if host.any isRefusedInHost then .error .badHostCharacter
  else .ok (String.ofList (escaped isControl host))

/-- The value of a number of an address, which may be octal or hexadecimal; the inner option is none
when it is far too large. -/
def addressNumber? (digits : List Char) : Option (Option Nat) :=
  let value (base : Nat) (ds : List Char) : Option (Option Nat) :=
    (ds.mapM fun c => (Ipv6.hexDigit? c).filter (· < base)).map fun ds =>
      let n := ds.foldl (fun n d => n * base + d) 0
      if n < 0x100000000 then some n else none
  match digits with
  | [] => none
  | '0' :: 'x' :: rest => if rest.isEmpty then some (some 0) else value 16 rest
  | '0' :: 'X' :: rest => if rest.isEmpty then some (some 0) else value 16 rest
  | '0' :: d :: rest => value 8 (d :: rest)
  | ds => value 10 ds

def labels (domain : List Char) : List (List Char) :=
  let pieces := splitAtChar '.' domain
  if pieces.getLast? = some [] then pieces.dropLast else pieces

def endsInNumber (domain : List Char) : Bool :=
  match (labels domain).getLast? with
  | some l => (!l.isEmpty && l.all Char.isDigit) || (addressNumber? l).isSome
  | none => false

def isAddress (domain : List Char) : Bool :=
  let parts := labels domain
  match parts.mapM fun l => (addressNumber? l).join with
  | none => false
  | some numbers =>
    match numbers.reverse with
    | [] => false
    | last :: others =>
      parts.length ≤ 4 && last < Nat.pow 256 (4 - others.length) && others.all (· ≤ 255)

def domainHost (host : List Char) : Except UrlError String :=
  if host.head? = some '[' then bracketed host
  else match Text.ofBytes (unescaped host) with
    | .error _ => .error .badDomain
    | .ok domain =>
      let domain := domain.toList.map Char.toLower
      if domain.any isRefusedInDomain then .error .badDomain
      else if domain.isEmpty then .error .emptyHost
      else if endsInNumber domain && !isAddress domain then .error .badIpv4
      else .ok (String.ofList domain)

def greatestPort : Nat := 65535

def readPort : Nat → Bool → List Char → Except UrlError (Option Nat × List Char)
  | n, any, [] => .ok (if any then some n else none, [])
  | n, any, c :: rest =>
    if c.isDigit then
      let m := n * 10 + (c.toNat - 48)
      if greatestPort < m then .error .badPort else readPort m true rest
    else if c = '/' || c = '\\' || c = '?' || c = '#' then
      .ok (if any then some n else none, c :: rest)
    else .error .badPort

def authority (special : Bool) (text : List Char) :
    Except UrlError (Option String × Option Nat × List Char) := do
  let (hasUser, text) ← afterUser special text
  let (written, rest) := spanHost special false text
  if special && written.isEmpty then throw .emptyHost
  let host ← if special then domainHost written else writtenHost written
  if host.isEmpty && rest.head? = some ':' then throw .emptyHost
  let (number, rest) ←
    match rest with
    | ':' :: digits => readPort 0 false digits
    | rest => pure (none, rest)
  if host.isEmpty && hasUser then throw .emptyHost
  return (if host.isEmpty then none else some host, number, rest)

/-! ## Path -/

def isDot (segment : List Char) : Bool :=
  [".", "%2e", "%2E"].contains (String.ofList segment)

def isDoubleDot (segment : List Char) : Bool :=
  ["..", "%2e%2e", "%2e%2E", "%2E%2e", "%2E%2E", "%2e.", "%2E.", ".%2e", ".%2E"].contains
    (String.ofList segment)

/-- Whether a segment is a letter and a colon or bar; such a segment is never left. -/
def isDrive : List Char → Bool
  | [letter, mark] => letter.isAlpha && (mark = ':' || mark = '|')
  | _ => false

def up : List (List Char) → List (List Char)
  | [] => []
  | segment :: rest => if isDrive segment then segment :: rest else rest

/-- Walks the segments after the first slash. The directories walked so far stand innermost first;
the last segment is no directory. -/
def walk (directories : List (List Char)) : List (List Char) → List (List Char) × List Char
  | [] => (directories, [])
  | [last] =>
    if isDoubleDot last then (up directories, [])
    else if isDot last then (directories, [])
    else (directories, last)
  | segment :: rest =>
    if isDoubleDot segment then walk (up directories) rest
    else if isDot segment then walk directories rest
    else walk (segment :: directories) rest

def endsPath (c : Char) : Bool := c = '?' || c = '#'

def rootedPath (text : List Char) : String :=
  let segments := (splitAtChar '/' (text.takeWhile (fun c => !endsPath c))).map
    (escaped isEscapedInPath)
  let (directories, last) := walk [] segments
  String.ofList ('/' :: (directories.reverse.flatMap (· ++ ['/'])) ++ last)

def pathAfterHost (text : List Char) : String :=
  match text with
  | [] => ""
  | '/' :: rest => rootedPath rest
  | c :: rest => if endsPath c then "" else rootedPath (c :: rest)

def hostlessPath (text : List Char) : String :=
  match text with
  | '/' :: rest => rootedPath rest
  | text => String.ofList (escaped isControl (text.takeWhile (fun c => !endsPath c)))

/-! ## The whole -/

/-- Reads what follows the scheme of a file, of which only the host matters. -/
def fileUrl (scheme : String) (text : List Char) : Except UrlError Url :=
  match text with
  | a :: b :: rest =>
    if (a = '/' || a = '\\') && (b = '/' || b = '\\') then
      let host := rest.takeWhile (fun c => !endsAuthority true c)
      if host.isEmpty || isDrive host then .ok { scheme }
      else (domainHost host).map fun host => { scheme, host := some host }
    else .ok { scheme }
  | _ => .ok { scheme }

def afterSlashes (text : List Char) : List Char :=
  text.dropWhile fun c => c = '/' || c = '\\'

/-- The characters that count: without controls and spaces at the ends, tabs and line breaks. -/
def significant (text : String) : List Char :=
  let inner := ((text.toList.dropWhile isControlOrSpace).reverse.dropWhile isControlOrSpace).reverse
  inner.filter fun c => !isPassedOver c

def parse (text : String) : Except UrlError Url :=
  match scheme? (significant text) with
  | none => .error .noScheme
  | some (scheme, rest) =>
    if scheme = "file" then fileUrl scheme rest
    else if isSpecial scheme then
      (authority true (afterSlashes rest)).map fun (host, port, rest) =>
        { scheme, host, port, path := pathAfterHost rest }
    else match rest with
      | '/' :: '/' :: rest =>
        (authority false rest).map fun (host, port, rest) =>
          { scheme, host, port, path := pathAfterHost rest }
      | rest => .ok { scheme, path := hostlessPath rest }

end Url

end DebugGateway
