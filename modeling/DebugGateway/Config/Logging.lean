import DebugGateway.Json.Record
import DebugGateway.Text

namespace DebugGateway

inductive LogFormat where
  | json
  | compact
deriving DecidableEq, Repr

namespace LogFormat

def name : LogFormat → String
  | json => "json"
  | compact => "compact"

def known : List (String × LogFormat) := [("json", json), ("compact", compact)]

def ofText? (text : String) : Option LogFormat := List.lookup (Text.lowerAscii text) known

def unknownMessage : String := "Matching variant not found"

def read (text : List Char) : Except Json.Halt (LogFormat × List Char) :=
  Json.readVariant known text

end LogFormat

end DebugGateway

namespace DebugGateway.LogFilter

inductive FilterError where
  | directive
  | level
deriving DecidableEq, Repr

def FilterError.message : FilterError → String
  | .directive => "invalid filter directive"
  | .level =>
    "error parsing level filter: expected one of \"off\", \"error\", \"warn\", \"info\", \"debug\", " ++
      "\"trace\", or a number 0-5"

def levelNames : List String := ["off", "error", "warn", "info", "debug", "trace"]

def isLevel (text : List Char) : Bool :=
  let digits := match text with
    | '+' :: rest => rest
    | text => text
  if !digits.isEmpty && digits.all Char.isDigit then
    digits.foldl (fun n c => n * 10 + (c.toNat - 48)) 0 ≤ 5
  else levelNames.contains (Text.lowerAscii (String.ofList text))

/-- Where the reading of a directive stands; places are counted from its beginning. -/
inductive FilterState where
  | start
  | levelOrTarget
  | span
  | field (since : Nat)
  | fields
  | target
  | level (since : Nat)
deriving DecidableEq, Repr

/-- Whether a directive can begin with a character; those beyond ASCII pass for letters. -/
def opensTarget (c : Char) : Bool :=
  c.isAlphanum || c = '-' || c = ':' || c = '_' || 127 < c.toNat

def FilterState.next (place : Nat) (c : Char) : FilterState → Option FilterState
  | .start =>
    if c = '[' then some .span else if opensTarget c then some .levelOrTarget else none
  | .levelOrTarget =>
    some (if c = '=' then .level (place + 1) else if c = '[' then .span else .levelOrTarget)
  | .span =>
    some (if c = ']' then .target else if c = '\x7b' then .field (place + 1) else .span)
  | .field since =>
    if c = '\x7d' then if place = since then none else some .fields else some (.field since)
  | .fields => if c = ']' then some .target else none
  | .target => if c = '=' then some (.level (place + 1)) else none
  | .level since => some (.level since)

def FilterState.run (place : Nat) : FilterState → List Char → Option FilterState
  | state, [] => some state
  | state, c :: rest => (state.next place c).bind fun state => state.run (place + 1) rest

/-- Checks one directive. Blanks at its ends are passed over, but the level is looked for at the place
it would have without them. -/
def checkDirective (text : List Char) : Except FilterError Unit :=
  match FilterState.run 0 .start (Text.trimChars text) with
  | some .levelOrTarget | some .target => .ok ()
  | some (.level since) =>
    let level := text.drop since
    if level.isEmpty || isLevel level then .ok () else .error .level
  | _ => .error .directive

def check (filter : String) : Except FilterError Unit :=
  ((splitAtChar ',' filter.toList).filter (!·.isEmpty)).forM checkDirective

end DebugGateway.LogFilter
