import DebugGateway.Text

namespace DebugGateway

namespace Confirmation

def breakpointSetters : List String := ["bp", "ba", "bu", "bm", "break", "tbreak", "watch"]

def resumers : List String := ["g", "gh", "gn", "c", "continue"]

def steppers : List String :=
  ["p", "t", "gu", "pa", "pc", "tc", "step", "next", "stepi", "nexti", "si", "ni", "finish"]

def breakpointClearers : List String := ["bc", "delete"]

def breakpointDisablers : List String := ["bd", "disable"]

def breakpointEnablers : List String := ["be", "enable"]

def memoryEditors : List String := ["eb", "ed", "eq", "ew", "ea", "eu"]

def assignmentOpening : String := "set var "

def restarters : List String := [".restart", ".reboot"]

end Confirmation

open Confirmation in
/-- The text for a command that succeeded in silence, if its silence means success. -/
def confirmation? (command : String) : Option String :=
  let text := Text.lowerAscii (Text.trim command)
  match Text.words text with
  | [] => none
  | verb :: operands =>
    let hasOperand := !operands.isEmpty
    if verb ∈ breakpointSetters && hasOperand then some "Breakpoint set successfully."
    else if verb ∈ resumers then some "Execution continued."
    else if verb ∈ steppers then some "Command completed successfully."
    else if verb ∈ breakpointClearers then some "Breakpoint cleared successfully."
    else if verb ∈ breakpointDisablers && hasOperand then some "Breakpoint disabled successfully."
    else if verb ∈ breakpointEnablers && hasOperand then some "Breakpoint enabled successfully."
    else if verb ∈ memoryEditors && hasOperand then
      some "Memory edit command completed successfully."
    else if Text.startsWith assignmentOpening text then
      some "Memory edit command completed successfully."
    else if verb ∈ restarters then some "Command completed successfully."
    else none

inductive Cost where
  | quick
  | normal
  | slow
  | analysis
  | bulk
deriving DecidableEq, Repr

namespace Cost

def name : Cost → String
  | quick => "quick"
  | normal => "normal"
  | slow => "slow"
  | analysis => "analysis"
  | bulk => "bulk"

def floor : Cost → Nat
  | quick => 5000
  | normal => 15000
  | slow => 30000
  | analysis => 60000
  | bulk => 300000

def quickVerbs : List String :=
  ["version", "r", "k", "kb", "kn", "kp", "u", "db", "dd", "dw", "dq", "bt", "backtrace", "x",
    "p", "print", "info"]

def analysisVerbs : List String := ["!analyze", "!pool", "!heap", "!handle"]

def bulkVerbs : List String := ["!for_each_module", "lm"]

def bulkOpening : String := "!process 0 0"

def slowVerbs : List String := ["!process", "!thread", "!dlls", "!address"]

def ofCommand (command : String) : Cost :=
  let text := Text.lowerAscii (Text.trim command)
  let verb := (Text.words text).head?.getD ""
  if verb ∈ quickVerbs then quick
  else if verb ∈ analysisVerbs then analysis
  else if verb ∈ bulkVerbs || Text.startsWith bulkOpening text then bulk
  else if verb ∈ slowVerbs then slow
  else normal

end Cost

/-- What a command is granted when `requested` is asked for: never less than its cost demands. -/
def grantedBudget (command : String) (requested : Nat) : Nat :=
  max requested (Cost.ofCommand command).floor

end DebugGateway
