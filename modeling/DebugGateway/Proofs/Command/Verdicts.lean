import DebugGateway.Proofs.Command.Arguments
import DebugGateway.Proofs.Command.Runs

namespace DebugGateway

open Arguments

/-- The request is for a command that shows what executions come to, and its arguments are such as the
command takes. -/
def Request.Valid (r : Request) : Prop :=
  match r.command with
  | "lm" | "get_metadata" => MayHaveCount r.args "timeout_ms"
  | "dt" =>
    (∃ s, HasText r.args "type_name" s) ∧ MayHaveText r.args "address" ∧
      MayHaveCount r.args "timeout_ms"
  | "dd" =>
    (∃ s, HasText r.args "address" s) ∧ MayHaveCount r.args "length" ∧
      MayHaveCount r.args "timeout_ms"
  | "execute_command" | "execute_command_streaming" | "for_each_module" =>
    (∃ s, HasText r.args "command" s) ∧ MayHaveCount r.args "timeout_ms"
  | "execute_command_enhanced" =>
    (∃ s, HasText r.args "command" s) ∧ MayHaveCount r.args "timeout_ms" ∧
      MayHaveFlag r.args "include_metadata"
  | _ => False

def Response.Blames (response : Response) (code category : String) : Prop :=
  response.status = "error" ∧ response.toMembers.get? "error_code" = some (.text code) ∧
    response.toMembers.get? "error_category" = some (.text category)

namespace Run

/-- What a failed execution is classed by: its error, or where that is blank what it printed. -/
def complaint (x : Run) : String :=
  (x.result.errorDetail.filter fun detail => !Text.isAllBlank detail).getD (Text.trim x.result.output)

def BlamedBy (x : Run) (response : Response) : Prop :=
  if x.result.timedOut then
    response.Blames "timeout" "Timeout" ∧
      response.toMembers.get? "timeout_ms" = some (.int x.budget) ∧
      response.toMembers.get? "partial_output" =
        if x.result.output = "" then none else some (.text x.result.output)
  else if x.result.sessionUnavailable then response.Blames "session_unavailable" "ConnectionLost"
  else response.Blames "execution_failed" (ErrorCategory.ofMessage x.complaint).name

/-- What it printed says something, or its silence means that it has worked. -/
def Speaks (x : Run) : Prop :=
  isEffectivelyEmpty x.result.output = false ∨ (confirmation? x.command).isSome = true

end Run

def Request.Hears (r : Request) (made : List Run) : Prop :=
  r.command = "execute_command" → ∀ x ∈ made, x.Speaks

/-- What the response to a request says of the executions made for it. -/
structure Verdict (r : Request) (response : Response) (made : List Run) : Prop where
  executed : made ≠ []
  kind : response.toMembers.get? "type" = some (.text "response")
  succeeds_iff : response.Succeeds ↔ (∀ x ∈ made, x.result.failed = false) ∧ r.Hears made
  failed : ∀ x, made.find? (·.result.failed) = some x → x.BlamedBy response
  silent : (∀ x ∈ made, x.result.failed = false) → ¬ r.Hears made →
    response.Blames "execution_failed" "Unknown"
  timedOut : ∀ x ∈ made, x.result.timedOut = true → response.Blames "timeout" "Timeout"

/-! ## Plans that tell of their executions -/

def Well (made : List Run) : Prop := ∀ x ∈ made, ∃ output, x.outcome = .ok output

/-- The answer tells of the last execution if that came to an error, else it is as told by `calm`. -/
structure Heeded (calm : List Run → Except CommandError Reply → Prop) (made : List Run)
    (answer : Except CommandError Reply) : Prop where
  bounded : ∀ x ∈ made, x.budget ≤ CommandError.greatestBudget
  decided : (Well made ∧ calm made answer) ∨
    ∃ before x e, made = before ++ [x] ∧ Well before ∧ x.outcome = .error e ∧ answer = .error e

theorem grantedBudget_stated (command : String) {requested : Nat}
    (small : requested ≤ CommandError.greatestBudget) :
    grantedBudget command requested ≤ CommandError.greatestBudget := by
  refine Nat.max_le.mpr ⟨small, ?_⟩
  cases Cost.ofCommand command <;> decide

namespace Plan

/-- Following the plan leads to an answer that tells of the executions. -/
structure Heeds (calm : List Run → Except CommandError Reply → Prop) (plan : Plan) : Prop where
  heeded : ∀ {σ : Type} (runner : Runner σ) (d : Desk σ),
    Heeded calm (plan.runs runner d) (plan.follow runner d).1

variable {calm : List Run → Except CommandError Reply → Prop}

theorem Heeds.done {answer : Except CommandError Reply} (holds : calm [] answer) :
    Heeds calm (done answer) where
  heeded _ _ :=
    ⟨fun _ member => absurd member List.not_mem_nil,
      .inl ⟨fun _ member => absurd member List.not_mem_nil, holds⟩⟩

theorem Heeds.look {next : Sight → Plan} (each : ∀ sight, Heeds calm (next sight)) :
    Heeds calm (look next) where
  heeded runner d := (each ⟨d.session, runner.now d.world⟩).heeded runner d

theorem Heeds.execute {command : String} {budget : Nat} {next : ExecutionResult → String → Plan}
    (small : budget ≤ CommandError.greatestBudget)
    (each : ∀ x : Run, x.command = command → ∀ output, x.outcome = .ok output →
      Heeds (fun made => calm (x :: made)) (next x.result output)) :
    Heeds calm (execute command budget fun r => given (r.outcome command budget) (next r)) := by
  constructor
  intro σ runner d
  have runs_eq : (Plan.execute command budget fun r => given (r.outcome command budget) (next r)).runs
      runner d = ⟨command, budget, (runner.attempt command budget d.world).1⟩ ::
        (given ((runner.attempt command budget d.world).1.result.outcome command budget)
          (next (runner.attempt command budget d.world).1.result)).runs runner
            (d.execute runner command budget).2 := rfl
  have follow_eq : (Plan.execute command budget fun r => given (r.outcome command budget)
      (next r)).follow runner d =
        (given ((runner.attempt command budget d.world).1.result.outcome command budget)
          (next (runner.attempt command budget d.world).1.result)).follow runner
            (d.execute runner command budget).2 := rfl
  rw [runs_eq, follow_eq]
  generalize (runner.attempt command budget d.world).1 = a
  -- an execution that comes to an error is the last one, and its error is the answer
  cases told : a.result.outcome command budget with
  | error e =>
    refine ⟨fun x member => ?_, .inr ⟨[], ⟨command, budget, a⟩, e, rfl, ?_, told, rfl⟩⟩
    · cases List.mem_singleton.mp member
      exact small
    · exact fun x member => absurd member List.not_mem_nil
  | ok output =>
    obtain ⟨bounded, decided⟩ := (each ⟨command, budget, a⟩ rfl output told).heeded runner
      (d.execute runner command budget).2
    refine ⟨fun x member => ?_, ?_⟩
    · rcases List.mem_cons.mp member with rfl | later
      · exact small
      · exact bounded x later
    · have well {made : List Run} (rest : Well made) : Well (⟨command, budget, a⟩ :: made) := by
        intro x member
        rcases List.mem_cons.mp member with rfl | later
        · exact ⟨output, told⟩
        · exact rest x later
      rcases decided with ⟨rest, holds⟩ | ⟨before, x, e, split, rest, failed, answered⟩
      · exact .inl ⟨well rest, holds⟩
      · exact .inr ⟨_ :: before, x, e, congrArg _ split, well rest, failed, answered⟩

theorem Heeds.output {command : String} {budget : Nat} {next : String → Plan}
    (small : budget ≤ CommandError.greatestBudget)
    (each : ∀ x : Run, ∀ output, Heeds (fun made => calm (x :: made)) (next output)) :
    Heeds calm (output command budget next) :=
  @Heeds.execute calm command budget (fun _ => next) small fun x _ output _ => each x output

theorem Heeds.run {command : String} {requested : Nat} {next : String → Json.Value → Plan}
    (small : requested ≤ CommandError.greatestBudget)
    (each : ∀ x : Run, x.command = command → ∀ output, x.outcome = .ok output → ∀ metadata,
      Heeds (fun made => calm (x :: made)) (next output metadata)) :
    Heeds calm (Builtin.run command requested next) :=
  .execute (grantedBudget_stated command small) fun x same output told =>
    .look fun _ => each x same output told _

end Plan

theorem Run.output_of_outcome {x : Run} {output : String} (told : x.outcome = .ok output) :
    output = x.result.output := by
  unfold outcome ExecutionResult.outcome at told
  split at told
  · cases told
  · split at told
    · cases told
    · split at told
      · cases told
      · exact (Except.ok.inj told).symm

namespace Builtin

open Plan

structure Calm (r : Request) (made : List Run) (answer : Except CommandError Reply) : Prop where
  executed : made ≠ []
  heard : r.Hears made → ∃ reply, answer = .ok reply
  hushed : ¬ r.Hears made → answer = .error silent

variable {defaultBudget : Nat} {r : Request}

/-- A reply will do for any command but the one that takes silence for a failure. -/
theorem Calm.shown {made : List Run} {reply : Reply} (executed : made ≠ [])
    (other : r.command ≠ "execute_command") : Calm r made (.ok reply) where
  executed := executed
  heard _ := ⟨reply, rfl⟩
  hushed unheard := absurd (fun command => absurd command other) unheard

theorem spoken_heeds {x : Run} {output : String} {metadata : Json.Value}
    (told : x.outcome = .ok output) (command : r.command = "execute_command") :
    Heeds (fun made => Calm r (x :: made)) (.given (spoken x.command output) fun text =>
      .reply ((Reply.ofOutput text).withField "metadata" metadata)) := by
  obtain rfl := Run.output_of_outcome told
  have hears : r.Hears [x] ↔ x.Speaks := by simp [Request.Hears, command]
  unfold Builtin.spoken
  cases empty : isEffectivelyEmpty x.result.output with
  | false =>
    have speaks : x.Speaks := .inl empty
    exact .done ⟨List.cons_ne_nil _ _, fun _ => ⟨_, rfl⟩, fun mute => absurd (hears.mpr speaks) mute⟩
  | true =>
    cases confirmed : confirmation? x.command with
    | some text =>
      have speaks : x.Speaks := .inr (by rw [confirmed]; rfl)
      exact .done ⟨List.cons_ne_nil _ _, fun _ => ⟨_, rfl⟩,
        fun mute => absurd (hears.mpr speaks) mute⟩
    | none =>
      have mute : ¬ x.Speaks := by simp [Run.Speaks, empty, confirmed]
      exact .done ⟨List.cons_ne_nil _ _, fun speaks => absurd (hears.mp speaks) mute, fun _ => rfl⟩

section Commands

variable (stated : defaultBudget ≤ CommandError.greatestBudget)
include stated

theorem listModules_heeds (other : r.command ≠ "execute_command")
    (budget : MayHaveCount r.args "timeout_ms") :
    Heeds (Calm r) (listModules defaultBudget r) := by
  obtain ⟨n, read, small⟩ := budget.read stated
  rw [listModules, Arguments.budget, read]
  exact .output small fun _ _ => .done (.shown (List.cons_ne_nil _ _) other)

theorem displayType_heeds (other : r.command ≠ "execute_command") {typeName : String}
    (named : HasText r.args "type_name" typeName) (address : MayHaveText r.args "address")
    (budget : MayHaveCount r.args "timeout_ms") :
    Heeds (Calm r) (displayType defaultBudget r) := by
  obtain ⟨n, read, small⟩ := budget.read stated
  obtain ⟨place, found⟩ := address.read
  rw [displayType, text_eq_ok_iff.mpr named, found, Arguments.budget, read]
  exact .output small fun _ _ => .done (.shown (List.cons_ne_nil _ _) other)

theorem displayMemory_heeds (other : r.command ≠ "execute_command") {address : String}
    (located : HasText r.args "address" address) (length : MayHaveCount r.args "length")
    (budget : MayHaveCount r.args "timeout_ms") :
    Heeds (Calm r) (displayMemory defaultBudget r) := by
  obtain ⟨n, read, small⟩ := budget.read stated
  have fits : defaultLength ≤ CommandError.greatestBudget := by decide
  obtain ⟨words, counted, _⟩ := length.read fits
  rw [displayMemory, counted, text_eq_ok_iff.mpr located, Arguments.budget, read]
  exact .output small fun _ _ => .done (.shown (List.cons_ne_nil _ _) other)

omit stated

theorem getMetadata_heeds (other : r.command ≠ "execute_command")
    (budget : MayHaveCount r.args "timeout_ms") : Heeds (Calm r) (getMetadata r) := by
  have fits : metadataBudget ≤ CommandError.greatestBudget := by decide
  obtain ⟨n, read, small⟩ := budget.read fits
  rw [getMetadata, Arguments.budget, read]
  exact .output small fun _ _ => .output small fun _ _ =>
    .done (.shown (List.cons_ne_nil _ _) other)

variable {command : String} (text : HasText r.args "command" command)
  (budget : MayHaveCount r.args "timeout_ms")
include text budget

theorem executeCommand_heeds (named : r.command = "execute_command") :
    Heeds (Calm r) (executeCommand r) := by
  have fits : executeBudget ≤ CommandError.greatestBudget := by decide
  obtain ⟨requested, read, small⟩ := requestedCommand_read text budget fits
  simp only [executeCommand, read, given_ok]
  refine .run small fun x same output told metadata => ?_
  subst same
  exact spoken_heeds told named

theorem executeCommandEnhanced_heeds (other : r.command ≠ "execute_command")
    (described : MayHaveFlag r.args "include_metadata") :
    Heeds (Calm r) (executeCommandEnhanced r) := by
  have fits : executeBudget ≤ CommandError.greatestBudget := by decide
  obtain ⟨requested, read, small⟩ := requestedCommand_read text budget fits
  obtain ⟨flag, set⟩ := described.read true
  simp only [executeCommandEnhanced, read, set, given_ok]
  exact .run small fun _ _ _ _ _ => .done (.shown (List.cons_ne_nil _ _) other)

theorem executeCommandStreaming_heeds (other : r.command ≠ "execute_command") :
    Heeds (Calm r) (executeCommandStreaming r) := by
  have fits : longBudget ≤ CommandError.greatestBudget := by decide
  obtain ⟨requested, read, small⟩ := requestedCommand_read text budget fits
  simp only [executeCommandStreaming, read, given_ok]
  exact .run small fun _ _ _ _ _ => .done (.shown (List.cons_ne_nil _ _) other)

theorem forEachModule_heeds (other : r.command ≠ "execute_command") :
    Heeds (Calm r) (forEachModule r) := by
  have fits : longBudget ≤ CommandError.greatestBudget := by decide
  obtain ⟨requested, read, small⟩ := requestedCommand_read text budget fits
  simp only [forEachModule, read, given_ok]
  exact .run small fun _ _ _ _ _ => .done (.shown (List.cons_ne_nil _ _) other)

end Commands

theorem valid_heeds (stated : defaultBudget ≤ CommandError.greatestBudget) (valid : r.Valid) :
    ∃ plan, (plans defaultBudget).lookup r.command = some plan ∧ Heeds (Calm r) (plan r) := by
  unfold Request.Valid at valid
  split at valid
  · rename_i name
    refine ⟨_, by rw [name]; rfl, listModules_heeds stated (by rw [name]; decide) valid⟩
  · rename_i name
    exact ⟨_, by rw [name]; rfl, getMetadata_heeds (by rw [name]; decide) valid⟩
  · rename_i name
    obtain ⟨⟨_, named⟩, address, budget⟩ := valid
    exact ⟨_, by rw [name]; rfl,
      displayType_heeds stated (by rw [name]; decide) named address budget⟩
  · rename_i name
    obtain ⟨⟨_, located⟩, length, budget⟩ := valid
    exact ⟨_, by rw [name]; rfl,
      displayMemory_heeds stated (by rw [name]; decide) located length budget⟩
  · rename_i name
    obtain ⟨⟨_, text⟩, budget⟩ := valid
    exact ⟨_, by rw [name]; rfl, executeCommand_heeds text budget name⟩
  · rename_i name
    obtain ⟨⟨_, text⟩, budget⟩ := valid
    exact ⟨_, by rw [name]; rfl, executeCommandStreaming_heeds text budget (by rw [name]; decide)⟩
  · rename_i name
    obtain ⟨⟨_, text⟩, budget⟩ := valid
    exact ⟨_, by rw [name]; rfl, forEachModule_heeds text budget (by rw [name]; decide)⟩
  · rename_i name
    obtain ⟨⟨_, text⟩, budget, described⟩ := valid
    exact ⟨_, by rw [name]; rfl,
      executeCommandEnhanced_heeds text budget (by rw [name]; decide) described⟩
  · exact valid.elim

end Builtin

/-! ## From the answer to the message -/

namespace Response

theorem get?_type (response : Response) :
    response.toMembers.get? "type" = some (.text response.kind.name) := by
  obtain ⟨id, kind, command, outcome⟩ := response
  cases id <;> simp [Json.Members.get?, toMembers, envelope, optional, Json.Members.lookup_cons]

variable (r : Request)

theorem ofAnswer_kind (answer : Except CommandError Reply) :
    (ofAnswer r answer).kind = .response := by
  cases answer with
  | ok reply => rfl
  | error e => simp [ofAnswer, failure, e.toFailure_eq, e.code_not_protocol]

theorem ofAnswer_blames (e : CommandError) :
    (ofAnswer r (.error e)).Blames e.code.name e.category.name := by
  refine ⟨rfl, ?_, ?_⟩ <;>
    simp [Json.Members.get?, toMembers, envelope, optional, Json.Members.lookup_cons, ofAnswer,
      failure, e.toFailure_eq]

theorem ofAnswer_details (e : CommandError) {key : String} (extra : key ∉ envelopeKeys) :
    (ofAnswer r (.error e)).toMembers.get? key = e.details.get? key := by
  rw [get?_toMembers _ extra]
  simp only [ofAnswer, extraFields, failure, e.toFailure_eq]

theorem ofAnswer_succeeds (answer : Except CommandError Reply) :
    (ofAnswer r answer).Succeeds ↔ ∃ reply, answer = .ok reply := by
  rw [succeeds_iff]
  cases answer <;> simp [ofAnswer, success, failure]

end Response

namespace Run

variable {x : Run}

theorem outcome_timedOut (timedOut : x.result.timedOut = true) :
    x.outcome = .error (.timeout x.budget
      (if x.result.output.isEmpty then none else some x.result.output)) := by
  rw [outcome, ExecutionResult.outcome, if_pos timedOut]

theorem outcome_lost (inTime : ¬ x.result.timedOut = true)
    (lost : x.result.sessionUnavailable = true) :
    x.outcome = .error (.sessionUnavailable (x.result.errorDetail.getD "no debugging session")) := by
  rw [outcome, ExecutionResult.outcome, if_neg inTime, if_pos lost]

theorem outcome_failed (inTime : ¬ x.result.timedOut = true)
    (present : ¬ x.result.sessionUnavailable = true) (failed : x.result.failed = true) :
    ∃ hint, x.outcome =
      .error (.execution x.complaint (ErrorCategory.ofMessage x.complaint) hint) := by
  rw [outcome, ExecutionResult.outcome, if_neg inTime, if_neg present, if_pos failed]
  unfold complaint
  cases x.result.errorDetail with
  | none => exact ⟨_, rfl⟩
  | some d => cases blank : Text.isAllBlank d <;> simp [Option.filter, blank]

/-- The message that a run out of time leads to says so, and tells of the budget. -/
theorem blames_late {e : CommandError} (told : x.outcome = .error e)
    (timedOut : x.result.timedOut = true) (stated : x.budget ≤ CommandError.greatestBudget)
    (r : Request) :
    (Response.ofAnswer r (.error e)).Blames "timeout" "Timeout" ∧
      (Response.ofAnswer r (.error e)).toMembers.get? "timeout_ms" = some (.int x.budget) ∧
      (Response.ofAnswer r (.error e)).toMembers.get? "partial_output" =
        if x.result.output = "" then none else some (.text x.result.output) := by
  obtain rfl := Except.error.inj (told.symm.trans (outcome_timedOut timedOut))
  have least : min (x.budget : Int) CommandError.greatestBudget = x.budget := by omega
  refine ⟨Response.ofAnswer_blames r _, ?_, ?_⟩
  · rw [Response.ofAnswer_details r _ (by decide)]
    cases x.result.output.isEmpty <;>
      simp [CommandError.details, Json.Members.get?, Json.Members.lookup_cons, least]
  · rw [Response.ofAnswer_details r _ (by decide)]
    by_cases nothing : x.result.output = "" <;>
      simp [CommandError.details, Json.Members.get?, nothing]

/-- The message that the error of an execution leads to tells of the execution. -/
theorem blamedBy {e : CommandError} (told : x.outcome = .error e) (failed : x.result.failed = true)
    (stated : x.budget ≤ CommandError.greatestBudget) (r : Request) :
    x.BlamedBy (.ofAnswer r (.error e)) := by
  unfold BlamedBy
  by_cases timedOut : x.result.timedOut = true
  · rw [if_pos timedOut]
    exact blames_late told timedOut stated r
  · rw [if_neg timedOut]
    by_cases lost : x.result.sessionUnavailable = true
    · obtain rfl := Except.error.inj (told.symm.trans (outcome_lost timedOut lost))
      rw [if_pos lost]
      exact Response.ofAnswer_blames r _
    · obtain ⟨hint, came⟩ := outcome_failed timedOut lost failed
      obtain rfl := Except.error.inj (told.symm.trans came)
      rw [if_neg lost]
      exact Response.ofAnswer_blames r _

end Run

section Made

variable {r : Request} {made before : List Run} {answer : Except CommandError Reply}

theorem Well.failed_eq_false (well : Well made) (arise : ∀ x ∈ made, x.attempt.Arises x.budget) :
    ∀ x ∈ made, x.result.failed = false :=
  fun x member => (Run.outcome_ok_iff (arise x member)).mp (well x member)

theorem Verdict.calm (fine : ∀ x ∈ made, x.result.failed = false)
    (arise : ∀ x ∈ made, x.attempt.Arises x.budget) (calm : Builtin.Calm r made answer) :
    Verdict r (.ofAnswer r answer) made where
  executed := calm.executed
  kind := by rw [Response.get?_type, Response.ofAnswer_kind]; rfl
  succeeds_iff := by
    rw [Response.ofAnswer_succeeds]
    constructor
    · rintro ⟨reply, rfl⟩
      refine ⟨fine, Classical.byContradiction fun unheard => ?_⟩
      cases calm.hushed unheard
    · exact fun ⟨_, heard⟩ => calm.heard heard
  failed x found := by
    have failed := List.find?_some found
    rw [fine x (List.mem_of_find?_eq_some found)] at failed
    contradiction
  silent _ unheard := by
    rw [calm.hushed unheard]
    exact Response.ofAnswer_blames r Builtin.silent
  timedOut x member timedOut := by
    have failed := (arise x member).failed_of_timedOut timedOut
    rw [show x.attempt.result.failed = false from fine x member] at failed
    contradiction

theorem Verdict.failing {x : Run} {e : CommandError} (fine : ∀ y ∈ before, y.result.failed = false)
    (arise : ∀ y ∈ before ++ [x], y.attempt.Arises y.budget) (told : x.outcome = .error e)
    (stated : x.budget ≤ CommandError.greatestBudget) :
    Verdict r (.ofAnswer r (.error e)) (before ++ [x]) := by
  have here : x ∈ before ++ [x] := List.mem_append_right _ List.mem_cons_self
  have failed : x.result.failed = true := Run.failed_of_error (arise x here) told
  have blamed := Run.blamedBy told failed stated r
  have notFine {p : Prop} (all : ∀ y ∈ before ++ [x], y.result.failed = false) : p := by
    rw [all x here] at failed
    contradiction
  refine ⟨by simp, ?_, ?_, fun y found => ?_, fun all => notFine all, fun y member timedOut => ?_⟩
  · rw [Response.get?_type, Response.ofAnswer_kind]
    rfl
  · rw [Response.ofAnswer_succeeds]
    constructor
    · rintro ⟨reply, same⟩
      cases same
    · exact fun ⟨all, _⟩ => notFine all
  · have none : before.find? (·.result.failed) = Option.none :=
      List.find?_eq_none.mpr fun y member => by simp [fine y member]
    rw [List.find?_append, none, Option.none_or, List.find?_singleton, if_pos failed] at found
    cases found
    exact blamed
  · rcases List.mem_append.mp member with earlier | last
    · have bad := (arise y member).failed_of_timedOut timedOut
      rw [show y.attempt.result.failed = false from fine y earlier] at bad
      contradiction
    · cases List.mem_singleton.mp last
      rw [Run.BlamedBy, if_pos timedOut] at blamed
      exact blamed.1

end Made

/-- Whatever executions can come to, the response to a valid request is the verdict on those that were
made for it. -/
theorem Builtin.valid_verdict {σ : Type} {runner : Runner σ} (executes : runner.Executes)
    {defaultBudget : Nat} (stated : defaultBudget ≤ CommandError.greatestBudget) {r : Request}
    (command : r.isCommand = true) (valid : r.Valid) (d : Desk σ) :
    Verdict r (Dispatch.request (registry runner defaultBudget) r d).1
      (runs runner defaultBudget r d) := by
  obtain ⟨plan, known, heeds⟩ := valid_heeds stated valid
  obtain ⟨executions, answered⟩ := request_known runner command known d
  rw [executions, answered]
  have arise := (plan r).runs_arise executes d
  obtain ⟨bounded, ⟨well, calm⟩ | ⟨before, x, e, split, well, told, answered⟩⟩ :=
    heeds.heeded runner d
  · exact .calm (well.failed_eq_false arise) arise calm
  · rw [split] at arise bounded
    rw [split, answered]
    have fine := well.failed_eq_false fun y member => arise y (List.mem_append_left _ member)
    exact .failing fine arise told (bounded x (List.mem_append_right _ List.mem_cons_self))

/-- A backtrace is interrupted after half a minute; what it had printed is told with the timeout. -/
theorem Builtin.valid_verdict_late :
    let r := Request.ofCommand 1 "execute_command" [("command", .text " bt ")]
    let d : Desk (List Ending) :=
      ⟨[.endedLate 30100 (.returned "frame #0\n" (.ok ()))], .start "session" {}⟩
    let response := (Dispatch.request (registry Runner.told 2000) r d).1
    r.Valid ∧ Verdict r response (runs Runner.told 2000 r d) ∧ ¬ response.Succeeds ∧
      response.toMembers.get? "timeout_ms" = some (.int 30000) ∧
      response.toMembers.get? "partial_output" = some (.text "frame #0\n(interrupted)") := by
  intro r d response
  have valid : r.Valid := ⟨⟨"bt", " bt ", rfl, by decide, by decide⟩, .inl (.inl rfl)⟩
  have verdict : Verdict r response (runs Runner.told 2000 r d) :=
    valid_verdict Runner.told_executes (by decide) rfl valid d
  let x : Run := ⟨"bt", 30000, .endedLate 30000 30100 (.returned "frame #0\n" (.ok ()))⟩
  have made : runs Runner.told 2000 r d = [x] := by decide
  have timedOut : x.result.timedOut = true := rfl
  have output : x.result.output = "frame #0\n(interrupted)" := by decide
  have blamed := verdict.failed x (by rw [made]; rfl)
  rw [Run.BlamedBy, if_pos timedOut, output, if_neg (by decide)] at blamed
  obtain ⟨⟨status, _⟩, budget, printed⟩ := blamed
  exact ⟨valid, verdict, by simp [Response.Succeeds, status], budget, printed⟩

end DebugGateway
