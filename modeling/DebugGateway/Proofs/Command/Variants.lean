import DebugGateway.Proofs.Command.Arguments
import DebugGateway.Proofs.Command.Runs
import DebugGateway.Proofs.Json.Members

namespace DebugGateway

open Arguments

def ExecutionResult.Fails (x : ExecutionResult) : Prop :=
  x.timedOut = true ∨ x.sessionUnavailable = true ∨ x.failed = true

theorem ExecutionResult.outcome_fails {x : ExecutionResult} (fails : x.Fails) (command : String)
    (budget : Nat) : ∃ e, x.outcome command budget = .error e := by
  unfold outcome
  by_cases timedOut : x.timedOut = true
  · exact ⟨_, if_pos timedOut⟩
  · rw [if_neg timedOut]
    by_cases lost : x.sessionUnavailable = true
    · exact ⟨_, if_pos lost⟩
    · rw [if_neg lost, if_pos ((fails.resolve_left timedOut).resolve_left lost)]
      exact ⟨_, rfl⟩

theorem ExecutionResult.outcome_fine {x : ExecutionResult} (fine : ¬ x.Fails) (command : String)
    (budget : Nat) : x.outcome command budget = .ok x.output := by
  rw [outcome, if_neg fun timedOut => fine (.inl timedOut), if_neg fun lost => fine (.inr (.inl lost)),
    if_neg fun failed => fine (.inr (.inr failed))]

namespace Plan

/-- Following the plan has just this command run, once and with this budget. -/
def Sends (plan : Plan) (command : String) (budget : Nat) : Prop :=
  ∀ (σ : Type) (runner : Runner σ) (d : Desk σ),
    plan.runs runner d = [⟨command, budget, (runner.attempt command budget d.world).1⟩]

/-- Where the run of a command under a budget comes to a result, following the plan leads to such
an answer. -/
def Answers (plan : Plan) (command : String) (budget : Nat) (result : ExecutionResult)
    (ends : Except CommandError Reply → Prop) : Prop :=
  ∀ (σ : Type) (runner : Runner σ) (d : Desk σ),
    (runner.attempt command budget d.world).1.result = result → ends (plan.follow runner d).1

end Plan

namespace Builtin

open Plan

/-- The request is for this native command and names this budget. -/
structure Asks (r : Request) (command : String) (requested : Nat) : Prop where
  text : HasText r.args "command" command
  budget : r.args.get? "timeout_ms" = some (.int requested)
  positive : 0 < requested

def Describes (r : Request) : Prop :=
  LeftOut r.args "include_metadata" ∨ r.args.get? "include_metadata" = some (.bool true)

/-- The answer shows this text, and tells of a run of the command with this budget. -/
def Shows (text command : String) (budget : Nat) (answer : Except CommandError Reply) : Prop :=
  ∃ (reply : Reply) (metadata : Json.Members), answer = .ok reply ∧ reply.output = some text ∧
    reply.fields.get? "metadata" = some (.object metadata) ∧
    metadata.get? "timeout_ms" = some (.int budget) ∧
    metadata.get? "timeout_category" = some (.text (Cost.ofCommand command).name)

/-- The answer confirms the command, if its silence means success, and is a failure otherwise. -/
structure Confirms (command : String) (budget : Nat) (answer : Except CommandError Reply) : Prop where
  confirmed : ∀ text, confirmation? command = some text → Shows text command budget answer
  refused : confirmation? command = none → answer = .error silent

/-! ## Reading -/

theorem Asks.read {r : Request} {command : String} {requested : Nat} (asks : Asks r command requested)
    (fallback : Nat) : requestedCommand r.args fallback = .ok (command, requested) :=
  requestedCommand_stands asks.text (.inr ⟨asks.budget, asks.positive⟩)

theorem Describes.read {r : Request} (describes : Describes r) :
    flag r.args "include_metadata" true = .ok true := by
  unfold flag
  rcases describes with (absent | null) | given
  · rw [absent]
  · rw [null]
  · rw [given]

/-! ## Running -/

variable {command text : String} {requested budget : Nat} {result : ExecutionResult}
  {next : String → Json.Value → Except CommandError Reply}

theorem runMetadata_states (elapsed budget : Nat) (cost : Cost) (now : Moment) :
    ∃ metadata : Json.Members, runMetadata elapsed budget cost now = .object metadata ∧
      metadata.get? "timeout_ms" = some (.int budget) ∧
      metadata.get? "timeout_category" = some (.text cost.name) := by
  refine ⟨_, rfl, ?_, ?_⟩ <;>
    simp [Json.Members.get?, Json.Members.lookup_put, Json.Members.ofArrivals]

theorem shows_metadata {reply : Reply} {elapsed : Nat} {now : Moment} (output : reply.output = some text)
    (described : reply.fields.get? "metadata" =
      some (runMetadata elapsed budget (Cost.ofCommand command) now)) :
    Shows text command budget (.ok reply) := by
  obtain ⟨metadata, told, states⟩ := runMetadata_states elapsed budget (Cost.ofCommand command) now
  exact ⟨reply, metadata, rfl, output, by rw [described, told], states⟩

theorem run_sends (command : String) (requested : Nat)
    (next : String → Json.Value → Except CommandError Reply) :
    (run command requested fun output metadata => .done (next output metadata)).Sends command
      (grantedBudget command requested) := by
  intro σ runner d
  unfold run
  dsimp only
  rw [Plan.runs]
  generalize runner.attempt command (grantedBudget command requested) d.world = attempted
  cases attempted.1.result.outcome command (grantedBudget command requested) <;> rfl

theorem run_follow {σ : Type} (runner : Runner σ) (d : Desk σ)
    (came : (runner.attempt command (grantedBudget command requested) d.world).1.result = result) :
    ((run command requested fun output metadata => .done (next output metadata)).follow runner d).1 =
      match result.outcome command (grantedBudget command requested) with
      | .ok output =>
        next output (runMetadata result.elapsed (grantedBudget command requested)
          (Cost.ofCommand command)
          (runner.now (d.execute runner command (grantedBudget command requested)).2.world))
      | .error e => .error e := by
  subst came
  unfold run
  dsimp only
  rw [Plan.follow]
  dsimp only [Desk.execute]
  cases (runner.attempt command (grantedBudget command requested) d.world).1.result.outcome command
    (grantedBudget command requested) <;> rfl

theorem run_fails {e : CommandError}
    (told : result.outcome command (grantedBudget command requested) = .error e) :
    (run command requested fun output metadata => .done (next output metadata)).Answers command
      (grantedBudget command requested) result (· = .error e) := by
  intro σ runner d came
  rw [run_follow runner d came, told]

theorem run_answers {ends : Except CommandError Reply → Prop} {output : String}
    (told : result.outcome command (grantedBudget command requested) = .ok output)
    (each : ∀ now, ends (next output (runMetadata result.elapsed (grantedBudget command requested)
      (Cost.ofCommand command) now))) :
    (run command requested fun output metadata => .done (next output metadata)).Answers command
      (grantedBudget command requested) result ends := by
  intro σ runner d came
  rw [run_follow runner d came, told]
  exact each _

/-! ## What each of the three makes of a run -/

/-- A command that succeeded in silence is confirmed, or has failed after all. -/
def spokenReply (command output : String) (metadata : Json.Value) : Except CommandError Reply :=
  (spoken command output).map fun text => (Reply.ofOutput text).withField "metadata" metadata

variable {r : Request}

section Read

theorem executeCommand_of_read (read : requestedCommand r.args executeBudget = .ok (command, requested)) :
    executeCommand r = run command requested fun output metadata =>
      .done (spokenReply command output metadata) := by
  have each (output : String) (metadata : Json.Value) :
      Plan.given (spoken command output) (fun text =>
        .reply ((Reply.ofOutput text).withField "metadata" metadata)) =
      .done (spokenReply command output metadata) := by
    unfold spokenReply
    cases spoken command output <;> rfl
  simp only [executeCommand, read, Plan.given_ok, each]

theorem executeCommandEnhanced_of_read {described : Bool}
    (read : requestedCommand r.args executeBudget = .ok (command, requested))
    (wanted : flag r.args "include_metadata" true = .ok described) :
    executeCommandEnhanced r = run command requested fun output metadata =>
      .done (.ok (if described then (Reply.ofOutput output).withField "metadata" metadata
        else .ofOutput output)) := by
  simp only [executeCommandEnhanced, read, wanted, Plan.given_ok]
  rfl

variable (read : requestedCommand r.args longBudget = .ok (command, requested))
include read

theorem executeCommandStreaming_of_read :
    executeCommandStreaming r = run command requested fun output metadata =>
      .done (.ok (((Reply.ofOutput output).withField "metadata" metadata).withField "streaming"
        (streamingHint output.utf8ByteSize))) := by
  simp only [executeCommandStreaming, read, Plan.given_ok]
  rfl

theorem forEachModule_of_read :
    forEachModule r = run ("!for_each_module " ++ command) requested fun output metadata =>
      .done (.ok (((Reply.ofOutput output).withField "metadata" metadata).withField "native_command"
        (.text ("!for_each_module " ++ command)))) := by
  simp only [forEachModule, read, Plan.given_ok]
  rfl

end Read

theorem executeCommand_run (asks : Asks r command requested) :
    executeCommand r = run command requested fun output metadata =>
      .done (spokenReply command output metadata) :=
  executeCommand_of_read (asks.read executeBudget)

theorem executeCommandEnhanced_run (asks : Asks r command requested) (describes : Describes r) :
    executeCommandEnhanced r = run command requested fun output metadata =>
      .done (.ok ((Reply.ofOutput output).withField "metadata" metadata)) :=
  executeCommandEnhanced_of_read (asks.read executeBudget) describes.read

theorem executeCommandStreaming_run (asks : Asks r command requested) :
    executeCommandStreaming r = run command requested fun output metadata =>
      .done (.ok (((Reply.ofOutput output).withField "metadata" metadata).withField "streaming"
        (streamingHint output.utf8ByteSize))) :=
  executeCommandStreaming_of_read (asks.read longBudget)

theorem withField_shows (text : String) (elapsed : Nat) (now : Moment) :
    Shows text command budget (.ok ((Reply.ofOutput text).withField "metadata"
      (runMetadata elapsed budget (Cost.ofCommand command) now))) :=
  shows_metadata rfl rfl

theorem streaming_shows (text : String) (elapsed : Nat) (now : Moment) :
    Shows text command budget (.ok (((Reply.ofOutput text).withField "metadata"
      (runMetadata elapsed budget (Cost.ofCommand command) now)).withField "streaming"
        (streamingHint text.utf8ByteSize))) :=
  shows_metadata rfl rfl

/-! ## Silence -/

def confirmations : List String :=
  ["Breakpoint set successfully.", "Execution continued.", "Command completed successfully.",
    "Breakpoint cleared successfully.", "Breakpoint disabled successfully.",
    "Breakpoint enabled successfully.", "Memory edit command completed successfully."]

theorem mem_confirmations (confirmed : confirmation? command = some text) : text ∈ confirmations := by
  unfold confirmation? at confirmed
  dsimp only at confirmed
  split at confirmed
  · cases confirmed
  · repeat' split at confirmed
    all_goals
      cases confirmed
      try decide

theorem spoken_speaks {output : String} (told : spoken command output = .ok text) :
    isEffectivelyEmpty text = false := by
  unfold spoken at told
  split at told
  · split at told
    · cases told
      rename_i confirmed
      have loud : ∀ confirmation ∈ confirmations, isEffectivelyEmpty confirmation = false := by decide
      exact loud text (mem_confirmations confirmed)
    · cases told
  · cases told
    rename_i loud
    exact Bool.not_eq_true _ ▸ loud

theorem spokenReply_loud {output : String} (loud : isEffectivelyEmpty output = false)
    (metadata : Json.Value) : spokenReply command output metadata =
      .ok ((Reply.ofOutput output).withField "metadata" metadata) := by
  rw [spokenReply, spoken, loud]
  rfl

theorem spokenReply_mute {output : String} (mute : isEffectivelyEmpty output = true) (elapsed : Nat)
    (now : Moment) : Confirms command budget
      (spokenReply command output (runMetadata elapsed budget (Cost.ofCommand command) now)) := by
  rw [spokenReply, spoken, mute, if_pos rfl]
  constructor
  · intro text confirmed
    rw [confirmed]
    exact withField_shows text elapsed now
  · intro unconfirmed
    rw [unconfirmed]
    rfl

def Audible (answer : Except CommandError Reply) : Prop :=
  ∀ reply, answer = .ok reply → ∃ text, reply.output = some text ∧ isEffectivelyEmpty text = false

theorem audible_error (e : CommandError) : Audible (.error e) := nofun

theorem executeCommand_audible (r : Request) :
    Plan.Within (fun _ _ => True) Audible (executeCommand r) := by
  refine .given (fun e _ => audible_error e) fun asked _ => .execute trivial fun x =>
    .given (fun e _ => audible_error e) fun output _ => .look fun sight =>
    .given (fun e _ => audible_error e) fun text told => .done ?_
  rintro reply ⟨⟩
  exact ⟨text, rfl, spoken_speaks told⟩

/-! ## The three together -/

/-- Three requests for one native command with one budget have it run in the same way. They fail alike
where the run failed, and show what it printed where that says something; of a silence the first makes a
confirmation or a failure, and the others show it as it is. -/
theorem variants_agree {command : String} {requested : Nat} {plain enhanced streaming : Request}
    (asks : ∀ r ∈ [plain, enhanced, streaming], Asks r command requested) (describes : Describes enhanced)
    (result : ExecutionResult) :
    let budget := grantedBudget command requested
    let first := executeCommand plain
    let others := [executeCommandEnhanced enhanced, executeCommandStreaming streaming]
    (∀ plan ∈ first :: others, plan.Sends command budget) ∧
    (result.Fails → ∃ e, ∀ plan ∈ first :: others, plan.Answers command budget result (· = .error e)) ∧
    (¬ result.Fails → isEffectivelyEmpty result.output = false → ∀ plan ∈ first :: others,
      plan.Answers command budget result (Shows result.output command budget)) ∧
    (¬ result.Fails → isEffectivelyEmpty result.output = true →
      (∀ plan ∈ others, plan.Answers command budget result (Shows result.output command budget)) ∧
      first.Answers command budget result (Confirms command budget)) ∧
    ∀ (σ : Type) (runner : Runner σ) (d : Desk σ), Audible (first.follow runner d).1 := by
  intro budget first others
  -- each is one run of the command, and differs only in what it makes of the output
  have plainRun : first = _ := executeCommand_run (asks plain (by simp))
  have enhancedRun := executeCommandEnhanced_run (asks enhanced (by simp)) describes
  have streamingRun := executeCommandStreaming_run (asks streaming (by simp))
  simp only [others, List.forall_mem_cons, List.not_mem_nil, false_implies, implies_true, and_true,
    enhancedRun, streamingRun]
  refine ⟨⟨?_, run_sends command requested _, run_sends command requested _⟩, fun fails => ?_,
    fun fine loud => ?_, fun fine mute => ?_,
    fun σ runner d => (executeCommand_audible plain).follow runner d⟩
  · rw [plainRun]
    exact run_sends command requested _
  · obtain ⟨e, told⟩ := ExecutionResult.outcome_fails fails command budget
    refine ⟨e, ?_, run_fails told, run_fails told⟩
    rw [plainRun]
    exact run_fails told
  · have told := ExecutionResult.outcome_fine fine command budget
    refine ⟨?_, run_answers told (withField_shows _ _), run_answers told (streaming_shows _ _)⟩
    rw [plainRun]
    refine run_answers told fun now => ?_
    rw [spokenReply_loud loud]
    exact withField_shows result.output result.elapsed now
  · have told := ExecutionResult.outcome_fine fine command budget
    refine ⟨⟨run_answers told (withField_shows _ _), run_answers told (streaming_shows _ _)⟩, ?_⟩
    rw [plainRun]
    exact run_answers told (spokenReply_mute mute result.elapsed)

theorem variants_agree_bt :
    let r := Request.ofCommand 1 "execute_command" [("command", .text " bt "), ("timeout_ms", .int 20000)]
    let runner : Runner Unit :=
      { attempt := fun _ _ world => ({ result := { output := "frame #0\n" } }, world), now := fun _ => {} }
    ∀ plan ∈ [executeCommand r, executeCommandEnhanced r, executeCommandStreaming r],
      Shows "frame #0\n" "bt" 20000 (plan.follow runner ⟨(), .start "session" {}⟩).1 := by
  intro r runner plan member
  have asks : Asks r "bt" 20000 := ⟨⟨" bt ", rfl, by decide, by decide⟩, rfl, by decide⟩
  have agree := @variants_agree "bt" 20000 r r r (by simpa using asks) (.inl (.inl rfl))
    { output := "frame #0\n" }
  have granted : grantedBudget "bt" 20000 = 20000 := by decide
  rw [granted] at agree
  obtain ⟨-, -, loud, -⟩ := agree
  exact loud (by simp [ExecutionResult.Fails]) (by decide) plan member Unit runner _ rfl

end Builtin

end DebugGateway
