import DebugGateway.Proofs.Command.Arguments
import DebugGateway.Proofs.Command.Runs

/-! What the session counts. Its counters are counts over the executions that were made, from the start
of the session on and whatever the engine did; how many a request leads to is fixed by its command, by
whether its arguments are taken, and for one command by how its first execution ends. -/
namespace DebugGateway

namespace Run

def timedOut (x : Run) : Bool := x.result.timedOut

def failedInTime (x : Run) : Bool := x.result.failed && !x.result.timedOut

def abandoned (x : Run) : Bool := x.attempt.detached

end Run

structure Tally (made : List Run) (s : Session) : Prop where
  commands : s.commands = made.length
  timeouts : s.timeouts = made.countP Run.timedOut
  failures : s.failures = made.countP Run.failedInTime
  detached : s.detached = made.countP Run.abandoned
  lastExecution : s.lastExecution = made.getLast?.map (·.result.elapsed)

namespace Tally

variable {σ : Type} {made : List Run}

theorem start (id : String) (now : Moment) : Tally [] (.start id now) := ⟨rfl, rfl, rfl, rfl, rfl⟩

theorem count {d : Desk σ} (tally : Tally made d.session) (runner : Runner σ) (x : Run) :
    Tally (made ++ [x]) (d.count runner x.attempt).session := by
  obtain ⟨commands, timeouts, failures, detached, -⟩ := tally
  have apart (p : Run → Bool) : (made ++ [x]).countP p = made.countP p + if p x then 1 else 0 := by
    rw [List.countP_append, List.countP_singleton]
  have session : (d.count runner x.attempt).session =
      (if x.attempt.detached then d.session.recordDetached else d.session).record x.attempt.result
        (runner.now d.world) := rfl
  rw [session]
  refine ⟨?_, ?_, ?_, ?_, ?_⟩
  · rw [List.length_append, ← commands]
    cases x.attempt.detached <;> rfl
  · rw [apart, ← timeouts]
    cases left : x.attempt.detached <;> cases out : x.attempt.result.timedOut <;>
      simp [Session.record, Session.recordDetached, Run.timedOut, Run.result, out]
  · rw [apart, ← failures]
    cases left : x.attempt.detached <;> cases out : x.attempt.result.timedOut <;>
      cases bad : x.attempt.result.failed <;>
      simp [Session.record, Session.recordDetached, Run.failedInTime, Run.result, out, bad]
  · rw [apart, ← detached]
    cases left : x.attempt.detached <;>
      simp [Session.record, Session.recordDetached, Run.abandoned, left]
  · rw [List.getLast?_concat]
    rfl

theorem follow (runner : Runner σ) (plan : Plan) {d : Desk σ} (tally : Tally made d.session) :
    Tally (made ++ plan.runs runner d) (plan.follow runner d).2.session := by
  induction plan generalizing made d with
  | done answer =>
    rw [Plan.runs, List.append_nil]
    exact tally
  | look next ih => exact ih _ tally
  | execute command budget next ih =>
    rw [Plan.runs, List.append_cons]
    exact ih _ (tally.count (d := { d with world := (runner.attempt command budget d.world).2 }) runner
      ⟨command, budget, (runner.attempt command budget d.world).1⟩)

theorem bounds {s : Session} (tally : Tally made s)
    (arise : ∀ x ∈ made, x.attempt.Arises x.budget) :
    s.timeouts + s.failures ≤ s.commands ∧ s.detached ≤ s.timeouts := by
  rw [tally.commands, tally.timeouts, tally.failures, tally.detached]
  constructor
  · -- an execution that failed in time is none of those that timed out
    have apart : made.countP Run.failedInTime ≤ made.countP fun x => ¬ x.timedOut := by
      refine List.countP_mono_left fun x _ failed => ?_
      simp only [Run.failedInTime, Bool.and_eq_true, Bool.not_eq_true'] at failed
      simp [Run.timedOut, failed.2]
    have all := List.length_eq_countP_add_countP Run.timedOut (l := made)
    omega
  · exact List.countP_mono_left fun x member left => (arise x member).timedOut_of_detached left

end Tally

/-! ## How many executions a request leads to -/

def Rejected (answer : Except CommandError Reply) : Prop :=
  ∃ m, answer = .error (.invalidArguments m)

def Taken (answer : Except CommandError Reply) : Prop := ¬ Rejected answer

/-- Following the plan leads to no execution where the arguments are refused, else to such. -/
structure Plan.Makes (due : List Run → Prop) (plan : Plan) : Prop where
  refused : ∀ {σ : Type} (runner : Runner σ) (d : Desk σ), Rejected (plan.follow runner d).1 →
    plan.runs runner d = []
  taken : ∀ {σ : Type} (runner : Runner σ) (d : Desk σ), runner.Executes →
    Taken (plan.follow runner d).1 → due (plan.runs runner d)

namespace Plan

variable {due : List Run → Prop} {allowed : String → Nat → Prop} {plan : Plan}

theorem Makes.imp {due' : List Run → Prop} (makes : Makes due plan)
    (weaker : ∀ made, due made → due' made) : Makes due' plan where
  refused := makes.refused
  taken runner d executes answered := weaker _ (makes.taken runner d executes answered)

theorem Makes.still (within : Within nothing Taken plan) (none : due []) : Makes due plan where
  refused runner d rejected := absurd rejected (within.follow runner d)
  taken runner d _ _ := by
    rw [within.runs_eq_nil]
    exact none

theorem Makes.given {α : Type} {x : Except CommandError α} {next : α → Plan}
    (refuses : Arguments.Refuses x) (taken : ∀ a, Makes due (next a)) : Makes due (given x next) := by
  cases x with
  | error e =>
    obtain ⟨m, rfl⟩ := refuses e rfl
    exact ⟨fun _ _ _ => rfl, fun _ _ _ told => absurd ⟨m, rfl⟩ told⟩
  | ok a => exact taken a

theorem Makes.look {next : Sight → Plan} (each : ∀ sight, Makes due (next sight)) :
    Makes due (look next) where
  refused runner d := (each ⟨d.session, runner.now d.world⟩).refused runner d
  taken runner d := (each ⟨d.session, runner.now d.world⟩).taken runner d

/-- Once there has been an execution the arguments are not refused any more. -/
theorem Makes.execute {command : String} {budget : Nat} {next : ExecutionResult → Plan}
    (frank : ∀ r, Within allowed Taken (next r))
    (each : ∀ a : Attempt, a.Arises budget →
      Makes (fun rest => due (⟨command, budget, a⟩ :: rest)) (next a.result)) :
    Makes due (execute command budget next) where
  refused runner d rejected :=
    absurd rejected ((frank (runner.attempt command budget d.world).1.result).follow runner
      (d.execute runner command budget).2)
  taken runner d executes answered :=
    (each (runner.attempt command budget d.world).1 (executes command budget d.world)).taken runner
      (d.execute runner command budget).2 executes answered

theorem Within.reply {r : Reply} : Within allowed Taken (reply r) := by
  refine .done ?_
  rintro ⟨m, same⟩
  cases same

theorem Within.outcome {r : ExecutionResult} {command : String} {budget : Nat} {next : String → Plan}
    (each : ∀ output, Within allowed Taken (next output)) :
    Within allowed Taken (Plan.given (r.outcome command budget) next) := by
  refine .given (fun e failed => ?_) fun output _ => each output
  rintro ⟨m, same⟩
  cases same
  exact r.outcome_frank command budget m failed

def Once (made : List Run) : Prop := made.length = 1

theorem makes_once {command : String} {budget : Nat} {next : ExecutionResult → Plan}
    (still : ∀ r, Within nothing Taken (next r)) : Makes Once (.execute command budget next) :=
  .execute still fun a _ => .still (still a.result) rfl

theorem output_makes_once {command : String} {budget : Nat} {next : String → Plan}
    (still : ∀ output, Within nothing Taken (next output)) :
    Makes Once (output command budget next) :=
  makes_once fun _ => .outcome still

theorem run_makes_once {command : String} {requested : Nat} {next : String → Json.Value → Plan}
    (still : ∀ output metadata, Within nothing Taken (next output metadata)) :
    Makes Once (Builtin.run command requested next) :=
  makes_once fun _ => .outcome fun _ => .look fun _ => still _ _

def OnceOrTwice (made : List Run) : Prop :=
  (∃ first, first.result.failed = true ∧ made = [first]) ∨
    ∃ first second, first.result.failed = false ∧ made = [first, second]

theorem output_makes_twice {command other : String} {budget limit : Nat}
    {next : String → String → Plan} (still : ∀ o o', Within nothing Taken (next o o')) :
    Makes OnceOrTwice (output command budget fun o => output other limit (next o)) := by
  have frank (o : String) : Within (fun _ _ => True) Taken (output other limit (next o)) :=
    .execute trivial fun _ => .outcome fun o' =>
      (still o o').imp (fun _ _ => False.elim) fun _ taken => taken
  refine .execute (fun _ => .outcome frank) fun a arises => ?_
  -- what the first execution comes to decides whether there is a second one
  cases came : a.result.outcome command budget with
  | error e =>
    have failed : a.result.failed = true :=
      Run.failed_of_error (x := ⟨command, budget, a⟩) arises came
    refine .still (.done ?_) (.inl ⟨⟨command, budget, a⟩, failed, rfl⟩)
    rintro ⟨m, same⟩
    cases same
    exact a.result.outcome_frank command budget m came
  | ok o =>
    have well : a.result.failed = false :=
      (Run.outcome_ok_iff (x := ⟨command, budget, a⟩) arises).mp ⟨o, came⟩
    exact .execute (fun _ => .outcome (still o)) fun b _ =>
      .still (.outcome (still o)) (.inr ⟨⟨command, budget, a⟩, ⟨other, limit, b⟩, well, rfl⟩)

end Plan

namespace Builtin

open Plan Arguments

variable (defaultBudget : Nat) (r : Request)

theorem listModules_makes : Makes Once (listModules defaultBudget r) :=
  .given positive_refuses fun _ => output_makes_once fun _ => .reply

theorem displayType_makes : Makes Once (displayType defaultBudget r) :=
  .given text_refuses fun _ => .given text?_refuses fun _ => .given positive_refuses fun _ =>
    output_makes_once fun _ => .reply

theorem displayMemory_makes : Makes Once (displayMemory defaultBudget r) :=
  .given positive_refuses fun _ => .given text_refuses fun _ => .given positive_refuses fun _ =>
    output_makes_once fun _ => .reply

theorem getMetadata_makes : Makes OnceOrTwice (getMetadata r) :=
  .given positive_refuses fun _ => output_makes_twice fun _ _ => .reply

theorem spoken_taken {allowed : String → Nat → Prop} {command output : String} {next : String → Plan}
    (each : ∀ text, Within allowed Taken (next text)) :
    Within allowed Taken (.given (spoken command output) next) := by
  refine .given (fun e failed => ?_) fun text _ => each text
  rintro ⟨m, same⟩
  cases same
  unfold spoken at failed
  split at failed
  · split at failed <;> cases failed
  · cases failed

theorem executeCommand_makes : Makes Once (executeCommand r) :=
  .given requestedCommand_refuses fun _ => run_makes_once fun _ _ => spoken_taken fun _ => .reply

theorem executeCommandEnhanced_makes : Makes Once (executeCommandEnhanced r) :=
  .given requestedCommand_refuses fun _ => .given flag_refuses fun _ =>
    run_makes_once fun _ _ => .reply

theorem executeCommandStreaming_makes : Makes Once (executeCommandStreaming r) :=
  .given requestedCommand_refuses fun _ => run_makes_once fun _ _ => .reply

theorem forEachModule_makes : Makes Once (forEachModule r) :=
  .given requestedCommand_refuses fun _ => run_makes_once fun _ _ => .reply

theorem healthCheck_makes : Makes Once (healthCheck r) :=
  .look fun _ => makes_once fun _ => .look fun _ => .reply

theorem performanceMetrics_makes : Makes Once (performanceMetrics r) :=
  .look fun _ => makes_once fun _ => .look fun _ => .reply

def idleCommands : List String := ["check_connection", "version"]

def singleCommands : List String :=
  ["lm", "dt", "dd", "execute_command", "execute_command_enhanced", "execute_command_streaming",
    "for_each_module", "health_check", "performance_metrics"]

/-- How many executions a command leads to whose arguments are taken. -/
structure Due (command : String) (made : List Run) : Prop where
  idle : command ∈ idleCommands → made = []
  single : command ∈ singleCommands → made.length = 1
  metadata : command = "get_metadata" → OnceOrTwice made

theorem due_idle {command : String} (idle : command ∈ idleCommands) : Due command [] := by
  have apart : ∀ c ∈ idleCommands, c ∉ singleCommands ∧ c ≠ "get_metadata" := by decide
  obtain ⟨notSingle, notMetadata⟩ := apart command idle
  exact ⟨fun _ => rfl, fun single => absurd single notSingle, fun same => absurd same notMetadata⟩

theorem due_single {command : String} (single : command ∈ singleCommands) (made : List Run)
    (once : Once made) : Due command made := by
  have apart : ∀ c ∈ singleCommands, c ∉ idleCommands ∧ c ≠ "get_metadata" := by decide
  obtain ⟨notIdle, notMetadata⟩ := apart command single
  exact ⟨fun idle => absurd idle notIdle, fun _ => once, fun same => absurd same notMetadata⟩

theorem due_metadata (made : List Run) (twice : OnceOrTwice made) : Due "get_metadata" made :=
  ⟨fun idle => absurd idle (by decide), fun single => absurd single (by decide), fun _ => twice⟩

theorem plans_due {name : String} {plan : Request → Plan} (member : (name, plan) ∈ plans defaultBudget) :
    Makes (Due name) (plan r) := by
  cases member using plans_cases with
  | check_connection => exact .still .reply (due_idle (by decide))
  | version => exact .still .reply (due_idle (by decide))
  | lm => exact (listModules_makes defaultBudget r).imp (due_single (by decide))
  | dt => exact (displayType_makes defaultBudget r).imp (due_single (by decide))
  | dd => exact (displayMemory_makes defaultBudget r).imp (due_single (by decide))
  | get_metadata => exact (getMetadata_makes r).imp due_metadata
  | execute_command => exact (executeCommand_makes r).imp (due_single (by decide))
  | execute_command_enhanced => exact (executeCommandEnhanced_makes r).imp (due_single (by decide))
  | execute_command_streaming =>
    exact (executeCommandStreaming_makes r).imp (due_single (by decide))
  | for_each_module => exact (forEachModule_makes r).imp (due_single (by decide))
  | health_check => exact (healthCheck_makes r).imp (due_single (by decide))
  | performance_metrics => exact (performanceMetrics_makes r).imp (due_single (by decide))

/-! ## What is reported of the counters -/

structure States (metrics : Json.Members) (made : List Run) : Prop where
  commands : metrics.get? "commands" = some (.int made.length)
  failures : metrics.get? "failures" = some (.int (made.countP Run.failedInTime))
  timeouts : metrics.get? "timeouts" = some (.int (made.countP Run.timedOut))
  detached : metrics.get? "detached_calls" = some (.int (made.countP Run.abandoned))
  lastExecution : metrics.get? "last_execution_time_ms" =
    some ((made.getLast?.map fun x => Json.Value.int x.result.elapsed).getD .null)

def Reports (response : Response) (made : List Run) : Prop :=
  response.Succeeds ∧ ∃ metrics,
    response.toMembers.get? "performance_metrics" = some (.object metrics) ∧ States metrics made

variable {σ : Type} (runner : Runner σ)

theorem performanceMetrics_states {made : List Run} {d : Desk σ} (tally : Tally made d.session) :
    ∃ reply metrics, ((performanceMetrics r).follow runner d).1 = .ok reply ∧
      reply.fields = [("performance_metrics", .object metrics)] ∧ States metrics made := by
  obtain ⟨commands, timeouts, failures, detached, lastExecution⟩ := tally
  unfold performanceMetrics
  simp only [Plan.follow]
  cases failed : (d.execute runner testCommand metricsBudget).1.failed with
  | true | false =>
    refine ⟨_, _, rfl, rfl, ?_⟩
    constructor <;>
      simp [Json.Members.get?, Json.Members.lookup_put, Json.Members.ofArrivals, commands, timeouts,
        failures, detached, lastExecution]
    cases made.getLast? <;> rfl

/-! ## Histories -/

/-- Requests answered one after another from the start of a session on, with the executions that they
have led to. Between two of them the world may go on by itself. -/
inductive History (runner : Runner σ) (defaultBudget : Nat) : List Run → Desk σ → Prop where
  | start (id : String) (now : Moment) (world : σ) :
    History runner defaultBudget [] ⟨world, .start id now⟩
  | answer {made : List Run} {d : Desk σ} (r : Request) : History runner defaultBudget made d →
    History runner defaultBudget (made ++ runs runner defaultBudget r d)
      (Dispatch.request (registry runner defaultBudget) r d).2
  | pass {made : List Run} {d : Desk σ} (world : σ) : History runner defaultBudget made d →
    History runner defaultBudget made { d with world }

variable {runner : Runner σ} {defaultBudget : Nat} {made : List Run} {d : Desk σ}

theorem tally_request (tally : Tally made d.session) (r : Request) :
    Tally (made ++ runs runner defaultBudget r d)
      (Dispatch.request (registry runner defaultBudget) r d).2.session := by
  rcases request_cases runner defaultBudget r d with
    ⟨plan, _, _, executions, answered⟩ | ⟨_, nothing, same⟩
  · rw [executions, answered]
    exact tally.follow runner (plan r)
  · rw [nothing, same, List.append_nil]
    exact tally

theorem History.tally (history : History runner defaultBudget made d) : Tally made d.session := by
  induction history with
  | start id now world => exact .start id now
  | answer r _ ih => exact tally_request ih r
  | pass world _ ih => exact ih

theorem arise_request (executes : runner.Executes) (r : Request) :
    ∀ x ∈ runs runner defaultBudget r d, x.attempt.Arises x.budget := by
  rcases request_cases runner defaultBudget r d with
    ⟨plan, _, _, executions, _⟩ | ⟨_, nothing, _⟩
  · rw [executions]
    exact (plan r).runs_arise executes d
  · rw [nothing]
    exact fun x member => absurd member List.not_mem_nil

theorem History.arise (executes : runner.Executes) (history : History runner defaultBudget made d) :
    ∀ x ∈ made, x.attempt.Arises x.budget := by
  induction history with
  | start id now world => exact fun x member => absurd member List.not_mem_nil
  | answer r _ ih =>
    intro x member
    rcases List.mem_append.mp member with earlier | here
    · exact ih x earlier
    · exact arise_request executes r x here
  | pass world _ ih => exact ih

theorem ofAnswer_rejected (r : Request) (answer : Except CommandError Reply) :
    (Response.ofAnswer r answer).FailsWith .invalidArguments ↔ Rejected answer := by
  unfold Response.FailsWith Rejected
  cases answer with
  | ok reply => simp [Response.ofAnswer, Response.success]
  | error e => cases e <;> simp [Response.ofAnswer, Response.failure, CommandError.toFailure_eq,
      CommandError.code]

theorem plans_names {name : String} {plan : Request → Plan} (member : (name, plan) ∈ plans defaultBudget) :
    name ∈ names := by
  have first : name ∈ (plans defaultBudget).map (·.1) := List.mem_map_of_mem member
  exact first

theorem plans_performanceMetrics {plan : Request → Plan}
    (member : ("performance_metrics", plan) ∈ plans defaultBudget) : plan = performanceMetrics := by
  simpa [plans] using member

/-- What a request adds to the executions `made` before it, and what its response says of those. -/
structure Adds (r : Request) (response : Response) (made added : List Run) : Prop where
  unserved : ¬ (r.isCommand = true ∧ r.command ∈ names) → added = []
  refused : response.FailsWith .invalidArguments → added = []
  due : r.isCommand = true → ¬ response.FailsWith .invalidArguments → Due r.command added
  metrics : r.isCommand = true → r.command = "performance_metrics" → Reports response made

theorem request_adds (executes : runner.Executes) (tally : Tally made d.session) (r : Request) :
    Adds r (Dispatch.request (registry runner defaultBudget) r d).1 made
      (runs runner defaultBudget r d) := by
  rcases request_cases runner defaultBudget r d with
    ⟨plan, command, member, executions, answered⟩ | ⟨unserved, nothing, _⟩
  · rw [executions, answered]
    have makes := plans_due defaultBudget r member
    refine ⟨fun unserved => ?_, fun refused => ?_, fun _ taken => ?_, fun _ metrics => ?_⟩
    · exact absurd ⟨command, plans_names member⟩ unserved
    · exact makes.refused runner d ((ofAnswer_rejected r _).mp refused)
    · exact makes.taken runner d executes (mt (ofAnswer_rejected r _).mpr taken)
    · obtain rfl := plans_performanceMetrics (metrics ▸ member)
      obtain ⟨reply, stated, told, fields, states⟩ := performanceMetrics_states r runner tally
      rw [told]
      refine ⟨rfl, stated, ?_, states⟩
      rw [Response.get?_toMembers _ (by decide)]
      show reply.fields.get? "performance_metrics" = _
      rw [fields]
      rfl
  · rw [nothing]
    refine ⟨fun _ => rfl, fun _ => rfl, fun command _ => ?_, fun command metrics => ?_⟩
    · refine ⟨fun _ => rfl, fun single => ?_, fun metadata => ?_⟩
      · have named : ∀ c ∈ singleCommands, c ∈ names := by decide
        exact absurd ⟨command, named _ single⟩ unserved
      · exact absurd ⟨command, by rw [metadata]; decide⟩ unserved
    · exact absurd ⟨command, by rw [metrics]; decide⟩ unserved

/-- The counters of a session are those of the executions made since its start, and these are what
executions come to: the timed out are those that outlived their budget, before the gate or later, the
detached are those that were left behind. What a request adds to them is fixed by its command, and the
metrics it may report are those from before it. -/
theorem History.counted (executes : runner.Executes)
    (history : History runner defaultBudget made d) :
    Tally made d.session ∧
      d.session.timeouts + d.session.failures ≤ d.session.commands ∧
      d.session.detached ≤ d.session.timeouts ∧
      (∀ x ∈ made, ∃ ending : Ending, x.attempt = ending.attempt x.budget ∧
        x.timedOut = ending.overran ∧ x.abandoned = ending.isAbandoned) ∧
      ∀ r : Request, Adds r (Dispatch.request (registry runner defaultBudget) r d).1 made
        (runs runner defaultBudget r d) := by
  have tally := history.tally
  have arise := history.arise executes
  obtain ⟨counted, left⟩ := tally.bounds arise
  refine ⟨tally, counted, left, fun x member => ?_, request_adds executes tally⟩
  obtain ⟨ending, same⟩ := Attempt.arises_iff.mp (arise x member)
  refine ⟨ending, same, ?_, ?_⟩
  · rw [Run.timedOut, Run.result, same, ending.timedOut_eq]
  · rw [Run.abandoned, same, ending.detached_eq]

/-- The first execution shows the target, the second is left behind, the third waits for the gate in
vain: two have timed out, one of them is detached, and the metrics say so. -/
theorem History.counted_told : ∃ (made : List Run) (d : Desk (List Ending)),
    History Runner.told 20 made d ∧ made.length = 3 ∧ d.session.commands = 3 ∧
      d.session.timeouts = 2 ∧ d.session.failures = 0 ∧ d.session.detached = 1 ∧
      Reports (Dispatch.request (registry Runner.told 20) (.ofCommand 3 "performance_metrics" []) d).1
        made := by
  have history : History Runner.told 20 _ _ := ((History.start "session" {}
    [.ended 4 (.returned "target" (.ok ())), .abandoned 15500, .refused 20]).answer
      (.ofCommand 1 "get_metadata" [])).answer (.ofCommand 2 "lm" [])
  obtain ⟨tally, -, -, -, adds⟩ := history.counted Runner.told_executes
  exact ⟨_, _, history, by decide, tally.commands.trans (by decide), tally.timeouts.trans (by decide),
    tally.failures.trans (by decide), tally.detached.trans (by decide), (adds _).metrics rfl rfl⟩

end Builtin

end DebugGateway
