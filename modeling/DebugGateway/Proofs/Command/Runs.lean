import DebugGateway.Daemon
import DebugGateway.Proofs.Basics
import DebugGateway.Proofs.Command.Answering
import DebugGateway.Proofs.Execution.Ending
import DebugGateway.Proofs.Message.Envelope

namespace DebugGateway

structure Run where
  command : String
  budget : Nat
  attempt : Attempt
deriving DecidableEq, Repr

namespace Run

def result (x : Run) : ExecutionResult := x.attempt.result

def outcome (x : Run) : Except CommandError String := x.result.outcome x.command x.budget

/-- A client is told of a failure just where there was one: nothing else is told of one that ran out
of time or found no session. -/
theorem outcome_ok_iff {x : Run} (arises : x.attempt.Arises x.budget) :
    (∃ output, x.outcome = .ok output) ↔ x.result.failed = false := by
  unfold outcome ExecutionResult.outcome
  split
  · rename_i timedOut
    simp [show x.result.failed = true from arises.failed_of_timedOut timedOut]
  · split
    · rename_i lost
      simp [show x.result.failed = true from arises.failed_of_unavailable lost]
    · split
      · rename_i failed
        simp [failed]
      · rename_i well
        simp [well]

theorem failed_of_error {x : Run} {e : CommandError} (arises : x.attempt.Arises x.budget)
    (told : x.outcome = .error e) : x.result.failed = true := by
  cases failed : x.result.failed with
  | true => rfl
  | false =>
    obtain ⟨output, well⟩ := (outcome_ok_iff arises).mpr failed
    cases told.symm.trans well

end Run

def Runner.recording {σ : Type} (runner : Runner σ) : Runner (σ × List Run) where
  attempt command budget world :=
    let (a, next) := runner.attempt command budget world.1
    (a, next, world.2 ++ [⟨command, budget, a⟩])
  now world := runner.now world.1

namespace Plan

variable {σ : Type}

@[simp]
theorem given_ok {α : Type} (a : α) (next : α → Plan) : given (.ok a) next = next a := rfl

def runs (runner : Runner σ) : Plan → Desk σ → List Run
  | done _, _ => []
  | look next, d => runs runner (next ⟨d.session, runner.now d.world⟩) d
  | execute command budget next, d =>
    let a := (runner.attempt command budget d.world).1
    ⟨command, budget, a⟩ :: runs runner (next a.result) (d.execute runner command budget).2

/-- They are what is written down where that is done, and to write them down changes nothing else. -/
theorem follow_recording (runner : Runner σ) (plan : Plan) (world : σ) (session : Session)
    (record : List Run) :
    let followed := plan.follow runner ⟨world, session⟩
    plan.follow runner.recording ⟨(world, record), session⟩ =
      (followed.1, ⟨(followed.2.world, record ++ plan.runs runner ⟨world, session⟩),
        followed.2.session⟩) := by
  induction plan generalizing world session record with
  | done answer => simp [follow, runs]
  | look next ih => exact ih _ world session record
  | execute command budget next ih =>
    have later := ih (runner.attempt command budget world).1.result
      (runner.attempt command budget world).2
      (Desk.execute runner command budget ⟨world, session⟩).2.session
      (record ++ [⟨command, budget, (runner.attempt command budget world).1⟩])
    rw [List.append_assoc, List.singleton_append] at later
    exact later

theorem runs_each {runner : Runner σ} {holds : Run → Prop}
    (each : ∀ command budget world, holds ⟨command, budget, (runner.attempt command budget world).1⟩)
    (plan : Plan) (d : Desk σ) : ∀ x ∈ plan.runs runner d, holds x := by
  induction plan generalizing d with
  | done answer => exact fun x member => absurd member List.not_mem_nil
  | look next ih => exact ih _ d
  | execute command budget next ih =>
    intro x member
    rcases List.mem_cons.mp member with rfl | later
    · exact each command budget d.world
    · exact ih _ _ x later

theorem runs_arise {runner : Runner σ} (executes : runner.Executes) (plan : Plan) (d : Desk σ) :
    ∀ x ∈ plan.runs runner d, x.attempt.Arises x.budget :=
  @runs_each σ runner (fun x => x.attempt.Arises x.budget) executes plan d

/-! ## What a plan keeps to -/

/-- Whatever the plan sees and whatever is reported to it, it has no other commands run under no other
budgets, and comes to no other answers. -/
inductive Within (runs : String → Nat → Prop) (ends : Except CommandError Reply → Prop) :
    Plan → Prop where
  | done {answer : Except CommandError Reply} : ends answer → Within runs ends (done answer)
  | look {next : Sight → Plan} : (∀ sight, Within runs ends (next sight)) →
    Within runs ends (look next)
  | execute {command : String} {budget : Nat} {next : ExecutionResult → Plan} : runs command budget →
    (∀ r, Within runs ends (next r)) → Within runs ends (execute command budget next)

variable {allowed : String → Nat → Prop} {ends : Except CommandError Reply → Prop} {plan : Plan}

theorem Within.imp {allowed' : String → Nat → Prop} {ends' : Except CommandError Reply → Prop}
    (within : Within allowed ends plan) (more : ∀ command budget, allowed command budget →
      allowed' command budget) (weaker : ∀ answer, ends answer → ends' answer) :
    Within allowed' ends' plan := by
  induction within with
  | done holds => exact .done (weaker _ holds)
  | look _ ih => exact .look ih
  | execute may _ ih => exact .execute (more _ _ may) ih

theorem Within.given {α : Type} {x : Except CommandError α} {next : α → Plan}
    (refused : ∀ e, x = .error e → ends (.error e))
    (taken : ∀ a, x = .ok a → Within allowed ends (next a)) : Within allowed ends (given x next) := by
  cases x with
  | error e => exact .done (refused e rfl)
  | ok a => exact taken a rfl

theorem Within.runs (within : Within allowed ends plan) (runner : Runner σ) (d : Desk σ) :
    ∀ x ∈ plan.runs runner d, allowed x.command x.budget := by
  induction within generalizing d with
  | done _ => exact fun x member => absurd member List.not_mem_nil
  | look _ ih => exact ih _ d
  | execute may _ ih =>
    intro x member
    rcases List.mem_cons.mp member with rfl | later
    · exact may
    · exact ih _ _ x later

theorem Within.follow (within : Within allowed ends plan) (runner : Runner σ) (d : Desk σ) :
    ends (plan.follow runner d).1 := by
  induction within generalizing d with
  | done holds => exact holds
  | look _ ih => exact ih _ d
  | execute _ _ ih => exact ih _ _

def nothing (_ : String) (_ : Nat) : Prop := False

theorem Within.runs_eq_nil (within : Within nothing ends plan) (runner : Runner σ) (d : Desk σ) :
    plan.runs runner d = [] :=
  List.eq_nil_iff_forall_not_mem.mpr (within.runs runner d)

end Plan

/-! ## The built-in commands -/

theorem ExecutionResult.outcome_frank (r : ExecutionResult) (command : String) (budget : Nat)
    (message : String) : r.outcome command budget ≠ .error (.invalidArguments message) := by
  unfold outcome
  split
  · simp
  · split
    · simp
    · split <;> simp

def Response.ofAnswer (r : Request) : Except CommandError Reply → Response
  | .ok reply => .success r.id r.command reply
  | .error e => .failure r.id r.command e.toFailure

/-! ## What a message states -/

theorem lookup_filter {members : Json.Members} {p : String → Bool} {key : String}
    (kept : p key = true) :
    List.lookup key (members.filter fun kv => p kv.1) = List.lookup key members := by
  induction members with
  | nil => rfl
  | cons kv rest ih =>
    obtain ⟨k, v⟩ := kv
    rw [List.filter_cons, Json.Members.lookup_cons]
    by_cases here : key = k
    · subst here
      rw [if_pos kept, Json.Members.lookup_cons, if_pos rfl, if_pos rfl]
    · rw [if_neg here]
      split
      · rw [Json.Members.lookup_cons, if_neg here, ih]
      · exact ih

/-- Under a name that no envelope has, a message states what the handler gave. -/
theorem Response.get?_toMembers (r : Response) {key : String} (extra : key ∉ envelopeKeys) :
    r.toMembers.get? key = r.extraFields.get? key := by
  have elsewhere : List.lookup key r.envelope = none := by
    refine List.lookup_eq_none_iff.mpr fun kv member => ?_
    have named : kv.1 ∈ envelopeKeys := r.envelope_sublist.subset (List.mem_map_of_mem member)
    refine bne_iff_ne.mpr fun same => extra ?_
    rw [same]
    exact named
  have kept : (!envelopeKeys.contains key) = true := by simpa using extra
  rw [Json.Members.get?, toMembers, List.lookup_append, elsewhere, Option.none_or]
  exact lookup_filter (p := fun name => !envelopeKeys.contains name) kept

namespace Builtin

variable {σ : Type} (runner : Runner σ) (defaultBudget : Nat)

def registry : Registry (Handler (Desk σ)) :=
  .after ((handlers runner defaultBudget).map (fun entry => .register entry.1 entry.2) ++ [.freeze])

def runs (r : Request) (d : Desk σ) : List Run :=
  if r.isCommand then
    match (plans defaultBudget).lookup r.command with
    | some plan => (plan r).runs runner d
    | none => []
  else []

variable {runner} in
theorem runs_each {holds : Run → Prop}
    (each : ∀ command budget world, holds ⟨command, budget, (runner.attempt command budget world).1⟩)
    (r : Request) (d : Desk σ) : ∀ x ∈ runs runner defaultBudget r d, holds x := by
  intro x member
  unfold runs at member
  split at member
  · split at member
    · exact Plan.runs_each each _ d x member
    · cases member
  · cases member

theorem registered_entries {α : Type} {entries : List (String × α)}
    (named : ∀ entry ∈ entries, Text.isAllBlank entry.1 = false) (name : String) :
    Registry.registered name
        (entries.map (fun entry => .register entry.1 entry.2) ++ [.freeze]) = entries.lookup name := by
  induction entries with
  | nil => rfl
  | cons entry rest ih =>
    have later := ih fun other member => named other (List.mem_cons_of_mem entry member)
    have more := named entry List.mem_cons_self
    obtain ⟨n, a⟩ := entry
    simp only [List.map_cons, List.cons_append, Registry.registered, more, and_true, later]
    by_cases same : n = name
    · simp [same]
    · have miss : (name == n) = false := by simpa using Ne.symm same
      rw [if_neg same, List.lookup_cons, miss]

theorem lookup_handlers (name : String) (entries : List (String × (Request → Plan))) :
    (entries.map fun entry => (entry.1, Plan.handler runner entry.2)).lookup name =
      (entries.lookup name).map (Plan.handler runner) := by
  induction entries with
  | nil => rfl
  | cons entry rest ih =>
    obtain ⟨n, plan⟩ := entry
    simp only [List.map_cons, List.lookup_cons, ih]
    cases name == n <;> rfl

def names : List String :=
  ["check_connection", "version", "lm", "dt", "dd", "get_metadata", "execute_command",
    "execute_command_enhanced", "execute_command_streaming", "for_each_module", "health_check",
    "performance_metrics"]

theorem plans_named : ∀ entry ∈ plans defaultBudget, Text.isAllBlank entry.1 = false := by
  intro entry member
  have name : entry.1 ∈ (plans defaultBudget).map (·.1) := List.mem_map_of_mem member
  revert name
  generalize entry.1 = name
  revert name
  show ∀ name ∈ names, Text.isAllBlank name = false
  decide

@[elab_as_elim]
theorem plans_cases {defaultBudget : Nat}
    {motive : ∀ (name : String) (plan : Request → Plan), (name, plan) ∈ plans defaultBudget → Prop}
    (check_connection : ∀ member, motive "check_connection" checkConnection member)
    (version : ∀ member, motive "version" version member)
    (lm : ∀ member, motive "lm" (listModules defaultBudget) member)
    (dt : ∀ member, motive "dt" (displayType defaultBudget) member)
    (dd : ∀ member, motive "dd" (displayMemory defaultBudget) member)
    (get_metadata : ∀ member, motive "get_metadata" getMetadata member)
    (execute_command : ∀ member, motive "execute_command" executeCommand member)
    (execute_command_enhanced : ∀ member,
      motive "execute_command_enhanced" executeCommandEnhanced member)
    (execute_command_streaming : ∀ member,
      motive "execute_command_streaming" executeCommandStreaming member)
    (for_each_module : ∀ member, motive "for_each_module" forEachModule member)
    (health_check : ∀ member, motive "health_check" healthCheck member)
    (performance_metrics : ∀ member, motive "performance_metrics" performanceMetrics member)
    {name : String} {plan : Request → Plan} (member : (name, plan) ∈ plans defaultBudget) :
    motive name plan member := by
  have named := member
  simp only [plans, List.mem_cons, Prod.mk.injEq, List.not_mem_nil, or_false] at named
  rcases named with ⟨rfl, rfl⟩ | ⟨rfl, rfl⟩ | ⟨rfl, rfl⟩ | ⟨rfl, rfl⟩ | ⟨rfl, rfl⟩ | ⟨rfl, rfl⟩ |
    ⟨rfl, rfl⟩ | ⟨rfl, rfl⟩ | ⟨rfl, rfl⟩ | ⟨rfl, rfl⟩ | ⟨rfl, rfl⟩ | ⟨rfl, rfl⟩ <;> apply_assumption

theorem lookup_registry (name : String) :
    (registry runner defaultBudget).lookup name =
      ((plans defaultBudget).lookup name).map (Plan.handler runner) := by
  have named : ∀ entry ∈ handlers runner defaultBudget, Text.isAllBlank entry.1 = false := by
    intro entry member
    obtain ⟨origin, there, rfl⟩ := List.mem_map.mp member
    exact plans_named defaultBudget origin there
  rw [registry, Registry.lookup_after, registered_entries named]
  exact lookup_handlers runner name (plans defaultBudget)

variable {runner defaultBudget}

variable (runner) in
theorem request_known {r : Request} {plan : Request → Plan} (command : r.isCommand = true)
    (known : (plans defaultBudget).lookup r.command = some plan) (d : Desk σ) :
    runs runner defaultBudget r d = (plan r).runs runner d ∧
      Dispatch.request (registry runner defaultBudget) r d =
        (.ofAnswer r ((plan r).follow runner d).1, ((plan r).follow runner d).2) := by
  constructor
  · simp only [runs, command, if_true, known]
  · simp only [Dispatch.request, command, if_true, lookup_registry, known, Option.map_some,
      Plan.handler]
    rcases (plan r).follow runner d with ⟨answer, after⟩
    cases answer <;> rfl

variable (runner defaultBudget) in
theorem request_cases (r : Request) (d : Desk σ) :
    (∃ plan, r.isCommand = true ∧ (r.command, plan) ∈ plans defaultBudget ∧
      runs runner defaultBudget r d = (plan r).runs runner d ∧
      Dispatch.request (registry runner defaultBudget) r d =
        (.ofAnswer r ((plan r).follow runner d).1, ((plan r).follow runner d).2)) ∨
    (¬ (r.isCommand = true ∧ r.command ∈ names) ∧ runs runner defaultBudget r d = [] ∧
      (Dispatch.request (registry runner defaultBudget) r d).2 = d) := by
  cases command : r.isCommand with
  | false => exact .inr ⟨by simp, by simp [runs, command], by simp [Dispatch.request, command]⟩
  | true =>
    cases known : (plans defaultBudget).lookup r.command with
    | some plan =>
      obtain ⟨before, after, split, _⟩ := List.lookup_eq_some_iff.mp known
      have member : (r.command, plan) ∈ plans defaultBudget := by simp [split]
      exact .inl ⟨plan, rfl, member, request_known runner command known d⟩
    | none =>
      refine .inr ⟨fun ⟨_, named⟩ => ?_, by simp [runs, known], by
        simp [Dispatch.request, command, lookup_registry, known]⟩
      obtain ⟨entry, member, same⟩ : ∃ entry ∈ plans defaultBudget, entry.1 = r.command :=
        List.mem_map.mp (show r.command ∈ (plans defaultBudget).map (·.1) from named)
      have other := List.lookup_eq_none_iff.mp known entry member
      simp [same] at other

end Builtin

/-! ## The gateway -/

theorem Server.registerAll_registry {σ : Type} {entries : List (String × Handler σ)}
    {s t : Server σ} (registered : s.registerAll entries = .ok t) :
    t.registry = (entries.map fun entry => .register entry.1 entry.2).foldl Registry.perform
      s.registry := by
  induction entries generalizing s with
  | nil =>
    cases registered
    rfl
  | cons entry rest ih =>
    obtain ⟨next, here, later⟩ := bind_eq_ok registered
    rw [List.map_cons, List.foldl_cons, ih later]
    change s.register entry.1 entry.2 = .ok next at here
    unfold Server.register at here
    cases taken : s.registry.register entry.1 entry.2 with
    | error e =>
      rw [taken] at here
      cases here
    | ok registry =>
      rw [taken] at here
      cases here
      simp only [Registry.perform, taken]

theorem Daemon.launch_registry {σ : Type} {runner : Runner σ} {config : Config} {desk : Desk σ}
    {host : Host} {d : Daemon σ} (launched : launch runner config desk host = .ok d) :
    d.server.registry = Builtin.registry runner config.defaultTimeout := by
  obtain ⟨_, _, launched⟩ := bind_eq_ok launched
  obtain ⟨files, _, launched⟩ := bind_eq_ok launched
  obtain ⟨server, registered, launched⟩ := bind_eq_ok launched
  obtain ⟨⟨started, after⟩, start, launched⟩ := bind_eq_ok launched
  cases launched
  have table := Server.registerAll_registry (mapError_eq_ok registered)
  have start := mapError_eq_ok start
  unfold Server.start at start
  split at start
  · cases start
  · cases start
    rw [Builtin.registry, Registry.after, List.foldl_append]
    exact congrArg Registry.freeze table

end DebugGateway
