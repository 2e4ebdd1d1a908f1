import DebugGateway.Proofs.Command.Variants
import DebugGateway.Proofs.Command.Verdicts
import DebugGateway.Proofs.Text.Words

namespace DebugGateway

open Arguments

/-! ## The cost of a text -/

namespace Cost

theorem ofCommand_respelled {t s : String} (respells : Text.Respells t s) :
    ofCommand t = ofCommand s := by
  rw [ofCommand, ofCommand, respells.lowerAscii_trim]

theorem ofCommand_trim (s : String) : ofCommand (Text.trim s) = ofCommand s :=
  (ofCommand_respelled (Text.respells_trim s)).symm

theorem words_verb {verb : List Char} (solid : ∀ c ∈ verb, Text.isBlank c = false) (full : verb ≠ [])
    (operands : List Char) :
    (Text.words (Text.lowerAscii (Text.trim (String.ofList (verb ++ ' ' :: operands))))).head? =
      some (String.ofList (verb.map Char.toLower)) := by
  -- trimming takes from the operands alone, so behind the verb comes a blank or nothing
  obtain ⟨first, more, rfl⟩ := List.exists_cons_of_ne_nil full
  have stripped := Text.strip_append solid (' ' :: operands)
  obtain ⟨rest, shape⟩ := List.rdropWhile_prefix Text.isBlank (' ' :: operands)
  rw [Text.words, List.head?_map, Text.lowerAscii, String.toList_ofList, Text.toList_trim,
    String.toList_ofList, stripped, List.map_append, Text.wordsOf_word ?_ ?_ ?_]
  · rfl
  · intro c member
    obtain ⟨d, there, rfl⟩ := List.mem_map.mp member
    simp [Text.isBlank_toLower, solid d there]
  · simp
  · intro c head
    cases kept : (' ' :: operands).rdropWhile Text.isBlank with
    | nil => simp [kept] at head
    | cons blank tail =>
      rw [kept] at shape head
      cases (List.cons.inj shape).1
      cases head
      decide

theorem ofCommand_walk (command : String) : ofCommand ("!for_each_module " ++ command) = bulk := by
  have shape : "!for_each_module " ++ command =
      String.ofList ("!for_each_module".toList ++ ' ' :: command.toList) := by
    rw [← String.toList_inj]
    simp
  have printed : "!for_each_module".toList.all (fun c => !Text.isBlank c) = true := by decide
  have solid : ∀ c ∈ "!for_each_module".toList, Text.isBlank c = false :=
    fun c member => by simpa using List.all_eq_true.mp printed c member
  have verb := words_verb solid (by decide) command.toList
  rw [ofCommand, shape, verb]
  rfl

end Cost

namespace Response

theorem ofAnswer_metadata {r : Request} {answer : Except CommandError Reply} {told : Json.Value} :
    (ofAnswer r answer).toMembers.get? "metadata" = some told ↔
      ∃ reply, answer = .ok reply ∧ reply.fields.get? "metadata" = some told := by
  cases answer with
  | ok reply =>
    rw [get?_toMembers _ (by decide)]
    simp [ofAnswer, success, extraFields]
  | error e =>
    rw [ofAnswer_details r e (by decide)]
    unfold CommandError.details
    split <;> simp [Json.Members.get?, Json.Members.lookup_cons]

end Response

/-! ## Requests for a native command -/

/-- The same request but that the text of its command is spelled differently. -/
structure Request.Respells (r' r : Request) : Prop where
  kind : r'.isCommand = r.isCommand
  command : r'.command = r.command
  text : ∃ given given', r.args.get? "command" = some (.text given) ∧
    r'.args.get? "command" = some (.text given') ∧ Text.Respells given' given
  others : ∀ key, key ≠ "command" → r'.args.get? key = r.args.get? key

namespace Builtin

open Plan

/-- A command that has a native command run: the budget where a request names none, and what is run for
the text of a request. -/
structure Relay where
  name : String
  fallback : Nat
  native : String → String

def relays : List Relay := [
  ⟨"execute_command", 30000, id⟩,
  ⟨"execute_command_enhanced", 30000, id⟩,
  ⟨"execute_command_streaming", 60000, id⟩,
  ⟨"for_each_module", 60000, fun text => "!for_each_module " ++ text⟩]

@[elab_as_elim]
theorem relays_cases {motive : ∀ relay : Relay, relay ∈ relays → Prop}
    (execute_command : ∀ member, motive ⟨"execute_command", 30000, id⟩ member)
    (execute_command_enhanced : ∀ member, motive ⟨"execute_command_enhanced", 30000, id⟩ member)
    (execute_command_streaming : ∀ member, motive ⟨"execute_command_streaming", 60000, id⟩ member)
    (for_each_module : ∀ member,
      motive ⟨"for_each_module", 60000, fun text => "!for_each_module " ++ text⟩ member)
    {relay : Relay} (member : relay ∈ relays) : motive relay member := by
  have listed := member
  simp only [relays, List.mem_cons, List.not_mem_nil, or_false] at listed
  rcases listed with rfl | rfl | rfl | rfl <;> apply_assumption

/-- The request asks the relay to run this text, and stands for this budget. -/
structure Relay.Takes (relay : Relay) (r : Request) (command : String) (requested : Nat) : Prop where
  named : r.command = relay.name
  text : HasText r.args "command" command
  budget : StandsFor r.args "timeout_ms" relay.fallback requested
  flag : relay.name = "execute_command_enhanced" → MayHaveFlag r.args "include_metadata"

def Relay.Describes (relay : Relay) (r : Request) : Prop :=
  relay.name = "execute_command_enhanced" → Builtin.Describes r

/-- The native command is run once, at this cost and under this budget, and the client is told of the
same budget. -/
structure Granted (relay : Relay) (r : Request) (cost : Cost) (budget : Nat) (made : List Run)
    (response : Response) : Prop where
  executed : ∃ command attempt, HasText r.args "command" command ∧
    Cost.ofCommand (relay.native command) = cost ∧ made = [⟨relay.native command, budget, attempt⟩]
  late : ∀ x ∈ made, x.result.timedOut = true → response.Blames "timeout" "Timeout" ∧
    response.toMembers.get? "timeout_ms" = some (.int budget)
  described : ∀ told, response.toMembers.get? "metadata" = some told → ∃ metadata : Json.Members,
    told = .object metadata ∧ metadata.get? "timeout_ms" = some (.int budget) ∧
      metadata.get? "timeout_category" = some (.text cost.name)
  carried : response.Succeeds →
    ((∃ told, response.toMembers.get? "metadata" = some told) ↔ relay.Describes r)

variable {relay : Relay} {r r' : Request} {command : String} {requested : Nat}

def Carries (described : Prop) (next : String → Json.Value → Except CommandError Reply) : Prop :=
  ∀ output metadata reply, next output metadata = .ok reply →
    ∀ told, reply.fields.get? "metadata" = some told ↔ described ∧ told = metadata

theorem carries_always {described : Prop} {next : String → Json.Value → Except CommandError Reply}
    (holds : described) (each : ∀ output metadata reply, next output metadata = .ok reply →
      reply.fields.get? "metadata" = some metadata) : Carries described next := by
  intro output metadata reply answered told
  rw [each output metadata reply answered, Option.some.injEq]
  exact ⟨fun same => ⟨holds, same.symm⟩, fun ⟨_, same⟩ => same.symm⟩

theorem spokenReply_metadata {output : String} {metadata : Json.Value} {reply : Reply}
    (answered : spokenReply command output metadata = .ok reply) :
    reply.fields.get? "metadata" = some metadata := by
  unfold spokenReply at answered
  cases said : spoken command output with
  | error e => rw [said] at answered; cases answered
  | ok text =>
    rw [said] at answered
    cases answered
    rfl

theorem wanted_iff (may : MayHaveFlag r.args "include_metadata") :
    ∃ wanted, flag r.args "include_metadata" true = .ok wanted ∧ (wanted = true ↔ Describes r) := by
  rcases may with out | ⟨wanted, stands⟩
  · exact ⟨true, Describes.read (.inl out), iff_of_true rfl (.inl out)⟩
  · refine ⟨wanted, ?_, ?_⟩
    · rw [flag, stands]
    · simp [Describes, LeftOut, stands]

/-- Each relay is one run of its native text, and describes it just where it is to. -/
theorem Relay.Takes.plan (known : relay ∈ relays) (takes : relay.Takes r command requested)
    (defaultBudget : Nat) : ∃ plan next, (plans defaultBudget).lookup r.command = some plan ∧
      (plan r = run (relay.native command) requested fun output metadata =>
        .done (next output metadata)) ∧ Carries (relay.Describes r) next := by
  obtain ⟨named, text, budget, flag⟩ := takes
  have read := requestedCommand_stands text budget
  rw [named]
  cases known using relays_cases with
  | execute_command =>
    exact ⟨executeCommand, _, rfl, executeCommand_of_read read,
      carries_always (fun other => absurd other (by decide)) fun _ _ _ => spokenReply_metadata⟩
  | execute_command_enhanced =>
    obtain ⟨wanted, set, describes⟩ := wanted_iff (flag rfl)
    refine ⟨executeCommandEnhanced, _, rfl, executeCommandEnhanced_of_read read set, ?_⟩
    have described : Relay.Describes ⟨"execute_command_enhanced", 30000, id⟩ r ↔ wanted = true :=
      ⟨fun holds => describes.mpr (holds rfl), fun holds _ => describes.mp holds⟩
    intro output metadata reply answered told
    cases answered
    cases wanted <;> simp [described, Reply.withField, Reply.ofOutput, Json.Members.get?,
      Json.Members.lookup_put, eq_comm]
  | execute_command_streaming =>
    refine ⟨executeCommandStreaming, _, rfl, executeCommandStreaming_of_read read,
      carries_always (fun other => absurd other (by decide)) ?_⟩
    rintro output metadata reply ⟨⟩
    rfl
  | for_each_module =>
    refine ⟨forEachModule, _, rfl, forEachModule_of_read read,
      carries_always (fun other => absurd other (by decide)) ?_⟩
    rintro output metadata reply ⟨⟩
    rfl

theorem Relay.walk_cost (known : relay ∈ relays) (walks : relay.name = "for_each_module")
    (text : String) : Cost.ofCommand (relay.native text) = .bulk := by
  cases known using relays_cases with
  | for_each_module => exact Cost.ofCommand_walk text
  | _ => exact absurd walks (by decide)

theorem Relay.native_cost (known : relay ∈ relays) {s t : String}
    (same : Cost.ofCommand s = Cost.ofCommand t) :
    Cost.ofCommand (relay.native s) = Cost.ofCommand (relay.native t) := by
  cases known using relays_cases with
  | for_each_module => exact (Cost.ofCommand_walk s).trans (Cost.ofCommand_walk t).symm
  | _ => exact same

theorem Relay.Takes.respelled (known : relay ∈ relays) (takes : relay.Takes r command requested)
    (respells : r'.Respells r) : ∃ command', relay.Takes r' command' requested ∧
      Cost.ofCommand (relay.native command') = Cost.ofCommand (relay.native command) := by
  obtain ⟨given, given', here, there, spelled⟩ := respells.text
  obtain ⟨_, stands, some, rfl⟩ := takes.text
  cases here.symm.trans stands
  have budget := respells.others "timeout_ms" (by decide)
  have flag := respells.others "include_metadata" (by decide)
  refine ⟨Text.trim given', ⟨respells.command.trans takes.named,
    ⟨given', there, spelled.isAllBlank.trans some, rfl⟩, ?_, fun enhanced => ?_⟩, ?_⟩
  · have stands := takes.budget
    rwa [StandsFor, LeftOut, ← budget] at stands
  · have may := takes.flag enhanced
    rwa [MayHaveFlag, LeftOut, ← flag] at may
  · refine native_cost known ?_
    rw [Cost.ofCommand_trim, Cost.ofCommand_trim, Cost.ofCommand_respelled spelled]

theorem Relay.takes_of_valid (known : relay ∈ relays) (named : r.command = relay.name) (valid : r.Valid) :
    ∃ command requested, relay.Takes r command requested ∧
      requested ≤ CommandError.greatestBudget := by
  have fits : ∀ relay ∈ relays, relay.fallback ≤ CommandError.greatestBudget := by decide
  have parts : (∃ s, HasText r.args "command" s) ∧ MayHaveCount r.args "timeout_ms" ∧
      (relay.name = "execute_command_enhanced" → MayHaveFlag r.args "include_metadata") := by
    unfold Request.Valid at valid
    cases known using relays_cases with
    | execute_command_enhanced =>
      simp only [named] at valid
      exact ⟨valid.1, valid.2.1, fun _ => valid.2.2⟩
    | _ =>
      simp only [named] at valid
      exact ⟨valid.1, valid.2, fun other => absurd other (by decide)⟩
  obtain ⟨⟨command, text⟩, budget, flag⟩ := parts
  obtain ⟨requested, stands, small⟩ := budget.stands relay.fallback
  exact ⟨command, requested, ⟨named, text, stands, flag⟩, small (fits relay known)⟩

/-- What a run comes to: its error is the answer, or the answer is made of its output. -/
inductive Came (next : String → Json.Value → Except CommandError Reply) (x : Run) :
    Except CommandError Reply → Prop where
  | failed {e : CommandError} : x.outcome = .error e → Came next x (.error e)
  | well {output : String} {now : Moment} : x.outcome = .ok output →
    Came next x (next output (runMetadata x.result.elapsed x.budget (Cost.ofCommand x.command) now))

theorem run_came {σ : Type} (runner : Runner σ) (command : String) (requested : Nat)
    (next : String → Json.Value → Except CommandError Reply) (d : Desk σ) :
    let plan := run command requested fun output metadata => .done (next output metadata)
    ∃ attempt, plan.runs runner d = [⟨command, grantedBudget command requested, attempt⟩] ∧
      Came next ⟨command, grantedBudget command requested, attempt⟩ (plan.follow runner d).1 := by
  intro plan
  have followed := @run_follow command requested _ next σ runner d rfl
  refine ⟨_, run_sends command requested next σ runner d, ?_⟩
  rw [followed]
  split
  · rename_i output told
    exact .well told
  · rename_i e told
    exact .failed told

theorem Came.granted {x : Run} {next : String → Json.Value → Except CommandError Reply}
    {answer : Except CommandError Reply} (came : Came next x answer)
    (carries : Carries (relay.Describes r) next) (text : HasText r.args "command" command)
    (native : x.command = relay.native command) (stated : x.budget ≤ CommandError.greatestBudget) :
    Granted relay r (Cost.ofCommand x.command) x.budget [x] (.ofAnswer r answer) := by
  have executed : ∃ command attempt, HasText r.args "command" command ∧
      Cost.ofCommand (relay.native command) = Cost.ofCommand x.command ∧
      [x] = [⟨relay.native command, x.budget, attempt⟩] :=
    ⟨command, x.attempt, text, by rw [native], by rw [← native]⟩
  cases came with
  | @failed e told =>
    refine ⟨executed, fun y member timedOut => ?_, fun metadata stands => ?_, fun succeeds => ?_⟩
    · cases List.mem_singleton.mp member
      obtain ⟨blamed, budget, -⟩ := Run.blames_late told timedOut stated r
      exact ⟨blamed, budget⟩
    · obtain ⟨reply, replied, -⟩ := Response.ofAnswer_metadata.mp stands
      cases replied
    · obtain ⟨reply, replied⟩ := (Response.ofAnswer_succeeds r _).mp succeeds
      cases replied
  | @well output now told =>
    refine ⟨executed, fun y member timedOut => ?_, fun metadata stands => ?_, fun succeeds => ?_⟩
    · cases List.mem_singleton.mp member
      cases told.symm.trans (Run.outcome_timedOut timedOut)
    · obtain ⟨reply, replied, field⟩ := Response.ofAnswer_metadata.mp stands
      obtain ⟨-, rfl⟩ := (carries _ _ reply replied metadata).mp field
      exact runMetadata_states x.result.elapsed x.budget (Cost.ofCommand x.command) now
    · obtain ⟨reply, replied⟩ := (Response.ofAnswer_succeeds r _).mp succeeds
      constructor
      · rintro ⟨metadata, stands⟩
        obtain ⟨_, replied, field⟩ := Response.ofAnswer_metadata.mp stands
        exact ((carries _ _ _ replied metadata).mp field).1
      · exact fun describes => ⟨_, Response.ofAnswer_metadata.mpr
          ⟨reply, replied, (carries _ _ reply replied _).mpr ⟨describes, rfl⟩⟩⟩

theorem Relay.Takes.granted (known : relay ∈ relays) (takes : relay.Takes r command requested)
    (small : requested ≤ CommandError.greatestBudget) {σ : Type} (runner : Runner σ)
    (defaultBudget : Nat) (isCommand : r.isCommand = true) (d : Desk σ) :
    Granted relay r (Cost.ofCommand (relay.native command))
      (grantedBudget (relay.native command) requested) (runs runner defaultBudget r d)
      (Dispatch.request (registry runner defaultBudget) r d).1 := by
  obtain ⟨plan, next, found, shape, carries⟩ := takes.plan known defaultBudget
  obtain ⟨executions, answered⟩ := request_known runner isCommand found d
  obtain ⟨attempt, made, came⟩ := run_came runner (relay.native command) requested next d
  rw [executions, answered, shape, made]
  exact came.granted carries takes.text rfl (grantedBudget_stated (relay.native command) small)

/-- A valid request is granted the greater of what it stands for and of what the text that is run costs.
The command is executed under that budget, and the client is told of the same, with the description of
the run and where the time ran out. A walk over the modules is always bulk. Another spelling of the
command changes nothing of this. -/
theorem budget_granted {σ : Type} (runner : Runner σ) (defaultBudget : Nat) {relay : Relay}
    (known : relay ∈ relays) {r : Request} (command : r.isCommand = true)
    (named : r.command = relay.name) (valid : r.Valid) :
    ∃ requested cost, StandsFor r.args "timeout_ms" relay.fallback requested ∧
      max requested cost.floor ≤ CommandError.greatestBudget ∧
      (relay.name = "for_each_module" → cost = .bulk ∧ 300000 ≤ max requested cost.floor) ∧
      ∀ r', r' = r ∨ r'.Respells r → ∀ d : Desk σ,
        Granted relay r' cost (max requested cost.floor) (runs runner defaultBudget r' d)
          (Dispatch.request (registry runner defaultBudget) r' d).1 := by
  obtain ⟨text, requested, takes, small⟩ := Relay.takes_of_valid known named valid
  refine ⟨requested, Cost.ofCommand (relay.native text), takes.budget,
    grantedBudget_stated (relay.native text) small, fun walks => ?_, ?_⟩
  · have bulk := Relay.walk_cost known walks text
    rw [bulk]
    exact ⟨rfl, Nat.le_max_right _ _⟩
  · rintro r' (rfl | respells) d
    · exact takes.granted known small runner defaultBudget command d
    · obtain ⟨text', takes', same⟩ := takes.respelled known respells
      have granted := takes'.granted known small runner defaultBudget (respells.kind.trans command) d
      rw [grantedBudget, same] at granted
      exact granted

/-- A walk that runs out of the longest time there is, asked for in capitals. -/
theorem budget_granted_walk :
    let args (text : String) : Json.Members :=
      [("command", .text text), ("timeout_ms", .int 18446744073709551615)]
    let r := Request.ofCommand 1 "for_each_module" (args "k")
    let shouted := Request.ofCommand 2 "for_each_module" (args " K\t")
    let overdue : Runner Unit :=
      { attempt := fun _ _ world => ({ result := { timedOut := true } }, world), now := fun _ => {} }
    r.Valid ∧ shouted.Respells r ∧
      (Dispatch.request (registry overdue 10000) shouted ⟨(), .start "session" {}⟩).1.toMembers.get?
        "timeout_ms" = some (.int 18446744073709551615) := by
  intro args r shouted overdue
  have valid : r.Valid :=
    ⟨⟨"k", "k", rfl, by decide, by decide⟩, .inr ⟨18446744073709551615, rfl, by decide, by decide⟩⟩
  have respells : shouted.Respells r := by
    refine ⟨rfl, rfl, ⟨"k", " K\t", rfl, rfl, [' '], ['K'], ['\t'], rfl, List.all_eq_true.mp (by decide),
      by decide⟩, ?_⟩
    intro key other
    have miss : (key == "command") = false := by simpa using other
    simp [r, shouted, args, Request.ofCommand, Json.Members.get?, List.lookup_cons, miss]
  have known : (⟨"for_each_module", 60000, fun text => "!for_each_module " ++ text⟩ : Relay) ∈ relays := by
    simp [relays]
  obtain ⟨requested, cost, stands, -, walks, granted⟩ :=
    budget_granted overdue 10000 known rfl rfl valid
  have asked : requested = 18446744073709551615 := by
    rcases stands with ⟨out, -⟩ | ⟨given, -⟩
    · rcases out with absent | null
      · cases absent
      · cases null
    · cases given
      rfl
  obtain ⟨bulk, -⟩ := walks rfl
  have budget : max requested cost.floor = 18446744073709551615 := by
    rw [asked, bulk]
    decide
  obtain ⟨⟨text, attempt, -, -, made⟩, late, -, -⟩ :=
    granted shouted (.inr respells) ⟨(), .start "session" {}⟩
  rw [budget] at made late
  have ends := @runs_each Unit overdue 10000 (fun x => x.result.timedOut = true) (fun _ _ _ => rfl)
    shouted ⟨(), .start "session" {}⟩
  rw [made] at late ends
  have first := ends _ List.mem_cons_self
  exact ⟨valid, respells, (late _ List.mem_cons_self first).2⟩

end Builtin

end DebugGateway
