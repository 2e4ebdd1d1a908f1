import DebugGateway.Proofs.Command.Counting

namespace DebugGateway

open Json (Members Value)

namespace Arguments

inductive Demand where
  | text
  | textOrNone
  | count
  | flag
deriving DecidableEq, Repr

inductive Missed (args : Members) (key : String) : Demand → Prop where
  | absent : LeftOut args key → Missed args key .text
  | blank {given : String} : args.get? key = some (.text given) → Text.isAllBlank given = true →
    Missed args key .text
  | notText {v : Value} : args.get? key = some v → v ≠ .null → (∀ given, v ≠ .text given) →
    Missed args key .text
  | neitherTextNorNone {v : Value} : args.get? key = some v → v ≠ .null →
    (∀ given, v ≠ .text given) → Missed args key .textOrNone
  | notCount {v : Value} : args.get? key = some v → v ≠ .null → (∀ n : Nat, v ≠ .int n) →
    Missed args key .count
  | zero : args.get? key = some (.int 0) → Missed args key .count
  | notFlag {v : Value} : args.get? key = some v → v ≠ .null → (∀ b, v ≠ .bool b) →
    Missed args key .flag

/-- A reading fails just where the demand is missed, and its failure begins with the key. -/
structure Reads (args : Members) (key : String) (demand : Demand) {α : Type}
    (x : Except CommandError α) : Prop where
  refused : Missed args key demand → ∃ rest, x = .error (.invalidArguments (key ++ rest))
  taken : ¬ Missed args key demand → ∃ a, x = .ok a

variable {args : Members} {key : String} {demand : Demand}

section Reads

variable {α : Type} {x : Except CommandError α}

theorem Reads.refuse (missed : Missed args key demand) {rest : String}
    (refused : x = .error (.invalidArguments (key ++ rest))) : Reads args key demand x :=
  ⟨fun _ => ⟨rest, refused⟩, fun fine => absurd missed fine⟩

theorem Reads.take (fine : ¬ Missed args key demand) {a : α} (taken : x = .ok a) :
    Reads args key demand x :=
  ⟨fun missed => absurd missed fine, fun _ => ⟨a, taken⟩⟩

end Reads

theorem given_unique {v w : Value} (stands : args.get? key = some v) (given : args.get? key = some w) :
    v = w := Option.some.inj (stands.symm.trans given)

theorem text?_reads : Reads args key .textOrNone (text? args key) := by
  unfold text?
  cases stands : args.get? key with
  | none =>
    refine .take (fun missed => ?_) rfl
    cases missed with
    | neitherTextNorNone given => cases stands.symm.trans given
  | some v =>
    cases v with
    | null =>
      refine .take (fun missed => ?_) rfl
      cases missed with
      | neitherTextNorNone given some => exact some (given_unique stands given).symm
    | text s =>
      refine .take (fun missed => ?_) rfl
      cases missed with
      | neitherTextNorNone given _ other => exact other s (given_unique stands given).symm
    | bool | int | real | list | object =>
      exact .refuse (.neitherTextNorNone stands nofun nofun) rfl

theorem text_reads : Reads args key .text (text args key) := by
  unfold text text?
  cases stands : args.get? key with
  | none => exact .refuse (.absent (.inl stands)) rfl
  | some v =>
    cases v with
    | null => exact .refuse (.absent (.inr stands)) rfl
    | text s =>
      cases blank : Text.isAllBlank s with
      | true => exact .refuse (.blank stands blank) (by dsimp only; rw [blank]; rfl)
      | false =>
        refine .take (fun missed => ?_) (by dsimp only; rw [blank]; rfl)
        cases missed with
        | absent out =>
          rcases out with none | null
          · cases stands.symm.trans none
          · cases given_unique stands null
        | blank given all =>
          cases given_unique stands given
          cases blank.symm.trans all
        | notText given _ other => exact other s (given_unique stands given).symm
    | bool | int | real | list | object => exact .refuse (.notText stands nofun nofun) rfl

theorem positive_reads {fallback : Nat} : Reads args key .count (positive args key fallback) := by
  unfold positive count?
  cases stands : args.get? key with
  | none =>
    refine .take (fun missed => ?_) rfl
    cases missed with
    | notCount given | zero given => cases stands.symm.trans given
  | some v =>
    cases v with
    | null =>
      refine .take (fun missed => ?_) rfl
      cases missed with
      | notCount given some => exact some (given_unique stands given).symm
      | zero given => cases given_unique stands given
    | int n =>
      cases n with
      | ofNat n =>
        by_cases none : n = 0
        · subst none
          exact .refuse (.zero stands) rfl
        · refine .take (fun missed => ?_) (if_neg none)
          cases missed with
          | notCount given _ other => exact other n (given_unique stands given).symm
          | zero given => exact none (Int.ofNat.inj (Value.int.inj (given_unique stands given)))
      | negSucc n => exact .refuse (.notCount stands nofun nofun) rfl
    | bool | text | real | list | object => exact .refuse (.notCount stands nofun nofun) rfl

theorem flag_reads {fallback : Bool} : Reads args key .flag (flag args key fallback) := by
  unfold flag
  cases stands : args.get? key with
  | none =>
    refine .take (fun missed => ?_) rfl
    cases missed with
    | notFlag given => cases stands.symm.trans given
  | some v =>
    cases v with
    | null =>
      refine .take (fun missed => ?_) rfl
      cases missed with
      | notFlag given some => exact some (given_unique stands given).symm
    | bool b =>
      refine .take (fun missed => ?_) rfl
      cases missed with
      | notFlag given _ other => exact other b (given_unique stands given).symm
    | int | text | real | list | object => exact .refuse (.notFlag stands nofun nofun) rfl

/-! ## What is not looked at -/

section Same

variable {other : Members} (same : args.get? key = other.get? key)
include same

theorem text?_same : text? args key = text? other key := by rw [text?, same, ← text?]

theorem text_same : text args key = text other key := by rw [text, text?_same same, ← text]

theorem positive_same (fallback : Nat) : positive args key fallback = positive other key fallback := by
  have counted : count? args key = count? other key := by rw [count?, same, ← count?]
  rw [positive, counted, ← positive]

theorem flag_same (fallback : Bool) : flag args key fallback = flag other key fallback := by
  rw [flag, same, ← flag]

end Same

end Arguments

namespace Plan

open Arguments

variable {args : Members} {key : String} {demand : Demand} {demands : List (String × Demand)}
  {α : Type} {x : Except CommandError α} {next : α → Plan}

/-- A plan ends at once where something demanded is missed, with a refusal that begins with the key of
such an argument; else no answer of it is a refusal. -/
structure Guarded (demands : List (String × Demand)) (args : Members) (plan : Plan) : Prop where
  refused : (∃ d ∈ demands, Missed args d.1 d.2) → ∃ d ∈ demands, Missed args d.1 d.2 ∧
    ∃ rest, plan = .done (.error (.invalidArguments (d.1 ++ rest)))
  taken : (∀ d ∈ demands, ¬ Missed args d.1 d.2) → Within (fun _ _ => True) Taken plan

theorem Guarded.none {plan : Plan} (within : Within (fun _ _ => True) Taken plan) :
    Guarded [] args plan where
  refused missed := by
    obtain ⟨d, member, -⟩ := missed
    cases member
  taken _ := within

theorem Guarded.given (reads : Reads args key demand x)
    (later : ∀ a, x = .ok a → Guarded demands args (next a)) :
    Guarded ((key, demand) :: demands) args (.given x next) := by
  by_cases missed : Missed args key demand
  · -- the others are never read
    obtain ⟨rest, refused⟩ := reads.refused missed
    constructor
    · intro _
      exact ⟨_, List.mem_cons_self, missed, rest, by rw [refused]; rfl⟩
    · intro fine
      exact absurd missed (fine _ List.mem_cons_self)
  · obtain ⟨a, taken⟩ := reads.taken missed
    have guarded := later a taken
    rw [taken, given_ok]
    constructor
    · rintro ⟨d, member, lacks⟩
      rcases List.mem_cons.mp member with rfl | member
      · exact absurd lacks missed
      · obtain ⟨f, inside, found⟩ := guarded.refused ⟨d, member, lacks⟩
        exact ⟨f, List.mem_cons_of_mem _ inside, found⟩
    · exact fun fine => guarded.taken fun d member => fine d (List.mem_cons_of_mem _ member)

theorem output_taken {command : String} {budget : Nat} {next : String → Plan}
    (each : ∀ output, Within (fun _ _ => True) Taken (next output)) :
    Within (fun _ _ => True) Taken (output command budget next) :=
  .execute trivial fun _ => .outcome each

theorem run_taken {command : String} {requested : Nat} {next : String → Json.Value → Plan}
    (each : ∀ output metadata, Within (fun _ _ => True) Taken (next output metadata)) :
    Within (fun _ _ => True) Taken (Builtin.run command requested next) :=
  .execute trivial fun _ => .outcome fun output => .look fun _ => each output _

end Plan

namespace Builtin

open Plan Arguments

/-- What the built-in commands demand of their arguments, in the order in which they are read. -/
def demands : String → List (String × Demand)
  | "lm" | "get_metadata" => [("timeout_ms", .count)]
  | "dt" => [("type_name", .text), ("address", .textOrNone), ("timeout_ms", .count)]
  | "dd" => [("length", .count), ("address", .text), ("timeout_ms", .count)]
  | "execute_command" | "execute_command_streaming" | "for_each_module" =>
    [("command", .text), ("timeout_ms", .count)]
  | "execute_command_enhanced" =>
    [("command", .text), ("timeout_ms", .count), ("include_metadata", .flag)]
  | _ => []

theorem given_requested (args : Members) (fallback : Nat) (next : String × Nat → Plan) :
    Plan.given (requestedCommand args fallback) next =
      .given (Arguments.text args "command") fun command =>
        .given (Arguments.budget args fallback) fun requested => next (command, requested) := by
  unfold requestedCommand
  cases Arguments.text args "command" with
  | error e => rfl
  | ok command => cases Arguments.budget args fallback <;> rfl

variable (defaultBudget : Nat) (r : Request)

theorem plans_guarded {name : String} {plan : Request → Plan}
    (member : (name, plan) ∈ plans defaultBudget) : Guarded (demands name) r.args (plan r) := by
  cases member using plans_cases with
  | check_connection => exact .none .reply
  | version => exact .none .reply
  | lm => exact .given positive_reads fun _ _ => .none (output_taken fun _ => .reply)
  | dt =>
    exact .given text_reads fun _ _ => .given text?_reads fun _ _ => .given positive_reads fun _ _ =>
      .none (output_taken fun _ => .reply)
  | dd =>
    -- the length comes before the address
    exact .given positive_reads fun _ _ => .given text_reads fun _ _ => .given positive_reads fun _ _ =>
      .none (output_taken fun _ => .reply)
  | get_metadata =>
    exact .given positive_reads fun _ _ => .none (output_taken fun _ => output_taken fun _ => .reply)
  | execute_command =>
    rw [executeCommand, given_requested]
    exact .given text_reads fun _ _ => .given positive_reads fun _ _ =>
      .none (run_taken fun _ _ => spoken_taken fun _ => .reply)
  | execute_command_enhanced =>
    rw [executeCommandEnhanced, given_requested]
    exact .given text_reads fun _ _ => .given positive_reads fun _ _ => .given flag_reads fun _ _ =>
      .none (run_taken fun _ _ => .reply)
  | execute_command_streaming =>
    rw [executeCommandStreaming, given_requested]
    exact .given text_reads fun _ _ => .given positive_reads fun _ _ =>
      .none (run_taken fun _ _ => .reply)
  | for_each_module =>
    rw [forEachModule, given_requested]
    exact .given text_reads fun _ _ => .given positive_reads fun _ _ =>
      .none (run_taken fun _ _ => .reply)
  | health_check => exact .none (.look fun _ => .execute trivial fun _ => .look fun _ => .reply)
  | performance_metrics =>
    exact .none (.look fun _ => .execute trivial fun _ => .look fun _ => .reply)

theorem requestedCommand_same {args other : Members} (fallback : Nat)
    (text : args.get? "command" = other.get? "command")
    (timeout : args.get? "timeout_ms" = other.get? "timeout_ms") :
    requestedCommand args fallback = requestedCommand other fallback := by
  simp only [requestedCommand, Arguments.budget, text_same text, positive_same timeout]

theorem plans_same {name : String} {plan : Request → Plan} (member : (name, plan) ∈ plans defaultBudget)
    {r r' : Request} (same : ∀ d ∈ demands name, r.args.get? d.1 = r'.args.get? d.1) :
    plan r = plan r' := by
  cases member using plans_cases with
  | check_connection => rfl
  | version => rfl
  | lm =>
    have timeout := same ("timeout_ms", .count) (by decide)
    simp only [listModules, Arguments.budget, positive_same timeout]
  | dt =>
    have typeName := same ("type_name", .text) (by decide)
    have address := same ("address", .textOrNone) (by decide)
    have timeout := same ("timeout_ms", .count) (by decide)
    simp only [displayType, Arguments.budget, text_same typeName, text?_same address,
      positive_same timeout]
  | dd =>
    have length := same ("length", .count) (by decide)
    have address := same ("address", .text) (by decide)
    have timeout := same ("timeout_ms", .count) (by decide)
    simp only [displayMemory, Arguments.budget, positive_same length, text_same address,
      positive_same timeout]
  | get_metadata =>
    have timeout := same ("timeout_ms", .count) (by decide)
    simp only [getMetadata, Arguments.budget, positive_same timeout]
  | execute_command =>
    have asked := requestedCommand_same executeBudget (same ("command", .text) (by decide))
      (same ("timeout_ms", .count) (by decide))
    simp only [executeCommand, asked]
  | execute_command_enhanced =>
    have asked := requestedCommand_same executeBudget (same ("command", .text) (by decide))
      (same ("timeout_ms", .count) (by decide))
    have described := flag_same (same ("include_metadata", .flag) (by decide)) true
    simp only [executeCommandEnhanced, asked, described]
  | execute_command_streaming =>
    have asked := requestedCommand_same longBudget (same ("command", .text) (by decide))
      (same ("timeout_ms", .count) (by decide))
    simp only [executeCommandStreaming, asked]
  | for_each_module =>
    have asked := requestedCommand_same longBudget (same ("command", .text) (by decide))
      (same ("timeout_ms", .count) (by decide))
    simp only [forEachModule, asked]
  | health_check => rfl
  | performance_metrics => rfl

/-- A request for a built-in command is refused just where it misses what the command demands; the
refusal begins with the key of such an argument, and nothing is executed for it. What is not demanded
does not matter. -/
theorem refused_iff_missed {name : String} {plan : Request → Plan}
    (member : (name, plan) ∈ plans defaultBudget) {σ : Type} (runner : Runner σ) (d : Desk σ) :
    (Rejected ((plan r).follow runner d).1 ↔
      ∃ demand ∈ demands name, Missed r.args demand.1 demand.2) ∧
    (Rejected ((plan r).follow runner d).1 →
      (plan r).runs runner d = [] ∧ ((plan r).follow runner d).2 = d ∧
        ∃ demand ∈ demands name, Missed r.args demand.1 demand.2 ∧ ∃ rest,
          ((plan r).follow runner d).1 = .error (.invalidArguments (demand.1 ++ rest))) ∧
    ∀ r' : Request, (∀ demand ∈ demands name, r.args.get? demand.1 = r'.args.get? demand.1) →
      (plan r).runs runner d = (plan r').runs runner d ∧
        (plan r).follow runner d = (plan r').follow runner d := by
  have guarded := plans_guarded defaultBudget r member
  have missed_of_rejected (rejected : Rejected ((plan r).follow runner d).1) :
      ∃ demand ∈ demands name, Missed r.args demand.1 demand.2 := by
    refine Classical.byContradiction fun fine => ?_
    have taken := guarded.taken fun demand inside missed => fine ⟨demand, inside, missed⟩
    exact taken.follow runner d rejected
  refine ⟨⟨missed_of_rejected, fun missed => ?_⟩, fun rejected => ?_, fun r' same => ?_⟩
  · obtain ⟨demand, -, -, rest, ends⟩ := guarded.refused missed
    exact ⟨_, by rw [ends]; rfl⟩
  · obtain ⟨demand, inside, missed, rest, ends⟩ := guarded.refused (missed_of_rejected rejected)
    rw [ends]
    exact ⟨rfl, rfl, demand, inside, missed, rest, rfl⟩
  · rw [plans_same defaultBudget member same]
    exact ⟨rfl, rfl⟩

theorem refused_dd :
    let r := Request.ofCommand 1 "dd" [("address", .text "0x10"), ("length", .int 0)]
    let d : Desk (List Ending) := ⟨[], .start "session" {}⟩
    Rejected ((displayMemory 2000 r).follow Runner.told d).1 ∧
      (displayMemory 2000 r).runs Runner.told d = [] ∧
      ((displayMemory 2000 r).follow Runner.told d).2 = d := by
  intro r d
  have member : ("dd", displayMemory 2000) ∈ plans 2000 := by simp [plans]
  obtain ⟨refused, still, -⟩ := refused_iff_missed 2000 r member Runner.told d
  have rejected := refused.mpr ⟨("length", .count), by decide, .zero rfl⟩
  obtain ⟨nothing, same, -⟩ := still rejected
  exact ⟨rejected, nothing, same⟩

end Builtin

end DebugGateway
