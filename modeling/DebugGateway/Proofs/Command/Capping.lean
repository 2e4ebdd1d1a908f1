import DebugGateway.Proofs.Command.Variants
import DebugGateway.Proofs.Command.Verdicts
import DebugGateway.Proofs.Text.Openings

namespace DebugGateway

def capSize (note : String) : Nat := greatestOutput + ("\n... [" ++ note ++ "]").utf8ByteSize

theorem capped_size (output note : String) : (capped output note).utf8ByteSize ≤ capSize note := by
  unfold capped
  split
  · rename_i short
    exact Nat.le_trans short (Nat.le_add_right _ _)
  · have fits := (Text.fitting_longest greatestOutput output).fits
    rw [String.append_assoc, String.append_assoc, String.utf8ByteSize_append, capSize,
      String.append_assoc]
    exact Nat.add_le_add_right fits _

/-- An output is shown as it is if it fits. Else it keeps the longest opening of whole characters that
fits, which lacks no more than three bytes of the limit. The search for the end of that opening finds one
from wherever it sets out in the output, before it has gone back over more than three bytes. -/
theorem capped_longest (output note : String) :
    (output.utf8ByteSize ≤ greatestOutput → capped output note = output) ∧
    (greatestOutput < output.utf8ByteSize → ∃ opening,
      capped output note = opening ++ "\n... [" ++ note ++ "]" ∧
      Text.LongestOpening greatestOutput output opening ∧
      greatestOutput - 3 ≤ opening.utf8ByteSize) ∧
    ∀ place ≤ output.utf8ByteSize, ∃ cut, Text.cutBefore? output place = some cut ∧
      cut.offset.byteIdx ≤ place ∧ place ≤ cut.offset.byteIdx + 3 := by
  refine ⟨fun short => if_pos short, fun long => ?_, fun place inside => ?_⟩
  · have near := Text.cutBefore_near (Nat.le_of_lt long)
    refine ⟨_, if_neg (Nat.not_le_of_lt long), Text.fitting_longest greatestOutput output, ?_⟩
    rw [Text.fitting_size]
    exact Nat.sub_le_of_le_add near
  · have found := Text.cutBefore?_eq output place
    exact ⟨_, found, (Text.cutBefore?_last found).1, Text.cutBefore_near inside⟩

theorem Response.ofAnswer_output (r : Request) (text : String) :
    (Response.ofAnswer r (.ok (.ofOutput text))).toMembers.get? "output" = some (.text text) := by
  simp [Json.Members.get?, toMembers, envelope, optional, Json.Members.lookup_cons, ofAnswer, success,
    Reply.ofOutput]

namespace Plan

/-- Where no execution fails, following the plan leads to such a text of the executions. -/
structure Displays (shows : List Run → String → Prop) (plan : Plan) : Prop where
  displayed : ∀ {σ : Type} (runner : Runner σ) (d : Desk σ),
    (∀ x ∈ plan.runs runner d, ¬ x.result.Fails) →
      ∃ text, (plan.follow runner d).1 = .ok (.ofOutput text) ∧ shows (plan.runs runner d) text

variable {shows : List Run → String → Prop}

theorem Displays.reply {text : String} (shown : shows [] text) :
    Displays shows (.reply (.ofOutput text)) where
  displayed _ _ _ := ⟨text, rfl, shown⟩

theorem Displays.output {command : String} {budget : Nat} {next : String → Plan}
    (each : ∀ x : Run, Displays (fun made => shows (x :: made)) (next x.result.output)) :
    Displays shows (output command budget next) := by
  constructor
  intro σ runner d fine
  let x : Run := ⟨command, budget, (runner.attempt command budget d.world).1⟩
  have runs_eq : (Plan.output command budget next).runs runner d =
      x :: (given (x.result.outcome command budget) next).runs runner
        (d.execute runner command budget).2 := rfl
  have follow_eq : (Plan.output command budget next).follow runner d =
      (given (x.result.outcome command budget) next).follow runner
        (d.execute runner command budget).2 := rfl
  rw [runs_eq] at fine
  rw [runs_eq, follow_eq, ExecutionResult.outcome_fine (fine x List.mem_cons_self)] at *
  exact (each x).displayed runner _ fun y later => fine y (List.mem_cons_of_mem x later)

end Plan

namespace Builtin

open Plan Arguments

def inspections : List String := ["lm", "dt", "dd", "get_metadata"]

def capNote : String → Option String
  | "lm" =>
    some "Output truncated due to size limit - use more specific lm options for a full listing"
  | "get_metadata" => some "Output truncated due to size limit"
  | _ => none

def part (name : String) (x : Run) : String :=
  match capNote name with
  | some note => capped x.result.output note
  | none => x.result.output

inductive Layout (name : String) : List String → String → Prop where
  | alone {text : String} : name ≠ "get_metadata" → Layout name [text] text
  | described {target modules : String} : name = "get_metadata" →
    Layout name [target, modules]
      ("Target Information:\n" ++ target ++ "\n\nModules:\n" ++ modules)

theorem inspection_displays (defaultBudget : Nat) {r : Request} (inspects : r.command ∈ inspections)
    (valid : r.Valid) : ∃ plan, (plans defaultBudget).lookup r.command = some plan ∧
      (plan r).Displays fun made => Layout r.command (made.map (part r.command)) := by
  simp only [inspections, List.mem_cons, List.not_mem_nil, or_false] at inspects
  unfold Request.Valid at valid
  rcases inspects with name | name | name | name <;> simp only [name] at valid ⊢
  · obtain ⟨n, stands, -⟩ := valid.stands defaultBudget
    refine ⟨listModules defaultBudget, rfl, ?_⟩
    rw [listModules, Arguments.budget, stands.read]
    exact .output fun x => .reply (.alone (by decide))
  · obtain ⟨⟨typeName, named⟩, address, budget⟩ := valid
    obtain ⟨place, found⟩ := address.read
    obtain ⟨n, stands, -⟩ := budget.stands defaultBudget
    refine ⟨displayType defaultBudget, rfl, ?_⟩
    rw [displayType, text_eq_ok_iff.mpr named, found, Arguments.budget, stands.read]
    exact .output fun x => .reply (.alone (by decide))
  · obtain ⟨⟨address, located⟩, length, budget⟩ := valid
    obtain ⟨words, counted, -⟩ := length.stands defaultLength
    obtain ⟨n, stands, -⟩ := budget.stands defaultBudget
    refine ⟨displayMemory defaultBudget, rfl, ?_⟩
    rw [displayMemory, counted.read, text_eq_ok_iff.mpr located, Arguments.budget, stands.read]
    exact .output fun x => .reply (.alone (by decide))
  · obtain ⟨n, stands, -⟩ := valid.stands metadataBudget
    refine ⟨getMetadata, rfl, ?_⟩
    rw [getMetadata, Arguments.budget, stands.read]
    exact .output fun x => .output fun y => .reply (.described rfl)

/-- The four commands that look at the target, where no execution fails, show a part for each of their
executions. Two of them cap every part; the others show what was printed, however long it is. -/
theorem parts_capped {σ : Type} (runner : Runner σ) (defaultBudget : Nat) {r : Request}
    (command : r.isCommand = true) (inspects : r.command ∈ inspections) (valid : r.Valid) (d : Desk σ)
    (fine : ∀ x ∈ runs runner defaultBudget r d, ¬ x.result.Fails) :
    let made := runs runner defaultBudget r d
    ∃ parts text, Layout r.command parts text ∧
      (Dispatch.request (registry runner defaultBudget) r d).1.toMembers.get? "output" =
        some (.text text) ∧
      (∀ note, capNote r.command = some note →
        parts = made.map (fun x => capped x.result.output note) ∧
          ∀ p ∈ parts, p.utf8ByteSize ≤ capSize note) ∧
      (capNote r.command = none → parts = made.map fun x => x.result.output) := by
  intro made
  obtain ⟨plan, known, displays⟩ := inspection_displays defaultBudget inspects valid
  obtain ⟨executions, answered⟩ := request_known runner command known d
  rw [executions] at fine
  obtain ⟨text, shown, laid⟩ := displays.displayed runner d fine
  rw [← executions] at laid
  refine ⟨_, text, laid, ?_, fun note caps => ?_, fun none => ?_⟩
  · rw [answered, shown, Response.ofAnswer_output]
  · have each : part r.command = fun x => capped x.result.output note := by
      funext x
      rw [part, caps]
    refine ⟨by rw [each], fun p member => ?_⟩
    rw [each] at member
    obtain ⟨x, -, rfl⟩ := List.mem_map.mp member
    exact capped_size x.result.output note
  · have each : part r.command = fun x => x.result.output := by
      funext x
      rw [part, none]
    rw [each]

def flood : String := String.ofList (List.replicate 70000 'x')

theorem flood_size : flood.utf8ByteSize = 70000 := by
  have each (n : Nat) : (String.ofList (List.replicate n 'x')).utf8ByteSize = n := by
    induction n with
    | zero => rfl
    | succ n ih =>
      have narrow : 'x'.utf8Size = 1 := rfl
      rw [List.replicate_succ, Text.byteSize_cons, ih, narrow, Nat.add_comm]
  exact each 70000

def flooding : Runner Unit where
  attempt _ _ world := ({ result := { output := flood } }, world)
  now _ := {}

theorem flooding_fine (r : Request) (d : Desk Unit) :
    ∀ x ∈ runs flooding 10000 r d, ¬ x.result.Fails :=
  runs_each 10000 (fun _ _ _ => by simp [Run.result, flooding, ExecutionResult.Fails]) r d

theorem parts_capped_modules :
    let r := Request.ofCommand 1 "lm" []
    let d : Desk Unit := ⟨(), .start "session" {}⟩
    r.Valid ∧ ∃ text, (Dispatch.request (registry flooding 10000) r d).1.toMembers.get? "output" =
      some (.text text) ∧ text.utf8ByteSize ≤ 65627 := by
  intro r d
  have valid : r.Valid := .inl (.inl rfl)
  obtain ⟨parts, text, laid, output, caps, -⟩ :=
    parts_capped flooding 10000 rfl (by decide) valid d (flooding_fine r d)
  obtain ⟨-, small⟩ := caps _ rfl
  cases laid with
  | alone _ => exact ⟨valid, text, output, small text List.mem_cons_self⟩
  | described name => exact absurd name (by decide)

/-- It is not so that what these commands show is within the limit and a note. -/
theorem flood_uncapped : ¬ ∀ (r : Request) (d : Desk Unit) (text : String), r.isCommand = true →
    r.command ∈ ["lm", "dt", "dd"] → r.Valid →
      (Dispatch.request (registry flooding 10000) r d).1.toMembers.get? "output" = some (.text text) →
        ∃ name note, capNote name = some note ∧ text.utf8ByteSize ≤ capSize note := by
  intro capped
  let r := Request.ofCommand 1 "dt" [("type_name", .text "struct big")]
  let d : Desk Unit := ⟨(), .start "session" {}⟩
  have valid : r.Valid :=
    ⟨⟨"struct big", "struct big", rfl, by decide, by decide⟩, .inl (.inl rfl), .inl (.inl rfl)⟩
  have output : (Dispatch.request (registry flooding 10000) r d).1.toMembers.get? "output" =
      some (.text flood) := by
    have known : (plans 10000).lookup r.command = some (displayType 10000) := rfl
    obtain ⟨-, answered⟩ := request_known flooding rfl known d
    rw [answered]
    exact Response.ofAnswer_output r flood
  obtain ⟨name, note, caps, small⟩ := capped r d flood rfl (by decide) valid output
  rw [flood_size] at small
  unfold capNote at caps
  split at caps
  · cases caps
    revert small
    decide
  · cases caps
    revert small
    decide
  · cases caps

end Builtin

end DebugGateway
