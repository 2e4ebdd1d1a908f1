import DebugGateway.Command.Registry
import DebugGateway.Proofs.Command.WriteOnce
import Mathlib.Data.List.Induction

/-! What the readers of a shared registry are told. A reader between whose steps the registry is frozen
is told of nothing, since freezing empties the table that it goes on to read. Any other reader is told
of all that has been registered until it was told, so of all that was registered before it began. -/
namespace DebugGateway

namespace Registry

def Reading.Tells {α : Type} (answer : Reading α) (entries : List (String × α)) (q : Query) : Prop :=
  match q, answer with
  | .lookup name, .entry found => ∀ a, found = some a ↔ (name, a) ∈ entries
  | .names, .names all => all.Pairwise (· < ·) ∧ ∀ name, name ∈ all ↔ name ∈ entries.map (·.1)
  | _, _ => False

variable {α : Type} {r : Registry α}

theorem Holds.tells {entries : List (String × α)} (holds : r.Holds entries) (q : Query) :
    (q.read r.table).Tells entries q := by
  have writeOnce := holds.writeOnce
  cases q with
  | lookup name => exact writeOnce.found_iff name
  | names => exact ⟨writeOnce.sorted, writeOnce.listed_iff⟩

def Emptied (r : Registry α) : Prop := r.isFrozen = true → r.building = []

theorem emptied_empty : ({} : Registry α).Emptied := fun closed => Bool.noConfusion closed

theorem Emptied.call (emptied : r.Emptied) (c : Call α) : (r.call c).2.Emptied := by
  cases c with
  | register name a =>
    rcases call_register r name a with ⟨e, told⟩ | ⟨_, _, told⟩
    · rw [told]
      exact emptied
    · rw [told]
      exact nofun
  | freeze =>
    obtain ⟨building, frozen⟩ := r
    cases frozen with
    | none => exact fun _ => rfl
    | some t => exact emptied
  | lookup name => exact emptied
  | names => exact emptied

end Registry

namespace Shared

open Registry (Query Reading)

variable {α : Type}

def entries (events : List (Event α)) : List (String × α) :=
  events.filterMap fun
    | .registered name a => some (name, a)
    | _ => none

def Event.isFreeze : Event α → Bool
  | .frozen => true
  | _ => false

/-- The registry was frozen between the steps of a reader that began after `before` and was told after
`between`. -/
def overtaken (before between : List (Event α)) : Bool :=
  !before.any Event.isFreeze && between.any Event.isFreeze

theorem entries_append (first second : List (Event α)) :
    entries (first ++ second) = entries first ++ entries second := List.filterMap_append

/-! ## One event -/

section Steps

variable {s next : Shared α} {e : Event α}

theorem Step.calls (step : Step s e next) : ∃ c : Registry.Call α,
    next.registry = (s.registry.call c).2 ∧
      Registry.entered c (s.registry.call c).1 = entries [e] ∧ (c = .freeze ↔ e.isFreeze = true) := by
  cases step with
  | @registered name a registry taken =>
    refine ⟨.register name a, ?_, ?_, by simp [Event.isFreeze]⟩ <;>
      simp [Registry.call, Registry.perform, taken, Except.map, Registry.entered, entries]
  | @refused name a cause refused =>
    refine ⟨.register name a, ?_, ?_, by simp [Event.isFreeze]⟩ <;>
      simp [Registry.call, Registry.perform, refused, Except.map, Registry.entered, entries]
  | frozen => exact ⟨.freeze, rfl, rfl, by simp [Event.isFreeze]⟩
  | began | told => exact ⟨.names, rfl, rfl, by simp [Event.isFreeze]⟩

theorem Step.keeps_reader (step : Step s e next) {i : Nat} {reader : Registry.Reader α}
    (reading : s.readers i = some reader) (pending : ∀ answer, e ≠ .told i answer) :
    next.readers i = some reader := by
  cases step with
  | registered | refused | frozen => exact reading
  | @began j q free =>
    have other : i ≠ j := by
      rintro rfl
      rw [reading] at free
      cases free
    exact (if_neg other).trans reading
  | @told j reader' _ =>
    have other : i ≠ j := by
      rintro rfl
      exact pending _ rfl
    exact (if_neg other).trans reading

end Steps

/-! ## Runs -/

section Runs

variable {start fin : Shared α} {events rest : List (Event α)} {e : Event α}

theorem Run.none (run : Run start [] fin) : fin = start := by
  generalize whole : ([] : List (Event α)) = all at run
  cases run with
  | nil => rfl
  | snoc => simp at whole

theorem Run.last (run : Run start (events ++ [e]) fin) : ∃ s, Run start events s ∧ Step s e fin := by
  generalize whole : events ++ [e] = all at run
  cases run with
  | nil => simp at whole
  | snoc run step =>
    obtain ⟨rfl, same⟩ := List.append_inj' whole rfl
    cases same
    exact ⟨_, run, step⟩

theorem Run.middle (run : Run start (events ++ rest) fin) :
    ∃ mid, Run start events mid ∧ Run mid rest fin := by
  induction rest using List.reverseRecOn generalizing fin with
  | nil =>
    rw [List.append_nil] at run
    exact ⟨fin, run, .nil⟩
  | append_singleton rest e ih =>
    rw [← List.append_assoc] at run
    obtain ⟨s, before, step⟩ := run.last
    obtain ⟨mid, first, second⟩ := ih before
    exact ⟨mid, first, second.snoc step⟩

theorem Run.first (run : Run start (e :: rest) fin) : ∃ next, Step start e next ∧ Run next rest fin := by
  have split : Run start ([e] ++ rest) fin := run
  obtain ⟨next, one, others⟩ := split.middle
  have last : Run start ([] ++ [e]) next := one
  obtain ⟨s, nothing, step⟩ := last.last
  obtain rfl := nothing.none
  exact ⟨next, step, others⟩

theorem Run.keeps_reader (run : Run start events fin) {i : Nat} {reader : Registry.Reader α}
    (reading : start.readers i = some reader) (pending : ∀ answer, .told i answer ∉ events) :
    fin.readers i = some reader := by
  induction run with
  | nil => exact reading
  | snoc _ step ih =>
    simp only [List.mem_append, List.mem_singleton, not_or] at pending
    exact step.keeps_reader (ih fun answer => (pending answer).1) fun answer =>
      Ne.symm (pending answer).2

theorem Run.holds {before : List (String × α)} (run : Run start events fin)
    (holds : start.registry.Holds before) : fin.registry.Holds (before ++ entries events) := by
  induction run with
  | nil => simpa [entries] using holds
  | snoc _ step ih =>
    obtain ⟨c, same, entered, _⟩ := step.calls
    rw [entries_append, ← List.append_assoc, ← entered, same]
    exact ih.call c

theorem Run.emptied (run : Run start events fin) (emptied : start.registry.Emptied) :
    fin.registry.Emptied := by
  induction run with
  | nil => exact emptied
  | snoc _ step ih =>
    obtain ⟨c, same, _⟩ := step.calls
    rw [same]
    exact ih.call c

theorem Run.frozen_iff (run : Run start events fin) :
    fin.registry.isFrozen = (start.registry.isFrozen || events.any Event.isFreeze) := by
  induction run with
  | nil => simp
  | snoc _ step ih =>
    obtain ⟨c, same, _, freezes⟩ := step.calls
    rw [Bool.eq_iff_iff, same, Registry.isFrozen_call, ih, freezes]
    simp [or_assoc]

theorem Run.frozen_same (run : Run start events fin) (closed : start.registry.isFrozen = true) :
    fin.registry = start.registry := by
  induction run with
  | nil => rfl
  | snoc _ step ih =>
    obtain ⟨c, same, _⟩ := step.calls
    rw [same, Registry.call_frozen (ih.symm ▸ closed), ih]

end Runs

/-! ## Readers -/

theorem endReading_frozen {r r' : Registry α} (closed : r.isFrozen = true) (q : Query) :
    r'.endReading (r.beginReading q) = q.read r.table := by
  obtain ⟨building, frozen⟩ := r
  cases frozen with
  | none => cases closed
  | some t => rfl

/-- A reader that finds the registry open reads what is then under construction. -/
theorem endReading_open {r r' : Registry α} (isOpen : r.isFrozen = false) (q : Query) :
    r'.endReading (r.beginReading q) = q.read r'.building := by
  obtain ⟨building, frozen⟩ := r
  cases frozen with
  | none => rfl
  | some t => cases isOpen

section Told

variable {before between rest : List (Event α)} {i : Nat} {q : Query} {answer : Reading α} {s : Shared α}

/-- The answer of a reader comes from the registry as it found it and the registry as it left it. -/
theorem Run.told (run : Run {} (before ++ .began i q :: (between ++ .told i answer :: rest)) s)
    (pending : ∀ other, .told i other ∉ between) : ∃ found started left : Shared α,
      Run {} before found ∧ started.registry = found.registry ∧ Run started between left ∧
        answer = left.registry.endReading (found.registry.beginReading q) := by
  obtain ⟨found, begun, run⟩ := run.middle
  obtain ⟨started, began, run⟩ := run.first
  obtain ⟨left, meanwhile, run⟩ := run.middle
  obtain ⟨next, told, _⟩ := run.first
  have same : started.registry = found.registry ∧
      started.readers i = some (found.registry.beginReading q) := by
    cases began
    exact ⟨rfl, if_pos rfl⟩
  have reading := meanwhile.keeps_reader same.2 pending
  refine ⟨found, started, left, begun, same.1, meanwhile, ?_⟩
  cases told with
  | told here =>
    cases reading.symm.trans here
    rfl

/-- A reader is told of just the entries that were registered before it was told, whether it began
before or after the registry was frozen, unless the registry was frozen between its two steps: then it
is told of nothing. -/
theorem readers_told (run : Run {} (before ++ .began i q :: (between ++ .told i answer :: rest)) s)
    (pending : ∀ other, .told i other ∉ between) :
    (overtaken before between = false → answer.Tells (entries (before ++ between)) q) ∧
      (overtaken before between = true → answer = q.read []) := by
  obtain ⟨found, started, left, begun, same, meanwhile, answered⟩ := run.told pending
  have holds := begun.holds Registry.holds_empty
  have later := meanwhile.holds (same.symm ▸ holds)
  rw [List.nil_append, ← entries_append] at later
  have closed := begun.frozen_iff
  have closed' := meanwhile.frozen_iff
  rw [same, closed] at closed'
  simp only [Registry.isFrozen, Option.isSome_none, Bool.false_or] at closed closed'
  cases frozen : before.any Event.isFreeze with
  | true =>
    -- what the reader sees first is the table for good
    rw [frozen] at closed
    have table : left.registry = found.registry := by
      rw [meanwhile.frozen_same (same.symm ▸ closed), same]
    rw [answered, endReading_frozen closed, ← table]
    exact ⟨fun _ => later.tells q, by simp [overtaken, frozen]⟩
  | false =>
    rw [frozen] at closed closed'
    rw [answered, endReading_open closed]
    cases overtakes : between.any Event.isFreeze with
    | true =>
      have emptied := meanwhile.emptied (same.symm ▸ begun.emptied Registry.emptied_empty)
      rw [emptied (closed'.trans overtakes)]
      exact ⟨by simp [overtaken, frozen, overtakes], fun _ => rfl⟩
    | false =>
      have stillOpen : left.registry.frozen = none := by simpa [overtakes] using closed'
      have table : left.registry.building = left.registry.table := by
        rw [Registry.table, stillOpen, Option.getD_none]
      rw [table]
      exact ⟨fun _ => later.tells q, by simp [overtaken, overtakes]⟩

end Told

theorem lm_registered : Run ({} : Shared Nat) [.registered "lm" 1]
    { registry := ⟨[("lm", 1)], none⟩ } :=
  Run.nil.snoc (.registered rfl)

/-- Two readers who begin once a command has been registered, and whom a freeze overtakes. -/
theorem overtaken_run : ∃ s, Run ({} : Shared Nat)
    [.registered "lm" 1, .began 0 (.lookup "lm"), .began 1 .names, .frozen, .told 0 (.entry none),
      .told 1 (.names [])] s := by
  have began := (lm_registered.snoc (.began (i := 0) (q := .lookup "lm") rfl)).snoc
    (.began (i := 1) (q := .names) rfl)
  have told := ((began.snoc .frozen).snoc (.told (i := 0) rfl)).snoc (.told (i := 1) rfl)
  exact ⟨_, told⟩

/-- A reader whom nothing overtakes is told even of what is registered while it reads; one whom a freeze
overtakes is told of nothing. -/
theorem readers_told_dt :
    (Reading.entry (some 2)).Tells [("lm", 1), ("dt", 2)] (.lookup "dt") ∧
      (Reading.entry (none : Option Nat)) = Query.read [] (.lookup "lm") := by
  have began := lm_registered.snoc (.began (i := 0) (q := .lookup "dt") rfl)
  have told := (began.snoc (@Step.registered Nat _ "dt" 2 _ rfl)).snoc (.told (i := 0) rfl)
  obtain ⟨s, overtaken⟩ := overtaken_run
  exact ⟨(@readers_told Nat [.registered "lm" 1] [.registered "dt" 2] [] 0 _ _ _ told (by simp)).1 rfl,
    (@readers_told Nat [.registered "lm" 1] [.began 1 .names, .frozen] [.told 1 (.names [])] 0 _ _ _
      overtaken (by simp)).2 rfl⟩

/-- A command that was registered before a reader began may be kept from it, whether it asks for the
command or for all names. -/
theorem registered_unanswered :
    (¬ ∀ (before between rest : List (Event Nat)) (i : Nat) (name : String) (a : Nat)
        (answer : Reading Nat) (s : Shared Nat),
      Run {} (before ++ .began i (.lookup name) :: (between ++ .told i answer :: rest)) s →
        (∀ other, .told i other ∉ between) → .registered name a ∈ before →
          answer = .entry (some a)) ∧
    ¬ ∀ (before between rest : List (Event Nat)) (i : Nat) (name : String) (a : Nat)
        (names : List String) (s : Shared Nat),
      Run {} (before ++ .began i .names :: (between ++ .told i (.names names) :: rest)) s →
        (∀ other, .told i other ∉ between) → .registered name a ∈ before → name ∈ names := by
  obtain ⟨s, run⟩ := overtaken_run
  constructor
  · intro found
    have answered := found [.registered "lm" 1] [.began 1 .names, .frozen] [.told 1 (.names [])] 0
      "lm" 1 (.entry none) s run (by simp) (by simp)
    cases answered
  · intro named
    have listed := named [.registered "lm" 1, .began 0 (.lookup "lm")] [.frozen, .told 0 (.entry none)]
      [] 1 "lm" 1 [] s run (by simp) (by simp)
    cases listed

end Shared

end DebugGateway
