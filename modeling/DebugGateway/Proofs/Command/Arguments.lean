import DebugGateway.Command.Builtin

namespace DebugGateway.Arguments

open Json

variable {args : Members} {key : String}

def LeftOut (args : Members) (key : String) : Prop :=
  args.get? key = none ∨ args.get? key = some .null

/-- The argument is a text of more than blanks; `s` is the text without the blanks at its ends. -/
def HasText (args : Members) (key s : String) : Prop :=
  ∃ given, args.get? key = some (.text given) ∧ Text.isAllBlank given = false ∧ s = Text.trim given

def MayHaveText (args : Members) (key : String) : Prop :=
  LeftOut args key ∨ ∃ given, args.get? key = some (.text given)

def MayHaveCount (args : Members) (key : String) : Prop :=
  LeftOut args key ∨
    ∃ n : Nat, args.get? key = some (.int n) ∧ 0 < n ∧ n ≤ CommandError.greatestBudget

def MayHaveFlag (args : Members) (key : String) : Prop :=
  LeftOut args key ∨ ∃ b, args.get? key = some (.bool b)

def Refuses {α : Type} (x : Except CommandError α) : Prop :=
  ∀ e, x = .error e → ∃ m, e = .invalidArguments m

/-! ## Texts -/

theorem text?_refuses : Refuses (text? args key) := by
  intro e refused
  unfold text? at refused
  split at refused
  · cases refused
  · cases refused
  · cases refused
  · exact ⟨_, (Except.error.inj refused).symm⟩

theorem text_refuses : Refuses (text args key) := by
  intro e refused
  unfold text at refused
  split at refused
  · cases refused
  · exact ⟨_, (Except.error.inj refused).symm⟩
  · rename_i e' inner
    cases refused
    exact text?_refuses e inner

theorem text?_eq_some_iff {s : String} : text? args key = .ok (some s) ↔ HasText args key s := by
  unfold text? HasText
  cases stands : args.get? key with
  | none => simp
  | some v =>
    cases v with
    | text given =>
      cases blank : Text.isAllBlank given with
      | true => simp [blank]
      | false =>
        dsimp only
        rw [blank, if_neg Bool.false_ne_true]
        constructor
        · intro read
          exact ⟨given, rfl, blank, (Option.some.inj (Except.ok.inj read)).symm⟩
        · rintro ⟨_, same, _, rfl⟩
          cases same
          rfl
    | _ => simp

theorem text_eq_ok_iff {s : String} : text args key = .ok s ↔ HasText args key s := by
  rw [← text?_eq_some_iff]
  unfold text
  rcases text? args key with e | (_ | s') <;> simp

theorem MayHaveText.read (may : MayHaveText args key) : ∃ s?, text? args key = .ok s? := by
  unfold text?
  rcases may with (absent | null) | ⟨given, stands⟩
  · exact ⟨none, by rw [absent]⟩
  · exact ⟨none, by rw [null]⟩
  · exact ⟨_, by rw [stands]⟩

/-! ## Counts -/

theorem count?_refuses : Refuses (count? args key) := by
  intro e refused
  unfold count? at refused
  split at refused
  · cases refused
  · cases refused
  · split at refused
    · cases refused
    · exact ⟨_, (Except.error.inj refused).symm⟩

theorem positive_refuses {fallback : Nat} : Refuses (positive args key fallback) := by
  intro e refused
  unfold positive at refused
  split at refused
  · split at refused
    · exact ⟨_, (Except.error.inj refused).symm⟩
    · cases refused
  · cases refused
  · rename_i e' inner
    cases refused
    exact count?_refuses e inner

theorem positive_given {n fallback : Nat} (stands : args.get? key = some (.int n)) (some : 0 < n) :
    positive args key fallback = .ok n := by
  have number : (Value.int n).asNat? = .some n := rfl
  simp [positive, count?, stands, number, Nat.ne_of_gt some]

/-- The count that an argument stands for: the one given, or where it is left out the fallback. -/
def StandsFor (args : Members) (key : String) (fallback n : Nat) : Prop :=
  (LeftOut args key ∧ n = fallback) ∨ (args.get? key = some (.int n) ∧ 0 < n)

theorem StandsFor.read {n fallback : Nat} (stands : StandsFor args key fallback n) :
    positive args key fallback = .ok n := by
  rcases stands with ⟨absent | null, rfl⟩ | ⟨given, some⟩
  · rw [positive, count?, absent]
  · rw [positive, count?, null]
  · exact positive_given given some

theorem MayHaveCount.stands (may : MayHaveCount args key) (fallback : Nat) :
    ∃ n, StandsFor args key fallback n ∧
      (fallback ≤ CommandError.greatestBudget → n ≤ CommandError.greatestBudget) := by
  rcases may with out | ⟨n, given, some, small⟩
  · exact ⟨fallback, .inl ⟨out, rfl⟩, id⟩
  · exact ⟨n, .inr ⟨given, some⟩, fun _ => small⟩

theorem MayHaveCount.read (may : MayHaveCount args key) {fallback : Nat}
    (stated : fallback ≤ CommandError.greatestBudget) :
    ∃ n, positive args key fallback = .ok n ∧ n ≤ CommandError.greatestBudget := by
  obtain ⟨n, stands, small⟩ := may.stands fallback
  exact ⟨n, stands.read, small stated⟩

/-! ## Flags -/

theorem flag_refuses {fallback : Bool} : Refuses (flag args key fallback) := by
  intro e refused
  unfold flag at refused
  split at refused
  · cases refused
  · cases refused
  · cases refused
  · exact ⟨_, (Except.error.inj refused).symm⟩

theorem MayHaveFlag.read (may : MayHaveFlag args key) (fallback : Bool) :
    ∃ b, flag args key fallback = .ok b := by
  unfold flag
  rcases may with (absent | null) | ⟨b, stands⟩
  · exact ⟨fallback, by rw [absent]⟩
  · exact ⟨fallback, by rw [null]⟩
  · exact ⟨b, by rw [stands]⟩

end DebugGateway.Arguments

namespace DebugGateway.Builtin

open Arguments

variable {args : Json.Members} {fallback : Nat}

theorem requestedCommand_refuses : Refuses (requestedCommand args fallback) := by
  intro e refused
  unfold requestedCommand at refused
  split at refused
  · cases budget : Arguments.budget args fallback with
    | ok n =>
      rw [budget] at refused
      cases refused
    | error e' =>
      rw [budget] at refused
      cases refused
      exact positive_refuses e budget
  · rename_i e' inner
    cases refused
    exact text_refuses e inner

theorem requestedCommand_text {command : String} {requested : Nat}
    (read : requestedCommand args fallback = .ok (command, requested)) :
    HasText args "command" command := by
  unfold requestedCommand at read
  split at read
  · rename_i given text
    cases budget : Arguments.budget args fallback with
    | ok n =>
      rw [budget] at read
      cases read
      exact text_eq_ok_iff.mp text
    | error e =>
      rw [budget] at read
      cases read
  · cases read

theorem requestedCommand_stands {command : String} {requested : Nat}
    (text : HasText args "command" command)
    (budget : StandsFor args "timeout_ms" fallback requested) :
    requestedCommand args fallback = .ok (command, requested) := by
  rw [requestedCommand, text_eq_ok_iff.mpr text, Arguments.budget, budget.read]
  rfl

theorem requestedCommand_read {command : String} (text : HasText args "command" command)
    (budget : MayHaveCount args "timeout_ms") (stated : fallback ≤ CommandError.greatestBudget) :
    ∃ requested, requestedCommand args fallback = .ok (command, requested) ∧
      requested ≤ CommandError.greatestBudget := by
  obtain ⟨requested, stands, small⟩ := budget.stands fallback
  exact ⟨requested, requestedCommand_stands text stands, small stated⟩

end DebugGateway.Builtin
