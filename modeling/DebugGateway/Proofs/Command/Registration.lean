import DebugGateway.Command.Registry

namespace DebugGateway

namespace Table

variable {α : Type}

theorem get?_add_self {t : Table α} {name : String} {a : α} (fresh : t.get? name = none) :
    (t.add name a).get? name = some a := by
  induction t with
  | nil => simp [add, get?]
  | cons entry rest ih =>
    obtain ⟨n, b⟩ := entry
    unfold add
    split
    · simp [get?]
    · cases same : name == n with
      | true => simp [get?, List.lookup_cons, same] at fresh
      | false =>
        have fresh' : get? rest name = none := by simpa [get?, List.lookup_cons, same] using fresh
        simpa [get?, List.lookup_cons, same] using ih fresh'

theorem get?_add_other {t : Table α} {name other : String} {a : α} (distinct : other ≠ name) :
    (t.add name a).get? other = t.get? other := by
  have miss : (other == name) = false := by simpa using distinct
  induction t with
  | nil => simp [add, get?, List.lookup_cons, miss]
  | cons entry rest ih =>
    obtain ⟨n, b⟩ := entry
    unfold add
    split
    · simp [get?, List.lookup_cons, miss]
    · cases same : other == n with
      | true => simp [get?, List.lookup_cons, same]
      | false => simpa [get?, List.lookup_cons, same] using ih

end Table

namespace Registry

variable {α : Type}

inductive Operation (α : Type) where
  | register (name : String) (a : α)
  | freeze
deriving Repr

def perform (r : Registry α) : Operation α → Registry α
  | .register name a =>
    match r.register name a with
    | .ok r => r
    | .error _ => r
  | .freeze => r.freeze

def after (operations : List (Operation α)) : Registry α := operations.foldl perform {}

/-- What operations register under a name: the first registration counts, and none that comes after
the registry is closed; a name of blanks is never registered. -/
def registered (name : String) : List (Operation α) → Option α
  | [] => none
  | .freeze :: _ => none
  | .register n a :: rest =>
    if n = name ∧ Text.isAllBlank n = false then some a else registered name rest

theorem registered_blank {name : String} (blank : Text.isAllBlank name = true)
    (operations : List (Operation α)) : registered name operations = none := by
  induction operations with
  | nil => rfl
  | cons operation rest ih =>
    cases operation with
    | freeze => rfl
    | register n a =>
      have refused : ¬ (n = name ∧ Text.isAllBlank n = false) := by
        rintro ⟨rfl, more⟩
        rw [blank] at more
        cases more
      rw [registered, if_neg refused, ih]

theorem perform_frozen {r : Registry α} (closed : r.isFrozen = true) (operation : Operation α) :
    r.perform operation = r := by
  cases operation with
  | register name a =>
    unfold perform register
    by_cases blank : Text.isAllBlank name = true <;> simp [blank, closed]
  | freeze =>
    obtain ⟨building, frozen⟩ := r
    cases frozen with
    | none => cases closed
    | some t => rfl

theorem foldl_frozen {r : Registry α} (closed : r.isFrozen = true)
    (operations : List (Operation α)) : operations.foldl perform r = r := by
  induction operations with
  | nil => rfl
  | cons operation rest ih => rw [List.foldl_cons, perform_frozen closed, ih]

theorem lookup_open (t : Table α) (name : String) :
    lookup { building := t, frozen := none } name = t.get? name := rfl

theorem perform_register_open (t : Table α) (n : String) (a : α) :
    perform { building := t, frozen := none } (.register n a) =
      if Text.isAllBlank n = true ∨ (t.get? n).isSome = true then { building := t, frozen := none }
      else { building := t.add n a, frozen := none } := by
  unfold perform register
  by_cases blank : Text.isAllBlank n = true
  · simp [blank]
  · by_cases taken : (t.get? n).isSome = true
    · simp [blank, taken, isFrozen]
    · simp [blank, taken, isFrozen]

/-- A lookup in an open registry, operations later: what stood there, else what they register. -/
theorem lookup_foldl (operations : List (Operation α)) (t : Table α) (name : String) :
    (operations.foldl perform { building := t, frozen := none }).lookup name =
      (t.get? name).or (registered name operations) := by
  induction operations generalizing t with
  | nil => cases found : t.get? name <;> simp [registered, lookup_open, found]
  | cons operation rest ih =>
    cases operation with
    | freeze =>
      rw [List.foldl_cons, foldl_frozen rfl]
      have closed : lookup (perform { building := t, frozen := none } .freeze) name = t.get? name := rfl
      rw [closed, registered, Option.or_none]
    | register n a =>
      rw [List.foldl_cons, perform_register_open]
      by_cases refused : Text.isAllBlank n = true ∨ (t.get? n).isSome = true
      · rw [if_pos refused, ih]
        cases found : t.get? name with
        | some b => rfl
        | none =>
          have skipped : ¬ (n = name ∧ Text.isAllBlank n = false) := by
            rintro ⟨rfl, more⟩
            rcases refused with blank | taken
            · rw [more] at blank; cases blank
            · rw [found] at taken; cases taken
          rw [registered, if_neg skipped]
      · rw [if_neg refused, ih]
        have named : Text.isAllBlank n = false := by
          cases blank : Text.isAllBlank n with
          | false => rfl
          | true => exact absurd (.inl blank) refused
        have fresh : t.get? n = none := by
          cases found : t.get? n with
          | none => rfl
          | some b => exact absurd (.inr (by rw [found]; rfl)) refused
        by_cases same : n = name
        · subst same
          rw [Table.get?_add_self fresh, fresh, registered, if_pos ⟨rfl, named⟩]
          rfl
        · rw [Table.get?_add_other (Ne.symm same), registered, if_neg fun both => same both.1]

theorem lookup_after (operations : List (Operation α)) (name : String) :
    (after operations).lookup name = registered name operations := by
  have h := lookup_foldl operations [] name
  exact h

end Registry

end DebugGateway
