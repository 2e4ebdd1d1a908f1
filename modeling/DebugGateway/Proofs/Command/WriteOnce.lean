import DebugGateway.Proofs.Command.Registration

namespace DebugGateway

namespace Table

variable {α : Type} {t : Table α} {name : String} {a : α}

theorem add_perm (t : Table α) (name : String) (a : α) : (t.add name a).Perm ((name, a) :: t) := by
  induction t with
  | nil => exact .refl _
  | cons entry rest ih =>
    unfold add
    split
    · exact .refl _
    · exact (ih.cons entry).trans (.swap _ _ _)

theorem mem_add {entry : String × α} : entry ∈ t.add name a ↔ entry = (name, a) ∨ entry ∈ t := by
  rw [(add_perm t name a).mem_iff, List.mem_cons]

theorem add_ascending (ascending : t.Pairwise (·.1 < ·.1)) (fresh : name ∉ t.names) :
    (t.add name a).Pairwise (·.1 < ·.1) := by
  induction t with
  | nil => exact List.pairwise_singleton _ _
  | cons entry rest ih =>
    obtain ⟨least, rest_ascending⟩ := List.pairwise_cons.mp ascending
    simp only [names, List.map_cons, List.mem_cons, not_or] at fresh
    unfold add
    split
    · rename_i before
      apply List.Pairwise.cons _ ascending
      intro other member
      rcases List.mem_cons.mp member with rfl | later
      · exact before
      · exact String.lt_trans before (least other later)
    · rename_i behind
      apply List.Pairwise.cons _ (ih rest_ascending fresh.2)
      intro other member
      rcases mem_add.mp member with rfl | later
      · exact Std.lt_of_le_of_ne (String.not_lt.mp behind) (Ne.symm fresh.1)
      · exact least other later

theorem names_nodup (ascending : t.Pairwise (·.1 < ·.1)) : t.names.Nodup := by
  refine List.pairwise_map.mpr (ascending.imp fun {e f} before same => ?_)
  exact String.lt_irrefl f.1 (same ▸ before)

theorem get?_eq_some_iff (once : t.names.Nodup) : t.get? name = some a ↔ (name, a) ∈ t := by
  induction t with
  | nil => simp [get?]
  | cons entry rest ih =>
    obtain ⟨n, b⟩ := entry
    simp only [names, List.map_cons, List.nodup_cons] at once
    by_cases here : name = n
    · subst here
      have elsewhere : (name, a) ∉ rest := fun there => once.1 (List.mem_map_of_mem there)
      simp [get?, elsewhere, eq_comm]
    · have other : (name == n) = false := beq_eq_false_iff_ne.mpr here
      have found : get? ((n, b) :: rest) name = get? rest name := by
        simp [get?, List.lookup_cons, other]
      simp [found, here, ih once.2]

theorem get?_isSome_iff : (t.get? name).isSome = true ↔ name ∈ t.names := by
  rw [get?, List.lookup_isSome_iff, names, List.mem_map]
  constructor
  · rintro ⟨entry, member, same⟩
    exact ⟨entry, member, (beq_iff_eq.mp same).symm⟩
  · rintro ⟨entry, member, same⟩
    exact ⟨entry, member, beq_iff_eq.mpr same.symm⟩

end Table

namespace Registry

variable {α : Type}

inductive Call (α : Type) where
  | register (name : String) (a : α)
  | freeze
  | lookup (name : String)
  | names
deriving Repr

inductive Answer (α : Type) where
  | registered (outcome : Except RegistryError Unit)
  | closed
  | found (entry : Option α)
  | listed (names : List String)
deriving Repr

def call (r : Registry α) : Call α → Answer α × Registry α
  | .register name a =>
    (.registered ((r.register name a).map fun _ => ()), r.perform (.register name a))
  | .freeze => (.closed, r.perform .freeze)
  | .lookup name => (.found (r.lookup name), r)
  | .names => (.listed r.names, r)

def through (r : Registry α) (calls : List (Call α)) : Registry α :=
  calls.foldl (fun r c => (r.call c).2) r

def entered : Call α → Answer α → List (String × α)
  | .register name a, .registered (.ok ()) => [(name, a)]
  | _, _ => []

def accepted (r : Registry α) : List (Call α) → List (String × α)
  | [] => []
  | c :: calls => entered c (r.call c).1 ++ accepted (r.call c).2 calls

/-! ## One call -/

theorem register_cases (r : Registry α) (name : String) (a : α) :
    (Text.isAllBlank name = true ∧ r.register name a = .error .emptyName) ∨
    (Text.isAllBlank name = false ∧ r.isFrozen = true ∧ r.register name a = .error (.frozen name)) ∨
    (Text.isAllBlank name = false ∧ r.isFrozen = false ∧ name ∈ r.names ∧
      r.register name a = .error (.duplicate name)) ∨
    (Text.isAllBlank name = false ∧ r.isFrozen = false ∧ name ∉ r.names ∧
      r.register name a = .ok { building := r.building.add name a, frozen := none }) := by
  obtain ⟨building, frozen⟩ := r
  cases blank : Text.isAllBlank name with
  | true => simp [register, blank]
  | false =>
    cases frozen with
    | some t => simp [register, blank, isFrozen]
    | none =>
      by_cases taken : (building.get? name).isSome = true
      · have listed := Table.get?_isSome_iff.mp taken
        simp [register, blank, isFrozen, names, table, taken, listed]
      · have unlisted := mt Table.get?_isSome_iff.mpr taken
        simp [register, blank, isFrozen, names, table, taken, unlisted]

/-- A registration is refused and changes nothing, or it adds a new name to an open table. -/
theorem call_register (r : Registry α) (name : String) (a : α) :
    (∃ e, r.call (.register name a) = (.registered (.error e), r)) ∨
    (r.frozen = none ∧ name ∉ r.names ∧
      r.call (.register name a) = (.registered (.ok ()), ⟨r.building.add name a, none⟩)) := by
  unfold call perform
  rcases register_cases r name a with
    ⟨_, told⟩ | ⟨_, _, told⟩ | ⟨_, _, _, told⟩ | ⟨_, isOpen, fresh, told⟩
  · exact .inl ⟨.emptyName, by simp [told, Except.map]⟩
  · exact .inl ⟨.frozen name, by simp [told, Except.map]⟩
  · exact .inl ⟨.duplicate name, by simp [told, Except.map]⟩
  · have unfrozen : r.frozen = none := by simpa [isFrozen] using isOpen
    exact .inr ⟨unfrozen, fresh, by simp [told, Except.map]⟩

theorem isFrozen_call (r : Registry α) (c : Call α) :
    (r.call c).2.isFrozen = true ↔ r.isFrozen = true ∨ c = .freeze := by
  cases c with
  | register name a =>
    rcases call_register r name a with ⟨e, told⟩ | ⟨isOpen, _, told⟩
    · simp [told]
    · simp [told, isFrozen, isOpen]
  | freeze =>
    obtain ⟨building, frozen⟩ := r
    cases frozen <;> simp [call, perform, freeze, isFrozen]
  | lookup name => simp [call]
  | names => simp [call]

theorem table_freeze (r : Registry α) : r.freeze.table = r.table := by
  obtain ⟨building, frozen⟩ := r
  cases frozen <;> rfl

theorem isFrozen_freeze (r : Registry α) : r.freeze.isFrozen = true := by
  obtain ⟨building, frozen⟩ := r
  cases frozen <;> rfl

theorem call_frozen {r : Registry α} (closed : r.isFrozen = true) (c : Call α) :
    (r.call c).2 = r := by
  cases c with
  | register name a => exact perform_frozen closed (.register name a)
  | freeze => exact perform_frozen closed .freeze
  | lookup name => rfl
  | names => rfl

theorem through_frozen {r : Registry α} (closed : r.isFrozen = true) (calls : List (Call α)) :
    r.through calls = r := by
  induction calls with
  | nil => rfl
  | cons c calls ih =>
    show (r.call c).2.through calls = r
    rw [call_frozen closed, ih]

structure Holds (r : Registry α) (entries : List (String × α)) : Prop where
  ascending : r.table.Pairwise (·.1 < ·.1)
  perm : r.table.Perm entries

theorem holds_empty : Holds ({} : Registry α) [] := ⟨.nil, .refl _⟩

theorem Holds.call {r : Registry α} {entries : List (String × α)} (holds : r.Holds entries)
    (c : Call α) : (r.call c).2.Holds (entries ++ entered c (r.call c).1) := by
  have unchanged : r.Holds (entries ++ []) := by simpa using holds
  cases c with
  | register name a =>
    rcases call_register r name a with ⟨e, told⟩ | ⟨isOpen, fresh, told⟩
    · rw [told]
      exact unchanged
    · have building : r.table = r.building := by rw [table, isOpen, Option.getD_none]
      obtain ⟨ascending, perm⟩ := holds
      rw [names, building] at fresh
      rw [building] at ascending perm
      rw [told]
      constructor
      · exact Table.add_ascending ascending fresh
      · calc
          (r.building.add name a).Perm ((name, a) :: r.building) := Table.add_perm _ _ _
          _ |>.Perm ((name, a) :: entries) := perm.cons _
          _ |>.Perm (entries ++ [(name, a)]) := (List.perm_append_singleton _ _).symm
  | freeze =>
    have state : (r.call .freeze).2.table = r.table := table_freeze r
    constructor
    · rw [state]
      exact holds.ascending
    · rw [state]
      exact unchanged.perm
  | lookup name => exact unchanged
  | names => exact unchanged

/-! ## Any calls -/

theorem Holds.through {r : Registry α} {entries : List (String × α)} (holds : r.Holds entries)
    (calls : List (Call α)) : (r.through calls).Holds (entries ++ r.accepted calls) := by
  induction calls generalizing r entries with
  | nil => simpa [Registry.through, accepted] using holds
  | cons c calls ih =>
    have rest := ih (holds.call c)
    rwa [List.append_assoc] at rest

theorem isFrozen_through (r : Registry α) (calls : List (Call α)) :
    (r.through calls).isFrozen = true ↔ r.isFrozen = true ∨ .freeze ∈ calls := by
  induction calls generalizing r with
  | nil => simp [through]
  | cons c calls ih =>
    have rest := ih (r.call c).2
    rw [isFrozen_call, or_assoc] at rest
    rw [List.mem_cons, eq_comm (a := Call.freeze)]
    exact rest

/-- A map in which each name is written at most once, as one sees it who asks a registry: `entries` have
been written and `closed` tells whether more may be. -/
structure WriteOnce (r : Registry α) (closed : Prop) (entries : List (String × α)) : Prop where
  closed_iff : r.isFrozen = true ↔ closed
  once : (entries.map (·.1)).Nodup
  found_iff : ∀ name a, r.lookup name = some a ↔ (name, a) ∈ entries
  sorted : r.names.Pairwise (· < ·)
  listed_iff : ∀ name, name ∈ r.names ↔ name ∈ entries.map (·.1)
  emptyName_iff : ∀ name a, r.register name a = .error .emptyName ↔ Text.isAllBlank name = true
  frozen_iff : ∀ name a, r.register name a = .error (.frozen name) ↔
    Text.isAllBlank name = false ∧ closed
  duplicate_iff : ∀ name a, r.register name a = .error (.duplicate name) ↔
    Text.isAllBlank name = false ∧ ¬ closed ∧ name ∈ entries.map (·.1)
  accepted_iff : ∀ name a, (∃ next, r.register name a = .ok next) ↔
    Text.isAllBlank name = false ∧ ¬ closed ∧ name ∉ entries.map (·.1)

theorem Holds.writeOnce {r : Registry α} {entries : List (String × α)} (holds : r.Holds entries) :
    r.WriteOnce (r.isFrozen = true) entries := by
  have names_perm : r.names.Perm (entries.map (·.1)) := holds.perm.map _
  have nodup : r.names.Nodup := Table.names_nodup holds.ascending
  constructor
  · exact Iff.rfl
  · exact names_perm.nodup_iff.mp nodup
  · intro name a
    rw [← holds.perm.mem_iff]
    exact Table.get?_eq_some_iff nodup
  · exact List.pairwise_map.mpr holds.ascending
  · intro name
    exact names_perm.mem_iff
  · intro name a
    rcases register_cases r name a with ⟨_, told⟩ | ⟨_, _, told⟩ | ⟨_, _, _, told⟩ | ⟨_, _, _, told⟩ <;>
      simp [*]
  · intro name a
    rcases register_cases r name a with ⟨_, told⟩ | ⟨_, _, told⟩ | ⟨_, _, _, told⟩ | ⟨_, _, _, told⟩ <;>
      simp [*]
  · intro name a
    rw [← names_perm.mem_iff]
    rcases register_cases r name a with ⟨_, told⟩ | ⟨_, _, told⟩ | ⟨_, _, _, told⟩ | ⟨_, _, _, told⟩ <;>
      simp [*]
  · intro name a
    rw [← names_perm.mem_iff]
    rcases register_cases r name a with ⟨_, told⟩ | ⟨_, _, told⟩ | ⟨_, _, _, told⟩ | ⟨_, _, _, told⟩ <;>
      simp [*]

/-- After any calls a registry is a map in which each name is written at most once, holding what its own
answers say was registered and closed just if one of the calls closed it. A refused registration leaves
it as it is; closing it keeps every entry, and then it stays as it is whatever is asked. -/
theorem calls_write_once (calls : List (Call α)) :
    let r := ({} : Registry α).through calls
    r.WriteOnce (.freeze ∈ calls) (({} : Registry α).accepted calls) ∧
    (∀ name a e, (r.call (.register name a)).1 = .registered (.error e) →
      (r.call (.register name a)).2 = r) ∧
    (∀ name, r.freeze.lookup name = r.lookup name) ∧ r.freeze.names = r.names ∧
    r.freeze.freeze = r.freeze ∧ ∀ more, r.freeze.through more = r.freeze := by
  intro r
  have holds : r.Holds (({} : Registry α).accepted calls) := holds_empty.through calls
  have closed : r.isFrozen = true ↔ .freeze ∈ calls := by
    have none_before : ({} : Registry α).isFrozen = false := rfl
    simp [r, isFrozen_through, none_before]
  have stays := through_frozen (isFrozen_freeze r)
  refine ⟨propext closed ▸ holds.writeOnce, ?_, ?_, ?_, ?_, stays⟩
  · intro name a e refused
    rcases call_register r name a with ⟨_, told⟩ | ⟨_, _, told⟩
    · rw [told]
    · rw [told] at refused
      cases refused
  · intro name
    rw [lookup, lookup, table_freeze]
  · rw [names, names, table_freeze]
  · exact stays [.freeze]

end Registry

end DebugGateway
