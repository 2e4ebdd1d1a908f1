import DebugGateway.Proofs.Json.Members
import Mathlib.Data.List.Forall2

namespace DebugGateway.Json

namespace Members

theorem Ordered.ext {members others : Members} (ordered : members.Ordered)
    (ordered' : others.Ordered)
    (same : ∀ key, List.lookup key members = List.lookup key others) : members = others := by
  have apart {m : Members} (h : m.Ordered) : m.Nodup := by
    refine h.imp fun {a b} less same => ?_
    rw [same] at less
    exact String.lt_irrefl _ less
  have member : ∀ kv : String × Value, kv ∈ members ↔ kv ∈ others := by
    intro kv
    rw [mem_iff_lookup ordered kv.1 kv.2, mem_iff_lookup ordered' kv.1 kv.2, same]
  have perm := (List.perm_ext_iff_of_nodup (apart ordered) (apart ordered')).mpr member
  refine perm.eq_of_pairwise ?_ ordered ordered'
  intro a b _ _ less more
  exact absurd (String.lt_trans less more) (String.lt_irrefl _)

theorem lookup_ofArrivals (key : String) (given : Members) :
    List.lookup key (ofArrivals given) = List.lookup key given.reverse := by
  have last := lookup_putAll key [] given
  rwa [List.lookup_nil, Option.or_none] at last

end Members

namespace Value

inductive Keeps : Value → Value → Prop where
  | flat {v : Value} : v.depth = 0 → Keeps v v
  | list {items kept : List Value} : List.Forall₂ Keeps items kept → Keeps (.list items) (.list kept)
  | object {members kept : Members} : kept.Ordered →
    (∀ key, Option.Rel Keeps (List.lookup key members.reverse) (List.lookup key kept)) →
      Keeps (.object members) (.object kept)

theorem lookup_settledMembers (key : String) (members : Members) :
    List.lookup key (settledMembers members).reverse =
      (List.lookup key members.reverse).map settled := by
  induction members with
  | nil => rfl
  | cons kv members ih =>
    rw [settledMembers, List.reverse_cons, List.reverse_cons, List.lookup_append, List.lookup_append,
      ih, Members.lookup_cons, Members.lookup_cons]
    cases List.lookup key members.reverse with
    | some v => rfl
    | none =>
      by_cases here : key = kv.1
      · simp [here]
      · simp [here]

theorem mem_of_lookup_reverse {key : String} {v : Value} {members : Members}
    (found : List.lookup key members.reverse = some v) : (key, v) ∈ members := by
  obtain ⟨before, after, shape, _⟩ := List.lookup_eq_some_iff.mp found
  have member : (key, v) ∈ members.reverse := by simp [shape]
  exact List.mem_reverse.mp member

theorem keeps_object {members : Members}
    (each : ∀ kv ∈ members, ∀ w, Keeps kv.2 w ↔ w = kv.2.settled) (w : Value) :
    Keeps (.object members) w ↔ w = (object members).settled := by
  have value (key : String) (kept : Option Value) :
      Option.Rel Keeps (List.lookup key members.reverse) kept ↔
        kept = (List.lookup key members.reverse).map settled := by
    cases found : List.lookup key members.reverse with
    | none =>
      constructor
      · rintro ⟨⟩
        rfl
      · rintro rfl
        exact .none
    | some v =>
      have settles := each _ (mem_of_lookup_reverse found)
      constructor
      · rintro (keeps | _)
        rw [Option.map_some, (settles _).mp keeps]
      · rintro rfl
        exact .some ((settles _).mpr rfl)
  have ordered : (Members.ofArrivals (settledMembers members)).Ordered :=
    Members.Ordered.putAll .nil _
  have values (key : String) : List.lookup key (Members.ofArrivals (settledMembers members)) =
      (List.lookup key members.reverse).map settled := by
    rw [Members.lookup_ofArrivals, lookup_settledMembers]
  rw [settled]
  constructor
  · intro keeps
    cases keeps with
    | flat flat => exact absurd flat (Nat.succ_ne_zero _)
    | object ascending last =>
      refine congrArg object (ascending.ext ordered fun key => ?_)
      rw [values, (value key _).mp (last key)]
  · rintro rfl
    exact .object ordered fun key => (value key _).mpr (values key)

theorem keeps_flat {v : Value} (flat : v.depth = 0) (w : Value) : Keeps v w ↔ w = v.settled := by
  have settled : v.settled = v := by
    cases v with
    | list items => exact absurd flat (Nat.succ_ne_zero _)
    | object members => exact absurd flat (Nat.succ_ne_zero _)
    | _ => rfl
  rw [settled]
  constructor
  · intro keeps
    cases keeps with
    | flat _ => rfl
    | list _ => exact absurd flat (Nat.succ_ne_zero _)
    | object _ _ => exact absurd flat (Nat.succ_ne_zero _)
  · rintro rfl
    exact .flat flat

mutual

theorem keeps_iff : (v w : Value) → (Keeps v w ↔ w = v.settled)
  | .list items, w => by
    rw [settled]
    constructor
    · intro keeps
      cases keeps with
      | flat flat => exact absurd flat (Nat.succ_ne_zero _)
      | list each => exact congrArg list ((keeps_items items _).mp each)
    · rintro rfl
      exact .list ((keeps_items items _).mpr rfl)
  | .object members, w => keeps_object (keeps_members members) w
  | .null, w => keeps_flat rfl w
  | .bool _, w => keeps_flat rfl w
  | .int _, w => keeps_flat rfl w
  | .real _, w => keeps_flat rfl w
  | .text _, w => keeps_flat rfl w

theorem keeps_items : (items kept : List Value) →
    (List.Forall₂ Keeps items kept ↔ kept = settledItems items)
  | [], kept => List.forall₂_nil_left_iff
  | v :: rest, kept => by
    rw [List.forall₂_cons_left_iff, settledItems]
    constructor
    · rintro ⟨w, others, keeps, each, rfl⟩
      rw [(keeps_iff v w).mp keeps, (keeps_items rest others).mp each]
    · rintro rfl
      exact ⟨_, _, (keeps_iff v _).mpr rfl, (keeps_items rest _).mpr rfl, rfl⟩

theorem keeps_members : (members : Members) →
    ∀ kv ∈ members, ∀ w, Keeps kv.2 w ↔ w = kv.2.settled
  | [], _, member => absurd member List.not_mem_nil
  | (_, v) :: rest, kv, member => by
    rcases List.mem_cons.mp member with rfl | tail
    · exact keeps_iff v
    · exact keeps_members rest kv tail

end

end Value

end DebugGateway.Json
