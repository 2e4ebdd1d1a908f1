import DebugGateway.Proofs.Json.Numerals

/-! Members under ascending keys. Putting members in keeps the keys ascending, and the value of a key
is the one put in last; so what has been put in is known from its values alone. A value of which every
object is in order is settled. -/
namespace DebugGateway.Json

namespace Value

/-! ## Depth -/

mutual

/-- How many lists and objects stand inside one another, the value itself counted. -/
def depth : Value → Nat
  | .list items => depthItems items + 1
  | .object members => depthMembers members + 1
  | _ => 0

def depthItems : List Value → Nat
  | [] => 0
  | v :: rest => max v.depth (depthItems rest)

def depthMembers : Members → Nat
  | [] => 0
  | (_, v) :: rest => max v.depth (depthMembers rest)

end

theorem depth_le_items {items : List Value} {v : Value} (member : v ∈ items) :
    v.depth ≤ depthItems items := by
  induction items with
  | nil => cases member
  | cons w items ih =>
    rw [depthItems]
    rcases List.mem_cons.mp member with rfl | tail
    · exact Nat.le_max_left _ _
    · exact Nat.le_trans (ih tail) (Nat.le_max_right _ _)

theorem depth_le_members {members : Members} {kv : String × Value} (member : kv ∈ members) :
    kv.2.depth ≤ depthMembers members := by
  induction members with
  | nil => cases member
  | cons w members ih =>
    rw [depthMembers]
    rcases List.mem_cons.mp member with rfl | tail
    · exact Nat.le_max_left _ _
    · exact Nat.le_trans (ih tail) (Nat.le_max_right _ _)

/-! ## Every value inside -/

mutual

def Every (p : Value → Prop) : Value → Prop
  | .list items => p (.list items) ∧ EveryItem p items
  | .object members => p (.object members) ∧ EveryMember p members
  | v => p v

def EveryItem (p : Value → Prop) : List Value → Prop
  | [] => True
  | v :: rest => v.Every p ∧ EveryItem p rest

def EveryMember (p : Value → Prop) : Members → Prop
  | [] => True
  | (_, v) :: rest => v.Every p ∧ EveryMember p rest

end

variable {p : Value → Prop}

theorem everyItem_iff {items : List Value} : EveryItem p items ↔ ∀ v ∈ items, v.Every p := by
  induction items with
  | nil => simp [EveryItem]
  | cons v items ih => simp [EveryItem, ih]

theorem everyMember_iff {members : Members} :
    EveryMember p members ↔ ∀ kv ∈ members, kv.2.Every p := by
  induction members with
  | nil => simp [EveryMember]
  | cons kv members ih => simp [EveryMember, ih]

theorem every_list {items : List Value} :
    (list items).Every p ↔ p (.list items) ∧ ∀ v ∈ items, v.Every p := by
  rw [Every, everyItem_iff]

theorem every_object {members : Members} :
    (object members).Every p ↔ p (.object members) ∧ ∀ kv ∈ members, kv.2.Every p := by
  rw [Every, everyMember_iff]

def IsWordNumber : Value → Prop
  | .int n => IsWord n
  | .real _ => False
  | _ => True

def IsOrdered : Value → Prop
  | .object members => Members.Ordered members
  | _ => True

end Value

namespace Members

theorem lookup_cons (key k : String) (v : Value) (members : Members) :
    List.lookup key ((k, v) :: members) = if key = k then some v else List.lookup key members := by
  rw [List.lookup_cons]
  by_cases same : key = k
  · simp [same]
  · rw [if_neg same, beq_eq_false_iff_ne.mpr same]

/-! ## One member put in -/

theorem lookup_put (key k : String) (value : Value) (members : Members) :
    List.lookup k (members.put key value) = if k = key then some value else List.lookup k members := by
  induction members with
  | nil => rw [put, lookup_cons]
  | cons kv members ih =>
    obtain ⟨k', v'⟩ := kv
    rw [put]
    split
    · rw [lookup_cons]
    · split
      · rename_i same
        rw [lookup_cons, lookup_cons, ← same]
        split <;> rfl
      · rename_i other
        rw [lookup_cons, ih, lookup_cons]
        by_cases here : k = k'
        · have elsewhere : k ≠ key := fun e => other (e.symm.trans here)
          rw [if_pos here, if_neg elsewhere, if_pos here]
        · rw [if_neg here, if_neg here]

theorem mem_put {key : String} {value : Value} {members : Members} {kv : String × Value}
    (member : kv ∈ members.put key value) : kv = (key, value) ∨ kv ∈ members := by
  induction members with
  | nil => exact .inl (List.mem_singleton.mp member)
  | cons head members ih =>
    obtain ⟨k, v⟩ := head
    rw [put] at member
    split at member
    · exact (List.mem_cons.mp member).imp_right id
    · split at member
      · exact (List.mem_cons.mp member).imp_right (List.mem_cons_of_mem _)
      · rcases List.mem_cons.mp member with here | there
        · exact .inr (here ▸ List.mem_cons_self)
        · exact (ih there).imp_right (List.mem_cons_of_mem _)

theorem Ordered.put {members : Members} (ordered : members.Ordered) (key : String) (value : Value) :
    (members.put key value).Ordered := by
  induction members with
  | nil => exact List.pairwise_singleton _ _
  | cons head members ih =>
    obtain ⟨k, v⟩ := head
    obtain ⟨least, rest⟩ := List.pairwise_cons.mp ordered
    rw [Members.put]
    split
    · rename_i less
      refine List.pairwise_cons.mpr ⟨?_, ordered⟩
      intro kv member
      rcases List.mem_cons.mp member with rfl | tail
      · exact less
      · exact String.lt_trans less (least kv tail)
    · rename_i notLess
      split
      · rename_i same
        subst same
        exact List.pairwise_cons.mpr ⟨least, rest⟩
      · rename_i other
        refine List.pairwise_cons.mpr ⟨?_, ih rest⟩
        intro kv member
        rcases mem_put member with rfl | tail
        · exact Std.lt_of_le_of_ne (String.not_lt.mp notLess) (Ne.symm other)
        · exact least kv tail

theorem put_last {members : Members} {key : String} (above : ∀ kv ∈ members, kv.1 < key)
    (value : Value) : members.put key value = members ++ [(key, value)] := by
  induction members with
  | nil => rfl
  | cons head members ih =>
    have here := above head List.mem_cons_self
    rw [put, if_neg (String.lt_asymm here), if_neg, ih fun kv tail => above kv (List.mem_cons_of_mem _ tail)]
    · rfl
    · rintro rfl
      exact String.lt_irrefl _ here

/-! ## Many members put in -/

def putAll (members given : Members) : Members :=
  given.foldl (fun members kv => members.put kv.1 kv.2) members

theorem Ordered.putAll {members : Members} (ordered : members.Ordered) (given : Members) :
    (members.putAll given).Ordered := by
  induction given generalizing members with
  | nil => exact ordered
  | cons kv given ih => exact ih (ordered.put kv.1 kv.2)

theorem lookup_putAll (k : String) (members given : Members) :
    List.lookup k (members.putAll given) =
      (List.lookup k given.reverse).or (List.lookup k members) := by
  induction given generalizing members with
  | nil => rfl
  | cons kv given ih =>
    have step : members.putAll (kv :: given) = (members.put kv.1 kv.2).putAll given := rfl
    rw [step, ih, lookup_put, List.reverse_cons, List.lookup_append, Option.or_assoc, lookup_cons]
    split <;> rfl

theorem mem_iff_lookup {members : Members} (ordered : members.Ordered) (k : String) (v : Value) :
    (k, v) ∈ members ↔ List.lookup k members = some v := by
  induction members with
  | nil => simp
  | cons head members ih =>
    obtain ⟨k', v'⟩ := head
    obtain ⟨least, rest⟩ := List.pairwise_cons.mp ordered
    rw [lookup_cons, List.mem_cons, Prod.mk.injEq]
    by_cases here : k = k'
    · subst here
      have once : (k, v) ∉ members := fun tail => String.lt_irrefl _ (least (k, v) tail)
      simp [once, eq_comm]
    · simp [here, ih rest]

theorem putAll_ordered {members given : Members} (ordered : (members ++ given).Ordered) :
    members.putAll given = members ++ given := by
  induction given generalizing members with
  | nil => exact (List.append_nil _).symm
  | cons kv given ih =>
    obtain ⟨_, _, across⟩ := List.pairwise_append.mp ordered
    have last := put_last (fun other member => across other member kv List.mem_cons_self) kv.2
    have split : members ++ kv :: given = members ++ [kv] ++ given := by simp
    show (members.put kv.1 kv.2).putAll given = _
    rw [last, split]
    exact ih (split ▸ ordered)

theorem ofArrivals_ordered {members : Members} (ordered : members.Ordered) :
    ofArrivals members = members :=
  putAll_ordered ordered

end Members

/-! ## Settled values -/

namespace Value

mutual

theorem settled_ordered : (v : Value) → v.Every IsOrdered → v.settled = v
  | .list items, ordered => by
    rw [settled, settledItems_ordered items ordered.2]
  | .object members, ordered => by
    rw [settled, settledMembers_ordered members ordered.2]
    exact congrArg object (Members.ofArrivals_ordered ordered.1)
  | .null, _ => rfl
  | .bool _, _ => rfl
  | .int _, _ => rfl
  | .real _, _ => rfl
  | .text _, _ => rfl

theorem settledItems_ordered :
    (items : List Value) → EveryItem IsOrdered items → settledItems items = items
  | [], _ => rfl
  | v :: rest, ordered => by
    rw [settledItems, settled_ordered v ordered.1, settledItems_ordered rest ordered.2]

theorem settledMembers_ordered :
    (members : Members) → EveryMember IsOrdered members → settledMembers members = members
  | [], _ => rfl
  | (k, v) :: rest, ordered => by
    rw [settledMembers, settled_ordered v ordered.1, settledMembers_ordered rest ordered.2]

end

end Value

end DebugGateway.Json
