import DebugGateway.Json.Record
import DebugGateway.Proofs.Basics
import DebugGateway.Proofs.Json.Passing

namespace DebugGateway.Json.Shape

variable {σ : Type} {P : σ → Prop}

def Keeps (P : σ → Prop) (reader : σ → List Char → Except Halt (σ × List Char)) : Prop :=
  ∀ s text s' rest, P s → reader s text = .ok (s', rest) → P s'

theorem readListed_keeps {fields : List (Field σ)} (keeps : ∀ field ∈ fields, Keeps P field.read)
    (first : Bool) : Keeps P (readListed fields first) := by
  induction fields generalizing first with
  | nil =>
    intro s text s' rest holds read
    rw [readListed] at read
    split at read
    · cases read
    · split at read
      · cases read
        exact holds
      · split at read
        · split at read
          · cases read
          · cases read
        · cases read
  | cons field fields ih =>
    intro s text s' rest holds read
    rw [readListed] at read
    obtain ⟨next, -, read⟩ := bind_eq_ok read
    split at read
    · cases read
      exact holds
    · obtain ⟨⟨t, more⟩, taken, read⟩ := bind_eq_ok read
      have here := keeps field List.mem_cons_self _ _ _ _ holds taken
      exact ih (fun f member => keeps f (List.mem_cons_of_mem field member)) false _ _ _ _ here read

variable {shape : Shape σ}

theorem readNamed_keeps (fields : ∀ field ∈ shape.fields, Keeps P field.read)
    (others : ∀ key, Keeps P (shape.other key)) (bound : Nat) (first : Bool)
    (seen : List String) : Keeps P (shape.readNamed bound first seen) := by
  induction bound generalizing first seen with
  | zero =>
    intro s text s' rest holds read
    cases read
  | succ bound ih =>
    intro s text s' rest holds read
    rw [readNamed] at read
    obtain ⟨next, -, read⟩ := bind_eq_ok read
    split at read
    · cases read
      exact holds
    · obtain ⟨⟨key, more⟩, -, read⟩ := bind_eq_ok read
      dsimp only at read
      split at read
      · rename_i field found
        split at read
        · cases read
        · obtain ⟨value, -, read⟩ := bind_eq_ok read
          obtain ⟨⟨t, after⟩, taken, read⟩ := bind_eq_ok read
          have here := fields field (List.mem_of_find?_eq_some found) _ _ _ _ holds taken
          exact ih false (key :: seen) _ _ _ _ here read
      · obtain ⟨value, -, read⟩ := bind_eq_ok read
        obtain ⟨⟨t, after⟩, taken, read⟩ := bind_eq_ok read
        exact ih false seen _ _ _ _ (others key _ _ _ _ holds taken) read

theorem settle_eq_ok {α : Type} {close : List Char → List Char} {read : Except Halt α} {a : α}
    (settled : settle close read = .ok a) : read = .ok a := by
  cases read with
  | error h => cases settled
  | ok b => exact settled

theorem read_keeps (fields : ∀ field ∈ shape.fields, Keeps P field.read)
    (others : ∀ key, Keeps P (shape.other key)) : Keeps P shape.read := by
  intro s text s' rest holds reads
  rw [read] at reads
  split at reads
  · cases reads
  · split at reads
    · exact readListed_keeps fields true _ _ _ _ holds (settle_eq_ok reads)
    · split at reads
      · exact readNamed_keeps fields others _ _ _ _ _ _ _ holds (settle_eq_ok reads)
      · cases reads

end DebugGateway.Json.Shape

namespace DebugGateway.Json

open Value

/-- What is written of a value reads as the value, with so many levels to open. -/
abbrev ReadsBack (levels : Nat) (v : Value) : Prop := ReadsAs (readValue levels) render id v

theorem readValue_int {levels : Nat} {n : Int} (word : IsWord n) :
    ReadsBack levels (.int n) := by
  intro rest ends
  rw [render, id]
  rcases renderInt_cases word ends with ⟨more, shape, read⟩ | ⟨c, more, shape, digit, read⟩
  · rw [shape, readValue, skipGap_of_not_gap more (by decide)]
    simp [readScalar?, read]
  · have letters : c ≠ 'n' ∧ c ≠ 't' ∧ c ≠ 'f' ∧ c ≠ '-' := by
      refine ⟨?_, ?_, ?_, ?_⟩ <;> rintro rfl <;> exact absurd digit (by decide)
    obtain ⟨null, true, false, minus⟩ := letters
    rw [shape, readValue, skipGap_of_not_gap more (isGap_digit digit)]
    simp [readScalar?, read, null, true, false, minus, digit]

theorem readValue_list {levels : Nat} {items : List Value}
    (reads : ∀ v ∈ items, ReadsBack levels v)
    (begins : ∀ v ∈ items, Begins v.render) :
    ReadsBack (levels + 1) (.list items) := by
  intro rest _
  obtain ⟨text, shape⟩ : ∃ text, text = separated render true items ++ ']' :: rest := ⟨_, rfl⟩
  have read := readItems_written reads begins shape
  rw [List.map_id] at read
  rw [render_list, ← shape, readValue, skipGap_of_not_gap _ (by decide)]
  simp [readScalar?, isDigit, read, bind, Except.bind, pure, Except.pure]

theorem readValue_object {levels : Nat} {members : Members}
    (reads : ∀ kv ∈ members, ReadsBack levels kv.2) :
    ReadsBack (levels + 1) (.object members) := by
  intro rest _
  obtain ⟨text, shape⟩ : ∃ text, text = separated (writeMember render) true members ++ '\x7d' :: rest :=
    ⟨_, rfl⟩
  have read := readMembers_written reads shape
  simp only [id, List.map_id'] at read
  rw [render_object, ← shape, readValue, skipGap_of_not_gap _ (by decide)]
  simp [readScalar?, isDigit, read, bind, Except.bind, pure, Except.pure]

theorem readValue_scalar {levels : Nat} {v : Value} (word : v.Every IsWordNumber)
    (flat : v.depth = 0) : ReadsBack levels v := by
  cases v with
  | null =>
    intro rest _
    rw [render, List.cons_append, readValue, skipGap_of_not_gap _ (by decide)]
    simp [readScalar?, expectWord, Except.map]
  | bool b =>
    intro rest _
    cases b
    · rw [render, renderBool, if_neg (by decide), List.cons_append, readValue,
        skipGap_of_not_gap _ (by decide)]
      simp [readScalar?, expectWord, Except.map]
    · rw [render, renderBool, if_pos rfl, List.cons_append, readValue,
        skipGap_of_not_gap _ (by decide)]
      simp [readScalar?, expectWord, Except.map]
  | int n => exact readValue_int word
  | real x => exact word.elim
  | text s =>
    intro rest _
    rw [render, renderText_append, readValue, skipGap_of_not_gap _ (by decide)]
    simp [readScalar?, isDigit, readQuoted_written, Except.map]
  | list items => exact absurd flat (Nat.succ_ne_zero _)
  | object members => exact absurd flat (Nat.succ_ne_zero _)

theorem readValue_render {levels : Nat} {v : Value} (word : v.Every IsWordNumber)
    (nested : v.depth ≤ levels) : ReadsBack levels v := by
  induction levels generalizing v with
  | zero => exact readValue_scalar word (Nat.le_zero.mp nested)
  | succ levels ih =>
    cases v with
    | list items =>
      obtain ⟨_, inside⟩ := every_list.mp word
      refine readValue_list (fun v member => ?_) fun v _ => begins_render v
      exact ih (inside v member)
        (Nat.le_trans (depth_le_items member) (Nat.le_of_succ_le_succ nested))
    | object members =>
      obtain ⟨_, inside⟩ := every_object.mp word
      refine readValue_object fun kv member => ?_
      exact ih (inside kv member)
        (Nat.le_trans (depth_le_members member) (Nat.le_of_succ_le_succ nested))
    | _ => exact readValue_scalar word rfl

theorem readText_written (wanted s : String) (rest : List Char) :
    readText wanted ((text s).render ++ rest) = .ok (s, rest) := by
  rw [render, renderText_append, readText, skipGap_of_not_gap _ (by decide)]
  simp [readQuoted_written]

theorem readInt_written {range : IntRange} {n : Int} {rest : List Char} (word : IsWord n)
    (inside : range.least ≤ n ∧ n ≤ range.greatest) (ends : EndsNumber rest) :
    readInt range ((int n).render ++ rest) = .ok (n, rest) := by
  have taken : range.ofValue (.int n) = .ok n := by rw [IntRange.ofValue, if_pos inside]
  rw [render]
  rcases renderInt_cases word ends with ⟨more, shape, read⟩ | ⟨c, more, shape, digit, read⟩
  · rw [shape, readInt, skipGap_of_not_gap more (by decide)]
    simp [read, taken, bind, Except.bind, pure, Except.pure]
  · have unsigned : c ≠ '-' := by
      rintro rfl
      exact absurd digit (by decide)
    rw [shape, readInt, skipGap_of_not_gap more (isGap_digit digit)]
    simp [read, taken, digit, unsigned, bind, Except.bind, pure, Except.pure]

theorem readBag_written {levels : Nat} {members : Members}
    (reads : ∀ kv ∈ members, ReadsBack levels kv.2) (rest : List Char) :
    readBag (levels + 1) ((object members).render ++ rest) = .ok (members, rest) := by
  obtain ⟨text, shape⟩ : ∃ text, text = separated (writeMember render) true members ++ '\x7d' :: rest :=
    ⟨_, rfl⟩
  have read := readMembers_written reads shape
  simp only [id, List.map_id'] at read
  rw [render_object, ← shape, readBag, skipGap_of_not_gap _ (by decide)]
  simp [read]

/-! ## Records -/

namespace Shape

variable {σ : Type} (shape : Shape σ)

def knows (key : String) : Bool := (shape.fields.find? (·.name == key)).isSome

def reader (key : String) (s : σ) (text : List Char) : Except Halt (σ × List Char) :=
  match shape.fields.find? (·.name == key) with
  | some field => field.read s text
  | none => shape.other key s text

theorem readNamed_done (bound : Nat) (first : Bool) (seen : List String) (s : σ)
    (rest : List Char) :
    shape.readNamed (bound + 1) first seen s ('\x7d' :: rest) = .ok (s, rest) := by
  rw [readNamed, nextKey_done]
  rfl

theorem readNamed_member (bound : Nat) (first : Bool) {seen : List String} {key : String}
    (fresh : shape.knows key = true → key ∉ seen) (s : σ) (text : List Char) :
    shape.readNamed (bound + 1) first seen s (comma first ++ (renderText key ++ ':' :: text)) =
      (shape.reader key s text).bind fun (s, rest) =>
        shape.readNamed bound false (if shape.knows key then key :: seen else seen) s rest := by
  rw [renderText_append, readNamed, nextKey_written]
  simp only [bind, Except.bind, readQuoted_written]
  rcases Option.eq_none_or_eq_some (shape.fields.find? (·.name == key)) with unknown | ⟨field, known⟩
  · simp only [knows, reader, unknown, expectColon_written, Option.isSome_none, Bool.false_eq_true,
      if_false]
  · have unseen : seen.contains key = false := by simpa [knows, known] using fresh
    simp only [knows, reader, known, unseen, Bool.false_eq_true, if_false, expectColon_written,
      Option.isSome_some, if_true]

/-- Written members are taken one after the other, where no field stands there twice. -/
theorem readNamed_separated {step : σ → String × Value → σ} {members : Members} {bound : Nat}
    (first : Bool) (seen : List String) (s : σ) (rest : List Char)
    (takes : ∀ kv ∈ members, ∀ s, ReadsAs (shape.reader kv.1 s) render (fun _ => step s kv) kv.2)
    (once : members.Pairwise fun a b => shape.knows a.1 = true → a.1 ≠ b.1)
    (fresh : ∀ kv ∈ members, shape.knows kv.1 = true → kv.1 ∉ seen)
    (enough : members.length < bound) :
    shape.readNamed bound first seen s
        (separated (writeMember render) first members ++ '\x7d' :: rest) =
      .ok (members.foldl step s, rest) := by
  induction members generalizing bound first seen s with
  | nil =>
    obtain ⟨bound, rfl⟩ := Nat.exists_eq_add_one_of_ne_zero (Nat.ne_of_gt enough)
    exact shape.readNamed_done bound first seen s rest
  | cons kv members ih =>
    obtain ⟨bound, rfl⟩ := Nat.exists_eq_add_one_of_ne_zero (Nat.ne_of_gt (Nat.zero_lt_of_lt enough))
    obtain ⟨apart, once⟩ := List.pairwise_cons.mp once
    have read := takes kv (by simp) s _
      (endsNumber_separated (writeMember render) members rest (.inr rfl))
    have unseen : ∀ other ∈ members, shape.knows other.1 = true →
        other.1 ∉ (if shape.knows kv.1 then kv.1 :: seen else seen) := by
      intro other member known
      have old := fresh other (List.mem_cons_of_mem _ member) known
      split
      · rename_i here
        intro again
        rcases List.mem_cons.mp again with same | earlier
        · exact apart other member here same.symm
        · exact old earlier
      · exact old
    have others := ih false _ (step s kv)
      (fun kv member => takes kv (List.mem_cons_of_mem _ member)) once unseen
      (Nat.lt_of_succ_lt_succ enough)
    rw [separated, List.append_assoc, List.append_assoc, writeMember_append,
      shape.readNamed_member bound first (fresh kv (by simp)), read]
    simp only [Except.bind, others, List.foldl_cons]

theorem read_object {step : σ → String × Value → σ} {members : Members} (start : σ)
    (rest : List Char)
    (takes : ∀ kv ∈ members, ∀ s, ReadsAs (shape.reader kv.1 s) render (fun _ => step s kv) kv.2)
    (once : members.Pairwise fun a b => shape.knows a.1 = true → a.1 ≠ b.1) :
    shape.read start ((object members).render ++ rest) = .ok (members.foldl step start, rest) := by
  obtain ⟨text, written⟩ : ∃ text, text = separated (writeMember render) true members ++ '\x7d' :: rest :=
    ⟨_, rfl⟩
  have enough : members.length < text.length + 1 := by
    have := length_le_members render members
    rw [written, List.length_append]
    omega
  have named := shape.readNamed_separated true [] start rest takes once
    (fun _ _ _ => List.not_mem_nil) enough
  rw [← written] at named
  rw [render_object, ← written, read, skipGap_of_not_gap _ (by decide)]
  simp [named, settle]

end Shape

theorem parseWith_whole {α : Type} {reader : List Char → Except Halt (α × List Char)} {text : String}
    {a : α} (whole : reader text.toList = .ok (a, [])) : parseWith reader text = .ok a := by
  have read : readAll reader text.toList = .ok a := by
    simp [readAll, whole, skipGap, bind, Except.bind, pure, Except.pure]
  rw [parseWith, read]
  rfl

end DebugGateway.Json
