import DebugGateway.Proofs.Json.Records

namespace DebugGateway.Json

open Value

def Refuses {α β : Type} (item : List Char → Read α) (write : β → List Char) (b : β) : Prop :=
  ∀ rest, EndsNumber rest → ∃ h, item (write b ++ rest) = .error h

/-! ## Lists and objects -/

section Elements

variable {α β : Type} {item : List Char → Read α} {write : β → List Char} {meant : β → α}

theorem readItems_refused {elements : List β} {bound : Nat} (seen : List α) (rest : List Char)
    (either : ∀ b ∈ elements, ReadsAs item write meant b ∨ Refuses item write b)
    (refused : ∃ b ∈ elements, Refuses item write b)
    (begins : ∀ b ∈ elements, Begins (write b)) (enough : elements.length < bound) :
    ∃ h, readItems item bound seen (separated write seen.isEmpty elements ++ ']' :: rest) =
      .error h := by
  induction elements generalizing bound seen with
  | nil => obtain ⟨b, member, _⟩ := refused; cases member
  | cons b elements ih =>
    obtain ⟨bound, rfl⟩ := Nat.exists_eq_add_one_of_ne_zero (Nat.ne_of_gt (Nat.zero_lt_of_lt enough))
    have step := nextItem_written (begins b (by simp)) seen.isEmpty
      (separated write false elements ++ ']' :: rest)
    have ends : EndsNumber (separated write false elements ++ ']' :: rest) :=
      endsNumber_separated write elements rest (.inl rfl)
    rw [separated, List.append_assoc, List.append_assoc, readItems, step]
    rcases either b (by simp) with reads | refuses
    · obtain ⟨c, member, refuses⟩ := refused
      rcases List.mem_cons.mp member with rfl | later
      · obtain ⟨h, failed⟩ := refuses _ ends
        exact ⟨h, by simp only [bind, Except.bind, failed]⟩
      · obtain ⟨h, failed⟩ := ih (meant b :: seen)
          (fun b member => either b (List.mem_cons_of_mem _ member)) ⟨c, later, refuses⟩
          (fun b member => begins b (List.mem_cons_of_mem _ member)) (Nat.lt_of_succ_lt_succ enough)
        rw [List.isEmpty_cons] at failed
        exact ⟨h, by simp only [bind, Except.bind, reads _ ends, failed]⟩
    · obtain ⟨h, failed⟩ := refuses _ ends
      exact ⟨h, by simp only [bind, Except.bind, failed]⟩

theorem readMembers_refused {members : List (String × β)} {bound : Nat}
    (seen : List (String × α)) (rest : List Char)
    (either : ∀ kb ∈ members, ReadsAs item write meant kb.2 ∨ Refuses item write kb.2)
    (refused : ∃ kb ∈ members, Refuses item write kb.2) (enough : members.length < bound) :
    ∃ h, readMembers item bound seen
        (separated (writeMember write) seen.isEmpty members ++ '\x7d' :: rest) = .error h := by
  induction members generalizing bound seen with
  | nil => obtain ⟨kb, member, _⟩ := refused; cases member
  | cons kb members ih =>
    obtain ⟨bound, rfl⟩ := Nat.exists_eq_add_one_of_ne_zero (Nat.ne_of_gt (Nat.zero_lt_of_lt enough))
    have ends : EndsNumber (separated (writeMember write) false members ++ '\x7d' :: rest) :=
      endsNumber_separated (writeMember write) members rest (.inr rfl)
    rw [separated, List.append_assoc, List.append_assoc, writeMember_append, readMembers_member]
    rcases either kb (by simp) with reads | refuses
    · obtain ⟨other, member, refuses⟩ := refused
      rcases List.mem_cons.mp member with rfl | later
      · obtain ⟨h, failed⟩ := refuses _ ends
        exact ⟨h, by simp only [Except.bind, failed]⟩
      · obtain ⟨h, failed⟩ := ih ((kb.1, meant kb.2) :: seen)
          (fun kb member => either kb (List.mem_cons_of_mem _ member)) ⟨other, later, refuses⟩
          (Nat.lt_of_succ_lt_succ enough)
        rw [List.isEmpty_cons] at failed
        exact ⟨h, by simp only [Except.bind, reads _ ends, failed]⟩
    · obtain ⟨h, failed⟩ := refuses _ ends
      exact ⟨h, by simp only [Except.bind, failed]⟩

theorem readItems_written_refused {elements : List β} {text rest : List Char}
    (either : ∀ b ∈ elements, ReadsAs item write meant b ∨ Refuses item write b)
    (refused : ∃ b ∈ elements, Refuses item write b) (begins : ∀ b ∈ elements, Begins (write b))
    (shape : text = separated write true elements ++ ']' :: rest) :
    ∃ h, readItems item (text.length + 1) [] text = .error h := by
  have enough : elements.length < text.length + 1 := by
    have := length_le_separated (fun b member => (begins b member).ne_nil) true
    rw [shape, List.length_append]
    omega
  have failed := readItems_refused [] rest either refused begins enough
  rwa [List.isEmpty_nil, ← shape] at failed

theorem readMembers_written_refused {members : List (String × β)} {text rest : List Char}
    (either : ∀ kb ∈ members, ReadsAs item write meant kb.2 ∨ Refuses item write kb.2)
    (refused : ∃ kb ∈ members, Refuses item write kb.2)
    (shape : text = separated (writeMember write) true members ++ '\x7d' :: rest) :
    ∃ h, readMembers item (text.length + 1) [] text = .error h := by
  have enough : members.length < text.length + 1 := by
    have := length_le_members write members
    rw [shape, List.length_append]
    omega
  have failed := readMembers_refused [] rest either refused enough
  rwa [List.isEmpty_nil, ← shape] at failed

end Elements

/-! ## Values that nest too deep -/

theorem exists_deep_item {items : List Value} {levels : Nat} (deep : levels < depthItems items) :
    ∃ v ∈ items, levels < v.depth := by
  induction items with
  | nil => cases deep
  | cons v items ih =>
    rw [depthItems] at deep
    by_cases here : levels < v.depth
    · exact ⟨v, by simp, here⟩
    · obtain ⟨w, member, deeper⟩ := ih (by omega)
      exact ⟨w, List.mem_cons_of_mem _ member, deeper⟩

theorem exists_deep_member {members : Members} {levels : Nat} (deep : levels < depthMembers members) :
    ∃ kv ∈ members, levels < kv.2.depth := by
  induction members with
  | nil => cases deep
  | cons kv members ih =>
    rw [depthMembers] at deep
    by_cases here : levels < kv.2.depth
    · exact ⟨kv, by simp, here⟩
    · obtain ⟨other, member, deeper⟩ := ih (by omega)
      exact ⟨other, List.mem_cons_of_mem _ member, deeper⟩

theorem readValue_list_refused {levels : Nat} {items : List Value}
    (either : ∀ v ∈ items, ReadsBack levels v ∨ Refuses (readValue levels) render v)
    (refused : ∃ v ∈ items, Refuses (readValue levels) render v) :
    Refuses (readValue (levels + 1)) render (.list items) := by
  intro rest _
  obtain ⟨text, shape⟩ : ∃ text, text = separated render true items ++ ']' :: rest := ⟨_, rfl⟩
  obtain ⟨h, failed⟩ :=
    readItems_written_refused either refused (fun v _ => begins_render v) shape
  refine ⟨h, ?_⟩
  rw [render_list, ← shape, readValue, skipGap_of_not_gap _ (by decide)]
  simp [readScalar?, isDigit, failed, bind, Except.bind]

theorem readValue_object_refused {levels : Nat} {members : Members}
    (either : ∀ kv ∈ members, ReadsBack levels kv.2 ∨ Refuses (readValue levels) render kv.2)
    (refused : ∃ kv ∈ members, Refuses (readValue levels) render kv.2) :
    Refuses (readValue (levels + 1)) render (.object members) := by
  intro rest _
  obtain ⟨text, shape⟩ : ∃ text, text = separated (writeMember render) true members ++ '\x7d' :: rest :=
    ⟨_, rfl⟩
  obtain ⟨h, failed⟩ := readMembers_written_refused either refused shape
  refine ⟨h, ?_⟩
  rw [render_object, ← shape, readValue, skipGap_of_not_gap _ (by decide)]
  simp [readScalar?, isDigit, failed, bind, Except.bind]

theorem readValue_zero_refused {v : Value} (nested : 0 < v.depth) :
    Refuses (readValue 0) render v := by
  intro rest _
  cases v with
  | list items =>
    rw [render_list, readValue, skipGap_of_not_gap _ (by decide)]
    exact ⟨_, by simp [readScalar?, isDigit]; rfl⟩
  | object members =>
    rw [render_object, readValue, skipGap_of_not_gap _ (by decide)]
    exact ⟨_, by simp [readScalar?, isDigit]; rfl⟩
  | _ => exact absurd nested (Nat.lt_irrefl 0)

theorem readValue_deep {levels : Nat} {v : Value} (word : v.Every IsWordNumber)
    (deep : levels < v.depth) : Refuses (readValue levels) render v := by
  induction levels generalizing v with
  | zero => exact readValue_zero_refused deep
  | succ levels ih =>
    have either {w : Value} (word : w.Every IsWordNumber) :
        ReadsBack levels w ∨ Refuses (readValue levels) render w := by
      rcases Nat.lt_or_ge levels w.depth with deeper | shallow
      · exact .inr (ih word deeper)
      · exact .inl (readValue_render word shallow)
    cases v with
    | list items =>
      obtain ⟨_, inside⟩ := every_list.mp word
      obtain ⟨w, member, deeper⟩ := exists_deep_item (Nat.lt_of_succ_lt_succ deep)
      exact readValue_list_refused (fun v member => either (inside v member))
        ⟨w, member, ih (inside w member) deeper⟩
    | object members =>
      obtain ⟨_, inside⟩ := every_object.mp word
      obtain ⟨kv, member, deeper⟩ := exists_deep_member (Nat.lt_of_succ_lt_succ deep)
      exact readValue_object_refused (fun kv member => either (inside kv member))
        ⟨kv, member, ih (inside kv member) deeper⟩
    | _ => exact absurd deep (Nat.not_lt_zero _)

theorem readsBack_or_refused {levels : Nat} {v : Value} (word : v.Every IsWordNumber) :
    ReadsBack levels v ∨ Refuses (readValue levels) render v := by
  rcases Nat.lt_or_ge levels v.depth with deeper | shallow
  · exact .inr (readValue_deep word deeper)
  · exact .inl (readValue_render word shallow)

/-! ## Single fields -/

inductive Opens : Value → Char → Prop where
  | null : Opens .null 'n'
  | yes : Opens (.bool true) 't'
  | no : Opens (.bool false) 'f'
  | int (n : Int) {c : Char} : c = '-' ∨ isDigit c = true → Opens (.int n) c
  | real (x : Number.Double) {c : Char} : c = '-' ∨ isDigit c = true → Opens (.real x) c
  | text (s : String) : Opens (.text s) '"'
  | list (items : List Value) : Opens (.list items) '['
  | object (members : Members) : Opens (.object members) '\x7b'

theorem render_opens (v : Value) (rest : List Char) :
    ∃ c more, v.render ++ rest = c :: more ∧ isGap c = false ∧ Opens v c := by
  have number (number : (∃ n, v = .int n) ∨ ∃ x, v = .real x) :
      ∃ c more, v.render ++ rest = c :: more ∧ isGap c = false ∧ (c = '-' ∨ isDigit c = true) := by
    obtain ⟨s, numeral, shape | shape⟩ := render_number number
    · obtain ⟨c, more, rfl, digit⟩ := numeral.first_digit
      exact ⟨c, more ++ rest, by rw [shape]; rfl, isGap_digit digit, .inr digit⟩
    · exact ⟨'-', s ++ rest, by rw [shape]; rfl, by decide, .inl rfl⟩
  cases v with
  | null => exact ⟨_, _, rfl, by decide, .null⟩
  | bool b =>
    cases b with
    | true => exact ⟨_, _, rfl, by decide, .yes⟩
    | false => exact ⟨_, _, rfl, by decide, .no⟩
  | int n =>
    obtain ⟨c, more, shape, solid, first⟩ := number (.inl ⟨n, rfl⟩)
    exact ⟨c, more, shape, solid, .int n first⟩
  | real x =>
    obtain ⟨c, more, shape, solid, first⟩ := number (.inr ⟨x, rfl⟩)
    exact ⟨c, more, shape, solid, .real x first⟩
  | text s => exact ⟨_, _, renderText_append s rest, by decide, .text s⟩
  | list items => exact ⟨_, _, render_list items rest, by decide, .list items⟩
  | object members => exact ⟨_, _, render_object members rest, by decide, .object members⟩

theorem opens_text {v : Value} (opens : Opens v '"') : ∃ s, v = .text s := by
  cases opens with
  | text s => exact ⟨s, rfl⟩
  | int n first => exact absurd first (by decide)
  | real x first => exact absurd first (by decide)

theorem opens_null {v : Value} (opens : Opens v 'n') : v = .null := by
  cases opens with
  | null => rfl
  | int n first => exact absurd first (by decide)
  | real x first => exact absurd first (by decide)

theorem opens_object {v : Value} (opens : Opens v '\x7b') : ∃ members, v = .object members := by
  cases opens with
  | object members => exact ⟨members, rfl⟩
  | int n first => exact absurd first (by decide)
  | real x first => exact absurd first (by decide)

theorem readText_refused (wanted : String) {v : Value} (other : ∀ s, v ≠ .text s) :
    Refuses (readText wanted) render v := by
  intro rest _
  obtain ⟨c, more, shape, solid, opens⟩ := render_opens v rest
  have unquoted : c ≠ '"' := by
    rintro rfl
    obtain ⟨s, same⟩ := opens_text opens
    exact other s same
  refine ⟨haltKind wanted (c :: more), ?_⟩
  rw [shape, readText, skipGap_of_not_gap _ solid]
  simp only [if_neg unquoted]

theorem readInt_refused {range : IntRange} {v : Value} (word : v.Every IsWordNumber)
    (outside : ∀ n, v = .int n → ¬ (range.least ≤ n ∧ n ≤ range.greatest)) :
    Refuses (readInt range) render v := by
  intro rest ends
  obtain ⟨c, more, shape, solid, opens⟩ := render_opens v rest
  cases v with
  | int n =>
    clear shape opens
    have taken : range.ofValue (.int n) = .error (.outOfRange (.int n) range.name) := by
      rw [IntRange.ofValue, if_neg (outside n rfl)]
    rw [render]
    rcases renderInt_cases word ends with ⟨more, shape, read⟩ | ⟨c, more, shape, digit, read⟩
    · refine ⟨halt (.outOfRange (.int n) range.name) rest, ?_⟩
      rw [shape, readInt, skipGap_of_not_gap more (by decide)]
      simp [read, taken, bind, Except.bind, throw, throwThe, MonadExceptOf.throw]
    · have unsigned : c ≠ '-' := by
        rintro rfl
        exact absurd digit (by decide)
      refine ⟨halt (.outOfRange (.int n) range.name) rest, ?_⟩
      rw [shape, readInt, skipGap_of_not_gap more (isGap_digit digit)]
      simp [read, taken, digit, unsigned, bind, Except.bind, throw, throwThe, MonadExceptOf.throw]
  | real x => exact word.elim
  | _ =>
    have unnumbered : ¬ (c = '-' ∨ isDigit c = true) := by
      cases opens <;> decide
    refine ⟨haltKind range.name (c :: more), ?_⟩
    rw [shape, readInt, skipGap_of_not_gap _ solid]
    simp only [if_neg unnumbered]

theorem readBag_null (levels : Nat) (rest : List Char) :
    readBag levels (Value.null.render ++ rest) = .ok ([], rest) := by
  rw [render, List.cons_append, readBag, skipGap_of_not_gap _ (by decide)]
  simp [expectWord, Except.map]

theorem readBag_refused {levels : Nat} {v : Value} (word : v.Every IsWordNumber)
    (filled : v ≠ .null) (other : ∀ members, v = .object members → levels + 1 < v.depth) :
    Refuses (readBag (levels + 1)) render v := by
  intro rest _
  obtain ⟨c, more, shape, solid, opens⟩ := render_opens v rest
  cases v with
  | null => exact absurd rfl filled
  | object members =>
    obtain ⟨_, inside⟩ := every_object.mp word
    obtain ⟨kv, member, deep⟩ :=
      exists_deep_member (Nat.lt_of_succ_lt_succ (other members rfl))
    clear shape opens
    have either : ∀ kv ∈ members,
        ReadsBack levels kv.2 ∨ Refuses (readValue levels) render kv.2 :=
      fun kv member => readsBack_or_refused (inside kv member)
    obtain ⟨text, shape⟩ :
        ∃ text, text = separated (writeMember render) true members ++ '\x7d' :: rest := ⟨_, rfl⟩
    obtain ⟨h, failed⟩ := readMembers_written_refused either
      ⟨kv, member, readValue_deep (inside kv member) deep⟩ shape
    refine ⟨h, ?_⟩
    rw [render_object, ← shape, readBag, skipGap_of_not_gap _ (by decide)]
    simp [failed]
  | _ =>
    have unopened : c ≠ 'n' ∧ c ≠ '\x7b' := by
      refine ⟨?_, ?_⟩
      · rintro rfl
        cases opens_null opens
      · rintro rfl
        obtain ⟨members, same⟩ := opens_object opens
        cases same
    refine ⟨haltKind "a map" (c :: more), ?_⟩
    rw [shape, readBag, skipGap_of_not_gap _ solid]
    simp only [if_neg unopened.1, if_neg unopened.2]

/-! ## Records -/

namespace Shape

variable {σ : Type} (shape : Shape σ)

theorem readNamed_repeated (bound : Nat) (first : Bool) {seen : List String} {key : String}
    (known : shape.knows key = true) (again : key ∈ seen) (s : σ) (text : List Char) :
    ∃ h, shape.readNamed (bound + 1) first seen s (comma first ++ (renderText key ++ ':' :: text)) =
      .error h := by
  obtain ⟨field, found⟩ := Option.isSome_iff_exists.mp known
  have repeated : seen.contains key = true := by simpa using again
  refine ⟨haltRecord (.repeatedField key) (':' :: text), ?_⟩
  rw [renderText_append, readNamed, nextKey_written]
  simp only [bind, Except.bind, readQuoted_written, found, repeated, if_true]
  rfl

/-- A member whose value the reader of its key takes, making of the record what `step` does. -/
def Takes (step : σ → String × Value → σ) (kv : String × Value) : Prop :=
  ∀ s, ReadsAs (shape.reader kv.1 s) render (fun _ => step s kv) kv.2

def Rejects (kv : String × Value) : Prop := ∀ s, Refuses (shape.reader kv.1 s) render kv.2

/-- No field stands twice among members, and none of those seen before stands there again. -/
structure Once (seen : List String) (members : Members) : Prop where
  apart : members.Pairwise fun a b => shape.knows a.1 = true → a.1 ≠ b.1
  fresh : ∀ kv ∈ members, shape.knows kv.1 = true → kv.1 ∉ seen

variable {shape}

theorem Once.cons {seen : List String} {kv : String × Value} {members : Members}
    (new : shape.knows kv.1 = true → kv.1 ∉ seen)
    (once : shape.Once (if shape.knows kv.1 then kv.1 :: seen else seen) members) :
    shape.Once seen (kv :: members) := by
  constructor
  · refine List.pairwise_cons.mpr ⟨fun other member known same => ?_, once.apart⟩
    have late := once.fresh other member (same ▸ known)
    rw [if_pos known, ← same] at late
    exact late List.mem_cons_self
  · intro other member known
    rcases List.mem_cons.mp member with rfl | later
    · exact new known
    · have late := once.fresh other later known
      split at late
      · exact fun earlier => late (List.mem_cons_of_mem _ earlier)
      · exact late

/-- Written members are refused where one of them is, or where a field stands twice. -/
theorem readNamed_refused {step : σ → String × Value → σ} {members : Members} {bound : Nat}
    (first : Bool) (seen : List String) (s : σ) (rest : List Char)
    (either : ∀ kv ∈ members, shape.Takes step kv ∨ shape.Rejects kv)
    (refused : ¬ ((∀ kv ∈ members, shape.Takes step kv) ∧ shape.Once seen members))
    (enough : members.length < bound) :
    ∃ h, shape.readNamed bound first seen s
        (separated (writeMember render) first members ++ '\x7d' :: rest) = .error h := by
  induction members generalizing bound first seen s with
  | nil => exact absurd ⟨nofun, .nil, nofun⟩ refused
  | cons kv members ih =>
    obtain ⟨bound, rfl⟩ := Nat.exists_eq_add_one_of_ne_zero (Nat.ne_of_gt (Nat.zero_lt_of_lt enough))
    have ends : EndsNumber (separated (writeMember render) false members ++ '\x7d' :: rest) :=
      endsNumber_separated (writeMember render) members rest (.inr rfl)
    rw [separated, List.append_assoc, List.append_assoc, writeMember_append]
    by_cases new : shape.knows kv.1 = true → kv.1 ∉ seen
    · rw [shape.readNamed_member bound first new]
      rcases either kv (by simp) with takes | rejects
      · have others : ¬ ((∀ kv ∈ members, shape.Takes step kv) ∧
            shape.Once (if shape.knows kv.1 then kv.1 :: seen else seen) members) :=
          fun good => refused ⟨List.forall_mem_cons.mpr ⟨takes, good.1⟩, good.2.cons new⟩
        obtain ⟨h, failed⟩ := ih false _ (step s kv)
          (fun kv member => either kv (List.mem_cons_of_mem _ member)) others
          (Nat.lt_of_succ_lt_succ enough)
        exact ⟨h, by simp only [takes s _ ends, Except.bind, failed]⟩
      · obtain ⟨h, failed⟩ := rejects s _ ends
        exact ⟨h, by simp only [failed, Except.bind]⟩
    · obtain ⟨known, again⟩ := Classical.not_imp.mp new
      exact shape.readNamed_repeated bound first known (Classical.not_not.mp again) s _

/-- A record written as an object is refused where one of its members is, or where a field stands
twice. -/
theorem read_object_refused {step : σ → String × Value → σ} {members : Members} (start : σ)
    (rest : List Char) (either : ∀ kv ∈ members, shape.Takes step kv ∨ shape.Rejects kv)
    (refused : ¬ ((∀ kv ∈ members, shape.Takes step kv) ∧ shape.Once [] members)) :
    ∃ h, shape.read start ((object members).render ++ rest) = .error h := by
  obtain ⟨text, written⟩ : ∃ text, text = separated (writeMember render) true members ++ '\x7d' :: rest :=
    ⟨_, rfl⟩
  have enough : members.length < text.length + 1 := by
    have := length_le_members render members
    rw [written, List.length_append]
    omega
  obtain ⟨h, failed⟩ := readNamed_refused true [] start rest either refused enough
  rw [← written] at failed
  rw [render_object, ← written, read, skipGap_of_not_gap _ (by decide)]
  simp [failed, settle]

end Shape

theorem parseWith_refused {α : Type} {reader : List Char → Except Halt (α × List Char)} {text : String}
    {h : Halt} (failed : reader text.toList = .error h) :
    parseWith reader text = .error (h.refusal text) := by
  have read : readAll reader text.toList = .error h := by simp [readAll, failed, bind, Except.bind]
  rw [parseWith, read]
  rfl

end DebugGateway.Json
