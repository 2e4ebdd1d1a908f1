import DebugGateway.Proofs.Json.Numerals
import DebugGateway.Proofs.Json.Quoting

/-! Lists and objects as they are written, element after element. What is read of an element is left
open, so one induction over the elements serves every reader of lists and one every reader of members;
only the first element has no comma before it. -/
namespace DebugGateway.Json

/-! ## Writing -/

def comma (first : Bool) : List Char := if first then [] else [',']

/-- Elements with commas between them; also before the first one, if it is not the first of all. -/
def separated {β : Type} (write : β → List Char) : (first : Bool) → List β → List Char
  | _, [] => []
  | first, b :: rest => comma first ++ write b ++ separated write false rest

def writeMember {β : Type} (write : β → List Char) (kb : String × β) : List Char :=
  renderText kb.1 ++ ':' :: write kb.2

theorem Value.renderItems_eq (items : List Value) :
    renderItems items = separated render true items := by
  induction items with
  | nil => rfl
  | cons v items ih =>
    cases items with
    | nil => simp [renderItems, separated, comma]
    | cons w items => simp [renderItems, separated, comma, ih]

theorem Value.renderMembers_eq (members : Members) :
    renderMembers members = separated (writeMember render) true members := by
  induction members with
  | nil => rfl
  | cons kv members ih =>
    cases members with
    | nil => simp [renderMembers, separated, comma, writeMember]
    | cons w members => simp [renderMembers, separated, comma, writeMember, ih]

theorem Value.render_list (items : List Value) (rest : List Char) :
    (list items).render ++ rest = '[' :: (separated render true items ++ ']' :: rest) := by
  rw [render, renderItems_eq]
  simp

theorem Value.render_object (members : Members) (rest : List Char) :
    (object members).render ++ rest =
      '\x7b' :: (separated (writeMember render) true members ++ '\x7d' :: rest) := by
  rw [render, renderMembers_eq]
  simp

theorem length_le_separated {β : Type} {write : β → List Char} {elements : List β}
    (filled : ∀ b ∈ elements, write b ≠ []) (first : Bool) :
    elements.length ≤ (separated write first elements).length := by
  induction elements generalizing first with
  | nil => exact Nat.le_refl 0
  | cons b rest ih =>
    have here := List.length_pos_iff.mpr (filled b (by simp))
    have others := ih (fun b member => filled b (List.mem_cons_of_mem _ member)) false
    simp only [separated, List.length_append, List.length_cons]
    omega

theorem length_le_members {β : Type} (write : β → List Char) (members : List (String × β)) :
    members.length ≤ (separated (writeMember write) true members).length :=
  length_le_separated (fun kb _ => by simp [writeMember, renderText]) true

theorem endsNumber_separated {β : Type} (write : β → List Char) (elements : List β) {close : Char}
    (rest : List Char) (h : close = ']' ∨ close = '\x7d') :
    EndsNumber (separated write false elements ++ close :: rest) := by
  cases elements with
  | nil => rcases h with rfl | rfl <;> exact endsNumber_cons _ (by decide)
  | cons b elements => exact endsNumber_cons _ (by decide)

/-- What a reader makes of something written, before any text that ends a number. -/
def ReadsAs {α β : Type} (item : List Char → Read α) (write : β → List Char) (meant : β → α)
    (b : β) : Prop :=
  ∀ rest, EndsNumber rest → item (write b ++ rest) = .ok (meant b, rest)

variable {α β : Type} {item : List Char → Read α} {write : β → List Char} {meant : β → α}

/-! ## Lists -/

def Begins (text : List Char) : Prop :=
  ∃ c more, text = c :: more ∧ isGap c = false ∧ c ≠ ']'

theorem Begins.ne_nil {text : List Char} (begins : Begins text) : text ≠ [] := by
  obtain ⟨c, more, rfl, _⟩ := begins
  exact List.cons_ne_nil c more

theorem nextItem_done (first : Bool) (rest : List Char) :
    nextItem first (']' :: rest) = .ok (.done rest) := by
  rw [nextItem, skipGap_of_not_gap rest (by decide)]
  rfl

theorem nextItem_written {text : List Char} (begins : Begins text) (first : Bool)
    (rest : List Char) :
    nextItem first (comma first ++ (text ++ rest)) = .ok (.item (text ++ rest)) := by
  obtain ⟨c, more, rfl, solid, unclosed⟩ := begins
  cases first with
  | true =>
    rw [comma, if_pos rfl, List.nil_append, List.cons_append, nextItem, skipGap_of_not_gap _ solid]
    simp [unclosed]
  | false =>
    rw [comma, if_neg (by decide), List.singleton_append, List.cons_append, nextItem,
      skipGap_of_not_gap _ (by decide)]
    simp [skipGap_of_not_gap _ solid, unclosed]

theorem readItems_separated {elements : List β} {bound : Nat} (seen : List α) (rest : List Char)
    (reads : ∀ b ∈ elements, ReadsAs item write meant b)
    (begins : ∀ b ∈ elements, Begins (write b)) (enough : elements.length < bound) :
    readItems item bound seen (separated write seen.isEmpty elements ++ ']' :: rest) =
      .ok (seen.reverse ++ elements.map meant, rest) := by
  induction elements generalizing bound seen with
  | nil =>
    obtain ⟨bound, rfl⟩ := Nat.exists_eq_add_one_of_ne_zero (Nat.ne_of_gt enough)
    rw [separated, List.nil_append, readItems, nextItem_done]
    simp [bind, Except.bind, pure, Except.pure]
  | cons b elements ih =>
    obtain ⟨bound, rfl⟩ := Nat.exists_eq_add_one_of_ne_zero (Nat.ne_of_gt (Nat.zero_lt_of_lt enough))
    have step := nextItem_written (begins b (by simp)) seen.isEmpty
      (separated write false elements ++ ']' :: rest)
    have read := reads b (by simp) _ (endsNumber_separated write elements rest (.inl rfl))
    have others := ih (meant b :: seen)
      (fun b member => reads b (List.mem_cons_of_mem _ member))
      (fun b member => begins b (List.mem_cons_of_mem _ member)) (Nat.lt_of_succ_lt_succ enough)
    rw [separated, List.append_assoc, List.append_assoc, readItems, step]
    rw [List.isEmpty_cons] at others
    simp only [bind, Except.bind, read, others]
    simp

/-- Written elements and the closing bracket read as what they mean; the bound that a text sets by its
length is enough. -/
theorem readItems_written {elements : List β} {text rest : List Char}
    (reads : ∀ b ∈ elements, ReadsAs item write meant b)
    (begins : ∀ b ∈ elements, Begins (write b))
    (shape : text = separated write true elements ++ ']' :: rest) :
    readItems item (text.length + 1) [] text = .ok (elements.map meant, rest) := by
  have enough : elements.length < text.length + 1 := by
    have := length_le_separated (fun b member => (begins b member).ne_nil) true
    rw [shape, List.length_append]
    omega
  have read := readItems_separated [] rest reads begins enough
  rwa [List.isEmpty_nil, ← shape] at read

/-! ## Members -/

theorem nextKey_done (first : Bool) (rest : List Char) :
    nextKey first ('\x7d' :: rest) = .ok (.done rest) := by
  rw [nextKey, skipGap_of_not_gap rest (by decide)]
  rfl

theorem nextKey_written (first : Bool) (rest : List Char) :
    nextKey first (comma first ++ '"' :: rest) = .ok (.item rest) := by
  cases first with
  | true => rw [comma, if_pos rfl, List.nil_append, nextKey, skipGap_of_not_gap _ (by decide)]; rfl
  | false =>
    rw [comma, if_neg (by decide), List.singleton_append, nextKey, skipGap_of_not_gap _ (by decide)]
    simp [skipGap_of_not_gap _ (show isGap '"' = false by decide)]

theorem expectColon_written (rest : List Char) : expectColon (':' :: rest) = .ok rest := by
  rw [expectColon, skipGap_of_not_gap rest (by decide)]
  rfl

theorem renderText_append (s : String) (rest : List Char) :
    renderText s ++ rest = '"' :: (s.toList.flatMap escapeChar ++ '"' :: rest) := by
  simp [renderText]

theorem writeMember_append (kb : String × β) (rest : List Char) :
    writeMember write kb ++ rest = renderText kb.1 ++ ':' :: (write kb.2 ++ rest) := by
  simp [writeMember]

theorem readMembers_member (item : List Char → Read α) (bound : Nat) (seen : List (String × α))
    (key : String) (text : List Char) :
    readMembers item (bound + 1) seen (comma seen.isEmpty ++ (renderText key ++ ':' :: text)) =
      (item text).bind fun (a, rest) => readMembers item bound ((key, a) :: seen) rest := by
  rw [renderText_append, readMembers, nextKey_written]
  simp only [bind, Except.bind, readQuoted_written, expectColon_written]

theorem readMembers_separated {members : List (String × β)} {bound : Nat}
    (seen : List (String × α)) (rest : List Char)
    (reads : ∀ kb ∈ members, ReadsAs item write meant kb.2) (enough : members.length < bound) :
    readMembers item bound seen
        (separated (writeMember write) seen.isEmpty members ++ '\x7d' :: rest) =
      .ok (seen.reverse ++ members.map fun kb => (kb.1, meant kb.2), rest) := by
  induction members generalizing bound seen with
  | nil =>
    obtain ⟨bound, rfl⟩ := Nat.exists_eq_add_one_of_ne_zero (Nat.ne_of_gt enough)
    rw [separated, List.nil_append, readMembers, nextKey_done]
    simp [bind, Except.bind, pure, Except.pure]
  | cons kb members ih =>
    obtain ⟨bound, rfl⟩ := Nat.exists_eq_add_one_of_ne_zero (Nat.ne_of_gt (Nat.zero_lt_of_lt enough))
    have read := reads kb (by simp) _
      (endsNumber_separated (writeMember write) members rest (.inr rfl))
    have others := ih ((kb.1, meant kb.2) :: seen)
      (fun kb member => reads kb (List.mem_cons_of_mem _ member)) (Nat.lt_of_succ_lt_succ enough)
    rw [List.isEmpty_cons] at others
    rw [separated, List.append_assoc, List.append_assoc, writeMember_append, readMembers_member, read]
    simp only [Except.bind, others]
    simp

/-- Written members and the closing brace read as the keys with what the values mean. -/
theorem readMembers_written {members : List (String × β)} {text rest : List Char}
    (reads : ∀ kb ∈ members, ReadsAs item write meant kb.2)
    (shape : text = separated (writeMember write) true members ++ '\x7d' :: rest) :
    readMembers item (text.length + 1) [] text =
      .ok (members.map fun kb => (kb.1, meant kb.2), rest) := by
  have enough : members.length < text.length + 1 := by
    have := length_le_members write members
    rw [shape, List.length_append]
    omega
  have read := readMembers_separated [] rest reads enough
  rwa [List.isEmpty_nil, ← shape] at read

end DebugGateway.Json
