import DebugGateway.Proofs.Json.Elements
import DebugGateway.Proofs.Json.Members
import DebugGateway.Proofs.Json.Reals

/-! A written value is passed over to its end, at any depth and with numbers of any size. The reader
that passes over keeps its own stack of brackets, so what is said of a value is said before any stack:
some steps, no more than two for each character, take it from the value due to what follows the value. -/
namespace DebugGateway.Json

open Value

variable {rest : List Char}

/-! ## Scalars -/

def BeginsScalar (c : Char) : Prop := isGap c = false ∧ c ≠ '[' ∧ c ≠ '\x7b' ∧ c ≠ ']'

instance (c : Char) : Decidable (BeginsScalar c) := inferInstanceAs (Decidable (_ ∧ _))

theorem beginsScalar_digit {c : Char} (digit : isDigit c = true) : BeginsScalar c := by
  refine ⟨isGap_digit digit, ?_, ?_, ?_⟩ <;> rintro rfl <;> exact absurd digit (by decide)

theorem IsNumeral.first_digit {s : List Char} (numeral : IsNumeral s) :
    ∃ c more, s = c :: more ∧ isDigit c = true := by
  obtain ⟨whole, _, _⟩ := numeral
  obtain ⟨c, w, rfl⟩ := List.exists_cons_of_ne_nil whole.filled
  exact ⟨c, _, rfl, whole.digits c List.mem_cons_self⟩

theorem skipScalar_numeral {s : List Char} (numeral : IsNumeral s) (ends : EndsNumber rest) :
    skipScalar (s ++ rest) = .ok rest := by
  have skipped := skipNumber_numeral numeral ends
  obtain ⟨c, more, rfl, digit⟩ := numeral.first_digit
  have letters : c ≠ 'n' ∧ c ≠ 't' ∧ c ≠ 'f' ∧ c ≠ '-' := by
    refine ⟨?_, ?_, ?_, ?_⟩ <;> rintro rfl <;> exact absurd digit (by decide)
  obtain ⟨null, true, false, minus⟩ := letters
  rw [List.cons_append] at skipped ⊢
  simp only [skipScalar, if_neg null, if_neg true, if_neg false, if_neg minus, if_pos digit, skipped]

theorem skipScalar_minus {s : List Char} (numeral : IsNumeral s) (ends : EndsNumber rest) :
    skipScalar ('-' :: (s ++ rest)) = .ok rest := by
  simp [skipScalar, skipNumber_numeral numeral ends]

theorem render_number {v : Value} (number : (∃ n, v = .int n) ∨ ∃ x, v = .real x) :
    ∃ s, IsNumeral s ∧ (v.render = s ∨ v.render = '-' :: s) := by
  have whole (n : Nat) : IsNumeral (Nat.toDigits 10 n) := by
    have numeral := IsNumeral.mk (isWhole_toDigits n) .absent .absent
    rwa [List.append_nil, List.append_nil] at numeral
  rcases number with ⟨n, rfl⟩ | ⟨x, rfl⟩
  · cases n with
    | ofNat n => exact ⟨_, whole n, .inl rfl⟩
    | negSucc n => exact ⟨_, whole (n + 1), .inr rfl⟩
  · obtain ⟨s, shape, numeral⟩ := x.render_numeral
    refine ⟨s, numeral, ?_⟩
    rw [render, shape]
    split
    · exact .inr rfl
    · exact .inl rfl

theorem render_scalar {v : Value} (flat : v.depth = 0) (rest : List Char) :
    (∃ c more, v.render = c :: more ∧ BeginsScalar c) ∧
      (EndsNumber rest → skipScalar (v.render ++ rest) = .ok rest) := by
  have number (number : (∃ n, v = .int n) ∨ ∃ x, v = .real x) :
      (∃ c more, v.render = c :: more ∧ BeginsScalar c) ∧
        (EndsNumber rest → skipScalar (v.render ++ rest) = .ok rest) := by
    obtain ⟨s, numeral, shape | shape⟩ := render_number number
    · obtain ⟨c, more, first, digit⟩ := numeral.first_digit
      rw [shape]
      exact ⟨⟨c, more, first, beginsScalar_digit digit⟩, skipScalar_numeral numeral⟩
    · rw [shape]
      exact ⟨⟨'-', s, rfl, by decide⟩, skipScalar_minus numeral⟩
  cases v with
  | null => exact ⟨⟨_, _, rfl, by decide⟩, fun _ => by simp [render, skipScalar, expectWord, Except.map]⟩
  | bool b =>
    cases b
    · refine ⟨⟨_, _, rfl, by decide⟩, fun _ => ?_⟩
      simp [render, renderBool, skipScalar, expectWord, Except.map]
    · refine ⟨⟨_, _, rfl, by decide⟩, fun _ => ?_⟩
      simp [render, renderBool, skipScalar, expectWord, Except.map]
  | int n => exact number (.inl ⟨n, rfl⟩)
  | real x => exact number (.inr ⟨x, rfl⟩)
  | text s =>
    refine ⟨⟨_, _, rfl, by decide⟩, fun _ => ?_⟩
    rw [render, renderText_append]
    simp [skipScalar, isDigit, skipQuoted_escaped]
  | list items => exact absurd flat (Nat.succ_ne_zero _)
  | object members => exact absurd flat (Nat.succ_ne_zero _)

/-! ## Steps -/

def PassedIn (used : Nat) (v : Value) : Prop :=
  ∀ bound opened rest, EndsNumber rest →
    skipUntilClosed (used + bound) .value opened (v.render ++ rest) =
      skipUntilClosed bound (.more false) opened rest

/-- A value is passed over in no more than two steps for each of its characters. -/
def Passed (v : Value) : Prop := ∃ used ≤ 2 * v.render.length, PassedIn used v

theorem passed_scalar {v : Value} (flat : v.depth = 0) : Passed v := by
  obtain ⟨⟨c, more, shape, solid, list, object, _⟩, _⟩ := render_scalar flat []
  refine ⟨1, by rw [shape, List.length_cons]; omega, fun bound opened rest ends => ?_⟩
  have skipped := (render_scalar flat rest).2 ends
  rw [shape, List.cons_append] at skipped ⊢
  rw [Nat.add_comm, skipUntilClosed, skipGap_of_not_gap _ solid]
  simp only [if_neg list, if_neg object, skipped, bind, Except.bind]

variable {b : Bracket} {opened : List Bracket}

theorem skipUntilClosed_close (bound : Nat) (fresh : Bool) :
    skipUntilClosed (bound + 1) (.more fresh) (b :: opened) (b.close :: rest) =
      skipUntilClosed bound (.more false) opened rest := by
  have solid : isGap b.close = false := by cases b <;> decide
  rw [skipUntilClosed, skipGap_of_not_gap _ solid]
  simp

/-- The step to an element: over its comma, if it has one, and over its key. -/
theorem skipUntilClosed_element (bound : Nat) (fresh : Bool) {c : Char} {more text : List Char}
    (solid : isGap c = false) (unclosed : c ≠ b.close) (key : b.skipKey (c :: more) = .ok text) :
    skipUntilClosed (bound + 1) (.more fresh) (b :: opened) (comma fresh ++ c :: more) =
      skipUntilClosed bound .value (b :: opened) text := by
  have comma_unclosed : (',' : Char) ≠ b.close := by cases b <;> decide
  cases fresh with
  | true =>
    rw [comma, if_pos rfl, List.nil_append, skipUntilClosed, skipGap_of_not_gap _ solid]
    simp only [if_neg unclosed, if_true, key, bind, Except.bind]
  | false =>
    rw [comma, if_neg (by decide), List.singleton_append, skipUntilClosed,
      skipGap_of_not_gap _ (by decide)]
    simp [comma_unclosed, key, bind, Except.bind]

/-- An element of a bracket: a first character that does not close it, a key, a value. -/
structure Element (b : Bracket) (written : List Char) (v : Value) : Prop where
  begins : ∃ c more, written = c :: more ∧ isGap c = false ∧ c ≠ b.close
  key : ∀ rest, b.skipKey (written ++ rest) = .ok (v.render ++ rest)
  covers : v.render.length ≤ written.length
  passed : Passed v

theorem skipUntilClosed_elements {β : Type} (b : Bracket) (write : β → List Char) (value : β → Value)
    {elements : List β} (inside : ∀ e ∈ elements, Element b (write e) (value e)) (fresh : Bool) :
    ∃ used ≤ 2 * (separated write fresh elements).length + fresh.toNat,
      ∀ bound opened rest,
        skipUntilClosed (used + (bound + 1)) (.more fresh) (b :: opened)
            (separated write fresh elements ++ b.close :: rest) =
          skipUntilClosed bound (.more false) opened rest := by
  induction elements generalizing fresh with
  | nil =>
    refine ⟨0, Nat.zero_le _, fun bound opened rest => ?_⟩
    rw [Nat.zero_add, separated, List.nil_append, skipUntilClosed_close]
  | cons e elements ih =>
    obtain ⟨⟨c, more, shape, solid, unclosed⟩, key, covers, here, few, passed⟩ := inside e (by simp)
    obtain ⟨others, fewOthers, passedOthers⟩ :=
      ih (fun e member => inside e (List.mem_cons_of_mem _ member)) false
    refine ⟨1 + here + others, ?_, fun bound opened rest => ?_⟩
    · cases fresh <;>
        simp only [separated, comma, List.length_append, if_true, if_false, Bool.toNat_true,
          Bool.toNat_false, List.length_nil, List.length_singleton, Bool.false_eq_true] at *
      all_goals omega
    · have ends : EndsNumber (separated write false elements ++ b.close :: rest) :=
        endsNumber_separated write elements rest (by cases b <;> simp [Bracket.close])
      have keyed := key (separated write false elements ++ b.close :: rest)
      rw [shape, List.cons_append] at keyed
      have steps : 1 + here + others + (bound + 1) = here + (others + (bound + 1)) + 1 := by omega
      rw [steps, separated, List.append_assoc, List.append_assoc, shape, List.cons_append,
        skipUntilClosed_element _ fresh solid unclosed keyed, passed _ _ _ ends, passedOthers]

/-! ## Values -/

theorem begins_render (v : Value) : Begins v.render := by
  have scalar (flat : v.depth = 0) : Begins v.render := by
    obtain ⟨⟨c, more, shape, solid, _, _, unclosed⟩, _⟩ := render_scalar flat []
    exact ⟨c, more, shape, solid, unclosed⟩
  cases v with
  | list items => exact ⟨_, _, rfl, by decide, by decide⟩
  | object members => exact ⟨_, _, rfl, by decide, by decide⟩
  | _ => exact scalar rfl

theorem element_item {v : Value} (passed : Passed v) : Element .list v.render v where
  begins := begins_render v
  key _ := rfl
  covers := Nat.le_refl _
  passed := passed

theorem skipKey_member (kv : String × Value) (rest : List Char) :
    Bracket.object.skipKey (writeMember render kv ++ rest) = .ok (kv.2.render ++ rest) := by
  rw [writeMember_append, renderText_append, Bracket.skipKey, skipGap_of_not_gap _ (by decide)]
  simp [skipQuoted_escaped, expectColon_written, bind, Except.bind]

theorem element_member {kv : String × Value} (passed : Passed kv.2) :
    Element .object (writeMember render kv) kv.2 where
  begins := ⟨_, _, rfl, by decide, by decide⟩
  key := skipKey_member kv
  covers := by simp [writeMember]; omega
  passed := passed

theorem passed_list {items : List Value} (inside : ∀ v ∈ items, Passed v) :
    Passed (.list items) := by
  obtain ⟨used, few, passed⟩ := skipUntilClosed_elements .list render id
    (fun v member => element_item (inside v member)) true
  refine ⟨used + 2, ?_, fun bound opened rest _ => ?_⟩
  · rw [render, renderItems_eq]
    simp only [List.length_cons, List.length_append, List.length_nil, Bool.toNat_true] at few ⊢
    omega
  · have steps : used + 2 + bound = used + (bound + 1) + 1 := by omega
    rw [steps, render_list, skipUntilClosed, skipGap_of_not_gap _ (by decide)]
    exact passed bound opened rest

theorem passed_object {members : Members} (inside : ∀ kv ∈ members, Passed kv.2) :
    Passed (.object members) := by
  obtain ⟨used, few, passed⟩ := skipUntilClosed_elements .object (writeMember render) Prod.snd
    (fun kv member => element_member (inside kv member)) true
  refine ⟨used + 2, ?_, fun bound opened rest _ => ?_⟩
  · rw [render, renderMembers_eq]
    simp only [List.length_cons, List.length_append, List.length_nil, Bool.toNat_true] at few ⊢
    omega
  · have steps : used + 2 + bound = used + (bound + 1) + 1 := by omega
    rw [steps, render_object, skipUntilClosed, skipGap_of_not_gap _ (by decide)]
    exact passed bound opened rest

mutual

theorem passed_value : (v : Value) → Passed v
  | .list items => passed_list (passed_items items)
  | .object members => passed_object (passed_members members)
  | .null => passed_scalar rfl
  | .bool _ => passed_scalar rfl
  | .int _ => passed_scalar rfl
  | .real _ => passed_scalar rfl
  | .text _ => passed_scalar rfl

theorem passed_items : (items : List Value) → ∀ v ∈ items, Passed v
  | [], _, member => absurd member List.not_mem_nil
  | v :: rest, w, member => by
    rcases List.mem_cons.mp member with same | tail
    · exact same ▸ passed_value v
    · exact passed_items rest w tail

theorem passed_members : (members : Members) → ∀ kv ∈ members, Passed kv.2
  | [], _, member => absurd member List.not_mem_nil
  | (k, v) :: rest, kv, member => by
    rcases List.mem_cons.mp member with same | tail
    · exact same ▸ passed_value v
    · exact passed_members rest kv tail

end

/-- A written value is passed over to its end, before any text that ends a number. -/
theorem skipValue_render (v : Value) (ends : EndsNumber rest) :
    skipValue (v.render ++ rest) = .ok rest := by
  obtain ⟨used, few, passed⟩ := passed_value v
  obtain ⟨left, enough⟩ : ∃ left, 2 * (v.render ++ rest).length + 2 = used + (left + 1) := by
    refine ⟨2 * (v.render ++ rest).length + 1 - used, ?_⟩
    rw [List.length_append]
    omega
  rw [skipValue, enough, passed _ _ _ ends, skipUntilClosed]

end DebugGateway.Json
