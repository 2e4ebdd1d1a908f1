import DebugGateway.Proofs.Json.Finishing
import DebugGateway.Proofs.Json.Members

namespace DebugGateway.Json

open Value

variable {text rest after : List Char} {v : Value}

/-! ## Less is left -/

/-- Whatever is read has a property, and a part of the text is used up for it. -/
def Yields {α : Type} (P : α → Prop) (item : List Char → Read α) : Prop :=
  ∀ text a rest, item text = .ok (a, rest) → P a ∧ rest.length < text.length

theorem skipGap_length (text : List Char) : (skipGap text).length ≤ text.length :=
  (List.dropWhile_suffix isGap).length_le

theorem length_of_skipGap {c : Char} (shape : skipGap text = c :: rest) : rest.length < text.length := by
  have := skipGap_length text
  rw [shape, List.length_cons] at this
  omega

theorem expectWord_length {word : List Char} (read : expectWord word text = .ok ((), after)) :
    after.length ≤ text.length := by
  induction word generalizing text with
  | nil =>
    cases read
    exact Nat.le_refl _
  | cons w word ih =>
    cases text with
    | nil => cases read
    | cons c text =>
      rw [expectWord] at read
      split at read
      · have := ih read
        rw [List.length_cons]
        omega
      · cases read

theorem readQuoted_length {seen : List Char} {s : String}
    (read : readQuoted seen text = .ok (s, after)) : after.length < text.length := by
  fun_induction readQuoted seen text
  -- the quote ends the text; of the escapes those remain that are read
  case case2 =>
    cases read
    exact Nat.lt_succ_self _
  case case7 ih | case11 ih | case13 ih | case16 ih =>
    have := ih read
    simp only [List.length_cons]
    omega
  all_goals cases read

theorem dropDigits_length (text : List Char) : (text.dropWhile isDigit).length ≤ text.length :=
  (List.dropWhile_suffix isDigit).length_le

theorem skipExponent_length (read : skipExponent text = .ok after) : after.length < text.length := by
  cases text with
  | nil => cases read
  | cons sign text =>
    unfold skipExponent at read
    dsimp only at read
    generalize shape : (if sign = '+' ∨ sign = '-' then text else sign :: text) = unsigned at read
    have shorter : unsigned.length ≤ (sign :: text).length := by
      rw [← shape]
      split
      · exact Nat.le_succ _
      · exact Nat.le_refl _
    cases unsigned with
    | nil => cases read
    | cons c digits =>
      dsimp only at read
      split at read
      · cases read
        exact Nat.lt_of_le_of_lt (dropDigits_length digits) shorter
      · cases read

theorem skipFraction_length (read : skipFraction text = .ok after) : after.length ≤ text.length := by
  have digits := dropDigits_length text
  unfold skipFraction at read
  dsimp only at read
  split at read
  · cases read
  · split at read
    · have exponent := skipExponent_length read
      rw [List.length_drop] at exponent
      omega
    · cases read
      exact digits

theorem skipNumber_length (read : skipNumber text = .ok after) : after.length < text.length := by
  have parts := congrArg List.length (List.takeWhile_append_dropWhile (p := isDigit) (l := text))
  rw [List.length_append] at parts
  unfold skipNumber at read
  dsimp only at read
  split at read
  · cases read
  · rename_i some
    rw [List.isEmpty_iff, ← List.length_eq_zero_iff] at some
    split at read
    · cases read
    · split at read
      · cases read
        rw [List.length_nil]
        omega
      · rename_i c rest shape
        rw [shape, List.length_cons] at parts
        split at read
        · have := skipFraction_length read
          omega
        · split at read
          · have := skipExponent_length read
            omega
          · cases read
            rw [List.length_cons]
            omega

theorem readNumber_length {negative : Bool} (read : readNumber negative text = .ok (v, after)) :
    after.length < text.length :=
  skipNumber_length (readNumber_skips read).2

/-! ## Elements and members -/

/-- Where reading goes on: short of the text, unless it begins an element there. -/
theorem nextItem_length {first : Bool} {next : Next} (stepped : nextItem first text = .ok next) :
    match next with
    | .item here => here.length ≤ text.length
    | .done rest => rest.length < text.length := by
  unfold nextItem at stepped
  split at stepped
  · cases stepped
  · rename_i c rest shape
    have shorter := length_of_skipGap shape
    split at stepped
    · cases stepped
      exact shorter
    · split at stepped
      · cases stepped
        exact shorter
      · split at stepped
        · split at stepped
          · cases stepped
          · rename_i d more inner
            have := length_of_skipGap inner
            split at stepped
            · cases stepped
            · cases stepped
              show more.length + 1 ≤ text.length
              omega
        · cases stepped

theorem nextKey_length {first : Bool} {next : Next} (stepped : nextKey first text = .ok next) :
    match next with
    | .item here => here.length < text.length
    | .done rest => rest.length < text.length := by
  unfold nextKey at stepped
  split at stepped
  · cases stepped
  · rename_i c rest shape
    have shorter := length_of_skipGap shape
    split at stepped
    · cases stepped
      exact shorter
    · split at stepped
      · split at stepped
        · cases stepped
          exact shorter
        · cases stepped
      · split at stepped
        · split at stepped
          · cases stepped
          · rename_i d more inner
            have := length_of_skipGap inner
            split at stepped
            · cases stepped
              exact Nat.lt_trans this shorter
            · split at stepped
              · cases stepped
              · cases stepped
        · cases stepped

theorem expectColon_length (read : expectColon text = .ok after) : after.length < text.length := by
  unfold expectColon at read
  split at read
  · cases read
  · rename_i c rest shape
    split at read
    · cases read
      exact length_of_skipGap shape
    · cases read

section Elements

variable {α : Type} {P : α → Prop} {item : List Char → Read α} (yields : Yields P item)
include yields

theorem readItems_yields {bound : Nat} {seen items : List α} (good : ∀ a ∈ seen, P a)
    (read : readItems item bound seen text = .ok (items, after)) :
    (∀ a ∈ items, P a) ∧ after.length < text.length := by
  induction bound generalizing seen text with
  | zero => cases read
  | succ bound ih =>
    rw [readItems] at read
    obtain ⟨next, stepped, read⟩ := bind_eq_ok read
    have step := nextItem_length stepped
    cases next with
    | done rest =>
      cases read
      exact ⟨fun a member => good a (List.mem_reverse.mp member), step⟩
    | item here =>
      obtain ⟨⟨a, rest⟩, taken, read⟩ := bind_eq_ok read
      obtain ⟨fine, used⟩ := yields _ _ _ taken
      obtain ⟨all, left⟩ := ih (List.forall_mem_cons.mpr ⟨fine, good⟩) read
      dsimp only at step
      exact ⟨all, by omega⟩

theorem readMembers_yields {bound : Nat} {seen members : List (String × α)}
    (good : ∀ kv ∈ seen, P kv.2) (read : readMembers item bound seen text = .ok (members, after)) :
    (∀ kv ∈ members, P kv.2) ∧ after.length < text.length := by
  induction bound generalizing seen text with
  | zero => cases read
  | succ bound ih =>
    rw [readMembers] at read
    obtain ⟨next, stepped, read⟩ := bind_eq_ok read
    have step := nextKey_length stepped
    cases next with
    | done rest =>
      cases read
      exact ⟨fun kv member => good kv (List.mem_reverse.mp member), step⟩
    | item here =>
      obtain ⟨⟨key, behind⟩, quoted, read⟩ := bind_eq_ok read
      obtain ⟨value, colon, read⟩ := bind_eq_ok read
      obtain ⟨⟨a, rest⟩, taken, read⟩ := bind_eq_ok read
      obtain ⟨fine, used⟩ := yields _ _ _ taken
      obtain ⟨all, left⟩ := ih (List.forall_mem_cons.mpr ⟨fine, good⟩) read
      have key := readQuoted_length quoted
      have mark := expectColon_length colon
      dsimp only at step
      exact ⟨all, by omega⟩

end Elements

/-! ## Values by their first character -/

def NumberFrom (c : Char) (rest : List Char) (v : Value) (after : List Char) : Prop :=
  c = '-' ∧ readNumber true rest = .ok (v, after) ∨
    isDigit c = true ∧ readNumber false (c :: rest) = .ok (v, after)

def ReadFrom (levels : Nat) (c : Char) (rest after : List Char) : Value → Prop
  | .null => c = 'n' ∧ expectWord ['u', 'l', 'l'] rest = .ok ((), after)
  | .bool true => c = 't' ∧ expectWord ['r', 'u', 'e'] rest = .ok ((), after)
  | .bool false => c = 'f' ∧ expectWord ['a', 'l', 's', 'e'] rest = .ok ((), after)
  | .int n => NumberFrom c rest (.int n) after
  | .real x => NumberFrom c rest (.real x) after
  | .text s => c = '"' ∧ readQuoted [] rest = .ok (s, after)
  | .list items => c = '[' ∧ ∃ inner, levels = inner + 1 ∧
      readItems (readValue inner) (rest.length + 1) [] rest = .ok (items, after)
  | .object members => c = '\x7b' ∧ ∃ inner, levels = inner + 1 ∧
      readMembers (readValue inner) (rest.length + 1) [] rest = .ok (members, after)

theorem NumberFrom.readFrom {levels : Nat} {c : Char} (number : NumberFrom c rest v after) :
    ReadFrom levels c rest after v := by
  have kind : (∃ n, v = .int n) ∨ ∃ x, v = .real x := by
    rcases number with ⟨_, read⟩ | ⟨_, read⟩
    · exact (readNumber_skips read).1
    · exact (readNumber_skips read).1
  rcases kind with ⟨n, rfl⟩ | ⟨x, rfl⟩
  · exact number
  · exact number

theorem readScalar_number {c : Char} (number : NumberFrom c rest v after) :
    readScalar? (c :: rest) = some (.ok (v, after)) := by
  rcases number with ⟨rfl, read⟩ | ⟨digit, read⟩
  · simp [readScalar?, read]
  · have other {d : Char} (mark : isDigit d = false) : c ≠ d := by
      rintro rfl
      rw [digit] at mark
      cases mark
    rw [readScalar?, if_neg (other rfl), if_neg (other rfl), if_neg (other rfl), if_neg (other rfl),
      if_pos digit, read]

theorem readScalar_reads {levels : Nat} {c : Char}
    (scalar : readScalar? (c :: rest) = some (.ok (v, after))) : ReadFrom levels c rest after v := by
  unfold readScalar? at scalar
  dsimp only at scalar
  split at scalar
  · rename_i null
    obtain ⟨_, word, same⟩ := map_eq_ok (Option.some.inj scalar)
    cases same
    exact ⟨null, word⟩
  · split at scalar
    · rename_i yes
      obtain ⟨_, word, same⟩ := map_eq_ok (Option.some.inj scalar)
      cases same
      exact ⟨yes, word⟩
    · split at scalar
      · rename_i no
        obtain ⟨_, word, same⟩ := map_eq_ok (Option.some.inj scalar)
        cases same
        exact ⟨no, word⟩
      · split at scalar
        · rename_i minus
          exact NumberFrom.readFrom (.inl ⟨minus, Option.some.inj scalar⟩)
        · split at scalar
          · rename_i digit
            exact NumberFrom.readFrom (.inr ⟨digit, Option.some.inj scalar⟩)
          · split at scalar
            · rename_i quote
              obtain ⟨_, quoted, same⟩ := map_eq_ok (Option.some.inj scalar)
              cases same
              exact ⟨quote, quoted⟩
            · cases scalar

theorem readValue_iff {levels : Nat} : readValue levels text = .ok (v, after) ↔
    ∃ c rest, skipGap text = c :: rest ∧ ReadFrom levels c rest after v := by
  unfold readValue
  constructor
  · intro read
    split at read
    · cases read
    · rename_i c rest shape
      refine ⟨c, rest, shape, ?_⟩
      split at read
      · rename_i answer scalar
        rw [read] at scalar
        exact readScalar_reads scalar
      · split at read
        · rename_i opening
          split at read
          · cases read
          · rename_i inner
            obtain ⟨⟨items, left⟩, elements, read⟩ := bind_eq_ok read
            cases read
            exact ⟨opening, inner, rfl, elements⟩
        · split at read
          · rename_i opening
            split at read
            · cases read
            · rename_i inner
              obtain ⟨⟨members, left⟩, elements, read⟩ := bind_eq_ok read
              cases read
              exact ⟨opening, inner, rfl, elements⟩
          · cases read
  · rintro ⟨c, rest, shape, told⟩
    rw [shape]
    dsimp only
    cases v with
    | null =>
      obtain ⟨rfl, word⟩ := told
      simp [readScalar?, word, Except.map]
    | bool b =>
      cases b with
      | true =>
        obtain ⟨rfl, word⟩ := told
        simp [readScalar?, word, Except.map]
      | false =>
        obtain ⟨rfl, word⟩ := told
        simp [readScalar?, word, Except.map]
    | int n => rw [readScalar_number told]
    | real x => rw [readScalar_number told]
    | text s =>
      obtain ⟨rfl, quoted⟩ := told
      simp [readScalar?, isDigit, quoted, Except.map]
    | list items =>
      obtain ⟨rfl, inner, rfl, elements⟩ := told
      simp [readScalar?, isDigit, elements, bind, Except.bind, pure, Except.pure]
    | object members =>
      obtain ⟨rfl, inner, rfl, elements⟩ := told
      simp [readScalar?, isDigit, elements, bind, Except.bind, pure, Except.pure]

/-! ## The depth of a value -/

theorem depthItems_le {items : List Value} {levels : Nat} (flat : ∀ v ∈ items, v.depth ≤ levels) :
    depthItems items ≤ levels := by
  apply Nat.le_of_not_lt
  intro deep
  obtain ⟨v, member, steep⟩ := exists_deep_item deep
  exact Nat.not_le_of_lt steep (flat v member)

theorem depthMembers_le {members : Members} {levels : Nat}
    (flat : ∀ kv ∈ members, kv.2.depth ≤ levels) : depthMembers members ≤ levels := by
  apply Nat.le_of_not_lt
  intro deep
  obtain ⟨kv, member, steep⟩ := exists_deep_member deep
  exact Nat.not_le_of_lt steep (flat kv member)

theorem NumberFrom.length {c : Char} (number : NumberFrom c rest v after) :
    after.length ≤ rest.length := by
  rcases number with ⟨_, read⟩ | ⟨_, read⟩
  · exact Nat.le_of_lt (readNumber_length read)
  · exact Nat.le_of_lt_succ (readNumber_length read)

theorem ReadFrom.yields {levels : Nat} {c : Char}
    (deeper : ∀ inner, levels = inner + 1 → Yields (fun v => v.depth ≤ inner) (readValue inner))
    (told : ReadFrom levels c rest after v) : v.depth ≤ levels ∧ after.length ≤ rest.length := by
  cases v with
  | null => exact ⟨Nat.zero_le _, expectWord_length told.2⟩
  | bool b => cases b <;> exact ⟨Nat.zero_le _, expectWord_length told.2⟩
  | int n => exact ⟨Nat.zero_le _, NumberFrom.length told⟩
  | real x => exact ⟨Nat.zero_le _, NumberFrom.length told⟩
  | text s => exact ⟨Nat.zero_le _, Nat.le_of_lt (readQuoted_length told.2)⟩
  | list items =>
    obtain ⟨_, inner, rfl, elements⟩ := told
    obtain ⟨flat, left⟩ := readItems_yields (deeper inner rfl) (List.forall_mem_nil _) elements
    exact ⟨Nat.succ_le_succ (depthItems_le flat), Nat.le_of_lt left⟩
  | object members =>
    obtain ⟨_, inner, rfl, elements⟩ := told
    obtain ⟨flat, left⟩ := readMembers_yields (deeper inner rfl) (List.forall_mem_nil _) elements
    exact ⟨Nat.succ_le_succ (depthMembers_le flat), Nat.le_of_lt left⟩

theorem readValue_yields (levels : Nat) : Yields (fun v => v.depth ≤ levels) (readValue levels) := by
  induction levels with
  | zero =>
    intro text v after read
    obtain ⟨c, rest, shape, told⟩ := readValue_iff.mp read
    obtain ⟨nested, left⟩ := told.yields fun inner other => absurd other.symm (Nat.succ_ne_zero inner)
    exact ⟨nested, Nat.lt_of_le_of_lt left (length_of_skipGap shape)⟩
  | succ levels ih =>
    intro text v after read
    obtain ⟨c, rest, shape, told⟩ := readValue_iff.mp read
    obtain ⟨nested, left⟩ := told.yields fun inner same => Nat.succ.inj same ▸ ih
    exact ⟨nested, Nat.lt_of_le_of_lt left (length_of_skipGap shape)⟩

end DebugGateway.Json
