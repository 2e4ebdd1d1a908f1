import DebugGateway.Json.Record
import DebugGateway.Proofs.Json.Records
import DebugGateway.Proofs.Json.Refusing

namespace DebugGateway.Json

open Value

/-! ## Numbers -/

theorem takeExponent_rest (e : Nat) (text : List Char) :
    (takeExponent e text).2.dropWhile isDigit = text.dropWhile isDigit ∧
      ((takeExponent e text).1.isSome → (takeExponent e text).2 = text.dropWhile isDigit) := by
  induction text generalizing e with
  | nil => exact ⟨rfl, fun _ => rfl⟩
  | cons c text ih =>
    rw [takeExponent]
    by_cases digit : isDigit c = true
    · simp only [if_pos digit, List.dropWhile_cons_of_pos digit]
      split
      · exact ⟨rfl, nofun⟩
      · exact ih _
    · simp [digit]

theorem realOf_reads {negative : Bool} {significand : Nat} {e : Int} {rest after : List Char}
    {v : Value} (read : realOf negative significand e rest = .ok (v, after)) :
    (∃ x, v = .real x) ∧ rest = after := by
  rw [realOf] at read
  split at read
  · cases read
    exact ⟨⟨_, rfl⟩, rfl⟩
  · cases read

theorem wholeOf_kind (negative : Bool) (significand : Nat) :
    (∃ n, wholeOf negative significand = .int n) ∨ ∃ x, wholeOf negative significand = .real x := by
  unfold wholeOf
  split
  · exact .inl ⟨_, rfl⟩
  · split
    · exact .inr ⟨_, rfl⟩
    · exact .inl ⟨_, rfl⟩

theorem exponentDigits_skip {negative : Bool} {significand : Nat} {e : Nat → Int} {large : Prop}
    [Decidable large] {x : Number.Double} {text after : List Char} {v : Value}
    (read : (match text with
      | [] => Except.error (halt .missingValue [])
      | c :: rest =>
        if isDigit c then
          match takeExponent (digitValue c) rest with
          | (some n, rest) => realOf negative significand (e n) rest
          | (none, rest) =>
            if large then .error (halt .numberOutOfRange rest)
            else .ok (.real x, rest.dropWhile isDigit)
        else .error (haltOn .invalidNumber (c :: rest))) = .ok (v, after)) :
    (∃ y, v = .real y) ∧
    (match text with
      | [] => Except.error (halt .invalidNumber [])
      | c :: rest =>
        if isDigit c then Except.ok (rest.dropWhile isDigit)
        else .error (haltOn .invalidNumber (c :: rest))) = .ok after := by
  split at read
  · cases read
  · rename_i c more
    split at read
    · rename_i digit
      obtain ⟨passed, taken⟩ := takeExponent_rest (digitValue c) more
      simp only [if_pos digit]
      split at read
      · rename_i n rest shape
        obtain ⟨real, rfl⟩ := realOf_reads read
        rw [shape] at taken
        exact ⟨real, by rw [← taken rfl]⟩
      · rename_i rest shape
        rw [shape] at passed
        split at read
        · cases read
        · cases read
          exact ⟨⟨x, rfl⟩, by rw [passed]⟩
    · cases read

theorem readExponent_skips {negative : Bool} {significand : Nat} {start : Int}
    {text after : List Char} {v : Value}
    (read : readExponent negative significand start text = .ok (v, after)) :
    (∃ x, v = .real x) ∧ skipExponent text = .ok after := by
  unfold readExponent at read
  unfold skipExponent
  cases text with
  | nil => cases read
  | cons c text =>
    dsimp only at read ⊢
    by_cases plus : c = '+'
    · rw [if_pos plus] at read
      rw [if_pos (.inl plus)]
      exact exponentDigits_skip read
    · rw [if_neg plus] at read
      by_cases minus : c = '-'
      · rw [if_pos minus] at read
        rw [if_pos (.inr minus)]
        exact exponentDigits_skip read
      · rw [if_neg minus] at read
        rw [if_neg (not_or.mpr ⟨plus, minus⟩)]
        exact @exponentDigits_skip _ _ _ _ _ _ (c :: text) _ _ read

theorem readFraction_skips {negative : Bool} {significand : Nat} {before : Int}
    {text after : List Char} {v : Value}
    (read : readFraction negative significand before text = .ok (v, after)) :
    (∃ x, v = .real x) ∧ skipFraction text = .ok after := by
  rw [readFraction] at read
  rw [skipFraction]
  dsimp only at read ⊢
  split at read
  · cases read
  · rename_i some
    rw [if_neg some]
    split at read
    · rename_i exponent
      rw [if_pos exponent]
      exact readExponent_skips read
    · rename_i none
      obtain ⟨real, rfl⟩ := realOf_reads read
      rw [if_neg none]
      exact ⟨real, rfl⟩

/-- What is read of a number is a number, and the number is passed over as far as it is read. -/
theorem readNumber_skips {negative : Bool} {text after : List Char} {v : Value}
    (read : readNumber negative text = .ok (v, after)) :
    ((∃ n, v = .int n) ∨ ∃ x, v = .real x) ∧ skipNumber text = .ok after := by
  unfold readNumber at read
  split at read
  · cases read
  · rename_i c more
    split at read
    · rename_i digit
      dsimp only at read
      split at read
      · cases read
      · rename_i single
        have some : ((c :: more).takeWhile isDigit).isEmpty = false := by
          simp [List.takeWhile_cons_of_pos digit]
        have lead : ¬(((c :: more).takeWhile isDigit).head? = .some '0' ∧
            1 < ((c :: more).takeWhile isDigit).length) := by
          simpa [List.takeWhile_cons_of_pos digit] using single
        simp only [skipNumber, some, Bool.false_eq_true, if_false, if_neg lead]
        split at read
        · rename_i d rest shape
          simp only [shape]
          split at read
          · rename_i point
            rw [if_pos point]
            exact (readFraction_skips read).imp_left .inr
          · rename_i point
            rw [if_neg point]
            split at read
            · rename_i letter
              rw [if_pos letter]
              exact (readExponent_skips read).imp_left .inr
            · rename_i letter
              rw [if_neg letter]
              rw [← shape]
              split at read
              · cases read
                exact ⟨wholeOf_kind _ _, rfl⟩
              · obtain ⟨real, same⟩ := realOf_reads read
                exact ⟨.inr real, by rw [same]⟩
        · rename_i shape
          simp only [shape]
          split at read
          · cases read
            exact ⟨wholeOf_kind _ _, rfl⟩
          · obtain ⟨real, same⟩ := realOf_reads read
            exact ⟨.inr real, by rw [same]⟩
    · cases read

/-! ## Single fields -/

def Finishes {α : Type} (item : List Char → Read α) (v : Value) : Prop :=
  ∀ rest, EndsNumber rest → ∀ a after, item (v.render ++ rest) = .ok (a, after) → after = rest

variable {α : Type} {item : List Char → Read α} {v : Value}

theorem Finishes.of_reads {meant : Value → α} (reads : ReadsAs item render meant v) :
    Finishes item v := by
  intro rest ends a after read
  rw [reads rest ends] at read
  cases read
  rfl

theorem Finishes.of_refuses (refuses : Refuses item render v) : Finishes item v := by
  intro rest ends a after read
  obtain ⟨h, failed⟩ := refuses rest ends
  rw [failed] at read
  cases read

theorem readText_finishes (wanted : String) (v : Value) : Finishes (readText wanted) v := by
  by_cases text : ∃ s, v = .text s
  · obtain ⟨s, rfl⟩ := text
    have reads : ReadsAs (readText wanted) render (fun _ => s) (.text s) := fun rest _ =>
      readText_written wanted s rest
    exact .of_reads reads
  · exact .of_refuses (readText_refused wanted fun s same => text ⟨s, same⟩)

theorem opens_number {c : Char} (opens : Opens v c) (first : c = '-' ∨ isDigit c = true) :
    (∃ n, v = .int n) ∨ ∃ x, v = .real x := by
  cases opens with
  | int n => exact .inl ⟨n, rfl⟩
  | real x => exact .inr ⟨x, rfl⟩
  | _ => exact absurd first (by decide)

theorem number_shape {c : Char} {more rest : List Char} (opens : Opens v c)
    (first : c = '-' ∨ isDigit c = true) (shape : v.render ++ rest = c :: more) :
    ∃ s, IsNumeral s ∧ (if c = '-' then more else c :: more) = s ++ rest := by
  obtain ⟨s, numeral, written | written⟩ := render_number (opens_number opens first)
  · obtain ⟨d, others, rfl, digit⟩ := numeral.first_digit
    refine ⟨_, numeral, ?_⟩
    rw [written] at shape
    have unsigned : c ≠ '-' := by
      rintro rfl
      cases shape
      exact absurd digit (by decide)
    rw [if_neg unsigned, ← shape]
  · refine ⟨s, numeral, ?_⟩
    rw [written] at shape
    cases shape
    exact if_pos rfl

theorem readInt_finishes (range : IntRange) (v : Value) : Finishes (readInt range) v := by
  intro rest ends n after read
  obtain ⟨c, more, shape, solid, opens⟩ := render_opens v rest
  rw [shape, readInt, skipGap_of_not_gap _ solid] at read
  dsimp only at read
  split at read
  · rename_i first
    obtain ⟨s, numeral, same⟩ := number_shape opens first shape
    have stops {negative : Bool} {value : Value} {left : List Char}
        (taken : readNumber negative (s ++ rest) = .ok (value, left)) : left = rest := by
      have skipped := (readNumber_skips taken).2
      rw [skipNumber_numeral numeral ends] at skipped
      exact (Except.ok.inj skipped).symm
    split at read
    · rename_i minus
      rw [if_pos minus] at same
      obtain ⟨⟨value, left⟩, taken, read⟩ := bind_eq_ok read
      rw [same] at taken
      dsimp only at read
      split at read
      · cases read
        exact stops taken
      · cases read
    · rename_i unsigned
      rw [if_neg unsigned] at same
      obtain ⟨⟨value, left⟩, taken, read⟩ := bind_eq_ok read
      rw [same] at taken
      dsimp only at read
      split at read
      · cases read
        exact stops taken
      · cases read
  · cases read

theorem ignoreOther_finishes {σ : Type} (key : String) (s : σ) (v : Value) :
    Finishes (ignoreOther key s) v := by
  have reads : ReadsAs (ignoreOther key s) render (fun _ => s) v := by
    intro rest ends
    rw [ignoreOther, skipValue_render v ends]
    rfl
  exact .of_reads reads

/-! ## Variants -/

theorem readTag_finishes {α : Type} (known : List (String × α)) (v : Value) :
    Finishes (readTag known) v := by
  intro rest ends a after read
  rw [readTag] at read
  obtain ⟨⟨name, left⟩, text, read⟩ := bind_eq_ok read
  have stops := readText_finishes "variant identifier" v rest ends name left text
  dsimp only at read
  split at read
  · cases read
    exact stops
  · cases read

theorem readNothing_finishes {v : Value} {tail after : List Char}
    (read : readNothing (v.render ++ tail) = .ok after) : after = tail := by
  obtain ⟨c, more, shape, solid, opens⟩ := render_opens v tail
  rw [shape, readNothing, skipGap_of_not_gap _ solid] at read
  dsimp only at read
  split at read
  · rename_i null
    subst null
    cases opens_null opens
    rw [render] at shape
    cases shape
    cases read
    rfl
  · cases read

theorem readVariant_finishes {α : Type} (known : List (String × α)) (v : Value) :
    Finishes (readVariant known) v := by
  intro rest ends a after read
  obtain ⟨c, more, shape, solid, opens⟩ := render_opens v rest
  have whole := readTag_finishes known v rest ends a after
  rw [shape] at read whole
  rw [readVariant, skipGap_of_not_gap _ solid] at read
  dsimp only at read
  split at read
  · exact whole read
  · split at read
    · rename_i brace
      subst brace
      obtain ⟨members, rfl⟩ := opens_object opens
      rw [render_object] at shape
      cases shape
      obtain ⟨⟨b, left⟩, tag, untagged⟩ := bind_eq_ok read
      obtain ⟨text, colon, parted⟩ := bind_eq_ok untagged
      obtain ⟨tail, null, closed⟩ := bind_eq_ok parted
      dsimp only at colon closed
      cases members with
      | nil =>
        rw [readTag, readText, separated, List.nil_append, skipGap_of_not_gap rest (by decide)] at tag
        cases tag
      | cons kv members =>
        rw [separated, comma, if_pos rfl, List.nil_append, List.append_assoc, writeMember_append] at tag
        have stops := readTag_finishes known (.text kv.1) _ (endsNumber_cons _ (by decide)) b left tag
        rw [stops, expectColon_written] at colon
        cases colon
        rw [readNothing_finishes null] at closed
        cases members with
        | nil =>
          rw [separated, List.nil_append, skipGap_of_not_gap rest (by decide)] at closed
          cases closed
          rfl
        | cons other members =>
          rw [separated, comma, if_neg (by decide)] at closed
          simp only [List.cons_append] at closed
          rw [skipGap_of_not_gap _ (by decide)] at closed
          cases closed
    · cases read

/-! ## Records -/

namespace Shape

variable {σ : Type} {shape : Shape σ} {P : σ → Prop}

/-- A member that is read to its end, if it is accepted, and leaves what `P` says. -/
def Spares (shape : Shape σ) (P : σ → Prop) (kv : String × Value) : Prop :=
  ∀ s rest, EndsNumber rest → P s → ∀ s' after,
    shape.reader kv.1 s (kv.2.render ++ rest) = .ok (s', after) → P s' ∧ after = rest

theorem readNamed_spares {members : Members} {bound : Nat} (first : Bool) (seen : List String)
    {s s' : σ} {rest after : List Char} (spares : ∀ kv ∈ members, shape.Spares P kv)
    (enough : members.length < bound) (holds : P s)
    (read : shape.readNamed bound first seen s
      (separated (writeMember render) first members ++ '\x7d' :: rest) = .ok (s', after)) :
    P s' := by
  induction members generalizing bound first seen s with
  | nil =>
    obtain ⟨bound, rfl⟩ := Nat.exists_eq_add_one_of_ne_zero (Nat.ne_of_gt enough)
    rw [separated, List.nil_append, readNamed_done] at read
    cases read
    exact holds
  | cons kv members ih =>
    obtain ⟨bound, rfl⟩ := Nat.exists_eq_add_one_of_ne_zero (Nat.ne_of_gt (Nat.zero_lt_of_lt enough))
    have ends : EndsNumber (separated (writeMember render) false members ++ '\x7d' :: rest) :=
      endsNumber_separated (writeMember render) members rest (.inr rfl)
    rw [separated, List.append_assoc, List.append_assoc, writeMember_append] at read
    by_cases new : shape.knows kv.1 = true → kv.1 ∉ seen
    · rw [shape.readNamed_member bound first new] at read
      obtain ⟨⟨t, left⟩, taken, read⟩ := bind_eq_ok read
      obtain ⟨here, rfl⟩ := spares kv List.mem_cons_self s _ ends holds t left taken
      exact ih false _ (fun kv member => spares kv (List.mem_cons_of_mem _ member))
        (Nat.lt_of_succ_lt_succ enough) here read
    · obtain ⟨known, again⟩ := Classical.not_imp.mp new
      obtain ⟨h, failed⟩ :=
        shape.readNamed_repeated bound first known (Classical.not_not.mp again) s _
      rw [failed] at read
      cases read

theorem read_object_spares {members : Members} {start s : σ} {rest after : List Char}
    (spares : ∀ kv ∈ members, shape.Spares P kv) (holds : P start)
    (accepted : shape.read start ((object members).render ++ rest) = .ok (s, after)) : P s := by
  obtain ⟨text, written⟩ : ∃ text, text = separated (writeMember render) true members ++ '\x7d' :: rest :=
    ⟨_, rfl⟩
  have enough : members.length < text.length + 1 := by
    have := length_le_members render members
    rw [written, List.length_append]
    omega
  rw [render_object, ← written, read, skipGap_of_not_gap _ (by decide)] at accepted
  have named := settle_eq_ok accepted
  generalize text.length + 1 = bound at enough named
  rw [written] at named
  exact readNamed_spares true [] spares enough holds named

end Shape

theorem parseWith_iff {α : Type} {reader : List Char → Except Halt (α × List Char)} {text : String}
    {a : α} : parseWith reader text = .ok a ↔
      ∃ rest, reader text.toList = .ok (a, rest) ∧ skipGap rest = [] := by
  constructor
  · intro parsed
    obtain ⟨⟨b, rest⟩, read, closed⟩ := bind_eq_ok (mapError_eq_ok parsed)
    dsimp only at closed
    split at closed
    · rename_i nothing
      cases closed
      exact ⟨rest, read, nothing⟩
    · cases closed
  · rintro ⟨rest, read, nothing⟩
    have whole : readAll reader text.toList = .ok a := by
      simp only [readAll, read, nothing, bind, Except.bind, pure, Except.pure]
    rw [parseWith, whole]
    rfl

theorem parseWith_eq_ok {α : Type} {reader : List Char → Except Halt (α × List Char)}
    {text : String} {a : α} (parsed : parseWith reader text = .ok a) :
    ∃ rest, reader text.toList = .ok (a, rest) := by
  obtain ⟨rest, read, -⟩ := parseWith_iff.mp parsed
  exact ⟨rest, read⟩

end DebugGateway.Json
