import DebugGateway.Json.Skip
import DebugGateway.Proofs.Json.Numerals

/-! What is written of a number is a numeral: a whole part that no zero leads, a fraction of at least
one digit, an exponent with its sign. A numeral is passed over before any text that does not continue
it. The whole part of a real number is made of its shortest digits, and these are never zero unless the
number is. -/
namespace DebugGateway.Json

/-! ## Numerals -/

structure IsWhole (s : List Char) : Prop where
  digits : Digits s
  filled : s ≠ []
  lone_zero : s.head? = some '0' → s = ['0']

inductive IsFraction : List Char → Prop
  | absent : IsFraction []
  | digits {s : List Char} (digits : Digits s) (filled : s ≠ []) : IsFraction ('.' :: s)

inductive IsExponent : List Char → Prop
  | absent : IsExponent []
  | signed {sign : Char} {s : List Char} (signed : sign = '+' ∨ sign = '-') (digits : Digits s)
      (filled : s ≠ []) : IsExponent ('e' :: sign :: s)

inductive IsNumeral : List Char → Prop
  | mk {w f e : List Char} (whole : IsWhole w) (fraction : IsFraction f) (exponent : IsExponent e) :
    IsNumeral (w ++ f ++ e)

theorem Digits.append {s t : List Char} (hs : Digits s) (ht : Digits t) : Digits (s ++ t) := by
  intro c member
  rcases List.mem_append.mp member with left | right
  · exact hs c left
  · exact ht c right

theorem digits_replicate (n : Nat) : Digits (List.replicate n '0') := by
  intro c member
  rw [List.eq_of_mem_replicate member]
  decide

theorem isWhole_toDigits (n : Nat) : IsWhole (Nat.toDigits 10 n) where
  digits := digits_toDigits n
  filled := Nat.toDigits_ne_nil
  lone_zero := toDigits_lone_zero

/-! ## Passing over numerals -/

variable {rest : List Char}

theorem skipExponent_signed {sign : Char} {s : List Char} (signed : sign = '+' ∨ sign = '-')
    (digits : Digits s) (filled : s ≠ []) (ends : EndsNumber rest) :
    skipExponent (sign :: (s ++ rest)) = .ok rest := by
  obtain ⟨c, s, rfl⟩ := List.exists_cons_of_ne_nil filled
  have first : isDigit c = true := digits c List.mem_cons_self
  have others : Digits s := fun d member => digits d (List.mem_cons_of_mem _ member)
  have after := (takeWhile_digits others ends.no_digit).2
  simp [skipExponent, signed, first, after]

theorem IsExponent.no_digit {e : List Char} (exponent : IsExponent e) (ends : EndsNumber rest) :
    ∀ c ∈ (e ++ rest).head?, isDigit c = false := by
  cases exponent with
  | absent => exact ends.no_digit
  | signed =>
    intro c found
    cases Option.mem_some.mp found
    decide

theorem skipFraction_written {s e : List Char} (digits : Digits s) (filled : s ≠ [])
    (exponent : IsExponent e) (ends : EndsNumber rest) :
    skipFraction (s ++ (e ++ rest)) = .ok rest := by
  obtain ⟨taken, after⟩ := takeWhile_digits digits (exponent.no_digit ends)
  have some : s.isEmpty = false := List.isEmpty_eq_false_iff.mpr filled
  simp only [skipFraction, taken, after, some, Bool.false_eq_true, if_false]
  cases exponent with
  | absent =>
    cases rest with
    | nil => rfl
    | cons c rest =>
      obtain ⟨_, _, lower, upper⟩ := ends c rfl
      simp [startsExponent, lower, upper]
  | signed signed digits filled => exact skipExponent_signed signed digits filled ends

theorem skipNumber_numeral {s : List Char} (numeral : IsNumeral s) (ends : EndsNumber rest) :
    skipNumber (s ++ rest) = .ok rest := by
  obtain ⟨whole, fraction, exponent⟩ := numeral
  rename_i w f e
  have stop : ∀ c ∈ (f ++ (e ++ rest)).head?, isDigit c = false := by
    cases fraction with
    | absent => exact exponent.no_digit ends
    | digits =>
      intro c found
      cases Option.mem_some.mp found
      decide
  obtain ⟨taken, after⟩ := takeWhile_digits whole.digits stop
  have some : w.isEmpty = false := List.isEmpty_eq_false_iff.mpr whole.filled
  have single : ¬ (w.head? = .some '0' ∧ 1 < w.length) := by
    rintro ⟨zero, long⟩
    rw [whole.lone_zero zero] at long
    exact absurd long (by decide)
  simp only [List.append_assoc, skipNumber, taken, after, some, Bool.false_eq_true, if_false,
    if_neg single]
  cases fraction with
  | digits digits filled => exact skipFraction_written digits filled exponent ends
  | absent =>
    cases exponent with
    | signed signed digits filled => exact skipExponent_signed signed digits filled ends
    | absent =>
      cases rest with
      | nil => rfl
      | cons c rest =>
        obtain ⟨_, point, lower, upper⟩ := ends c rfl
        simp [point, lower, upper]

end DebugGateway.Json

namespace DebugGateway.Number.Double

open Json

/-! ## Shortest digits -/

theorem nearer_ne_zero {low : Nat} (num den : Nat) (some : low ≠ 0) : nearer num den low ≠ 0 := by
  unfold nearer
  dsimp only
  repeat' split
  all_goals omega

theorem onGrid_ne_zero {x : Double} {e : Int} {d : Decimal} (found : x.onGrid e = some d) :
    d.digits ≠ 0 := by
  unfold onGrid at found
  dsimp only at found
  split at found
  · rename_i both _
    have low := (Bool.and_eq_true _ _ ▸ both).1
    cases found
    exact nearer_ne_zero _ _ (bne_iff_ne.mp low)
  · rename_i both _
    have low := (Bool.and_eq_true _ _ ▸ both).1
    cases found
    exact bne_iff_ne.mp low
  · cases found
    exact Nat.succ_ne_zero _
  · cases found

theorem search_ne_zero {x : Double} (some : x.mantissa ≠ 0) (steps : Nat) (e : Int) :
    (search x steps e).digits ≠ 0 := by
  induction steps generalizing e with
  | zero => exact some
  | succ steps ih =>
    rw [search]
    cases found : x.onGrid e with
    | none => exact ih (e - 1)
    | some d => exact onGrid_ne_zero found

theorem Decimal.trimmed_ne_zero {d : Decimal} (some : d.digits ≠ 0) (steps : Nat) :
    (d.trimmed steps).digits ≠ 0 := by
  induction steps generalizing d with
  | zero => exact some
  | succ steps ih =>
    rw [trimmed]
    split
    · exact ih (show d.digits / 10 ≠ 0 by omega)
    · exact some

theorem shortest_ne_zero {x : Double} (some : x.isZero = false) : x.shortest.digits ≠ 0 := by
  refine Decimal.trimmed_ne_zero (search_ne_zero ?_ 20 _) 20
  simpa [isZero] using some

/-! ## Written form -/

theorem toDigits_lead {n : Nat} (some : n ≠ 0) : (Nat.toDigits 10 n).head? ≠ .some '0' :=
  fun zero => some (toDigits_head n zero)

theorem isWhole_lead {s : List Char} (digits : Digits s) (filled : s ≠ [])
    (lead : s.head? ≠ some '0') {more : List Char} (others : Digits more) : IsWhole (s ++ more) where
  digits := digits.append others
  filled := List.append_ne_nil_of_left_ne_nil filled more
  lone_zero := by
    intro zero
    obtain ⟨c, s, rfl⟩ := List.exists_cons_of_ne_nil filled
    exact absurd zero lead

theorem isWhole_take {s : List Char} {n : Nat} (digits : Digits s) (filled : s ≠ [])
    (lead : s.head? ≠ some '0') (some : n ≠ 0) : IsWhole (s.take n) := by
  have part : Digits (s.take n) := fun c member => digits c (List.mem_of_mem_take member)
  have front : s.take n ≠ [] := by simp [some, filled]
  have none : Digits [] := by simp [Digits]
  have whole := isWhole_lead part front (by rwa [List.head?_take, if_neg some]) none
  rwa [List.append_nil] at whole

theorem isFraction_drop {s : List Char} {n : Nat} (digits : Digits s) (left : n < s.length) :
    IsFraction ('.' :: s.drop n) := by
  refine .digits (fun c member => digits c (List.mem_of_mem_drop member)) ?_
  simp [left]

/-- The digits of the point, the fraction and the exponent come to a numeral. -/
theorem render_numeral (x : Double) :
    ∃ s, x.render = (if x.negative then ['-'] else []) ++ s ∧ IsNumeral s := by
  have zero : IsFraction ['.', '0'] := .digits (by simp [Digits, isDigit]) (by simp)
  unfold render
  dsimp only
  split
  · exact ⟨_, rfl, .mk (isWhole_toDigits 0) zero .absent⟩
  · rename_i some
    have positive := shortest_ne_zero (Bool.eq_false_iff.mpr some)
    have digits := digits_toDigits x.shortest.digits
    have filled : Nat.toDigits 10 x.shortest.digits ≠ [] := Nat.toDigits_ne_nil
    have lead := toDigits_lead positive
    generalize Nat.toDigits 10 x.shortest.digits = s at *
    have long := List.length_pos_iff.mpr filled
    refine ⟨_, rfl, ?_⟩
    split
    · split
      · rw [← List.append_nil (_ ++ ['.', '0'])]
        exact .mk (isWhole_lead digits filled lead (digits_replicate _)) zero .absent
      · split
        · rw [← List.append_nil (_ ++ '.' :: _)]
          exact .mk (isWhole_take digits filled lead (by omega))
            (isFraction_drop digits (by omega)) .absent
        · have fraction : IsFraction ('.' :: (List.replicate _ '0' ++ s)) :=
            .digits ((digits_replicate (-((s.length : Int) + x.shortest.exponent)).toNat).append digits)
              (List.append_ne_nil_of_right_ne_nil _ filled)
          have numeral := IsNumeral.mk (isWhole_toDigits 0) fraction .absent
          simpa using numeral
    · have whole := isWhole_take digits filled lead Nat.one_ne_zero
      have fraction : IsFraction (if s.length = 1 then [] else '.' :: s.drop 1) := by
        split
        · exact .absent
        · exact isFraction_drop digits (by omega)
      rw [List.append_assoc _ _ (Nat.toDigits 10 _)]
      refine .mk whole fraction ?_
      split
      · exact .signed (.inr rfl) (digits_toDigits _) Nat.toDigits_ne_nil
      · exact .signed (.inl rfl) (digits_toDigits _) Nat.toDigits_ne_nil

end DebugGateway.Number.Double
