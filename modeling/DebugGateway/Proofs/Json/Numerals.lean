import DebugGateway.Json.Reader
import DebugGateway.Json.Value

/-! Numbers as they are written. A number has no closing mark, so all that is said of reading one is
said before a text that does not continue it. Integers read back as they are, up to what 64 bits
hold. -/
namespace DebugGateway.Json

def EndsNumber (rest : List Char) : Prop :=
  ∀ c ∈ rest.head?, isDigit c = false ∧ c ≠ '.' ∧ c ≠ 'e' ∧ c ≠ 'E'

theorem endsNumber_nil : EndsNumber [] := by simp [EndsNumber]

theorem endsNumber_cons {c : Char} (rest : List Char)
    (h : isDigit c = false ∧ c ≠ '.' ∧ c ≠ 'e' ∧ c ≠ 'E') : EndsNumber (c :: rest) := by
  intro d found
  cases Option.mem_some.mp found
  exact h

def Digits (s : List Char) : Prop := ∀ c ∈ s, isDigit c = true

theorem isDigit_iff (c : Char) : isDigit c = true ↔ c.isDigit = true := by
  simp only [isDigit, Char.isDigit, Bool.and_eq_true, decide_eq_true_eq, Char.toNat, ge_iff_le,
    UInt32.le_iff_toNat_le]
  rfl

theorem digits_toDigits (n : Nat) : Digits (Nat.toDigits 10 n) := fun c member =>
  (isDigit_iff c).mpr (Nat.isDigit_of_mem_toDigits (by decide) (by decide) member)

theorem takeWhile_digits {s rest : List Char} (digits : Digits s)
    (ends : ∀ c ∈ rest.head?, isDigit c = false) :
    (s ++ rest).takeWhile isDigit = s ∧ (s ++ rest).dropWhile isDigit = rest := by
  rw [List.takeWhile_append_of_pos digits, List.dropWhile_append_of_pos digits]
  cases rest with
  | nil => simp
  | cons c rest =>
    have stop := ends c rfl
    simp [stop]

theorem EndsNumber.no_digit {rest : List Char} (ends : EndsNumber rest) :
    ∀ c ∈ rest.head?, isDigit c = false := fun c member => (ends c member).1

theorem toDigits_head (n : Nat) (zero : (Nat.toDigits 10 n).head? = some '0') : n = 0 := by
  induction n using Nat.strongRecOn with
  | ind n ih =>
    by_cases small : n < 10
    · rw [Nat.toDigits_of_lt_base small] at zero
      have digit : ∀ m < 10, [Nat.digitChar m].head? = some '0' → m = 0 := by decide
      exact digit n small zero
    · have front : (Nat.toDigits 10 (n / 10)).head? = some '0' := by
        rw [Nat.toDigits_of_base_le (by decide) (by omega)] at zero
        cases shape : Nat.toDigits 10 (n / 10) with
        | nil => exact absurd shape Nat.toDigits_ne_nil
        | cons c more => simpa [shape] using zero
      have := ih (n / 10) (by omega) front
      omega

theorem toDigits_lone_zero {n : Nat} (zero : (Nat.toDigits 10 n).head? = some '0') :
    Nat.toDigits 10 n = ['0'] := by
  rw [toDigits_head n zero]
  rfl

/-! ## Reading -/

theorem le_ofDigitChars (s : List Char) (n : Nat) : n ≤ Nat.ofDigitChars 10 s n := by
  induction s generalizing n with
  | nil => exact Nat.le_refl n
  | cons c s ih =>
    have grown := ih (10 * n + (c.toNat - '0'.toNat))
    simp only [Nat.ofDigitChars_eq_foldl, List.foldl_cons] at grown ⊢
    omega

theorem takeDigits_all (s : List Char) (n taken : Nat)
    (small : Nat.ofDigitChars 10 s n ≤ greatestSignificand) :
    takeDigits n taken s = (Nat.ofDigitChars 10 s n, taken + s.length) := by
  induction s generalizing n taken with
  | nil => rfl
  | cons c s ih =>
    have step : Nat.ofDigitChars 10 (c :: s) n =
        Nat.ofDigitChars 10 s (n * 10 + digitValue c) := by
      simp only [Nat.ofDigitChars_eq_foldl, List.foldl_cons, digitValue, Nat.mul_comm]
      rfl
    rw [step] at small
    have bound := Nat.le_trans (le_ofDigitChars s _) small
    rw [takeDigits]
    simp only [if_neg (Nat.not_lt_of_le bound)]
    rw [ih _ _ small, step, List.length_cons]
    congr 1
    omega

theorem readNumber_toDigits {n : Nat} {rest : List Char} (negative : Bool)
    (small : n ≤ greatestSignificand) (ends : EndsNumber rest) :
    readNumber negative (Nat.toDigits 10 n ++ rest) = .ok (wholeOf negative n, rest) := by
  obtain ⟨digits, after⟩ := takeWhile_digits (digits_toDigits n) ends.no_digit
  have all := takeDigits_all (Nat.toDigits 10 n) 0 0 (by rwa [Nat.ofDigitChars_ten_toDigits])
  rw [Nat.ofDigitChars_ten_toDigits, Nat.zero_add] at all
  cases shape : Nat.toDigits 10 n with
  | nil => exact absurd shape Nat.toDigits_ne_nil
  | cons c more =>
    have first : isDigit c = true := digits_toDigits n c (by simp [shape])
    have single : ¬ (c = '0' ∧ 1 < (c :: more).length) := by
      rintro ⟨rfl, long⟩
      have := toDigits_lone_zero (n := n) (by rw [shape]; rfl)
      rw [shape] at this
      rw [this] at long
      exact absurd long (by decide)
    rw [shape] at digits after all
    rw [List.cons_append] at digits after ⊢
    simp only [readNumber, if_pos first, digits, after, if_neg single, all, Nat.sub_self]
    cases rest with
    | nil => rfl
    | cons d rest =>
      obtain ⟨_, point, lower, upper⟩ := ends d rfl
      simp [point, lower, upper]

theorem wholeOf_negSucc {n : Nat} (small : n < 0x8000000000000000) :
    wholeOf true (n + 1) = .int (.negSucc n) := by
  have inside : ¬ (n + 1 = 0 ∨ 0x8000000000000000 < n + 1) := by omega
  rw [wholeOf, if_neg (by decide), if_neg inside]
  rfl

def IsWord (n : Int) : Prop := -0x8000000000000000 ≤ n ∧ n ≤ 0xffffffffffffffff

instance (n : Int) : Decidable (IsWord n) := inferInstanceAs (Decidable (_ ∧ _))

theorem renderInt_cases {n : Int} (word : IsWord n) {rest : List Char} (ends : EndsNumber rest) :
    (∃ more, renderInt n ++ rest = '-' :: more ∧ readNumber true more = .ok (.int n, rest)) ∨
    ∃ c more, renderInt n ++ rest = c :: more ∧ isDigit c = true ∧
      readNumber false (c :: more) = .ok (.int n, rest) := by
  obtain ⟨least, greatest⟩ := word
  cases n with
  | ofNat n =>
    have small : n ≤ greatestSignificand := by
      simp only [Int.ofNat_eq_natCast, greatestSignificand] at greatest ⊢
      omega
    have read := readNumber_toDigits false small ends
    cases shape : Nat.toDigits 10 n with
    | nil => exact absurd shape Nat.toDigits_ne_nil
    | cons c more =>
      rw [shape] at read
      exact .inr ⟨c, more ++ rest, by simp [renderInt, shape],
        digits_toDigits n c (by simp [shape]), read⟩
  | negSucc n =>
    have small : n < 0x8000000000000000 := by omega
    have read := readNumber_toDigits (n := n + 1) true
      (by simp only [greatestSignificand]; omega) ends
    rw [wholeOf_negSucc small] at read
    exact .inl ⟨_, rfl, read⟩

theorem isGap_digit {c : Char} (digit : isDigit c = true) : isGap c = false := by
  simp only [isDigit, Bool.and_eq_true, decide_eq_true_eq] at digit
  simp only [isGap, Bool.or_eq_false_iff, decide_eq_false_iff_not]
  refine ⟨⟨⟨?_, ?_⟩, ?_⟩, ?_⟩ <;> rintro rfl <;> exact absurd digit.1 (by decide)

theorem skipGap_of_not_gap {c : Char} (rest : List Char) (h : isGap c = false) :
    skipGap (c :: rest) = c :: rest := by
  simp [skipGap, h]

end DebugGateway.Json
