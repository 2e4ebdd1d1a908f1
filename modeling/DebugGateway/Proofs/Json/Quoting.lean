import DebugGateway.Json.Skip
import DebugGateway.Json.Value

/-! Strings read back. A written character takes one of three forms, and both the reader and the
one that only passes over a string take each form for that one character; neither can stop inside a
string or run past its closing quote. -/
namespace DebugGateway.Json

/-! ## One written character -/

theorem hexValue?_hexDigit : ∀ n < 16, hexValue? (hexDigit n) = some n := by decide

theorem unit?_hexDigit {n : Nat} (low : n < 256) :
    unit? '0' '0' (hexDigit (n / 16)) (hexDigit (n % 16)) = some n := by
  have zero : hexValue? '0' = some 0 := by decide
  have first := hexValue?_hexDigit (n / 16) (by omega)
  have second := hexValue?_hexDigit (n % 16) (by omega)
  have whole : n / 16 * 16 + n % 16 = n := by omega
  simp [unit?, zero, first, second, whole]

/-- The forms of a written character: itself, a letter after a backslash, or its number. -/
theorem escapeChar_cases (c : Char) :
    (escapeChar c = [c] ∧ c ≠ '"' ∧ c ≠ '\\' ∧ 32 ≤ c.toNat) ∨
    (∃ e, escapeChar c = ['\\', e] ∧ e ≠ 'u' ∧ shortEscape? e = some c) ∨
    ∃ a b, escapeChar c = ['\\', 'u', '0', '0', a, b] ∧ unit? '0' '0' a b = some c.toNat ∧
      c.toNat < 32 := by
  have named (n : Nat) (h : c.toNat = n) : c = Char.ofNat n := by rw [← h, Char.ofNat_toNat]
  unfold escapeChar
  split
  · rename_i h; subst h
    exact .inr (.inl ⟨'"', rfl, by decide, by decide⟩)
  split
  · rename_i h; subst h
    exact .inr (.inl ⟨'\\', rfl, by decide, by decide⟩)
  split
  · rename_i h; cases named 8 h
    exact .inr (.inl ⟨'b', rfl, by decide, by decide⟩)
  split
  · rename_i h; cases named 9 h
    exact .inr (.inl ⟨'t', rfl, by decide, by decide⟩)
  split
  · rename_i h; cases named 10 h
    exact .inr (.inl ⟨'n', rfl, by decide, by decide⟩)
  split
  · rename_i h; cases named 12 h
    exact .inr (.inl ⟨'f', rfl, by decide, by decide⟩)
  split
  · rename_i h; cases named 13 h
    exact .inr (.inl ⟨'r', rfl, by decide, by decide⟩)
  split
  · rename_i control
    exact .inr (.inr ⟨_, _, rfl, unit?_hexDigit (by omega), control⟩)
  · rename_i quote slash _ _ _ _ _ control
    exact .inl ⟨rfl, quote, slash, by omega⟩

/-! ## Reading -/

theorem readQuoted_quote (seen rest : List Char) :
    readQuoted seen ('"' :: rest) = .ok (String.ofList seen.reverse, rest) := by
  rw [readQuoted.eq_def]
  simp

theorem readQuoted_escapeChar (c : Char) (seen rest : List Char) :
    readQuoted seen (escapeChar c ++ rest) = readQuoted (c :: seen) rest := by
  rcases escapeChar_cases c with ⟨form, quote, slash, printable⟩ | ⟨e, form, letter, short⟩ |
    ⟨a, b, form, number, control⟩
  · rw [form, List.singleton_append, readQuoted.eq_def]
    simp only [if_neg quote, if_neg slash, if_neg (show ¬ c.toNat < 32 by omega)]
  · rw [form, List.cons_append, List.singleton_append, readQuoted.eq_def]
    simp [letter, short]
  · have trail : isTrailUnit c.toNat = false := by simp [isTrailUnit]; omega
    have lead : isLeadUnit c.toNat = false := by simp [isLeadUnit]; omega
    rw [form, readQuoted.eq_def]
    simp [number, trail, lead]

theorem readQuoted_escaped (s seen rest : List Char) :
    readQuoted seen (s.flatMap escapeChar ++ '"' :: rest) =
      .ok (String.ofList (seen.reverse ++ s), rest) := by
  induction s generalizing seen with
  | nil => simp [readQuoted_quote]
  | cons c s ih =>
    rw [List.flatMap_cons, List.append_assoc, readQuoted_escapeChar, ih]
    simp

theorem readQuoted_written (s : String) (rest : List Char) :
    readQuoted [] (s.toList.flatMap escapeChar ++ '"' :: rest) = .ok (s, rest) := by
  simp [readQuoted_escaped]

/-! ## Passing over -/

theorem skipQuoted_escapeChar (c : Char) (rest : List Char) :
    skipQuoted (escapeChar c ++ rest) = skipQuoted rest := by
  rcases escapeChar_cases c with ⟨form, quote, slash, printable⟩ | ⟨e, form, letter, short⟩ |
    ⟨a, b, form, number, control⟩
  · rw [form, List.singleton_append, skipQuoted.eq_def]
    simp only [if_neg quote, if_neg slash, if_neg (show ¬ c.toNat < 32 by omega)]
  · rw [form, List.cons_append, List.singleton_append, skipQuoted.eq_def]
    simp [letter, short]
  · rw [form, skipQuoted.eq_def]
    simp [number]

theorem skipQuoted_escaped (s rest : List Char) :
    skipQuoted (s.flatMap escapeChar ++ '"' :: rest) = .ok rest := by
  induction s with
  | nil =>
    rw [skipQuoted.eq_def]
    simp
  | cons c s ih => rw [List.flatMap_cons, List.append_assoc, skipQuoted_escapeChar, ih]

end DebugGateway.Json
