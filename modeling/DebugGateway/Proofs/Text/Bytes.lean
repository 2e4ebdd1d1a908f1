import DebugGateway.Text

namespace DebugGateway.Text

theorem ofBytes_toBytes (s : String) : ofBytes (toBytes s) = .ok s := by
  have back : String.fromUTF8? s.toUTF8 = some s := by
    rw [String.fromUTF8?, String.toUTF8_eq_toByteArray, dif_pos s.isValidUTF8]
    rfl
  have bytes : (⟨(toBytes s).toArray⟩ : ByteArray) = s.toUTF8 := by simp [toBytes]
  rw [ofBytes, bytes, back]

theorem toBytes_ofList (s : List Char) :
    toBytes (String.ofList s) = s.flatMap String.utf8EncodeChar := by
  simp [toBytes, List.utf8Encode]

theorem utf8EncodeChar_low {c : Char} {b : UInt8} (member : b ∈ String.utf8EncodeChar c)
    (low : b.toNat < 128) : c.toNat = b.toNat := by
  unfold String.utf8EncodeChar at member
  dsimp only at member
  simp only [Char.toNat]
  split at member
  · simp only [List.mem_cons, List.not_mem_nil, or_false] at member
    subst member
    simp only [UInt8.toNat_ofNat']
    omega
  · split at member
    · simp only [List.mem_cons, List.not_mem_nil, or_false] at member
      rcases member with rfl | rfl <;> simp only [UInt8.toNat_ofNat'] at low <;> omega
    · split at member
      · simp only [List.mem_cons, List.not_mem_nil, or_false] at member
        rcases member with rfl | rfl | rfl <;> simp only [UInt8.toNat_ofNat'] at low <;> omega
      · simp only [List.mem_cons, List.not_mem_nil, or_false] at member
        rcases member with rfl | rfl | rfl | rfl <;> simp only [UInt8.toNat_ofNat'] at low <;> omega

/-! ## Order -/

theorem byte_cons_lt {m n : Nat} (hm : m < 256) (hn : n < 256) (s t : List UInt8) :
    UInt8.ofNat m :: s < UInt8.ofNat n :: t ↔ m < n ∨ m = n ∧ s < t := by
  rw [List.cons_lt_cons_iff, UInt8.lt_iff_toNat_lt, ← UInt8.toNat_inj, UInt8.toNat_ofNat',
    UInt8.toNat_ofNat', Nat.mod_eq_of_lt hm, Nat.mod_eq_of_lt hn]

theorem utf8EncodeChar_lt {c d : Char} (less : c < d) (s t : List UInt8) :
    String.utf8EncodeChar c ++ s < String.utf8EncodeChar d ++ t := by
  have less' : c.val.toNat < d.val.toNat := less
  have top : d.val.toNat < 1114112 := by
    have := d.valid
    simp only [UInt32.isValidChar, Nat.isValidChar] at this
    omega
  have nested (k : Nat) : k / 4096 = k / 64 / 64 ∧ k / 262144 = k / 64 / 64 / 64 := by omega
  unfold String.utf8EncodeChar
  dsimp only
  generalize c.val.toNat = m at *
  generalize d.val.toNat = n at *
  repeat' split
  all_goals try omega
  all_goals
    simp (disch := omega) only [List.cons_append, List.nil_append, byte_cons_lt, nested]
    omega

theorem flatMap_utf8EncodeChar_lt {s t : List Char} (less : s < t) :
    s.flatMap String.utf8EncodeChar < t.flatMap String.utf8EncodeChar := by
  induction less with
  | @nil c t =>
    obtain ⟨b, more, bytes⟩ := List.exists_cons_of_ne_nil (String.utf8EncodeChar_ne_nil (c := c))
    rw [List.flatMap_cons, bytes]
    exact List.nil_lt_cons _ _
  | rel less =>
    rw [List.flatMap_cons, List.flatMap_cons]
    exact utf8EncodeChar_lt less _ _
  | cons _ ih =>
    rw [List.flatMap_cons, List.flatMap_cons]
    exact List.append_left_lt ih

theorem toBytes_lt {s t : String} (less : s < t) : toBytes s < toBytes t := by
  have chars : s.toList < t.toList := String.lt_iff.mp less
  rw [← String.ofList_toList (s := s), ← String.ofList_toList (s := t), toBytes_ofList,
    toBytes_ofList]
  exact flatMap_utf8EncodeChar_lt chars

theorem cutLines_cons (b : UInt8) (s : List UInt8) :
    cutLines (b :: s) = takeIntoLines b (cutLines s) := rfl

theorem cutLines_newline (s : List UInt8) :
    cutLines (10 :: s) = ([] :: (cutLines s).1, (cutLines s).2) := rfl

theorem cutLines_of_no_newline {s : List UInt8} (h : 10 ∉ s) : cutLines s = ([], s) := by
  induction s with
  | nil => rfl
  | cons b s ih =>
    have hb : b ≠ 10 := fun e => h (by simp [e])
    have hs : 10 ∉ s := fun m => h (List.mem_cons_of_mem b m)
    rw [cutLines_cons, ih hs]
    simp only [takeIntoLines, if_neg hb]

theorem cutLines_line {line : List UInt8} (h : 10 ∉ line) (s : List UInt8) :
    cutLines (line ++ 10 :: s) = (line :: (cutLines s).1, (cutLines s).2) := by
  induction line with
  | nil => exact cutLines_newline s
  | cons b line ih =>
    have hb : b ≠ 10 := fun e => h (by simp [e])
    have hl : 10 ∉ line := fun m => h (List.mem_cons_of_mem b m)
    rw [List.cons_append, cutLines_cons, ih hl]
    simp only [takeIntoLines, if_neg hb]

theorem cutLines_flatMap {α : Type} {line : α → List UInt8} (clean : ∀ a, 10 ∉ line a)
    (items : List α) : cutLines (items.flatMap fun a => line a ++ [10]) = (items.map line, []) := by
  induction items with
  | nil => rfl
  | cons a items ih =>
    have cut := cutLines_line (clean a) (items.flatMap fun a => line a ++ [10])
    rw [ih] at cut
    rw [List.flatMap_cons, List.append_assoc]
    exact cut

theorem no_newline_in_tail (s : List UInt8) : 10 ∉ (cutLines s).2 := by
  induction s with
  | nil => simp [cutLines]
  | cons b s ih =>
    rw [cutLines_cons]
    by_cases hb : b = 10
    · simpa [takeIntoLines, hb] using ih
    · cases hs : (cutLines s).1 with
      | nil =>
        have hb' : (10 : UInt8) ≠ b := fun e => hb e.symm
        simpa [takeIntoLines, hb, hs, hb'] using ih
      | cons line lines => simpa [takeIntoLines, hb, hs] using ih

theorem cutLines_joined (s : List UInt8) :
    (cutLines s).1.flatMap (· ++ [10]) ++ (cutLines s).2 = s := by
  induction s with
  | nil => rfl
  | cons b s ih =>
    rw [cutLines_cons]
    by_cases hb : b = 10
    · simpa [takeIntoLines, hb] using ih
    · cases hs : (cutLines s).1 with
      | nil => simpa [takeIntoLines, hb, hs] using ih
      | cons line lines => simpa [takeIntoLines, hb, hs] using ih

/-- Without a newline in it the opening of a stream goes into the first line, if there is one. -/
theorem cutLines_opening_line {s t line : List UInt8} {lines : List (List UInt8)} (h : 10 ∉ s)
    (first : (cutLines t).1 = line :: lines) :
    cutLines (s ++ t) = ((s ++ line) :: lines, (cutLines t).2) := by
  induction s with
  | nil => rw [List.nil_append, List.nil_append, ← first]
  | cons b s ih =>
    have hb : b ≠ 10 := fun e => h (by simp [e])
    have hs : 10 ∉ s := fun m => h (List.mem_cons_of_mem b m)
    rw [List.cons_append, cutLines_cons, ih hs]
    simp only [takeIntoLines, if_neg hb, List.cons_append]

theorem cutLines_opening_tail {s t : List UInt8} (h : 10 ∉ s) (none : (cutLines t).1 = []) :
    cutLines (s ++ t) = ([], s ++ (cutLines t).2) := by
  induction s with
  | nil => rw [List.nil_append, List.nil_append, ← none]
  | cons b s ih =>
    have hb : b ≠ 10 := fun e => h (by simp [e])
    have hs : 10 ∉ s := fun m => h (List.mem_cons_of_mem b m)
    rw [List.cons_append, cutLines_cons, ih hs]
    simp only [takeIntoLines, if_neg hb, List.cons_append]

theorem cutLines_append (s t : List UInt8) :
    cutLines (s ++ t) =
      ((cutLines s).1 ++ (cutLines ((cutLines s).2 ++ t)).1, (cutLines ((cutLines s).2 ++ t)).2) := by
  induction s with
  | nil => rfl
  | cons b s ih =>
    rw [List.cons_append, cutLines_cons, cutLines_cons, ih]
    by_cases hb : b = 10
    · simp [takeIntoLines, hb]
    · cases hs : (cutLines s).1 with
      | nil => simp [takeIntoLines, hb, hs, cutLines_cons]
      | cons line lines => simp [takeIntoLines, hb, hs]

def Whole (s : List UInt8) : Prop := (cutLines s).2 = []

theorem whole_nil : Whole [] := rfl

theorem whole_line {line : List UInt8} (h : 10 ∉ line) : Whole (line ++ [10]) := by
  rw [Whole, cutLines_line h]
  rfl

theorem cutLines_whole_append {s : List UInt8} (whole : Whole s) (t : List UInt8) :
    cutLines (s ++ t) = ((cutLines s).1 ++ (cutLines t).1, (cutLines t).2) := by
  rw [cutLines_append, show (cutLines s).2 = [] from whole, List.nil_append]

theorem Whole.append {s t : List UInt8} (hs : Whole s) (ht : Whole t) : Whole (s ++ t) := by
  rw [Whole, cutLines_whole_append hs]
  exact ht

/-- Bytes without a newline end no line, so there are none of them where a line ends. -/
theorem Whole.eq_nil {s : List UInt8} (whole : Whole s) (h : 10 ∉ s) : s = [] := by
  have hs := cutLines_of_no_newline h
  have tail : (cutLines s).2 = s := congrArg (·.2) hs
  exact tail.symm.trans whole

end DebugGateway.Text
