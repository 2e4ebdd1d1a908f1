import DebugGateway.Text

/-! Where the search for a place to cut a text ends. It goes back past no more than three bytes, for a
character takes four at most, and it passes no place at which the text could be cut; so what stands
before it is the longest opening that fits. -/
namespace DebugGateway.Text

/-- An opening of a text that fits into so many bytes, and no other that fits is longer. -/
structure LongestOpening (bytes : Nat) (s opening : String) : Prop where
  opens : ∃ rest, s = opening ++ rest
  fits : opening.utf8ByteSize ≤ bytes
  longest : ∀ other rest : String, s = other ++ rest → other.utf8ByteSize ≤ bytes →
    other.utf8ByteSize ≤ opening.utf8ByteSize

variable {s : String} {place : Nat} {cut : s.Pos}

theorem cutBefore?_eq (s : String) (place : Nat) :
    cutBefore? s place = some (cutBefore s place) := by
  rw [cutBefore, Option.some_get]

theorem cutBefore?_last (found : cutBefore? s place = some cut) :
    cut.offset.byteIdx ≤ place ∧ ∀ other : s.Pos, other.offset.byteIdx ≤ place →
      other.offset.byteIdx ≤ cut.offset.byteIdx := by
  induction place with
  | zero =>
    rw [cutBefore?] at found
    split at found
    · cases found
      exact ⟨Nat.le_refl _, fun other before => before⟩
    · cases found
  | succ place ih =>
    rw [cutBefore?] at found
    split at found
    · cases found
      exact ⟨Nat.le_refl _, fun other before => before⟩
    · rename_i broken
      obtain ⟨back, last⟩ := ih found
      refine ⟨Nat.le_succ_of_le back, fun other before => last other (Nat.le_of_lt_succ ?_)⟩
      -- the byte that was passed goes on with a character, so no place is here
      refine Nat.lt_of_le_of_ne before fun here => broken ?_
      have whole := other.isValid
      rw [show other.offset = ⟨place + 1⟩ from String.Pos.Raw.ext here] at whole
      exact String.Pos.Raw.isValid_eq_true_iff.mpr whole

/-! ## How far it goes -/

theorem byteSize_cons (c : Char) (cs : List Char) :
    (String.ofList (c :: cs)).utf8ByteSize = c.utf8Size + (String.ofList cs).utf8ByteSize := by
  have split : String.ofList (c :: cs) = String.singleton c ++ String.ofList cs := by simp
  rw [split, String.utf8ByteSize_append, String.utf8ByteSize_singleton]

theorem exists_take (cs : List Char) {place : Nat}
    (inside : place ≤ (String.ofList cs).utf8ByteSize) :
    ∃ n, (String.ofList (cs.take n)).utf8ByteSize ≤ place ∧
      place ≤ (String.ofList (cs.take n)).utf8ByteSize + 3 := by
  have empty : (String.ofList []).utf8ByteSize = 0 := rfl
  induction cs generalizing place with
  | nil => exact ⟨0, by rw [List.take_nil]; omega⟩
  | cons c cs ih =>
    have narrow := c.utf8Size_le_four
    rw [byteSize_cons] at inside
    by_cases within : place < c.utf8Size
    · exact ⟨0, by rw [List.take_zero]; omega⟩
    · have left : place - c.utf8Size ≤ (String.ofList cs).utf8ByteSize := by omega
      obtain ⟨n, below, near⟩ := ih left
      refine ⟨n + 1, ?_⟩
      rw [List.take_succ_cons, byteSize_cons]
      omega

theorem exists_pos {opening rest : String} (split : s = opening ++ rest) :
    ∃ cut : s.Pos, cut.offset.byteIdx = opening.utf8ByteSize :=
  ⟨⟨opening.rawEndPos, String.Pos.Raw.isValid_iff_exists_append.mpr ⟨opening, rest, split, rfl⟩⟩, rfl⟩

theorem cutBefore_near (inside : place ≤ s.utf8ByteSize) :
    place ≤ (cutBefore s place).offset.byteIdx + 3 := by
  obtain ⟨-, last⟩ := cutBefore?_last (cutBefore?_eq s place)
  have chars : s = String.ofList s.toList := String.ofList_toList.symm
  obtain ⟨n, below, near⟩ := exists_take s.toList (chars ▸ inside)
  have split : s = String.ofList (s.toList.take n) ++ String.ofList (s.toList.drop n) := by
    rw [← String.ofList_append, List.take_append_drop, String.ofList_toList]
  obtain ⟨other, here⟩ := exists_pos split
  have reached := last other (by rw [here]; exact below)
  omega

/-! ## What stands before it -/

theorem fitting_size (bytes : Nat) (s : String) :
    (fitting bytes s).utf8ByteSize = (cutBefore s bytes).offset.byteIdx :=
  (congrArg String.Pos.Raw.byteIdx (cutBefore s bytes).splits.offset_eq_rawEndPos).symm

theorem fitting_longest (bytes : Nat) (s : String) : LongestOpening bytes s (fitting bytes s) := by
  obtain ⟨back, last⟩ := cutBefore?_last (cutBefore?_eq s bytes)
  refine ⟨⟨_, (cutBefore s bytes).splits.eq_append⟩, ?_, fun other rest split fits => ?_⟩
  · rw [fitting_size]
    exact back
  · obtain ⟨cut, here⟩ := exists_pos split
    rw [fitting_size, ← here]
    exact last cut (by rw [here]; exact fits)

example : fitting 2 "aé" = "a" := by decide

end DebugGateway.Text
