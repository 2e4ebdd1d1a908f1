import DebugGateway.Text
import Mathlib.Data.List.DropRight
import Mathlib.Data.List.TakeDrop
import Mathlib.Data.List.TakeWhile

namespace DebugGateway

variable {separator : Char}

theorem splitAtChar_ne_nil (separator : Char) (s : List Char) : splitAtChar separator s ≠ [] := by
  induction s with
  | nil => simp [splitAtChar]
  | cons c s ih =>
    rw [splitAtChar]
    split
    · simp
    · split <;> simp

theorem splitAtChar_cons {c : Char} (other : c ≠ separator) {s : List Char} {piece : List Char}
    {pieces : List (List Char)} (cut : splitAtChar separator s = piece :: pieces) :
    splitAtChar separator (c :: s) = (c :: piece) :: pieces := by
  rw [splitAtChar, if_neg other, cut]

theorem splitAtChar_free {s : List Char} (free : separator ∉ s) : splitAtChar separator s = [s] := by
  induction s with
  | nil => rfl
  | cons c s ih =>
    rw [List.mem_cons, not_or] at free
    exact splitAtChar_cons (Ne.symm free.1) (ih free.2)

theorem splitAtChar_append {piece : List Char} (free : separator ∉ piece) (s : List Char) :
    splitAtChar separator (piece ++ separator :: s) = piece :: splitAtChar separator s := by
  induction piece with
  | nil => rw [List.nil_append, splitAtChar, if_pos rfl]
  | cons c piece ih =>
    rw [List.mem_cons, not_or] at free
    exact splitAtChar_cons (Ne.symm free.1) (ih free.2)

theorem joinWith_splitAtChar (separator : Char) (s : List Char) :
    joinWith separator (splitAtChar separator s) = s := by
  induction s with
  | nil => rfl
  | cons c s ih =>
    obtain ⟨piece, pieces, cut⟩ := List.exists_cons_of_ne_nil (splitAtChar_ne_nil separator s)
    by_cases same : c = separator
    · rw [splitAtChar, if_pos same, cut, joinWith, ← cut, ih, same, List.nil_append]
      simp
    · rw [cut] at ih
      rw [splitAtChar_cons same cut, ← ih]
      cases pieces <;> rfl

theorem splitAtChar_joinWith {pieces : List (List Char)} (some : pieces ≠ [])
    (free : ∀ piece ∈ pieces, separator ∉ piece) :
    splitAtChar separator (joinWith separator pieces) = pieces := by
  induction pieces with
  | nil => exact absurd rfl some
  | cons piece pieces ih =>
    have here := free piece List.mem_cons_self
    cases pieces with
    | nil => exact splitAtChar_free here
    | cons next pieces =>
      rw [joinWith, splitAtChar_append here, ih (List.cons_ne_nil next pieces)]
      · intro p member
        exact free p (List.mem_cons_of_mem piece member)
      · exact List.cons_ne_nil next pieces

theorem joinWith_concat (separator : Char) (pieces : List (List Char)) (last : List Char) :
    joinWith separator (pieces ++ [last]) = pieces.flatMap (· ++ [separator]) ++ last := by
  induction pieces with
  | nil => rfl
  | cons piece pieces ih =>
    rw [List.cons_append, joinWith, ih, List.flatMap_cons]
    · simp
    · simp

theorem mem_splitAtChar {s piece : List Char} (member : piece ∈ splitAtChar separator s) :
    separator ∉ piece ∧ piece ⊆ s := by
  induction s generalizing piece with
  | nil =>
    rw [List.mem_singleton.mp member]
    exact ⟨List.not_mem_nil, List.nil_subset _⟩
  | cons c s ih =>
    obtain ⟨first, pieces, cut⟩ := List.exists_cons_of_ne_nil (splitAtChar_ne_nil separator s)
    have inside : ∀ p ∈ first :: pieces, separator ∉ p ∧ p ⊆ s := fun p here => ih (cut ▸ here)
    by_cases same : c = separator
    · rw [splitAtChar, if_pos same, cut] at member
      rcases List.mem_cons.mp member with rfl | later
      · exact ⟨List.not_mem_nil, List.nil_subset _⟩
      · obtain ⟨free, part⟩ := inside piece later
        exact ⟨free, List.subset_cons_of_subset c part⟩
    · rw [splitAtChar_cons same cut] at member
      rcases List.mem_cons.mp member with rfl | later
      · obtain ⟨free, part⟩ := inside first List.mem_cons_self
        refine ⟨?_, List.cons_subset_cons c part⟩
        rw [List.mem_cons, not_or]
        exact ⟨Ne.symm same, free⟩
      · obtain ⟨free, part⟩ := inside piece (List.mem_cons_of_mem first later)
        exact ⟨free, List.subset_cons_of_subset c part⟩

theorem mem_pieces (separator : Char) {s : List Char} {c : Char} (member : c ∈ s) :
    c = separator ∨ ∃ piece ∈ splitAtChar separator s, c ∈ piece := by
  induction s with
  | nil => cases member
  | cons d s ih =>
    obtain ⟨first, pieces, cut⟩ := List.exists_cons_of_ne_nil (splitAtChar_ne_nil separator s)
    by_cases same : d = separator
    · rcases List.mem_cons.mp member with rfl | later
      · exact .inl same
      · refine (ih later).imp_right fun ⟨piece, here, inside⟩ => ⟨piece, ?_, inside⟩
        rw [splitAtChar, if_pos same]
        exact List.mem_cons_of_mem _ here
    · rw [splitAtChar_cons same cut]
      rcases List.mem_cons.mp member with rfl | later
      · exact .inr ⟨_, List.mem_cons_self, List.mem_cons_self⟩
      · rcases ih later with here | ⟨piece, here, inside⟩
        · exact .inl here
        · rw [cut] at here
          rcases List.mem_cons.mp here with rfl | tail
          · exact .inr ⟨_, List.mem_cons_self, List.mem_cons_of_mem d inside⟩
          · exact .inr ⟨piece, List.mem_cons_of_mem _ tail, inside⟩

namespace Text

/-! ## Stripping -/

def strip (p : Char → Bool) (s : List Char) : List Char := (s.dropWhile p).rdropWhile p

variable {p : Char → Bool}

theorem strip_subset (p : Char → Bool) (s : List Char) : strip p s ⊆ s := by
  intro c member
  exact (List.dropWhile_sublist p).subset ((List.rdropWhile_prefix p _).subset member)

theorem dropWhile_kept {s : List Char} (kept : ∀ c ∈ s, p c = false) : s.dropWhile p = s := by
  rw [List.dropWhile_eq_self_iff]
  intro some
  simp [kept s[0] (List.getElem_mem some)]

theorem rdropWhile_kept {s : List Char} (kept : ∀ c ∈ s, p c = false) : s.rdropWhile p = s := by
  rw [List.rdropWhile_eq_self_iff]
  intro some
  simp [kept (s.getLast some) (List.getLast_mem some)]

theorem rdropWhile_append {opening : List Char} (kept : ∀ c ∈ opening, p c = false)
    (s : List Char) : (opening ++ s).rdropWhile p = opening ++ s.rdropWhile p := by
  have whole : opening.reverse.dropWhile p = opening.reverse :=
    dropWhile_kept fun c member => kept c (List.mem_reverse.mp member)
  rw [List.rdropWhile, List.rdropWhile, List.reverse_append, List.dropWhile_append]
  split
  · rename_i nothing
    rw [List.isEmpty_iff.mp nothing, whole]
    simp
  · simp

theorem strip_append {first : Char} {more : List Char} (kept : ∀ c ∈ first :: more, p c = false)
    (s : List Char) : strip p (first :: more ++ s) = first :: more ++ s.rdropWhile p := by
  have begins : (first :: more ++ s).dropWhile p = first :: more ++ s := by
    rw [List.cons_append, List.dropWhile_cons_of_neg (by simp [kept first List.mem_cons_self])]
  rw [strip, begins, rdropWhile_append kept]

theorem exists_strip (p : Char → Bool) (s : List Char) : ∃ before after,
    s = before ++ strip p s ++ after ∧ ∀ c ∈ before ++ after, p c = true := by
  refine ⟨s.takeWhile p, (s.dropWhile p).rtakeWhile p, ?_, ?_⟩
  · rw [strip, List.append_assoc, List.rdropWhile_append_rtakeWhile, List.takeWhile_append_dropWhile]
  · intro c member
    rcases List.mem_append.mp member with first | last
    · exact List.mem_takeWhile_imp first
    · exact List.mem_rtakeWhile_imp last

theorem rdropWhile_dropped {after : List Char} (dropped : ∀ c ∈ after, p c = true) (s : List Char) :
    (s ++ after).rdropWhile p = s.rdropWhile p := by
  rw [List.rdropWhile, List.rdropWhile, List.reverse_append,
    List.dropWhile_append_of_pos fun c member => dropped c (List.mem_reverse.mp member)]

theorem strip_around {before after : List Char} (dropped : ∀ c ∈ before ++ after, p c = true)
    (s : List Char) : strip p (before ++ s ++ after) = strip p s := by
  have first : ∀ c ∈ before, p c = true := fun c member => dropped c (List.mem_append_left _ member)
  have last : ∀ c ∈ after, p c = true := fun c member => dropped c (List.mem_append_right _ member)
  rw [strip, strip, List.append_assoc, List.dropWhile_append_of_pos first, List.dropWhile_append]
  split
  · rename_i nothing
    rw [List.isEmpty_iff.mp nothing, List.dropWhile_eq_nil_iff.mpr last]
  · exact rdropWhile_dropped last _

theorem strip_map {f : Char → Char} (same : ∀ c, p (f c) = p c) (s : List Char) :
    strip p (s.map f) = (strip p s).map f := by
  have unmoved : p ∘ f = p := funext same
  rw [strip, strip, List.dropWhile_map, unmoved, List.rdropWhile, List.rdropWhile, ← List.map_reverse,
    List.dropWhile_map, unmoved, List.map_reverse]

end Text

end DebugGateway
