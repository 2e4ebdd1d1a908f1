import DebugGateway.Proofs.Text.Pieces
import DebugGateway.Text

namespace DebugGateway.Text

/-- The same text but for the case of its ASCII letters and the blanks around it. -/
def Respells (t s : String) : Prop :=
  ∃ before word after : List Char, t.toList = before ++ word ++ after ∧
    (∀ c ∈ before ++ after, isBlank c = true) ∧ word.map Char.toLower = s.toList.map Char.toLower

theorem isBlank_toLower (c : Char) : isBlank c.toLower = isBlank c := by
  by_cases upper : 65 ≤ c.val ∧ c.val ≤ 90
  · have range : 65 ≤ c.toNat ∧ c.toNat ≤ 90 := by
      rw [UInt32.le_iff_toNat_le, UInt32.le_iff_toNat_le] at upper
      exact upper
    have code : c.toLower.toNat = c.toNat + 32 := by
      have moved : c.toLower = ⟨c.val + 32, _⟩ := dif_pos upper
      rw [moved]
      show (c.val + 32).toNat = c.toNat + 32
      rw [UInt32.toNat_add]
      show (c.toNat + 32) % 2 ^ 32 = c.toNat + 32
      omega
    have solid (n : Nat) (letter : 65 ≤ n ∧ n ≤ 122) (d : Char) (same : d.toNat = n) :
        isBlank d = false := by
      simp only [isBlank, same, Bool.or_eq_false_iff, Bool.and_eq_false_iff,
        decide_eq_false_iff_not, beq_eq_false_iff_ne]
      omega
    rw [solid _ (by omega) c rfl, solid _ (by omega) c.toLower code]
  · rw [show c.toLower = c from dif_neg upper]

theorem toList_trim (s : String) : (trim s).toList = strip isBlank s.toList := by
  rw [trim, String.toList_ofList]
  rfl

theorem lowerAscii_trim (s : String) :
    lowerAscii (trim s) = String.ofList (strip isBlank (s.toList.map Char.toLower)) := by
  rw [lowerAscii, toList_trim, strip_map isBlank_toLower]

variable {t s : String}

theorem Respells.lowerAscii_trim (respells : Respells t s) :
    lowerAscii (trim t) = lowerAscii (trim s) := by
  obtain ⟨before, word, after, shape, blank, same⟩ := respells
  rw [Text.lowerAscii_trim s, ← same, strip_map isBlank_toLower, lowerAscii, toList_trim, shape,
    strip_around blank]

theorem respells_trim (s : String) : Respells s (trim s) := by
  obtain ⟨before, after, shape, blank⟩ := exists_strip isBlank s.toList
  exact ⟨before, _, after, shape, blank, by rw [toList_trim]⟩

theorem Respells.isAllBlank (respells : Respells t s) : isAllBlank t = isAllBlank s := by
  obtain ⟨before, word, after, shape, blank, same⟩ := respells
  have around (ends : List Char) (dropped : ∀ c ∈ ends, isBlank c = true) :
      ends.all isBlank = true := List.all_eq_true.mpr dropped
  have lowered (l : List Char) : l.all isBlank = (l.map Char.toLower).all isBlank := by
    rw [List.all_map]
    congr 1
    funext c
    exact (isBlank_toLower c).symm
  rw [Text.isAllBlank, Text.isAllBlank, shape, List.all_append, List.all_append,
    around before fun c member => blank c (List.mem_append_left _ member),
    around after fun c member => blank c (List.mem_append_right _ member), Bool.true_and,
    Bool.and_true, lowered word, same, ← lowered]

/-! ## The first word -/

section Words

variable {c : Char} (found : List (List Char))

theorem takeIntoWords_blank (blank : isBlank c = true) (grown : Bool) :
    takeIntoWords c (grown, found) = (false, found) := if_pos blank

theorem takeIntoWords_begin (solid : ¬ isBlank c = true) :
    takeIntoWords c (false, found) = (true, [c] :: found) := if_neg solid

theorem takeIntoWords_grow (solid : ¬ isBlank c = true) (word : List Char) :
    takeIntoWords c (true, word :: found) = (true, (c :: word) :: found) := if_neg solid

theorem takeIntoWords_word {word : List Char} (solid : ∀ c ∈ word, ¬ isBlank c = true)
    (full : word ≠ []) : word.foldr takeIntoWords (false, found) = (true, word :: found) := by
  induction word with
  | nil => exact absurd rfl full
  | cons c more ih =>
    have first := solid c List.mem_cons_self
    rw [List.foldr_cons]
    cases more with
    | nil => exact takeIntoWords_begin found first
    | cons d more =>
      have later := ih (fun e member => solid e (List.mem_cons_of_mem c member)) (List.cons_ne_nil d more)
      rw [later, takeIntoWords_grow found first]

theorem wordsOf_word {word rest : List Char} (solid : ∀ c ∈ word, ¬ isBlank c = true)
    (full : word ≠ []) (ends : ∀ c ∈ rest.head?, isBlank c = true) :
    wordsOf (word ++ rest) = word :: wordsOf rest := by
  obtain ⟨found, apart⟩ : ∃ found, rest.foldr takeIntoWords (false, []) = (false, found) := by
    cases rest with
    | nil => exact ⟨[], rfl⟩
    | cons c more => exact ⟨_, takeIntoWords_blank _ (ends c rfl) _⟩
  rw [wordsOf, wordsOf, List.foldr_append, apart, takeIntoWords_word found solid full]

end Words

/-! ## Words and blanks -/

/-- The same words but for the case of their ASCII letters, whatever blanks stand between them. -/
def SameWords (t s : String) : Prop := (words t).map lowerAscii = (words s).map lowerAscii

instance (t s : String) : Decidable (SameWords t s) := inferInstanceAs (Decidable (_ = _))

theorem foldr_blanks {blanks : List Char} (blank : ∀ c ∈ blanks, isBlank c = true) (grown : Bool)
    (found : List (List Char)) :
    ∃ grown', blanks.foldr takeIntoWords (grown, found) = (grown', found) ∧
      (grown = false → grown' = false) := by
  induction blanks with
  | nil => exact ⟨grown, rfl, id⟩
  | cons c blanks ih =>
    obtain ⟨grown', passed, _⟩ := ih fun d member => blank d (List.mem_cons_of_mem c member)
    refine ⟨false, ?_, fun _ => rfl⟩
    rw [List.foldr_cons, passed]
    exact takeIntoWords_blank found (blank c List.mem_cons_self) grown'

theorem wordsOf_around {before after : List Char} (blank : ∀ c ∈ before ++ after, isBlank c = true)
    (s : List Char) : wordsOf (before ++ s ++ after) = wordsOf s := by
  obtain ⟨grown, last, shut⟩ :=
    foldr_blanks (fun c member => blank c (List.mem_append_right before member)) false []
  rcases inner : s.foldr takeIntoWords (false, []) with ⟨grown', found⟩
  obtain ⟨_, first, _⟩ :=
    foldr_blanks (fun c member => blank c (List.mem_append_left after member)) grown' found
  rw [wordsOf, List.foldr_append, List.foldr_append, last, shut rfl, inner, first, wordsOf, inner]

theorem takeIntoWords_alone {c : Char} (solid : ¬ isBlank c = true) :
    takeIntoWords c (true, []) = (true, [[c]]) := if_neg solid

theorem takeIntoWords_toLower (c : Char) (taken : Bool × List (List Char)) :
    takeIntoWords c.toLower (taken.1, taken.2.map (·.map Char.toLower)) =
      ((takeIntoWords c taken).1, (takeIntoWords c taken).2.map (·.map Char.toLower)) := by
  obtain ⟨grown, found⟩ := taken
  by_cases blank : isBlank c = true
  · rw [takeIntoWords_blank found blank]
    exact takeIntoWords_blank _ ((isBlank_toLower c).trans blank) grown
  · have solid : ¬ isBlank c.toLower = true := by rwa [isBlank_toLower]
    rcases grown with _ | _
    · rw [takeIntoWords_begin found blank]
      exact takeIntoWords_begin _ solid
    · rcases found with _ | ⟨word, found⟩
      · rw [takeIntoWords_alone blank]
        exact takeIntoWords_alone solid
      · rw [takeIntoWords_grow found blank]
        exact takeIntoWords_grow _ solid _

theorem wordsOf_map_toLower (s : List Char) :
    wordsOf (s.map Char.toLower) = (wordsOf s).map (·.map Char.toLower) := by
  have scanned : (s.map Char.toLower).foldr takeIntoWords (false, []) =
      ((s.foldr takeIntoWords (false, [])).1,
        (s.foldr takeIntoWords (false, [])).2.map (·.map Char.toLower)) := by
    induction s with
    | nil => rfl
    | cons c s ih =>
      rw [List.map_cons, List.foldr_cons, List.foldr_cons, ih]
      exact takeIntoWords_toLower c _
  rw [wordsOf, scanned, wordsOf]

/-- To trim a text and to lower its letters lowers the letters of its words. -/
theorem words_lowerAscii_trim (s : String) :
    words (lowerAscii (trim s)) = (words s).map lowerAscii := by
  obtain ⟨before, after, shape, blank⟩ := exists_strip isBlank s.toList
  have kept : wordsOf s.toList = wordsOf (strip isBlank s.toList) :=
    (congrArg wordsOf shape).trans (wordsOf_around blank _)
  have lowered : (lowerAscii (trim s)).toList = (strip isBlank s.toList).map Char.toLower := by
    rw [lowerAscii, String.toList_ofList, toList_trim]
  unfold words
  rw [lowered, wordsOf_map_toLower, kept]
  generalize wordsOf (strip isBlank s.toList) = found
  rw [List.map_map, List.map_map]
  apply List.map_congr_left
  intro word _
  rw [Function.comp_apply, Function.comp_apply, lowerAscii, String.toList_ofList]

theorem wordsOf_blank {c : Char} (blank : isBlank c = true) (s : List Char) :
    wordsOf (c :: s) = wordsOf s := by
  rw [wordsOf, List.foldr_cons]
  rcases scanned : s.foldr takeIntoWords (false, []) with ⟨grown, found⟩
  rw [takeIntoWords_blank found blank, wordsOf, scanned]

theorem wordsOf_cons {c : Char} (solid : ¬ isBlank c = true) (s : List Char) :
    ∃ word found, wordsOf (c :: s) = (c :: word) :: found := by
  rw [wordsOf, List.foldr_cons]
  rcases s.foldr takeIntoWords (false, []) with ⟨_ | _, found⟩
  · exact ⟨[], found, by rw [takeIntoWords_begin found solid]⟩
  · rcases found with _ | ⟨word, found⟩
    · exact ⟨[], [], by rw [takeIntoWords_alone solid]⟩
    · exact ⟨word, found, by rw [takeIntoWords_grow found solid]⟩

/-! ## Openings -/

/-- The text opens like this, blanks before it and the case of its letters apart; where the opening ends in
blanks, more than blanks comes after it. -/
def Opens (opening t : String) : Prop :=
  ∃ before spelled after : List Char, t.toList = before ++ spelled ++ after ∧
    (∀ c ∈ before, isBlank c = true) ∧ spelled.map Char.toLower = opening.toList ∧
    ((∃ c ∈ spelled.getLast?, isBlank c = false) ∨ ∃ c ∈ after, isBlank c = false)

theorem rdropWhile_opening {p : Char → Bool} {spelled after : List Char}
    (ends : (∃ c ∈ spelled.getLast?, p c = false) ∨ ∃ c ∈ after, p c = false) :
    (spelled ++ after).rdropWhile p = spelled ++ after.rdropWhile p := by
  rw [List.rdropWhile, List.rdropWhile, List.reverse_append, List.dropWhile_append]
  split
  · rename_i nothing
    rw [List.isEmpty_iff] at nothing
    rcases ends with ⟨c, last, kept⟩ | ⟨c, member, kept⟩
    · have whole : spelled.reverse.dropWhile p = spelled.reverse := by
        rw [List.dropWhile_eq_self_iff]
        intro some
        have first : spelled.reverse[0] = c := by
          rw [← List.head?_reverse, List.head?_eq_getElem?, List.getElem?_eq_getElem some] at last
          exact Option.some.inj last
        simp [first, kept]
      rw [whole, nothing]
      simp
    · rw [List.dropWhile_eq_nil_iff] at nothing
      rw [nothing c (List.mem_reverse.mpr member)] at kept
      contradiction
  · simp

theorem strip_ends {p : Char → Bool} {s spelled after : List Char} (split : strip p s = spelled ++ after)
    (full : spelled ≠ []) : (∃ c ∈ spelled.getLast?, p c = false) ∨ ∃ c ∈ after, p c = false := by
  have some : strip p s ≠ [] := by simp [split, full]
  have last : p ((strip p s).getLast some) = false :=
    Bool.eq_false_iff.mpr (List.rdropWhile_last_not p (s.dropWhile p) some)
  rcases List.eq_nil_or_concat after with rfl | ⟨front, c, rfl⟩
  · left
    refine ⟨_, ?_, last⟩
    rw [List.append_nil] at split
    rw [← split, List.getLast?_eq_some_getLast some]
    rfl
  · right
    refine ⟨c, by simp, ?_⟩
    have same : (strip p s).getLast some = c := by simp [split]
    rwa [same] at last

/-- What a text that is trimmed and lowered begins with is how the text opens. -/
theorem startsWith_iff_opens {opening : String} {first : Char} {others : List Char}
    (begins : opening.toList = first :: others) (solid : isBlank first = false) (t : String) :
    startsWith opening (lowerAscii (trim t)) = true ↔ Opens opening t := by
  have full : opening.toList ≠ [] := by simp [begins]
  rw [startsWith, List.isPrefixOf_iff_prefix, lowerAscii, toList_trim, String.toList_ofList]
  constructor
  · rintro ⟨more, spelling⟩
    obtain ⟨before, behind, shape, blank⟩ := exists_strip isBlank t.toList
    obtain ⟨spelled, after, split, same, rest⟩ := List.map_eq_append_iff.mp spelling.symm
    refine ⟨before, spelled, after ++ behind, ?_, ?_, same, ?_⟩
    · rw [shape, split]
      simp
    · exact fun c member => blank c (List.mem_append_left _ member)
    · -- the text is stripped, so it does not end in a blank behind the opening
      have some : spelled ≠ [] := by
        rintro rfl
        exact full same.symm
      apply (strip_ends split some).imp_right
      rintro ⟨c, member, kept⟩
      exact ⟨c, List.mem_append_left behind member, kept⟩
  · rintro ⟨before, spelled, after, shape, blank, same, ends⟩
    obtain ⟨c, more, rfl⟩ : ∃ c more, spelled = c :: more := by
      apply List.exists_cons_of_ne_nil
      rintro rfl
      exact full same.symm
    have here : ¬ isBlank c = true := by
      have lowered : c.toLower = first := (List.cons.inj (same.trans begins)).1
      rw [← isBlank_toLower, lowered, solid]
      exact Bool.false_ne_true
    have stripped : strip isBlank t.toList = c :: more ++ after.rdropWhile isBlank := by
      rw [strip, shape, List.append_assoc, List.dropWhile_append_of_pos blank, List.cons_append,
        List.dropWhile_cons_of_neg here, ← List.cons_append, rdropWhile_opening ends]
    rw [stripped, List.map_append, same]
    exact List.prefix_append _ _

theorem Opens.spelled {opening t : String} (opens : Opens opening t) {first : Char} {others : List Char}
    (begins : opening.toList = first :: others) (solid : isBlank first = false) :
    ∃ more, (words t).map lowerAscii = (wordsOf (opening.toList ++ more)).map String.ofList := by
  have spelling := (startsWith_iff_opens begins solid t).mpr opens
  rw [startsWith, List.isPrefixOf_iff_prefix] at spelling
  obtain ⟨more, spelled⟩ := spelling
  refine ⟨more, ?_⟩
  rw [← words_lowerAscii_trim, words, spelled]

end DebugGateway.Text
