import DebugGateway.Command.Cost
import DebugGateway.Proofs.Text.Words

namespace DebugGateway

open Text

variable {t s : String}

/-- What is told from the words of a command and from how it opens is told alike of two spellings just where
they open alike, if the opening makes a difference at all. -/
theorem told_alike_iff {α : Type} (tell : String → α) {opening : String} {opened shut : α}
    (differ : opened ≠ shut)
    (alike : ∀ {t s}, SameWords t s → (Opens opening t ↔ Opens opening s) → tell t = tell s)
    (parted : ∀ {t s}, SameWords t s → Opens opening t → ¬ Opens opening s →
      tell t = opened ∧ tell s = shut)
    (same : SameWords t s) : tell t = tell s ↔ (Opens opening t ↔ Opens opening s) := by
  constructor
  · intro told
    constructor
    · intro opens
      by_contra closed
      obtain ⟨first, second⟩ := parted same opens closed
      exact differ (first.symm.trans (told.trans second))
    · intro opens
      by_contra closed
      obtain ⟨second, first⟩ := parted same.symm opens closed
      exact differ (second.symm.trans (told.symm.trans first))
  · exact alike same

theorem wordsOf_spaced {word : List Char} (solid : word.all (fun c => !isBlank c) = true)
    (full : word ≠ []) (rest : List Char) : wordsOf (word ++ ' ' :: rest) = word :: wordsOf rest := by
  rw [wordsOf_word ?_ full ?_, wordsOf_blank (by decide)]
  · intro c member
    simpa using List.all_eq_true.mp solid c member
  · rintro c ⟨⟩
    decide

/-- Whoever opens like this has the words of the opening, but that the last may go on. -/
theorem opens_words {opening : String} (opens : Opens opening t) {first second third : List Char}
    (shape : opening.toList = first ++ ' ' :: (second ++ ' ' :: third))
    (solid : (first ++ second).all (fun c => !isBlank c) = true) (full : first ≠ [] ∧ second ≠ []) :
    ∃ more, (words t).map lowerAscii =
      String.ofList first :: String.ofList second :: (wordsOf (third ++ more)).map String.ofList := by
  rw [List.all_append, Bool.and_eq_true] at solid
  obtain ⟨c, others, begins⟩ := List.exists_cons_of_ne_nil full.1
  have here : isBlank c = false := by
    have each := List.all_eq_true.mp solid.1 c (begins ▸ List.mem_cons_self)
    simpa using each
  have opened : opening.toList = c :: (others ++ ' ' :: (second ++ ' ' :: third)) := by
    rw [shape, begins, List.cons_append]
  obtain ⟨more, spelled⟩ := opens.spelled opened here
  refine ⟨more, ?_⟩
  rw [spelled, shape, List.append_assoc, List.cons_append, List.append_assoc, List.cons_append,
    wordsOf_spaced solid.1 full.1, wordsOf_spaced solid.2 full.2, List.map_cons, List.map_cons]

section Opening

variable {opening : String} {first : Char} {others : List Char}
  (begins : opening.toList = first :: others) (solid : isBlank first = false)
include begins solid

theorem startsWith_alike (opens : Opens opening t ↔ Opens opening s) :
    startsWith opening (lowerAscii (trim t)) = startsWith opening (lowerAscii (trim s)) := by
  rw [Bool.eq_iff_iff, startsWith_iff_opens begins solid, startsWith_iff_opens begins solid, opens]

theorem startsWith_shut (closed : ¬ Opens opening t) :
    startsWith opening (lowerAscii (trim t)) = false := by
  rwa [Bool.eq_false_iff, ne_eq, startsWith_iff_opens begins solid]

end Opening

/-! ## The walk over every process -/

namespace Cost

theorem words_walk (opens : Opens bulkOpening t) : ∃ more others,
    (words t).map lowerAscii = "!process" :: "0" :: String.ofList ('0' :: more) :: others := by
  obtain ⟨more, spelled⟩ := @opens_words t bulkOpening opens "!process".toList ['0'] ['0'] rfl
    (by decide) (by decide)
  obtain ⟨word, others, third⟩ := wordsOf_cons (c := '0') (by decide) more
  refine ⟨word, others.map String.ofList, ?_⟩
  rw [spelled, List.singleton_append, third, String.ofList_toList]
  rfl

theorem ofCommand_alike (same : SameWords t s) (opens : Opens bulkOpening t ↔ Opens bulkOpening s) :
    ofCommand t = ofCommand s := by
  have walk := startsWith_alike rfl (by decide) opens
  rw [ofCommand, ofCommand, words_lowerAscii_trim, words_lowerAscii_trim, same, walk]

theorem ofCommand_parted (same : SameWords t s) (opens : Opens bulkOpening t)
    (closed : ¬ Opens bulkOpening s) : ofCommand t = bulk ∧ ofCommand s = slow := by
  obtain ⟨more, others, spelled⟩ := words_walk opens
  constructor
  · have walk := (startsWith_iff_opens rfl (by decide) t).mpr opens
    rw [ofCommand, words_lowerAscii_trim, spelled, walk]
    rfl
  · have walk := startsWith_shut rfl (by decide) closed
    rw [ofCommand, words_lowerAscii_trim, ← same, spelled, walk]
    rfl

end Cost

theorem grantedBudget_alike_iff (same : SameWords t s) (requested : Nat) :
    grantedBudget t requested = grantedBudget s requested ↔
      300000 ≤ requested ∨ (Opens Cost.bulkOpening t ↔ Opens Cost.bulkOpening s) := by
  by_cases ample : 300000 ≤ requested
  · have granted (command : String) : grantedBudget command requested = requested := by
      apply Nat.max_eq_left
      cases Cost.ofCommand command <;> simp only [Cost.floor] <;> omega
    simp [granted, ample]
  · have differ : max requested 300000 ≠ max requested 30000 := by omega
    rw [or_iff_right ample]
    refine told_alike_iff (grantedBudget · requested) differ ?_ ?_ same
    · intro t s same opens
      simp only [grantedBudget, Cost.ofCommand_alike same opens]
    · intro t s same opens closed
      obtain ⟨walk, plain⟩ := Cost.ofCommand_parted same opens closed
      simp only [grantedBudget, walk, plain, Cost.floor, and_self]

/-! ## The assignment to a variable -/

namespace Confirmation

theorem words_assignment (opens : Opens assignmentOpening t) :
    ∃ others, (words t).map lowerAscii = "set" :: "var" :: others := by
  obtain ⟨more, spelled⟩ := @opens_words t assignmentOpening opens "set".toList "var".toList [] rfl
    (by decide) (by decide)
  refine ⟨(wordsOf more).map String.ofList, ?_⟩
  rw [spelled, List.nil_append, String.ofList_toList, String.ofList_toList]

theorem confirmation?_alike (same : SameWords t s)
    (opens : Opens assignmentOpening t ↔ Opens assignmentOpening s) :
    confirmation? t = confirmation? s := by
  have assigns := startsWith_alike rfl (by decide) opens
  rw [confirmation?, confirmation?, words_lowerAscii_trim, words_lowerAscii_trim, same, assigns]

theorem confirmation?_parted (same : SameWords t s) (opens : Opens assignmentOpening t)
    (closed : ¬ Opens assignmentOpening s) :
    confirmation? t = some "Memory edit command completed successfully." ∧ confirmation? s = none := by
  obtain ⟨others, spelled⟩ := words_assignment opens
  constructor
  · have assigns := (startsWith_iff_opens rfl (by decide) t).mpr opens
    rw [confirmation?, words_lowerAscii_trim, spelled, assigns]
    rfl
  · have assigns := startsWith_shut rfl (by decide) closed
    rw [confirmation?, words_lowerAscii_trim, ← same, spelled, assigns]
    rfl

end Confirmation

/-! ## What two spellings are told -/

/-- What is told of two spellings of one command. The budget is the same as well where more is asked for than
any cost demands. -/
structure Compared (t s : String) : Prop where
  cost : Cost.ofCommand t = Cost.ofCommand s ↔ (Opens Cost.bulkOpening t ↔ Opens Cost.bulkOpening s)
  budget : ∀ requested, grantedBudget t requested = grantedBudget s requested ↔
    300000 ≤ requested ∨ (Opens Cost.bulkOpening t ↔ Opens Cost.bulkOpening s)
  confirmed : confirmation? t = confirmation? s ↔
    (Opens Confirmation.assignmentOpening t ↔ Opens Confirmation.assignmentOpening s)
  walk : Opens Cost.bulkOpening t → ¬ Opens Cost.bulkOpening s →
    ["!process", "0"] <+: (words t).map lowerAscii ∧
      Cost.ofCommand t = .bulk ∧ Cost.ofCommand s = .slow
  assignment : Opens Confirmation.assignmentOpening t → ¬ Opens Confirmation.assignmentOpening s →
    ["set", "var"] <+: (words t).map lowerAscii ∧
      confirmation? t = some "Memory edit command completed successfully." ∧ confirmation? s = none

/-- The blanks between the words make no difference but to the walk over every process and to the assignment,
which are known by single spaces. -/
theorem spellings_compared (same : SameWords t s) : Compared t s where
  cost := told_alike_iff Cost.ofCommand (by decide) Cost.ofCommand_alike Cost.ofCommand_parted same
  budget := grantedBudget_alike_iff same
  confirmed := told_alike_iff confirmation? (by decide) Confirmation.confirmation?_alike
    Confirmation.confirmation?_parted same
  walk := by
    intro opens closed
    obtain ⟨more, others, spelled⟩ := Cost.words_walk opens
    refine ⟨?_, Cost.ofCommand_parted same opens closed⟩
    rw [spelled]
    exact ⟨_, rfl⟩
  assignment := by
    intro opens closed
    obtain ⟨others, spelled⟩ := Confirmation.words_assignment opens
    refine ⟨?_, Confirmation.confirmation?_parted same opens closed⟩
    rw [spelled]
    exact ⟨_, rfl⟩

theorem spellings_compared_tabbed :
    SameWords "SET\tvar  x = 3" "set var x = 3" ∧ Compared "SET\tvar  x = 3" "set var x = 3" :=
  have same : SameWords "SET\tvar  x = 3" "set var x = 3" := by decide
  ⟨same, spellings_compared same⟩

/-- One more blank costs the walk its budget, and a tab the assignment its confirmation. -/
theorem spellings_told_apart :
    (SameWords "!process  0 0" "!process 0 0" ∧
      Cost.ofCommand "!process  0 0" = .slow ∧ Cost.ofCommand "!process 0 0" = .bulk ∧
      grantedBudget "!process  0 0" 0 = 30000 ∧ grantedBudget "!process 0 0" 0 = 300000) ∧
    SameWords "set\tvar x = 3" "set var x = 3" ∧ confirmation? "set\tvar x = 3" = none ∧
      confirmation? "set var x = 3" = some "Memory edit command completed successfully." := by
  decide

end DebugGateway
