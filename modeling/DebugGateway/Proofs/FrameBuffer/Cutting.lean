import DebugGateway.Proofs.FrameBuffer.Harvest
import DebugGateway.Proofs.FrameBuffer.Reassembly
import DebugGateway.Proofs.Text.Passages

/-! What of a stream is taken, however it is cut into reads and however long its lines are. A line is
judged without its carriage return once its newline is there, but with it where a read ends before the
newline; so the reads matter for the lines that are too long by just that byte, and for no others. -/
namespace DebugGateway.FrameBuffer

open Text (cutLines withoutReturn)

def outcome : List (Except FrameTooLarge (List UInt8)) → List (List UInt8) × Bool
  | [] => ([], false)
  | .ok frame :: results => (frame :: (outcome results).1, (outcome results).2)
  | .error _ :: _ => ([], true)

def readEnds (place : Nat) : List (List UInt8) → List Nat
  | [] => [place]
  | bytes :: reads => place :: readEnds (place + bytes.length) reads

/-- Of lines that begin at `place`, the ends of those that are too long by just their carriage return. -/
def doubts (place : Nat) : List (List UInt8) → List Nat
  | [] => []
  | line :: lines =>
    (if line.length = greatestFrame + 1 ∧ line.getLast? = some 13 then [place + line.length] else []) ++
      doubts (place + line.length + 1) lines

/-- What is to come of lines that begin at `place`, and of what follows them, with reads that end there. -/
def judge (ends : List Nat) (place : Nat) :
    List (List UInt8) → List UInt8 → List (List UInt8) × Bool
  | [], tail => ([], decide (greatestFrame < tail.length))
  | line :: lines, tail =>
    if greatestFrame < (withoutReturn line).length ∨
        (greatestFrame < line.length ∧ place + line.length ∈ ends) then ([], true)
    else
      let later := judge ends (place + line.length + 1) lines tail
      (if isBlank (withoutReturn line) then later.1 else withoutReturn line :: later.1, later.2)

def judged (ends : List Nat) (place : Nat) (stream : List UInt8) : List (List UInt8) × Bool :=
  judge ends place (cutLines stream).1 (cutLines stream).2

/-! ## One search -/

theorem takeFrame_searched {line : List UInt8} (free : 10 ∉ line) (searched rest : List UInt8) :
    takeFrame searched (line ++ rest) = takeFrame (line.reverse ++ searched) rest := by
  induction line generalizing searched with
  | nil => rfl
  | cons b line ih =>
    have here : b ≠ 10 := fun same => free (by simp [same])
    have later : 10 ∉ line := fun member => free (List.mem_cons_of_mem b member)
    rw [List.cons_append, takeFrame, if_neg here, ih later]
    simp

theorem length_dropReturn_reverse (line : List UInt8) :
    (dropReturn line.reverse).length = (withoutReturn line).length := by
  rw [← List.length_reverse, dropReturn_reverse, List.reverse_reverse]

theorem takeFrame_line {line : List UInt8} (free : 10 ∉ line) (rest : List UInt8) :
    takeFrame [] (line ++ 10 :: rest) =
      if greatestFrame < (withoutReturn line).length then
        (.error ⟨(withoutReturn line).length⟩, { unsearched := rest })
      else if isBlank (withoutReturn line) then takeFrame [] rest
      else (.ok (some (withoutReturn line)), { unsearched := rest }) := by
  rw [takeFrame_searched free, List.append_nil, takeFrame, if_pos rfl]
  simp only [length_dropReturn_reverse, dropReturn_all, dropReturn_reverse, List.reverse_reverse]

theorem takeFrame_tail {tail : List UInt8} (free : 10 ∉ tail) :
    takeFrame [] tail =
      if greatestFrame < tail.length then (.error ⟨tail.length⟩, {})
      else (.ok none, { searched := tail.reverse }) := by
  have searched := takeFrame_searched free [] []
  rw [List.append_nil, List.append_nil] at searched
  rw [searched, takeFrame, List.length_reverse]

/-! ## All searches -/

theorem harvest_congr {b b' : FrameBuffer} (same : b.next = b'.next) (reads : List (List UInt8)) :
    b.harvest reads = b'.harvest reads := by
  match answer : b.next with
  | (.ok (some frame), c) => rw [harvest_frame answer, harvest_frame (same.symm.trans answer)]
  | (.ok none, c) => rw [harvest_none answer, harvest_none (same.symm.trans answer)]
  | (.error e, c) => rw [harvest_refused answer, harvest_refused (same.symm.trans answer)]

theorem outcome_line {line : List UInt8} (free : 10 ∉ line) (rest : List UInt8)
    (reads : List (List UInt8)) :
    outcome (harvest { unsearched := line ++ 10 :: rest } reads) =
      if greatestFrame < (withoutReturn line).length then ([], true)
      else
        let later := outcome (harvest { unsearched := rest } reads)
        (if isBlank (withoutReturn line) then later.1 else withoutReturn line :: later.1, later.2) := by
  have answer : ({ unsearched := line ++ 10 :: rest } : FrameBuffer).next = _ := takeFrame_line free rest
  by_cases long : greatestFrame < (withoutReturn line).length
  · rw [if_pos long] at answer
    rw [if_pos long, harvest_refused answer]
    rfl
  · rw [if_neg long] at answer
    rw [if_neg long]
    by_cases blank : isBlank (withoutReturn line) = true
    · rw [if_pos blank] at answer
      have same : ({ unsearched := line ++ 10 :: rest } : FrameBuffer).next =
          ({ unsearched := rest } : FrameBuffer).next := answer
      simp only [harvest_congr same, if_pos blank]
    · rw [if_neg blank] at answer
      rw [harvest_frame answer]
      simp only [outcome, if_neg blank]

theorem outcome_tail {tail : List UInt8} (free : 10 ∉ tail) (reads : List (List UInt8)) :
    outcome (harvest { unsearched := tail } reads) =
      if greatestFrame < tail.length then ([], true)
      else match reads with
        | [] => ([], false)
        | bytes :: reads => outcome (harvest { unsearched := tail ++ bytes } reads) := by
  have answer : ({ unsearched := tail } : FrameBuffer).next = _ := takeFrame_tail free
  by_cases long : greatestFrame < tail.length
  · rw [if_pos long] at answer
    rw [if_pos long, harvest_refused answer]
    rfl
  · rw [if_neg long] at answer
    rw [if_neg long, harvest_none answer]
    cases reads with
    | nil => rfl
    | cons bytes reads =>
      have same : (FrameBuffer.extend { searched := tail.reverse } bytes).next =
          ({ unsearched := tail ++ bytes } : FrameBuffer).next := by
        have searched := takeFrame_searched free [] bytes
        rw [List.append_nil] at searched
        exact searched.symm
      simp only [harvest_congr same]

/-! ## What is to come of a stream -/

theorem length_withoutReturn (line : List UInt8) : line.length ≤ (withoutReturn line).length + 1 := by
  unfold withoutReturn
  split
  · rw [List.length_dropLast]
    omega
  · omega

theorem judged_line {line : List UInt8} (free : 10 ∉ line) (ends : List Nat) (place : Nat)
    (rest : List UInt8) :
    judged ends place (line ++ 10 :: rest) =
      if greatestFrame < (withoutReturn line).length ∨
          (greatestFrame < line.length ∧ place + line.length ∈ ends) then ([], true)
      else
        let later := judged ends (place + line.length + 1) rest
        (if isBlank (withoutReturn line) then later.1 else withoutReturn line :: later.1, later.2) := by
  rw [judged, Text.cutLines_line free]
  rfl

theorem judged_tail {tail : List UInt8} (free : 10 ∉ tail) (ends : List Nat) (place : Nat) :
    judged ends place tail = ([], decide (greatestFrame < tail.length)) := by
  rw [judged, Text.cutLines_of_no_newline free]
  rfl

/-- A read that ends in a line, beyond the limit, ends it all: where the newline comes next, the
carriage return has counted. -/
theorem judged_long {tail : List UInt8} (free : 10 ∉ tail) (long : greatestFrame < tail.length)
    {ends : List Nat} {place : Nat} (cut : place + tail.length ∈ ends) (more : List UInt8) :
    judged ends place (tail ++ more) = ([], true) := by
  rcases found : cutLines more with ⟨_ | ⟨line, lines⟩, last⟩
  · obtain ⟨_, unended⟩ := Text.cutLines_none found
    have open' : 10 ∉ tail ++ more := by simp [free, unended]
    have longer : greatestFrame < (tail ++ more).length := by
      rw [List.length_append]
      omega
    rw [judged_tail open', decide_eq_true longer]
  · obtain ⟨free', shape⟩ := Text.cutLines_first found
    have whole : 10 ∉ tail ++ line := by simp [free, free']
    rw [shape, ← List.append_assoc, judged_line whole, if_pos]
    by_cases short : (withoutReturn (tail ++ line)).length ≤ greatestFrame
    · have nearly := length_withoutReturn (tail ++ line)
      have all : (tail ++ line).length = tail.length := by
        rw [List.length_append] at nearly ⊢
        omega
      rw [all]
      exact .inr ⟨long, cut⟩
    · exact .inl (Nat.lt_of_not_le short)

theorem doubts_beyond {lines : List (List UInt8)} {place n : Nat} (doubt : n ∈ doubts place lines) :
    place + greatestFrame < n := by
  induction lines generalizing place with
  | nil => cases doubt
  | cons line lines ih =>
    rcases List.mem_append.mp doubt with here | later
    · split at here
      · rename_i long
        rw [List.mem_singleton.mp here, long.1]
        omega
      · cases here
    · have beyond := ih later
      omega

theorem judge_congr {ends ends' : List Nat} {lines : List (List UInt8)} {place : Nat}
    (alike : ∀ n ∈ doubts place lines, n ∈ ends ↔ n ∈ ends') (tail : List UInt8) :
    judge ends place lines tail = judge ends' place lines tail := by
  induction lines generalizing place with
  | nil => rfl
  | cons line lines ih =>
    have later := ih fun n doubt => alike n (List.mem_append_right _ doubt)
    have here : greatestFrame < (withoutReturn line).length ∨
        (greatestFrame < line.length ∧ place + line.length ∈ ends) ↔
        greatestFrame < (withoutReturn line).length ∨
          (greatestFrame < line.length ∧ place + line.length ∈ ends') := by
      by_cases long : greatestFrame < (withoutReturn line).length
      · simp [long]
      · by_cases longer : greatestFrame < line.length
        · have doubtful : line.length = greatestFrame + 1 ∧ line.getLast? = some 13 := by
            unfold withoutReturn at long
            split at long
            · rename_i returned
              rw [List.length_dropLast] at long
              exact ⟨by omega, returned⟩
            · exact absurd longer long
          have same := alike (place + line.length) (by simp [doubts, doubtful])
          simp [same]
        · simp [longer]
    simp only [judge, here, later]

theorem judged_congr {ends ends' : List Nat} {place : Nat} {stream : List UInt8}
    (alike : ∀ n ∈ doubts place (cutLines stream).1, n ∈ ends ↔ n ∈ ends') :
    judged ends place stream = judged ends' place stream :=
  judge_congr alike _

/-! ## What comes of it -/

theorem le_readEnds {n place : Nat} {reads : List (List UInt8)} (member : n ∈ readEnds place reads) :
    place ≤ n := by
  induction reads generalizing place with
  | nil => exact Nat.le_of_eq (List.mem_singleton.mp member).symm
  | cons bytes reads ih =>
    rcases List.mem_cons.mp member with rfl | later
    · exact Nat.le_refl _
    · exact Nat.le_trans (Nat.le_add_right _ _) (ih later)

theorem mem_readEnds (place : Nat) (reads : List (List UInt8)) : place ∈ readEnds place reads := by
  cases reads <;> exact List.mem_cons_self

/-- No read ends in the lines that are held in whole, so only what follows them matters. -/
theorem outcome_judged_lines {reads : List (List UInt8)}
    (tails : ∀ tail place, 10 ∉ tail → outcome (harvest { unsearched := tail } reads) =
      judged (readEnds (place + tail.length) reads) place (tail ++ reads.flatten))
    (held : List UInt8) (place : Nat) :
    outcome (harvest { unsearched := held } reads) =
      judged (readEnds (place + held.length) reads) place (held ++ reads.flatten) := by
  induction size : held.length using Nat.strongRecOn generalizing held place with
  | ind n ih =>
    rcases found : cutLines held with ⟨_ | ⟨line, lines⟩, last⟩
    · rw [← size]
      exact tails held place (Text.cutLines_none found).2
    · obtain ⟨free, shape⟩ := Text.cutLines_first found
      obtain ⟨rest, unsearched⟩ : ∃ rest, held = line ++ 10 :: rest := ⟨_, shape⟩
      have count : n = line.length + (rest.length + 1) := by
        rw [← size, unsearched, List.length_append, List.length_cons]
      have inside : place + line.length ∉ readEnds (place + n) reads := by
        intro member
        have := le_readEnds member
        omega
      have later := ih rest.length (by omega) rest (place + line.length + 1) rfl
      have same : place + line.length + 1 + rest.length = place + n := by omega
      rw [same] at later
      rw [unsearched, outcome_line free, later, List.append_assoc, List.cons_append, judged_line free]
      simp only [inside, and_false, or_false]

/-- A buffer gives out what the lines of the stream are judged to, the reads to come included. -/
theorem outcome_judged (reads : List (List UInt8)) (held : List UInt8) (place : Nat) :
    outcome (harvest { unsearched := held } reads) =
      judged (readEnds (place + held.length) reads) place (held ++ reads.flatten) := by
  induction reads generalizing held place with
  | nil =>
    refine outcome_judged_lines ?_ held place
    intro tail place free
    rw [outcome_tail free, List.flatten_nil, List.append_nil, judged_tail free]
    by_cases long : greatestFrame < tail.length
    · rw [if_pos long, decide_eq_true long]
    · rw [if_neg long, decide_eq_false long]
  | cons bytes reads ih =>
    refine outcome_judged_lines ?_ held place
    intro tail place free
    rw [outcome_tail free]
    by_cases long : greatestFrame < tail.length
    · rw [if_pos long, judged_long free long (mem_readEnds _ _)]
    · rw [if_neg long, List.flatten_cons, ← List.append_assoc]
      refine (ih (tail ++ bytes) place).trans (judged_congr ?_)
      -- this read ends too early for a line that is in doubt
      intro n doubt
      have beyond := doubts_beyond doubt
      have early : n ≠ place + tail.length := by omega
      rw [List.length_append, ← Nat.add_assoc, readEnds, List.mem_cons, or_iff_right early]

/-- Two ways to cut a stream bring the same frames and refuse it alike, unless a line is too long by just
its carriage return and a read ends before its newline in one of them only. -/
theorem cuts_agree {reads reads' : List (List UInt8)} (same : reads.flatten = reads'.flatten)
    (alike : ∀ n ∈ doubts 0 (cutLines reads.flatten).1, n ∈ readEnds 0 reads ↔ n ∈ readEnds 0 reads') :
    outcome (harvest {} reads) = outcome (harvest {} reads') := by
  have here := outcome_judged reads [] 0
  have there := outcome_judged reads' [] 0
  rw [List.nil_append, List.length_nil, Nat.add_zero] at here there
  rw [here, there, ← same]
  exact judged_congr alike

def brimful : List UInt8 := List.replicate greatestFrame 97 ++ [13]

theorem brimful_free : 10 ∉ brimful := by simp [brimful, List.mem_replicate]

theorem brimful_length : brimful.length = greatestFrame + 1 := by simp [brimful]

theorem withoutReturn_brimful : withoutReturn brimful = List.replicate greatestFrame 97 := by
  simp [withoutReturn, brimful]

theorem doubts_brimful : doubts 0 (cutLines [brimful, [10]].flatten).1 = [greatestFrame + 1] := by
  have cut : cutLines [brimful, [10]].flatten = ([brimful], []) := Text.cutLines_line brimful_free []
  have returned : brimful.getLast? = some 13 := by simp [brimful]
  rw [cut]
  simp [doubts, brimful_length, returned]

theorem brimful_cut : outcome (harvest {} [brimful, [10]]) = ([], true) := by
  have first : outcome (harvest {} [brimful, [10]]) = _ := outcome_tail List.not_mem_nil _
  rw [first, if_neg (by decide)]
  dsimp only
  rw [List.nil_append, outcome_tail brimful_free, brimful_length, if_pos (Nat.lt_succ_self _)]

theorem brimful_agree :
    [brimful, [10]].flatten = [List.replicate greatestFrame 97, [13], [10]].flatten ∧
    doubts 0 (cutLines [brimful, [10]].flatten).1 = [greatestFrame + 1] ∧
    outcome (harvest {} [List.replicate greatestFrame 97, [13], [10]]) = ([], true) := by
  have same : [brimful, [10]].flatten = [List.replicate greatestFrame 97, [13], [10]].flatten := by
    simp [brimful]
  refine ⟨same, doubts_brimful, ?_⟩
  rw [← brimful_cut]
  refine (cuts_agree same fun n doubt => ?_).symm
  rw [doubts_brimful, List.mem_singleton] at doubt
  simp [doubt, readEnds, brimful_length]

theorem brimful_disagree : ¬ ∀ reads reads' : List (List UInt8), reads.flatten = reads'.flatten →
    outcome (harvest {} reads) = outcome (harvest {} reads') := by
  intro agree
  have same := agree [brimful ++ [10]] [brimful, [10]] (by simp)
  have whole : (outcome (harvest {} [brimful ++ [10]])).2 = false := by
    have first : outcome (harvest {} [brimful ++ [10]]) = _ := outcome_tail List.not_mem_nil _
    rw [first, if_neg (by decide)]
    dsimp only
    rw [List.nil_append, outcome_line brimful_free, withoutReturn_brimful, List.length_replicate,
      if_neg (Nat.lt_irrefl _)]
    exact congrArg Prod.snd (outcome_tail List.not_mem_nil [])
  rw [same, brimful_cut] at whole
  cases whole

end DebugGateway.FrameBuffer
