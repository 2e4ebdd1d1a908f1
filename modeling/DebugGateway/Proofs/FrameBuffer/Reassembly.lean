import DebugGateway.FrameBuffer
import DebugGateway.Proofs.Text.Bytes

/-! Reassembly of frames. The frames of a stream are defined from its lines alone, without a buffer;
whatever calls are made on a buffer, in whatever chunks the stream comes, what the buffer gives out is
the beginning of them. Every call gives out what a stretch of whole lines holds (`next_consumes`), and
stretches add up (`run_consumes`). Streams with lines that are too long are left aside here. -/
namespace DebugGateway.FrameBuffer

open Text (cutLines withoutReturn Whole)

def isBlank (frame : List UInt8) : Bool := frame.all isBlankByte

/-- The frames of a stream: its lines without the carriage return, blank ones left out. -/
def framesOf (stream : List UInt8) : List (List UInt8) :=
  ((cutLines stream).1.map withoutReturn).filter fun frame => !isBlank frame

/-- No line, and not what follows the last one, is longer than a frame may be. The carriage return
counts. -/
structure Fits (stream : List UInt8) : Prop where
  lines : ∀ line ∈ (cutLines stream).1, line.length ≤ greatestFrame
  tail : (cutLines stream).2.length ≤ greatestFrame

inductive Call where
  | extend (bytes : List UInt8)
  | next
deriving DecidableEq, Repr

abbrev Answer := Except FrameTooLarge (Option (List UInt8))

def run : FrameBuffer → List Call → List Answer × FrameBuffer
  | b, [] => ([], b)
  | b, .extend bytes :: calls => run (b.extend bytes) calls
  | b, .next :: calls => (b.next.1 :: (run b.next.2 calls).1, (run b.next.2 calls).2)

def fed : List Call → List UInt8
  | [] => []
  | .extend bytes :: calls => bytes ++ fed calls
  | .next :: calls => fed calls

def given : List Answer → List (List UInt8)
  | [] => []
  | .ok (some frame) :: answers => frame :: given answers
  | _ :: answers => given answers

/-! ## Streams -/

theorem framesOf_append {s : List UInt8} (whole : Whole s) (t : List UInt8) :
    framesOf (s ++ t) = framesOf s ++ framesOf t := by
  simp only [framesOf, Text.cutLines_whole_append whole, List.map_append, List.filter_append]

theorem framesOf_no_newline {s : List UInt8} (h : 10 ∉ s) : framesOf s = [] := by
  simp [framesOf, Text.cutLines_of_no_newline h]

theorem framesOf_line {line : List UInt8} (h : 10 ∉ line) :
    framesOf (line ++ [10]) = if isBlank (withoutReturn line) then [] else [withoutReturn line] := by
  have cut : cutLines (line ++ [10]) = ([line], []) := Text.cutLines_line h []
  cases hb : isBlank (withoutReturn line) <;> simp [framesOf, cut, hb]

theorem framesOf_grows (s t : List UInt8) : framesOf s <+: framesOf (s ++ t) := by
  refine ⟨framesOf ((cutLines s).2 ++ t), ?_⟩
  simp only [framesOf, Text.cutLines_append s t, List.map_append, List.filter_append]

theorem Fits.right {s t : List UInt8} (whole : Whole s) (fits : Fits (s ++ t)) : Fits t := by
  obtain ⟨lines, tail⟩ := fits
  rw [Text.cutLines_whole_append whole] at lines tail
  exact ⟨fun line h => lines line (List.mem_append_right _ h), tail⟩

/-- What has come of a stream fits if the stream does: an unfinished line is the beginning of one. -/
theorem Fits.left {s t : List UInt8} (fits : Fits (s ++ t)) : Fits s := by
  obtain ⟨lines, tail⟩ := fits
  rw [Text.cutLines_append] at lines tail
  refine ⟨fun line h => lines line (List.mem_append_left _ h), ?_⟩
  have clean := Text.no_newline_in_tail s
  cases ends : (cutLines t).1 with
  | nil =>
    rw [Text.cutLines_opening_tail clean ends, List.length_append] at tail
    exact Nat.le_trans (Nat.le_add_right _ _) tail
  | cons line more =>
    have long := lines ((cutLines s).2 ++ line)
      (List.mem_append_right _ (by rw [Text.cutLines_opening_line clean ends]; simp))
    rw [List.length_append] at long
    exact Nat.le_trans (Nat.le_add_right _ _) long

/-! ## One call -/

/-- What an answer says of the bytes held before, and of those held after it. An answer without a
refusal speaks for a stretch of whole lines. -/
def Consumes (held : List UInt8) : Answer × FrameBuffer → Prop
  | (.ok found, b) =>
    10 ∉ b.searched ∧ (found = none → 10 ∉ b.pending) ∧
      ∃ cut, Whole cut ∧ held = cut ++ b.pending ∧ framesOf cut = found.toList
  | (.error _, _) => ¬ Fits held

theorem dropReturn_reverse (searched : List UInt8) :
    (dropReturn searched).reverse = withoutReturn searched.reverse := by
  cases searched with
  | nil => rfl
  | cons b rest => by_cases hb : b = 13 <;> simp [dropReturn, withoutReturn, hb]

theorem dropReturn_suffix (searched : List UInt8) : dropReturn searched <:+ searched := by
  cases searched with
  | nil => exact List.suffix_refl []
  | cons b rest =>
    rw [dropReturn]
    split
    · exact List.suffix_cons b rest
    · exact List.suffix_refl _

theorem dropReturn_length (searched : List UInt8) :
    (dropReturn searched).length ≤ searched.length :=
  (dropReturn_suffix searched).length_le

theorem dropReturn_all (searched : List UInt8) :
    (dropReturn searched).all isBlankByte = isBlank (withoutReturn searched.reverse) := by
  rw [isBlank, ← dropReturn_reverse, List.all_reverse]

theorem Consumes.after {line rest : List UInt8} {r : Answer × FrameBuffer} (clean : 10 ∉ line)
    (blank : isBlank (withoutReturn line) = true) (h : Consumes rest r) :
    Consumes (line ++ 10 :: rest) r := by
  have whole := Text.whole_line clean
  have none : framesOf (line ++ [10]) = [] := by rw [framesOf_line clean, if_pos blank]
  have held : line ++ 10 :: rest = (line ++ [10]) ++ rest := by simp
  rw [held]
  match r with
  | (.error _, _) => exact fun fits => h (fits.right whole)
  | (.ok found, b) =>
    obtain ⟨searched, last, cut, ends, rfl, frames⟩ := h
    refine ⟨searched, last, line ++ [10] ++ cut, whole.append ends, by simp, ?_⟩
    rw [framesOf_append whole, none, List.nil_append, frames]

/-- The bytes searched before hold no newline, so the first newline of all ends the first line. -/
theorem takeFrame_consumes (searched rest : List UInt8) (clean : 10 ∉ searched) :
    Consumes (searched.reverse ++ rest) (takeFrame searched rest) := by
  induction rest generalizing searched with
  | nil =>
    have clean' : 10 ∉ searched.reverse ++ [] := by simpa using clean
    unfold takeFrame
    split
    · rename_i long
      intro fits
      have short := fits.tail
      rw [Text.cutLines_of_no_newline clean'] at short
      simp only [List.append_nil, List.length_reverse] at short
      exact Nat.not_lt_of_le short long
    · exact ⟨clean, fun _ => clean', [], Text.whole_nil, rfl, rfl⟩
  | cons b rest ih =>
    have clean' : 10 ∉ searched.reverse := by simpa using clean
    unfold takeFrame
    split
    · rename_i hb
      subst hb
      dsimp only
      split
      · rename_i long
        intro fits
        have short := fits.lines searched.reverse (by rw [Text.cutLines_line clean']; simp)
        rw [List.length_reverse] at short
        exact Nat.not_lt_of_le (Nat.le_trans (dropReturn_length searched) short) long
      · split
        · rename_i blank
          rw [dropReturn_all] at blank
          exact (ih [] (by simp)).after clean' blank
        · rename_i some
          rw [dropReturn_all] at some
          refine ⟨by simp, by simp, searched.reverse ++ [10], Text.whole_line clean', ?_, ?_⟩
          · simp [pending]
          · rw [framesOf_line clean', if_neg some, dropReturn_reverse]
            rfl
    · rename_i hb
      have grown := ih (b :: searched) (by
        intro m
        rcases List.mem_cons.mp m with e | m
        · exact hb e.symm
        · exact clean m)
      simpa using grown

theorem next_consumes (b : FrameBuffer) (clean : 10 ∉ b.searched) : Consumes b.pending b.next :=
  takeFrame_consumes b.searched b.unsearched clean

/-! ## Runs of calls -/

theorem run_append (b : FrameBuffer) (calls more : List Call) :
    run b (calls ++ more) =
      ((run b calls).1 ++ (run (run b calls).2 more).1, (run (run b calls).2 more).2) := by
  induction calls generalizing b with
  | nil => rfl
  | cons call calls ih =>
    cases call with
    | extend bytes => exact ih (b.extend bytes)
    | next =>
      have h := ih b.next.2
      simp only [List.cons_append, run, h]

theorem fed_append (calls more : List Call) : fed (calls ++ more) = fed calls ++ fed more := by
  induction calls with
  | nil => rfl
  | cons call calls ih => cases call <;> simp [fed, ih]

theorem given_cons (found : Option (List UInt8)) (answers : List Answer) :
    given (.ok found :: answers) = found.toList ++ given answers := by
  cases found <;> rfl

/-- A run answers for a stretch of whole lines of what was held and what came; the rest is held. -/
theorem run_consumes (calls : List Call) (b : FrameBuffer) (clean : 10 ∉ b.searched)
    (fits : Fits (b.pending ++ fed calls)) :
    10 ∉ (run b calls).2.searched ∧ (∀ a ∈ (run b calls).1, ∃ found, a = .ok found) ∧
      ∃ cut, Whole cut ∧ b.pending ++ fed calls = cut ++ (run b calls).2.pending ∧
        framesOf cut = given (run b calls).1 := by
  induction calls generalizing b with
  | nil => exact ⟨clean, by simp [run], [], Text.whole_nil, by simp [run, fed], rfl⟩
  | cons call calls ih =>
    cases call with
    | extend bytes =>
      have moved : (b.extend bytes).pending ++ fed calls = b.pending ++ fed (.extend bytes :: calls) := by
        simp [pending, extend, fed]
      have h := ih (b.extend bytes) clean (moved ▸ fits)
      rw [moved] at h
      exact h
    | next =>
      have one := next_consumes b clean
      have here : fed (.next :: calls) = fed calls := rfl
      rw [here] at fits ⊢
      match result : b.next with
      | (.error e, _) =>
        rw [result] at one
        exact absurd fits.left one
      | (.ok found, b') =>
        rw [result] at one
        obtain ⟨clean', _, cut, whole, held, frames⟩ := one
        rw [held, List.append_assoc] at fits
        obtain ⟨last, accepted, more, ends, rest, others⟩ := ih b' clean' (fits.right whole)
        simp only [run, result]
        refine ⟨last, ?_, cut ++ more, whole.append ends, ?_, ?_⟩
        · intro a ha
          rcases List.mem_cons.mp ha with rfl | ha
          · exact ⟨found, rfl⟩
          · exact accepted a ha
        · rw [held, List.append_assoc, rest, List.append_assoc]
        · rw [framesOf_append whole, frames, others, given_cons]

theorem run_frames (calls : List Call) (fits : Fits (fed calls)) :
    framesOf (fed calls) = given (run {} calls).1 ++ framesOf (run {} calls).2.pending := by
  obtain ⟨_, _, cut, whole, rest, frames⟩ := run_consumes calls {} (by simp) fits
  have held : fed calls = cut ++ (run {} calls).2.pending := rest
  rw [held, framesOf_append whole, frames]

theorem run_tail (calls : List Call) (fits : Fits (fed calls)) :
    (cutLines (fed calls)).2 = (cutLines (run {} calls).2.pending).2 := by
  obtain ⟨_, _, cut, whole, rest, _⟩ := run_consumes calls {} (by simp) fits
  have held : fed calls = cut ++ (run {} calls).2.pending := rest
  rw [held, Text.cutLines_whole_append whole]

/-- Where no newline is held and none comes, nothing is given and what is held stays. -/
theorem run_idle (calls : List Call) (b : FrameBuffer) (clean : 10 ∉ b.searched)
    (unended : 10 ∉ b.pending) (fits : Fits b.pending) (silent : fed calls = []) :
    given (run b calls).1 = [] ∧ (run b calls).2.pending = b.pending := by
  have here : b.pending ++ fed calls = b.pending := by rw [silent, List.append_nil]
  obtain ⟨_, _, cut, whole, rest, frames⟩ := run_consumes calls b clean (here.symm ▸ fits)
  rw [here] at rest
  have nothing : cut = [] := whole.eq_nil fun m => unended (rest ▸ List.mem_append_left _ m)
  subst nothing
  exact ⟨frames.symm, rest.symm⟩

/-- Taking frames out comes to an end: after as many as are held there is none. -/
theorem run_dry (n : Nat) (b : FrameBuffer) (clean : 10 ∉ b.searched) (fits : Fits b.pending)
    (count : (framesOf b.pending).length = n) :
    (run b (List.replicate (n + 1) .next)).1.getLast? = some (.ok none) := by
  induction n generalizing b with
  | zero =>
    have one := next_consumes b clean
    match result : b.next with
    | (.error e, _) =>
      rw [result] at one
      exact absurd fits one
    | (.ok none, _) => simp [run, result]
    | (.ok (some frame), b') =>
      rw [result] at one
      obtain ⟨_, _, cut, whole, held, frames⟩ := one
      rw [held, framesOf_append whole, frames] at count
      simp at count
  | succ n ih =>
    have one := next_consumes b clean
    match result : b.next with
    | (.error e, _) =>
      rw [result] at one
      exact absurd fits one
    | (.ok none, b') =>
      rw [result] at one
      obtain ⟨_, last, cut, whole, held, frames⟩ := one
      rw [held, framesOf_append whole, frames, framesOf_no_newline (last rfl)] at count
      simp at count
    | (.ok (some frame), b') =>
      rw [result] at one
      obtain ⟨clean', _, cut, whole, held, frames⟩ := one
      rw [held, framesOf_append whole, frames] at count
      have fewer : (framesOf b'.pending).length = n := by simpa using count
      have rest := ih b' clean' ((held ▸ fits).right whole) fewer
      rw [List.replicate_succ]
      simp only [run, result, List.getLast?_cons, rest, Option.getD_some]

theorem run_settled {before after : List Call} (fits : Fits (fed (before ++ .next :: after)))
    (silent : fed after = []) (dry : (run {} before).2.next.1 = .ok none) :
    given (run {} (before ++ .next :: after)).1 = framesOf (fed (before ++ .next :: after)) ∧
      (run {} (before ++ .next :: after)).2.pendingLength =
        (cutLines (fed (before ++ .next :: after))).2.length := by
  have came : fed (before ++ .next :: after) = fed before := by
    rw [fed_append, show fed (.next :: after) = fed after from rfl, silent, List.append_nil]
  have fits' : Fits (fed before) := came ▸ fits
  obtain ⟨clean, _, cut, whole, rest, _⟩ := run_consumes before {} (by simp) fits'
  have held : fed before = cut ++ (run {} before).2.pending := rest
  have short := Fits.right whole (held ▸ fits')
  have one := next_consumes (run {} before).2 clean
  have result : (run {} before).2.next = (.ok none, (run {} before).2.next.2) := by rw [← dry]
  rw [result] at one
  obtain ⟨clean', last, stretch, ends, kept, _⟩ := one
  have unended := last rfl
  have quiet := run_idle after _ clean' unended (Fits.right ends (kept ▸ short)) silent
  have final : (run {} (before ++ .next :: after)).2.pending = (run {} before).2.next.2.pending := by
    rw [run_append]
    exact quiet.2
  constructor
  · rw [run_frames _ fits, final, framesOf_no_newline unended, List.append_nil]
  · rw [run_tail _ fits, final, Text.cutLines_of_no_newline unended, ← final]
    simp [pendingLength, pending]

/-- Asking once more than frames are missing brings the answer that there is none. -/
theorem run_exhausted (calls : List Call) (fits : Fits (fed calls)) :
    (run {} (calls ++ List.replicate
      ((framesOf (fed calls)).length - (given (run {} calls).1).length + 1) .next)).1.getLast? =
        some (.ok none) := by
  obtain ⟨clean, _, cut, whole, rest, _⟩ := run_consumes calls {} (by simp) fits
  have held : fed calls = cut ++ (run {} calls).2.pending := rest
  have missing : (framesOf (fed calls)).length - (given (run {} calls).1).length =
      (framesOf (run {} calls).2.pending).length := by
    rw [run_frames calls fits, List.length_append, Nat.add_sub_cancel_left]
  rw [missing, run_append, List.getLast?_append,
    run_dry _ _ clean (Fits.right whole (held ▸ fits)) rfl]
  rfl

/-- Whatever the chunks and wherever frames are asked for: nothing is refused, what has been given at
any moment is the beginning of the frames of the stream, and once no frame is left after the last byte
all of them have been given and just the unfinished line is held. Asking once more than frames are
missing gets there. -/
theorem calls_reassemble_stream (calls : List Call) (fits : Fits (fed calls)) :
    (∀ a ∈ (run {} calls).1, ∃ found, a = .ok found) ∧
    (∀ n, given (run {} (calls.take n)).1 <+: framesOf (fed calls)) ∧
    (∀ before after, calls = before ++ .next :: after → fed after = [] →
      (run {} before).2.next.1 = .ok none →
        given (run {} calls).1 = framesOf (fed calls) ∧
        (run {} calls).2.pendingLength = (cutLines (fed calls)).2.length) ∧
    (run {} (calls ++ List.replicate
      ((framesOf (fed calls)).length - (given (run {} calls).1).length + 1) .next)).1.getLast? =
        some (.ok none) := by
  obtain ⟨_, accepted, _⟩ := run_consumes calls {} (by simp) fits
  refine ⟨accepted, ?_, ?_, run_exhausted calls fits⟩
  · intro n
    have split : fed calls = fed (calls.take n) ++ fed (calls.drop n) := by
      rw [← fed_append, List.take_append_drop]
    have soFar := run_frames (calls.take n) (Fits.left (split ▸ fits))
    rw [split]
    exact (soFar ▸ List.prefix_append _ _).trans (framesOf_grows _ _)
  · intro before after order silent dry
    subst order
    exact run_settled fits silent dry

/-- A line whose carriage return and newline come apart, then a blank line and an unfinished one. -/
def splitReturn : List Call :=
  [.extend [97, 13], .next, .extend [], .extend [10, 32, 13, 10, 98], .next, .next]

theorem splitReturn_reassembles :
    Fits (fed splitReturn) ∧ given (run {} splitReturn).1 = [[97]] ∧
      (run {} splitReturn).2.pendingLength = 1 := by
  have fits : Fits (fed splitReturn) := ⟨by decide, by decide⟩
  obtain ⟨frames, held⟩ := (calls_reassemble_stream splitReturn fits).2.2.1
    [.extend [97, 13], .next, .extend [], .extend [10, 32, 13, 10, 98], .next] [] rfl rfl rfl
  exact ⟨fits, frames.trans (by decide), held.trans (by decide)⟩

end DebugGateway.FrameBuffer
