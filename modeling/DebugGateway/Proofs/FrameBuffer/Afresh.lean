import DebugGateway.Proofs.FrameBuffer.Cutting

/-! A buffer that does not remember how far it has searched. It looks for a newline from the first byte
that it holds, every time. Whatever calls are made, refused ones and those after them included, its
answers and the number of bytes it holds are those of the buffer that searches on. The bytes that count as
searched never hold a newline (`Agrees`), so nothing is missed by not looking at them again. -/
namespace DebugGateway.FrameBuffer

open Text (withoutReturn)

theorem idxOf?_lt {b : UInt8} {bytes : List UInt8} {n : Nat} (found : bytes.idxOf? b = some n) :
    n < bytes.length := by
  obtain ⟨inside, _⟩ := List.idxOf?_eq_some_iff.mp found
  exact inside

def afresh (held : List UInt8) : Answer × List UInt8 :=
  match _h : held.idxOf? 10 with
  | none => if greatestFrame < held.length then (.error ⟨held.length⟩, []) else (.ok none, held)
  | some n =>
    let frame := withoutReturn (held.take n)
    let rest := held.drop (n + 1)
    if greatestFrame < frame.length then (.error ⟨frame.length⟩, rest)
    else if isBlank frame then afresh rest
    else (.ok (some frame), rest)
termination_by held.length
decreasing_by
  have inside := idxOf?_lt _h
  rw [List.length_drop]
  omega

/-- Makes calls one after the other: what each gives, and how many bytes are held after it. -/
def observe {σ : Type} (call : σ → Call → Option Answer × σ) (length : σ → Nat) :
    σ → List Call → List (Option Answer × Nat)
  | _, [] => []
  | s, c :: calls => ((call s c).1, length (call s c).2) :: observe call length (call s c).2 calls

def call (b : FrameBuffer) : Call → Option Answer × FrameBuffer
  | .extend bytes => (none, b.extend bytes)
  | .next => (some b.next.1, b.next.2)

def callAfresh (held : List UInt8) : Call → Option Answer × List UInt8
  | .extend bytes => (none, held ++ bytes)
  | .next => (some (afresh held).1, (afresh held).2)

/-! ## One search -/

theorem idxOf?_line {line : List UInt8} (free : 10 ∉ line) (rest : List UInt8) :
    (line ++ 10 :: rest).idxOf? 10 = some line.length := by
  rw [List.idxOf?_eq_some_iff]
  refine ⟨by simp, by simp, ?_⟩
  intro j before same
  rw [List.getElem_append_left before] at same
  exact free (same ▸ List.getElem_mem before)

theorem afresh_line {line : List UInt8} (free : 10 ∉ line) (rest : List UInt8) :
    afresh (line ++ 10 :: rest) =
      if greatestFrame < (withoutReturn line).length then (.error ⟨(withoutReturn line).length⟩, rest)
      else if isBlank (withoutReturn line) then afresh rest
      else (.ok (some (withoutReturn line)), rest) := by
  have found := idxOf?_line free rest
  have front : (line ++ 10 :: rest).take line.length = line := List.take_left
  have back : (line ++ 10 :: rest).drop (line.length + 1) = rest := by simp [List.drop_append]
  rw [afresh]
  split
  · rename_i missing
    cases found.symm.trans missing
  · rename_i n there
    cases found.symm.trans there
    rw [front, back]

theorem afresh_tail {tail : List UInt8} (free : 10 ∉ tail) :
    afresh tail =
      if greatestFrame < tail.length then (.error ⟨tail.length⟩, []) else (.ok none, tail) := by
  have missing := List.idxOf?_eq_none_iff.mpr free
  rw [afresh]
  split
  · rfl
  · rename_i n there
    cases missing.symm.trans there

/-- The buffer holds these bytes, and no newline among those it has searched. -/
structure Agrees (b : FrameBuffer) (held : List UInt8) : Prop where
  held : b.pending = held
  searched : 10 ∉ b.searched

theorem Agrees.unsearched (held : List UInt8) : Agrees { unsearched := held } held where
  held := rfl
  searched := List.not_mem_nil

theorem Agrees.pendingLength {b : FrameBuffer} {held : List UInt8} (agrees : Agrees b held) :
    b.pendingLength = held.length := by
  rw [← agrees.held]
  simp [FrameBuffer.pendingLength, pending]

/-- A search from the start of what is held gives one answer and leaves the same bytes. -/
theorem takeFrame_afresh (held : List UInt8) :
    (takeFrame [] held).1 = (afresh held).1 ∧ Agrees (takeFrame [] held).2 (afresh held).2 := by
  induction size : held.length using Nat.strongRecOn generalizing held with
  | ind n ih =>
    by_cases newline : 10 ∈ held
    · obtain ⟨line, rest, rfl, free⟩ := List.eq_append_cons_of_mem newline
      rw [takeFrame_line free, afresh_line free]
      by_cases long : greatestFrame < (withoutReturn line).length
      · rw [if_pos long, if_pos long]
        exact ⟨rfl, .unsearched rest⟩
      · rw [if_neg long, if_neg long]
        by_cases blank : isBlank (withoutReturn line) = true
        · have shorter : rest.length < n := by
            rw [← size, List.length_append, List.length_cons]
            omega
          rw [if_pos blank, if_pos blank]
          exact ih rest.length shorter rest rfl
        · rw [if_neg blank, if_neg blank]
          exact ⟨rfl, .unsearched rest⟩
    · rw [takeFrame_tail newline, afresh_tail newline]
      by_cases long : greatestFrame < held.length
      · rw [if_pos long, if_pos long]
        exact ⟨rfl, .unsearched []⟩
      · rw [if_neg long, if_neg long]
        refine ⟨rfl, ?_, ?_⟩
        · simp [pending]
        · rwa [List.mem_reverse]

theorem next_eq_afresh {b : FrameBuffer} (clean : 10 ∉ b.searched) :
    b.next = takeFrame [] b.pending := by
  have free : 10 ∉ b.searched.reverse := by rwa [List.mem_reverse]
  have moved := takeFrame_searched free [] b.unsearched
  rw [List.reverse_reverse, List.append_nil] at moved
  exact moved.symm

/-! ## Any number of calls -/

theorem Agrees.call {b : FrameBuffer} {held : List UInt8} (agrees : Agrees b held) (c : Call) :
    (b.call c).1 = (callAfresh held c).1 ∧ Agrees (b.call c).2 (callAfresh held c).2 := by
  cases c with
  | extend bytes =>
    refine ⟨rfl, ?_, agrees.searched⟩
    show b.searched.reverse ++ (b.unsearched ++ bytes) = held ++ bytes
    rw [← agrees.held, pending, List.append_assoc]
  | next =>
    have same := takeFrame_afresh b.pending
    rw [← next_eq_afresh agrees.searched, agrees.held] at same
    exact ⟨congrArg some same.1, same.2⟩

theorem Agrees.observe {b : FrameBuffer} {held : List UInt8} (agrees : Agrees b held)
    (calls : List Call) :
    observe FrameBuffer.call FrameBuffer.pendingLength b calls =
      observe callAfresh List.length held calls := by
  induction calls generalizing b held with
  | nil => rfl
  | cons c calls ih =>
    obtain ⟨answer, after⟩ := agrees.call c
    rw [FrameBuffer.observe, FrameBuffer.observe, answer, after.pendingLength, ih after]

/-- Calls on a buffer are answered as if it searched everything it holds from the start each time. -/
theorem calls_answered_afresh (calls : List Call) :
    observe call pendingLength {} calls = observe callAfresh List.length [] calls :=
  Agrees.observe (.unsearched []) calls

end DebugGateway.FrameBuffer
