import DebugGateway.Proofs.FrameBuffer.Reassembly
import DebugGateway.Proofs.Message.SingleLine

/-! Messages come out of a buffer as they were written. No byte of a line is a control byte, so the
newline at its end is the only one and no carriage return is there to be dropped; a line begins with a
brace, so none is blank. What is left is the law of reassembly. -/
namespace DebugGateway

open Json FrameBuffer

inductive Message where
  | request (r : Request)
  | response (r : Response)
  | notification (n : Notification)

namespace Message

def encode : Message → List UInt8
  | .request r => r.encode
  | .response r => r.encode
  | .notification n => n.encode

def toMembers : Message → Members
  | .request r => r.toMembers
  | .response r => r.toMembers
  | .notification n => n.toMembers

def line (m : Message) : List UInt8 := Text.toBytes (Value.object m.toMembers).compact

theorem encode_eq (m : Message) : m.encode = m.line ++ [10] := by
  cases m <;> rfl

theorem line_no_newline (m : Message) : 10 ∉ m.line :=
  (Value.plain_render _).no_control (by decide)

theorem line_no_return (m : Message) : 13 ∉ m.line :=
  (Value.plain_render _).no_control (by decide)

theorem line_opening (m : Message) : ∃ more, m.line = 123 :: more := by
  have bytes := Text.toBytes_ofList (Value.object m.toMembers).render
  rw [Value.render, List.cons_append, List.flatMap_cons] at bytes
  exact ⟨_, bytes⟩

/-! ## Frames -/

theorem withoutReturn_line (m : Message) : Text.withoutReturn m.line = m.line := by
  refine if_neg fun last => ?_
  exact m.line_no_return (List.mem_of_getLast? last)

theorem line_not_blank (m : Message) : isBlank m.line = false := by
  obtain ⟨more, opening⟩ := m.line_opening
  rw [isBlank, opening, List.all_cons]
  rfl

theorem flatMap_encode (messages : List Message) :
    messages.flatMap encode = messages.flatMap fun m => m.line ++ [10] :=
  congrArg (List.flatMap · messages) (funext encode_eq)

theorem framesOf_encode (messages : List Message) :
    framesOf (messages.flatMap encode) = messages.map line := by
  have unaltered : Text.withoutReturn ∘ line = line := funext withoutReturn_line
  rw [framesOf, flatMap_encode, Text.cutLines_flatMap line_no_newline, List.map_map, unaltered]
  refine List.filter_eq_self.mpr ?_
  intro frame member
  obtain ⟨m, _, rfl⟩ := List.mem_map.mp member
  rw [line_not_blank]
  rfl

theorem fits_encode {messages : List Message} (short : ∀ m ∈ messages, m.line.length ≤ greatestFrame) :
    Fits (messages.flatMap encode) := by
  rw [flatMap_encode]
  constructor
  · rw [Text.cutLines_flatMap line_no_newline]
    intro line member
    obtain ⟨m, inside, rfl⟩ := List.mem_map.mp member
    exact short m inside
  · rw [Text.cutLines_flatMap line_no_newline]
    exact Nat.zero_le _

theorem encode_single_line (m : Message) :
    m.encode.count 10 = 1 ∧ m.encode.getLast? = some 10 ∧ 13 ∉ m.encode := by
  refine ⟨?_, ?_, ?_⟩
  · rw [encode_eq, List.count_append, List.count_eq_zero.mpr m.line_no_newline]
    rfl
  · rw [encode_eq, List.getLast?_concat]
  · rw [encode_eq]
    intro member
    rcases List.mem_append.mp member with inside | last
    · exact m.line_no_return inside
    · exact absurd last (by decide)

/-! ## Streams of messages -/

theorem fed_asks (n : Nat) : fed (List.replicate n .next) = [] := by
  induction n with
  | zero => rfl
  | succ n ih => exact ih

theorem last_answer {b : FrameBuffer} {calls : List Call} {answer : Answer}
    (last : (run b (calls ++ [.next])).1.getLast? = some answer) : (run b calls).2.next.1 = answer := by
  rw [run_append] at last
  simpa [run] using last

/-- Once there is no frame left after the last byte, the lines have been given and nothing is held. -/
theorem settled_lines {messages : List Message} {before after : List Call}
    (came : fed (before ++ .next :: after) = messages.flatMap encode)
    (short : ∀ m ∈ messages, m.line.length ≤ greatestFrame) (silent : fed after = [])
    (dry : (run {} before).2.next.1 = .ok none) :
    given (run {} (before ++ .next :: after)).1 = messages.map line ∧
      (run {} (before ++ .next :: after)).2.pendingLength = 0 := by
  have ended : (Text.cutLines (messages.flatMap encode)).2 = [] := by
    rw [flatMap_encode, Text.cutLines_flatMap line_no_newline]
  obtain ⟨all, held⟩ := run_settled (came ▸ fits_encode short) silent dry
  rw [came, framesOf_encode] at all
  rw [came, ended] at held
  exact ⟨all, held⟩

/-- Each message is one line, and a buffer that is given the lines in any chunks gives them back: none
is refused, left out, joined to another or altered, and nothing stays behind. It is enough to ask once
more than there are messages missing. -/
theorem encode_reassembles :
    (∀ m : Message, m.encode.count 10 = 1 ∧ m.encode.getLast? = some 10 ∧ 13 ∉ m.encode) ∧
    ∀ (messages : List Message) (calls : List Call), fed calls = messages.flatMap encode →
      (∀ m ∈ messages, m.encode.dropLast.length ≤ greatestFrame) →
        (∀ a ∈ (run {} calls).1, ∃ found, a = .ok found) ∧
        (∀ before after, calls = before ++ .next :: after → fed after = [] →
          (run {} before).2.next.1 = .ok none →
            given (run {} calls).1 = messages.map (·.encode.dropLast) ∧
            (run {} calls).2.pendingLength = 0) ∧
        let drained := calls ++
          List.replicate (messages.length - (given (run {} calls).1).length + 1) .next
        (run {} drained).1.getLast? = some (.ok none) ∧
          given (run {} drained).1 = messages.map (·.encode.dropLast) ∧
          (run {} drained).2.pendingLength = 0 := by
  have bare (m : Message) : m.encode.dropLast = m.line := by rw [encode_eq, List.dropLast_concat]
  refine ⟨encode_single_line, ?_⟩
  intro messages calls came short
  simp only [bare] at short ⊢
  have fits : Fits (fed calls) := came ▸ fits_encode short
  obtain ⟨_, accepted, _⟩ := run_consumes calls {} (by simp) fits
  have last := run_exhausted calls fits
  rw [came, framesOf_encode, List.length_map] at last
  refine ⟨accepted, ?_, last, ?_⟩
  · intro before after order silent dry
    subst order
    exact settled_lines came short silent dry
  · rw [List.replicate_succ', ← List.append_assoc] at last ⊢
    refine settled_lines ?_ short rfl (last_answer last)
    rw [fed_append, fed_append, fed_asks, List.append_nil, came]
    exact List.append_nil _

def lineBreaks : List Message :=
  [.request (.ofCommand 1 "k\r\n" []), .notification ⟨"\n", .list [.text "\r"]⟩]

/-- Their stream in two chunks, the second of which begins inside an escape. -/
def lineBreaksChunks : List Call :=
  let stream := lineBreaks.flatMap encode
  [.extend (stream.take 38), .next, .extend (stream.drop 38), .next, .next, .next]

theorem lineBreaks_reassemble :
    fed lineBreaksChunks = lineBreaks.flatMap encode ∧
    (∀ m ∈ lineBreaks, m.encode.dropLast.length ≤ greatestFrame) ∧
    given (run {} lineBreaksChunks).1 = lineBreaks.map (·.encode.dropLast) ∧
    (run {} lineBreaksChunks).2.pendingLength = 0 := by
  have came : fed lineBreaksChunks = lineBreaks.flatMap encode := by
    simp [lineBreaksChunks, fed]
  have short : ∀ m ∈ lineBreaks, m.encode.dropLast.length ≤ greatestFrame := by decide +kernel
  have all := (encode_reassembles.2 lineBreaks lineBreaksChunks came short).2.1
    (lineBreaksChunks.take 5) [] rfl rfl rfl
  exact ⟨came, short, all⟩

end Message

end DebugGateway
