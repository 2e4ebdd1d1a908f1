import DebugGateway.Proofs.Engine.Listening
import DebugGateway.Rehearsal.Debugger

/-! What a call captures of all that its command prints. Every whole line is kept. What follows the last
newline comes on the line of the marker, and is lost with it. -/
namespace DebugGateway

namespace Text

def unreturned : List Char → List Char
  | '\r' :: '\n' :: rest => '\n' :: unreturned rest
  | c :: rest => c :: unreturned rest
  | [] => []

theorem unreturned_tail {tail : List Char} (single : '\n' ∉ tail) : unreturned tail = tail := by
  fun_induction unreturned tail with
  | case1 rest => simp at single
  | case2 c rest other ih => rw [ih fun member => single (List.mem_cons_of_mem _ member)]
  | case3 => rfl

theorem unreturned_line {line : List Char} (single : '\n' ∉ line) (rest : List Char) :
    unreturned (line ++ '\n' :: rest) = dropReturn line ++ '\n' :: unreturned rest := by
  induction line with
  | nil => simp [unreturned, dropReturn]
  | cons c line ih =>
    have later := ih fun member => single (List.mem_cons_of_mem _ member)
    cases line with
    | nil =>
      by_cases feed : c = '\r'
      · simp [unreturned, dropReturn, feed]
      · simp [unreturned, dropReturn, feed]
    | cons d line =>
      have next : d ≠ '\n' := fun same => single (by simp [same])
      simp only [List.cons_append] at later ⊢
      rw [unreturned, later]
      · simp only [dropReturn, List.getLast?_cons_cons]
        split <;> simp
      · simp [next]

theorem unreturned_lines {lines : List (List Char)} (single : ∀ line ∈ lines, '\n' ∉ line)
    {tail : List Char} (rest : '\n' ∉ tail) :
    unreturned (lines.flatMap (· ++ ['\n']) ++ tail) =
      lines.flatMap (dropReturn · ++ ['\n']) ++ tail := by
  induction lines with
  | nil => exact unreturned_tail rest
  | cons line lines ih =>
    have later := ih fun more member => single more (List.mem_cons_of_mem _ member)
    have first := unreturned_line (single line List.mem_cons_self)
      (lines.flatMap (· ++ ['\n']) ++ tail)
    rw [later] at first
    simpa using first

end Text

namespace Rehearsal.Console

open DebugGateway.Console (prompt bears bears_iff bears_false_iff marker marker_single marker_no_return
  marker_nonempty transcript transcript_plain listen_marked)
open Text (toBytes occursIn unreturned dropReturn lineBytes)

/-- A session in which nothing is left of earlier calls, and a command for which the program prints a
text before it prints the marker; no prompt and no marker stands in the text. -/
structure Speaks (c : Console) (command text : String) : Prop where
  hearing : c.deaf = false
  clear : c.unread = []
  prints : c.process.react command = .prints (toBytes text) ∨
    c.process.react command = .spins (toBytes text)
  answers : c.process.react ("echo " ++ marker trialNonce c.calls ++ "\\n") =
    .prints (toBytes (marker trialNonce c.calls ++ "\n"))
  unprompted : occursIn prompt text.toList = false
  unmarked : bears (marker trialNonce c.calls) text = false

theorem heard_lineBytes {lines : List String} (single : ∀ line ∈ lines, '\n' ∉ line.toList) :
    heard (lineBytes lines) false =
      ((lines.map fun line => String.ofList (dropReturn line.toList), false), []) := by
  have cut := Text.cutLines_lineBytes single (List.not_mem_nil : 10 ∉ ([] : List UInt8))
  rw [List.append_nil] at cut
  have dropped : (lines.map toBytes).map Text.withoutReturn =
      (lines.map fun line => String.ofList (dropReturn line.toList)).map toBytes := by
    rw [List.map_map, List.map_map]
    apply List.map_congr_left
    intro line _
    have same := Text.withoutReturn_toBytes line.toList
    rwa [String.ofList_toList] at same
  simp only [heard, cut, dropped, Text.readable_toBytes, Bool.false_and, Bool.false_eq_true, if_false]

theorem stream_lines (lines : List (List Char)) (tail mark : List Char) :
    toBytes (String.ofList (lines.flatMap (· ++ ['\n']) ++ tail)) ++
        toBytes (String.ofList mark ++ "\n") =
      lineBytes ((lines ++ [tail ++ mark]).map String.ofList) := by
  have newline : "\n".toList = ['\n'] := by simp
  simp [lineBytes, Text.toBytes_eq, newline, Text.utf8EncodeChar_newline, List.flatMap_assoc,
    List.flatMap_map]

theorem conclude_marked (c : Console) {mark : String} {lines : List String}
    (unmarked : ∀ line ∈ lines, bears mark line = false) {line : String} (marked : bears mark line = true)
    {stream : List UInt8} (spoken : heard stream false = ((lines ++ [line], false), [])) (spins : Bool) :
    (c.conclude mark spins stream none).finish = some (.returned (transcript lines) (.ok ())) := by
  have listened := listen_marked unmarked marked {} []
  have text : (({} : Capture).push (transcript lines)).text = transcript lines := by
    simp [Capture.push]
  simp only [conclude, Option.isSome_none, spoken, listened, text]

/-- The course of a call whose command and marker are printed is set by the bytes alone. -/
theorem Speaks.conclude {c : Console} {command text : String} (speaks : Speaks c command text) :
    ∃ spins, c.run command = c.conclude (marker trialNonce c.calls) spins
      (toBytes text ++ toBytes (marker trialNonce c.calls ++ "\n")) none := by
  obtain ⟨hearing, clear, prints, answers, _, _⟩ := speaks
  rcases prints with prints | spins
  · refine ⟨false, ?_⟩
    simp only [run, hearing, Bool.false_eq_true, if_false, prints, answers, clear, List.nil_append]
  · refine ⟨true, ?_⟩
    simp only [run, hearing, Bool.false_eq_true, if_false, spins, answers, clear, List.nil_append]

theorem Speaks.apart {c : Console} {command text : String} (speaks : Speaks c command text)
    {lines : List (List Char)} {tail : List Char}
    (shape : text.toList = lines.flatMap (· ++ ['\n']) ++ tail) :
    ∀ line ∈ lines.map fun line => String.ofList (dropReturn line),
      bears (marker trialNonce c.calls) line = false ∧ ¬ prompt <+: line.toList := by
  intro line member
  obtain ⟨chars, origin, rfl⟩ := List.mem_map.mp member
  have inside : dropReturn chars <:+: text.toList := by
    rw [shape]
    exact (Text.dropReturn_begins chars).isInfix.trans (Text.line_within origin tail)
  rw [bears_false_iff, String.toList_ofList]
  refine ⟨fun found => ?_, fun begins => ?_⟩
  · exact (bears_false_iff _ _).mp speaks.unmarked (found.trans inside)
  · exact (Text.occursIn_false_iff _ _).mp speaks.unprompted (begins.isInfix.trans inside)

theorem openLine_marked (tail : List Char) (nonce call : Nat) :
    bears (marker nonce call) (String.ofList (dropReturn (tail ++ (marker nonce call).toList))) = true := by
  have last := Text.dropReturn_append tail (marker_nonempty nonce call) (marker_no_return nonce call)
  rw [bears_iff, String.toList_ofList, last]
  exact (List.suffix_append tail _).isInfix

theorem heard_stream {text : String} {lines : List (List Char)} {tail : List Char}
    (shape : text.toList = lines.flatMap (· ++ ['\n']) ++ tail) (single : ∀ line ∈ lines, '\n' ∉ line)
    (rest : '\n' ∉ tail) (nonce call : Nat) :
    heard (toBytes text ++ toBytes (marker nonce call ++ "\n")) false =
      (((lines.map fun line => String.ofList (dropReturn line)) ++
        [String.ofList (dropReturn (tail ++ (marker nonce call).toList))], false), []) := by
  have all : ∀ line ∈ (lines ++ [tail ++ (marker nonce call).toList]).map String.ofList,
      '\n' ∉ line.toList := by
    intro line member
    obtain ⟨chars, origin, rfl⟩ := List.mem_map.mp member
    rw [String.toList_ofList]
    rcases List.mem_append.mp origin with earlier | last
    · exact single chars earlier
    · rw [List.mem_singleton.mp last]
      simp [rest, marker_single]
  have spoken := heard_lineBytes all
  rw [← stream_lines, ← shape, String.ofList_toList, String.ofList_toList, List.map_map,
    List.map_append] at spoken
  simpa only [Function.comp_def, String.toList_ofList, List.map_cons, List.map_nil] using spoken

theorem Speaks.finish {c : Console} {command text : String} (speaks : Speaks c command text)
    {lines : List (List Char)} {tail : List Char}
    (shape : text.toList = lines.flatMap (· ++ ['\n']) ++ tail) (single : ∀ line ∈ lines, '\n' ∉ line)
    (rest : '\n' ∉ tail) :
    (c.run command).finish =
      some (.returned (String.ofList (lines.flatMap (dropReturn · ++ ['\n']))) (.ok ())) := by
  obtain ⟨spins, course⟩ := speaks.conclude
  have apart := speaks.apart shape
  have spoken := heard_stream shape single rest trialNonce c.calls
  rw [course, conclude_marked c (fun line member => (apart line member).1) (openLine_marked _ _ _) spoken,
    transcript_plain fun line member => (apart line member).2, List.flatMap_map]
  simp only [String.toList_ofList]

/-- A call captures what its command prints up to the last newline and, once each newline stands alone,
nothing else. -/
theorem whole_lines_captured {c : Console} {command text : String} (speaks : Speaks c command text) :
    ∃ kept lost : List Char, unreturned text.toList = kept ++ lost ∧
      (kept = [] ∨ kept.getLast? = some '\n') ∧ '\n' ∉ lost ∧
      (c.run command).finish = some (.returned (String.ofList kept) (.ok ())) := by
  obtain ⟨lines, tail, shape, single, rest⟩ := Text.exists_lines text.toList
  refine ⟨lines.flatMap (dropReturn · ++ ['\n']), tail, ?_, ?_, rest, speaks.finish shape single rest⟩
  · rw [shape]
    exact Text.unreturned_lines single rest
  · rcases List.eq_nil_or_concat lines with rfl | ⟨front, line, rfl⟩
    · exact .inl rfl
    · right
      simp

def fresh : Console := { program := "sh", process := { react := standIn } }

theorem openEnd_speaks : Speaks fresh "fmt alpha\\r\\nbeta" "alpha\r\nbeta" where
  hearing := rfl
  clear := rfl
  prints := .inl rfl
  answers := rfl
  unprompted := rfl
  unmarked := rfl

theorem openEnd_captured : Speaks fresh "fmt alpha\\r\\nbeta" "alpha\r\nbeta" ∧
    ∃ kept lost : List Char, "alpha\nbeta".toList = kept ++ lost ∧
      (kept = [] ∨ kept.getLast? = some '\n') ∧ '\n' ∉ lost ∧
      (fresh.run "fmt alpha\\r\\nbeta").finish = some (.returned (String.ofList kept) (.ok ())) :=
  ⟨openEnd_speaks, whole_lines_captured openEnd_speaks⟩

theorem openEnd_lost : ¬ ∀ (c : Console) (command text : String), Speaks c command text →
    (c.run command).finish = some (.returned (String.ofList (unreturned text.toList)) (.ok ())) := by
  intro complete
  have whole := complete fresh "fmt no newline" "no newline" ⟨rfl, rfl, .inl rfl, rfl, rfl, rfl⟩
  have captured : (fresh.run "fmt no newline").finish = some (.returned "" (.ok ())) := rfl
  injection captured.symm.trans whole with same
  injection same with output
  exact absurd output (by decide)

end Rehearsal.Console

end DebugGateway
