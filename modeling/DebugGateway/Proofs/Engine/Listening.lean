import DebugGateway.Engine.Console
import DebugGateway.Proofs.Text.Passages

namespace DebugGateway.Console

open Text

/-! ## Prompts -/

def prompt : List Char := ['(', 'g', 'd', 'b', ')', ' ']

theorem stripPrompts_plain {line : List Char} (plain : ¬ prompt <+: line) : stripPrompts line = line := by
  unfold stripPrompts
  split
  · rename_i rest
    exact absurd ⟨rest, rfl⟩ plain
  · rfl

theorem not_mem_prompts {c : Char} (unprompted : c ∉ prompt) (count : Nat) :
    c ∉ (List.replicate count prompt).flatten := by
  intro member
  obtain ⟨piece, origin, inside⟩ := List.mem_flatten.mp member
  rw [List.eq_of_mem_replicate origin] at inside
  exact unprompted inside

theorem stripPrompts_shape (line : List Char) :
    ∃ count, line = (List.replicate count prompt).flatten ++ stripPrompts line ∧
      ¬ prompt <+: stripPrompts line := by
  fun_induction stripPrompts line with
  | case1 rest ih =>
    obtain ⟨count, shape, plain⟩ := ih
    refine ⟨count + 1, ?_, plain⟩
    rw [List.replicate_succ, List.flatten_cons, List.append_assoc, ← shape]
    rfl
  | case2 line other =>
    refine ⟨0, rfl, ?_⟩
    rintro ⟨rest, rfl⟩
    exact other rest rfl

theorem stripPrompts_within (line : List Char) : stripPrompts line <:+: line := by
  obtain ⟨count, shape, _⟩ := stripPrompts_shape line
  exact ⟨_, [], by rw [List.append_nil]; exact shape.symm⟩

/-! ## Lines -/

def transcript (lines : List String) : String :=
  String.ofList (lines.flatMap fun line => stripPrompts line.toList ++ ['\n'])

theorem push_transcript (output : Capture) (line : String) (lines : List String) :
    (output.pushLine (String.ofList (stripPrompts line.toList))).push (transcript lines) =
      output.push (transcript (line :: lines)) := by
  simp [Capture.push, Capture.pushLine, transcript, ← String.toList_inj]

theorem push_nothing (output : Capture) : output.push (transcript []) = output := by
  simp [Capture.push, transcript]

theorem transcript_append (first second : List String) :
    transcript (first ++ second) = transcript first ++ transcript second := by
  simp [transcript]

theorem transcript_plain {lines : List String} (plain : ∀ line ∈ lines, ¬ prompt <+: line.toList) :
    transcript lines = String.ofList (lines.flatMap fun line => line.toList ++ ['\n']) := by
  induction lines with
  | nil => rfl
  | cons line lines ih =>
    have later := ih fun more member => plain more (List.mem_cons_of_mem _ member)
    have first := stripPrompts_plain (plain line List.mem_cons_self)
    simp only [transcript, List.flatMap_cons, String.ofList_append, first] at later ⊢
    rw [later]

theorem listen_marked {mark : String} {lines : List String}
    (unmarked : ∀ line ∈ lines, bears mark line = false) {line : String} (marked : bears mark line = true)
    (output : Capture) (rest : List String) :
    listen mark output (lines ++ line :: rest) = .done (output.push (transcript lines)) rest := by
  induction lines generalizing output with
  | nil => rw [List.nil_append, listen, if_pos marked, push_nothing]
  | cons first lines ih =>
    have free := unmarked first List.mem_cons_self
    rw [List.cons_append, listen, free, if_neg Bool.false_ne_true, ih fun more member =>
      unmarked more (List.mem_cons_of_mem _ member), push_transcript]

/-! ## Markers -/

theorem not_mem_toDigits {c : Char} (other : ∀ n, Nat.digitChar n ≠ c) {base : Nat} (big : 1 < base)
    (n : Nat) : c ∉ Nat.toDigits base n := by
  induction n using Nat.strongRecOn with
  | ind n ih =>
    rw [Nat.toDigits_eq_if big]
    split
    · intro member
      exact other n (List.mem_singleton.mp member).symm
    · have less : n / base < n := Nat.div_lt_self (by omega) big
      intro member
      rcases List.mem_append.mp member with front | last
      · exact ih _ less front
      · exact other _ (List.mem_singleton.mp last).symm

theorem marker_toList (nonce call : Nat) : (marker nonce call).toList =
    "__dbgbridge_done_".toList ++ (List.replicate (8 - (Nat.toDigits 16 nonce).length) '0' ++
      Nat.toDigits 16 nonce) ++ "_".toList ++ Nat.toDigits 10 call ++ "__".toList := by
  have shape : marker nonce call =
      "__dbgbridge_done_" ++ hex8 nonce ++ "_" ++ toString call ++ "__" := rfl
  have hex : (hex8 nonce).toList = List.replicate (8 - (Nat.toDigits 16 nonce).length) '0' ++
      Nat.toDigits 16 nonce := String.toList_ofList
  have decimal : (toString call).toList = Nat.toDigits 10 call := Nat.toList_repr
  rw [shape, String.toList_append, String.toList_append, String.toList_append, String.toList_append,
    hex, decimal]

theorem marker_free {c : Char} (other : ∀ n, Nat.digitChar n ≠ c)
    (outside : c ∉ "__dbgbridge_done_".toList) (zero : c ≠ '0') (nonce call : Nat) :
    c ∉ (marker nonce call).toList := by
  have hex : c ∉ Nat.toDigits 16 nonce := not_mem_toDigits other (by decide) nonce
  have decimal : c ∉ Nat.toDigits 10 call := not_mem_toDigits other (by decide) call
  have bar : c ≠ '_' := by
    rintro rfl
    simp at outside
  rw [marker_toList]
  simp only [List.mem_append, not_or]
  refine ⟨⟨⟨⟨outside, ?_, hex⟩, ?_⟩, decimal⟩, ?_⟩
  · intro member
    exact zero (List.eq_of_mem_replicate member)
  · simp [bar]
  · simp [bar]

theorem marker_single (nonce call : Nat) : '\n' ∉ (marker nonce call).toList :=
  marker_free (fun _ => Nat.digitChar_ne '\n' (by decide)) (by simp) (by decide) nonce call

theorem marker_no_return (nonce call : Nat) : '\r' ∉ (marker nonce call).toList :=
  marker_free (fun _ => Nat.digitChar_ne '\r' (by decide)) (by simp) (by decide) nonce call

theorem marker_nonempty (nonce call : Nat) : (marker nonce call).toList ≠ [] := by
  simp [marker_toList]

theorem bears_iff (mark line : String) : bears mark line = true ↔ mark.toList <:+: line.toList :=
  occursIn_iff mark.toList line.toList

theorem bears_false_iff (mark line : String) :
    bears mark line = false ↔ ¬ mark.toList <:+: line.toList :=
  occursIn_false_iff mark.toList line.toList

/-- A marker that is in none of the lines is nowhere in what is kept of them. -/
theorem transcript_unmarked {nonce call : Nat} {lines : List String}
    (unmarked : ∀ line ∈ lines, bears (marker nonce call) line = false) :
    bears (marker nonce call) (transcript lines) = false := by
  rw [bears_false_iff]
  intro inside
  have kept : (transcript lines).toList =
      (lines.map fun line => stripPrompts line.toList).flatMap (· ++ ['\n']) := by
    simp [transcript, List.flatMap_map]
  rw [kept] at inside
  obtain ⟨stripped, member, found⟩ :=
    infix_lines (marker_nonempty nonce call) (marker_single nonce call) inside
  obtain ⟨line, origin, rfl⟩ := List.mem_map.mp member
  have free := (bears_false_iff _ _).mp (unmarked line origin)
  exact free (found.trans (stripPrompts_within line.toList))

end DebugGateway.Console
