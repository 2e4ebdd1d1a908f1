import DebugGateway.Engine.Console
import DebugGateway.Proofs.Engine.Listening

/-! The marker of one call inside a line that brings the marker of another one. Two bars and a letter begin
a marker and stand nowhere else in it, so one marker can lie in another only from its first character on;
then their numbers end at the same bar. Nothing bounds the number of digits. -/
namespace DebugGateway

namespace Text

/-- What begins with a character that the front does not hold stands behind the front. -/
theorem infix_behind {c : Char} {needle front s : List Char} (apart : c ∉ front)
    (inside : c :: needle <:+: front ++ s) : c :: needle <:+: s := by
  induction front with
  | nil => exact inside
  | cons d front ih =>
    rw [List.mem_cons, not_or] at apart
    rcases List.infix_cons_iff.mp inside with here | later
    · exact absurd (List.cons_prefix_cons.mp here).1 apart.1
    · exact ih apart.2 later

/-- Two texts that end at their first bar are one, if the one begins the other. -/
theorem eq_of_prefix_bar {s t x y : List Char} (left : '_' ∉ s) (right : '_' ∉ t)
    (begins : s ++ '_' :: x <+: t ++ '_' :: y) : s = t := by
  induction s generalizing t with
  | nil =>
    cases t with
    | nil => rfl
    | cons d t =>
      have same := (List.cons_prefix_cons.mp begins).1
      exact absurd (same ▸ List.mem_cons_self) right
  | cons c s ih =>
    rw [List.mem_cons, not_or] at left
    cases t with
    | nil =>
      have same := (List.cons_prefix_cons.mp begins).1
      exact absurd same.symm left.1
    | cons d t =>
      rw [List.mem_cons, not_or] at right
      obtain ⟨rfl, later⟩ := List.cons_prefix_cons.mp begins
      rw [ih left.2 right.2 later]

end Text

namespace Console

open Text

/-! ## Two bars and a letter -/

def opening : List Char := ['_', '_', 'd']

theorem opening_behind {word rest : List Char} (apart : '_' ∉ word) (lone : rest.head? ≠ some '_')
    (inside : opening <:+: word ++ '_' :: rest) : opening <:+: rest := by
  rcases List.infix_cons_iff.mp (infix_behind apart inside) with here | later
  · obtain ⟨more, same⟩ := (List.cons_prefix_cons.mp here).2
    rw [← same] at lone
    exact absurd rfl lone
  · exact later

theorem lone_word {word : List Char} (full : word ≠ []) (apart : '_' ∉ word) (rest : List Char) :
    (word ++ rest).head? ≠ some '_' := by
  obtain ⟨c, more, rfl⟩ := List.exists_cons_of_ne_nil full
  intro bar
  cases bar
  exact apart List.mem_cons_self

theorem bar_not_mem_toDigits {base : Nat} (big : 1 < base) (n : Nat) : '_' ∉ Nat.toDigits base n :=
  not_mem_toDigits (fun _ => Nat.digitChar_ne '_' (by decide)) big n

def behindBars (hex decimal : List Char) : List Char :=
  "dbgbridge".toList ++ '_' :: ("done".toList ++ '_' :: (hex ++ '_' :: (decimal ++ ['_', '_'])))

theorem opening_once {hex decimal : List Char} (filled : hex ≠ []) (left : '_' ∉ hex)
    (some : decimal ≠ []) (right : '_' ∉ decimal) (digits : ∀ c ∈ decimal, c.isDigit = true) :
    ¬ opening <:+: '_' :: behindBars hex decimal := by
  intro inside
  have first : opening <:+: behindBars hex decimal :=
    @opening_behind [] _ List.not_mem_nil (lone_word (by decide) (by decide) _) inside
  unfold behindBars at first
  have second := opening_behind (by decide) (lone_word (by decide) (by decide) _) first
  have third := opening_behind (by decide) (lone_word filled left _) second
  have last := opening_behind left (lone_word some right _) third
  have member : 'd' ∈ decimal ++ ['_', '_'] := last.subset (by simp [opening])
  rcases List.mem_append.mp member with digit | bar
  · exact absurd (digits 'd' digit) (by decide)
  · simp at bar

/-! ## Markers -/

def hexDigits (nonce : Nat) : List Char :=
  List.replicate (8 - (Nat.toDigits 16 nonce).length) '0' ++ Nat.toDigits 16 nonce

theorem hexDigits_free (nonce : Nat) : '_' ∉ hexDigits nonce := by
  intro member
  rcases List.mem_append.mp member with zero | digit
  · exact absurd (List.eq_of_mem_replicate zero) (by decide)
  · exact bar_not_mem_toDigits (by decide) nonce digit

theorem hexDigits_filled (nonce : Nat) : hexDigits nonce ≠ [] :=
  List.append_ne_nil_of_right_ne_nil _ Nat.toDigits_ne_nil

theorem marker_shape (nonce call : Nat) : (marker nonce call).toList =
    '_' :: '_' :: behindBars (hexDigits nonce) (Nat.toDigits 10 call) := by
  rw [marker_toList, ← hexDigits, show "_".toList = ['_'] by decide,
    show "__".toList = ['_', '_'] by decide, show "__dbgbridge_done_".toList =
      '_' :: '_' :: ("dbgbridge".toList ++ '_' :: ("done".toList ++ ['_'])) by decide]
  unfold behindBars
  simp only [List.append_assoc, List.cons_append, List.nil_append]

/-- Of two markers of a session the one begins the other only if they are one. -/
theorem eq_of_marker_prefix {nonce i j : Nat}
    (begins : (marker nonce i).toList <+: (marker nonce j).toList) : i = j := by
  have shape (call : Nat) : (marker nonce call).toList =
      ("__dbgbridge_done_".toList ++ hexDigits nonce ++ "_".toList) ++
        (Nat.toDigits 10 call ++ '_' :: ['_']) := by
    rw [marker_toList]
    simp [hexDigits]
  rw [shape, shape, List.prefix_append_right_inj] at begins
  have same := eq_of_prefix_bar (bar_not_mem_toDigits (by decide) i)
    (bar_not_mem_toDigits (by decide) j) begins
  calc
    i = Nat.ofDigitChars 10 (Nat.toDigits 10 i) 0 :=
      (Nat.ofDigitChars_toDigits (by decide) (by decide)).symm
    _ = Nat.ofDigitChars 10 (Nat.toDigits 10 j) 0 := by rw [same]
    _ = j := Nat.ofDigitChars_toDigits (by decide) (by decide)

theorem eq_of_marker_infix {nonce i j : Nat}
    (inside : (marker nonce i).toList <:+: (marker nonce j).toList) : i = j := by
  have begins : opening <+: (marker nonce i).toList := by
    rw [marker_shape]
    exact ⟨_, rfl⟩
  have only : ¬ opening <:+: '_' :: behindBars (hexDigits nonce) (Nat.toDigits 10 j) :=
    opening_once (hexDigits_filled nonce) (hexDigits_free nonce) Nat.toDigits_ne_nil
      (bar_not_mem_toDigits (by decide) j) fun _ => Nat.isDigit_of_mem_toDigits (by decide) (by decide)
  rw [marker_shape nonce j] at inside
  rcases List.infix_cons_iff.mp inside with here | later
  · rw [← marker_shape] at here
    exact eq_of_marker_prefix here
  · exact absurd (begins.isInfix.trans later) only

/-! ## Lines that bring a marker -/

def echoed (nonce call prompts : Nat) : String :=
  String.ofList ((List.replicate prompts prompt).flatten ++ (marker nonce call).toList)

theorem bears_echoed_iff (nonce i j prompts : Nat) :
    bears (marker nonce i) (echoed nonce j prompts) = true ↔ i = j := by
  rw [bears_iff, echoed, String.toList_ofList]
  constructor
  · intro inside
    rw [marker_shape nonce i] at inside
    have behind := infix_behind (not_mem_prompts (by decide) prompts) inside
    rw [← marker_shape] at behind
    exact eq_of_marker_infix behind
  · rintro rfl
    exact (List.suffix_append _ _).isInfix

theorem stripPrompts_prompt (rest : List Char) : stripPrompts (prompt ++ rest) = stripPrompts rest := by
  simp [prompt, stripPrompts]

theorem stripPrompts_echoed (nonce call prompts : Nat) :
    stripPrompts (echoed nonce call prompts).toList = (marker nonce call).toList := by
  rw [echoed, String.toList_ofList]
  induction prompts with
  | zero =>
    rw [List.replicate_zero, List.flatten_nil, List.nil_append]
    apply stripPrompts_plain
    rw [marker_shape]
    intro begins
    exact absurd (List.cons_prefix_cons.mp begins).1 (by decide)
  | succ prompts ih =>
    rw [List.replicate_succ, List.flatten_cons, List.append_assoc, stripPrompts_prompt, ih]

/-- The marker of a call is not in a line of prompts and another call's marker. Such a line, if it comes
late, is kept like any other, and the call that hears it goes on. -/
theorem late_marker_unheeded (nonce : Nat) {i j : Nat} (other : i ≠ j) (prompts : Nat) :
    ¬ (marker nonce i).toList <:+: (echoed nonce j prompts).toList ∧
    ∀ (reply : Entry → List UInt8) (s : Conversation) (captured : Capture) (lines : List String),
      s.nonce = nonce → s.turn = some { call := i, unwritten := [], captured } →
      s.wire.lines = echoed nonce j prompts :: lines →
        s.step reply .hear = some { s with
          turn := some { call := i, unwritten := [], captured := captured.pushLine (marker nonce j) }
          wire := { s.wire with lines } } := by
  have free : bears (marker nonce i) (echoed nonce j prompts) = false := by
    rw [← Bool.not_eq_true, bears_echoed_iff]
    exact other
  refine ⟨(bears_false_iff _ _).mp free, ?_⟩
  intro reply s captured lines session turn waiting
  have heard : listen (marker s.nonce i) captured [echoed nonce j prompts] =
      .waiting (captured.pushLine (marker nonce j)) := by
    rw [session, listen, if_neg (by simp [free]), listen, stripPrompts_echoed, String.ofList_toList]
  simp only [Conversation.step, turn, waiting, heard]

def overheard : Conversation where
  program := "sh"
  nonce := 0xdbdbdbdb
  turn := some { call := 1, unwritten := [] }
  wire := { lines := [echoed 0xdbdbdbdb 11 2, echoed 0xdbdbdbdb 1 0] }

theorem overheard_unheeded :
    ¬ (marker 0xdbdbdbdb 1).toList <:+: (echoed 0xdbdbdbdb 11 2).toList ∧
    overheard.step (fun _ => []) .hear = some { overheard with
      turn := some { call := 1, unwritten := [], captured := ⟨"__dbgbridge_done_dbdbdbdb_11__\n"⟩ }
      wire := { lines := [echoed 0xdbdbdbdb 1 0] } } := by
  obtain ⟨absent, goes⟩ := late_marker_unheeded 0xdbdbdbdb (i := 1) (j := 11) (by decide) 2
  refine ⟨absent, ?_⟩
  rw [goes (fun _ => []) overheard {} [echoed 0xdbdbdbdb 1 0] rfl rfl rfl]
  rfl

end Console

end DebugGateway
