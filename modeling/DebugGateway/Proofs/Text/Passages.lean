import DebugGateway.Proofs.Text.Bytes
import DebugGateway.Text

namespace DebugGateway.Text

theorem occursIn_iff (needle s : List Char) : occursIn needle s = true ↔ needle <:+: s := by
  induction s with
  | nil => simp [occursIn]
  | cons c s ih => simp [occursIn, ih, List.infix_cons_iff]

theorem occursIn_false_iff (needle s : List Char) : occursIn needle s = false ↔ ¬ needle <:+: s := by
  rw [← occursIn_iff, Bool.not_eq_true]

theorem infix_beside {c : Char} {needle s t : List Char} (apart : c ∉ needle)
    (inside : needle <:+: s ++ c :: t) : needle <:+: s ∨ needle <:+: t := by
  obtain ⟨before, after, same⟩ := inside
  rcases List.append_eq_append_iff.mp same with ⟨more, rfl, _⟩ | ⟨more, cut, rest⟩
  · exact .inl ⟨before, more, rfl⟩
  · cases more with
    | nil =>
      left
      rw [List.append_nil] at cut
      exact ⟨before, [], by rw [cut, List.append_nil]⟩
    | cons d more =>
      obtain ⟨rfl, rfl⟩ := List.cons.inj rest
      rcases List.append_eq_append_iff.mp cut with ⟨front, _, split⟩ | ⟨front, _, split⟩
      · exact absurd (by simp [split]) apart
      · cases front with
        | nil =>
          rw [List.nil_append] at split
          exact absurd (by simp [← split]) apart
        | cons d front =>
          obtain ⟨-, rfl⟩ := List.cons.inj split
          exact .inr ⟨front, after, rfl⟩

theorem infix_lines {needle : List Char} (nonempty : needle ≠ []) (single : '\n' ∉ needle)
    {lines : List (List Char)} (inside : needle <:+: lines.flatMap (· ++ ['\n'])) :
    ∃ line ∈ lines, needle <:+: line := by
  induction lines with
  | nil => exact absurd (List.eq_nil_of_infix_nil inside) nonempty
  | cons line lines ih =>
    rw [List.flatMap_cons, List.append_assoc] at inside
    rcases infix_beside single inside with first | later
    · exact ⟨line, List.mem_cons_self, first⟩
    · obtain ⟨other, member, found⟩ := ih later
      exact ⟨other, List.mem_cons_of_mem _ member, found⟩

theorem exists_lines (s : List Char) : ∃ (lines : List (List Char)) (tail : List Char),
    s = lines.flatMap (· ++ ['\n']) ++ tail ∧ (∀ line ∈ lines, '\n' ∉ line) ∧ '\n' ∉ tail := by
  induction s with
  | nil => exact ⟨[], [], rfl, nofun, nofun⟩
  | cons c s ih =>
    obtain ⟨lines, tail, rfl, single, rest⟩ := ih
    by_cases newline : c = '\n'
    · refine ⟨[] :: lines, tail, by simp [newline], ?_, rest⟩
      rintro line (_ | ⟨_, member⟩)
      · simp
      · exact single line member
    · cases lines with
      | nil =>
        refine ⟨[], c :: tail, by simp, nofun, ?_⟩
        simp [rest, Ne.symm newline]
      | cons line lines =>
        refine ⟨(c :: line) :: lines, tail, by simp, ?_, rest⟩
        rintro other (_ | ⟨_, member⟩)
        · simp [single line, Ne.symm newline]
        · exact single other (List.mem_cons_of_mem _ member)

theorem line_within {lines : List (List Char)} {line : List Char} (member : line ∈ lines)
    (tail : List Char) : line <:+: lines.flatMap (· ++ ['\n']) ++ tail := by
  have inside : line ++ ['\n'] <:+: lines.flatMap (· ++ ['\n']) := by
    rw [List.flatMap_def]
    exact List.infix_of_mem_flatten (List.mem_map_of_mem member)
  exact (List.prefix_append line _).isInfix.trans (inside.trans (List.prefix_append _ _).isInfix)

/-! ## Lines of bytes -/

theorem toBytes_eq (s : String) : toBytes s = s.toList.flatMap String.utf8EncodeChar := by
  rw [← toBytes_ofList, String.ofList_toList]

theorem toBytes_append (s t : String) : toBytes (s ++ t) = toBytes s ++ toBytes t := by
  simp [toBytes_eq]

theorem char_of_low_byte {s : String} {b : UInt8} (member : b ∈ toBytes s) (low : b.toNat < 128) :
    Char.ofNat b.toNat ∈ s.toList := by
  rw [toBytes_eq] at member
  obtain ⟨c, inside, encoded⟩ := List.mem_flatMap.mp member
  rw [← utf8EncodeChar_low encoded low, Char.ofNat_toNat]
  exact inside

theorem utf8EncodeChar_newline : String.utf8EncodeChar '\n' = [10] := by decide

theorem newline_free {s : String} (single : '\n' ∉ s.toList) : 10 ∉ toBytes s :=
  fun member => single (char_of_low_byte member (by decide))

def lineBytes (lines : List String) : List UInt8 := lines.flatMap fun line => toBytes line ++ [10]

theorem lineBytes_cons (line : String) (lines : List String) :
    lineBytes (line :: lines) = toBytes line ++ 10 :: lineBytes lines := by
  simp [lineBytes]

theorem lineBytes_append (first second : List String) :
    lineBytes (first ++ second) = lineBytes first ++ lineBytes second :=
  List.flatMap_append

theorem lineBytes_eq_nil {lines : List String} (nothing : 10 ∉ lineBytes lines) : lines = [] := by
  cases lines with
  | nil => rfl
  | cons line lines => simp [lineBytes_cons] at nothing

theorem cutLines_lineBytes {lines : List String} (single : ∀ line ∈ lines, '\n' ∉ line.toList)
    {tail : List UInt8} (rest : 10 ∉ tail) :
    cutLines (lineBytes lines ++ tail) = (lines.map toBytes, tail) := by
  induction lines with
  | nil => exact cutLines_of_no_newline rest
  | cons line lines ih =>
    have free := newline_free (single line List.mem_cons_self)
    have cut := cutLines_line free (lineBytes lines ++ tail)
    rw [ih fun more member => single more (List.mem_cons_of_mem _ member)] at cut
    rw [lineBytes_cons, List.append_assoc, List.cons_append]
    exact cut

theorem newline_free_lines (s : List UInt8) : ∀ line ∈ (cutLines s).1, 10 ∉ line := by
  induction s with
  | nil => exact nofun
  | cons b s ih =>
    rw [cutLines_cons]
    by_cases newline : b = 10
    · simpa [takeIntoLines, newline] using ih
    · cases lines : (cutLines s).1 with
      | nil => simp [takeIntoLines, newline, lines]
      | cons line more =>
        have free := ih line (by simp [lines])
        have later : ∀ other ∈ more, 10 ∉ other := fun other member => ih other (by simp [lines, member])
        simp [takeIntoLines, newline, lines, free, Ne.symm newline]
        exact later

theorem cutLines_first {s line : List UInt8} {lines : List (List UInt8)} {tail : List UInt8}
    (cut : cutLines s = (line :: lines, tail)) :
    10 ∉ line ∧ s = line ++ 10 :: s.drop (line.length + 1) := by
  have free := newline_free_lines s line (by simp [cut])
  have joined := cutLines_joined s
  rw [cut] at joined
  refine ⟨free, ?_⟩
  rw [← joined]
  simp [List.drop_append]

theorem cutLines_none {s tail : List UInt8} (cut : cutLines s = ([], tail)) : s = tail ∧ 10 ∉ s := by
  have joined := cutLines_joined s
  have free := no_newline_in_tail s
  rw [cut] at joined free
  obtain rfl : tail = s := joined
  exact ⟨rfl, free⟩

theorem first_line_eq {line other s t : List UInt8} (free : 10 ∉ line) (free' : 10 ∉ other)
    (same : line ++ 10 :: s = other ++ 10 :: t) : line = other ∧ s = t := by
  have cut := cutLines_line free s
  rw [same, cutLines_line free' t] at cut
  obtain rfl : other = line := (List.cons.inj (Prod.mk.inj cut).1).1
  exact ⟨rfl, (List.cons.inj (List.append_cancel_left same)).2⟩

def dropReturn (line : List Char) : List Char :=
  if line.getLast? = some '\r' then line.dropLast else line

theorem dropReturn_free {line : List Char} (free : '\r' ∉ line) : dropReturn line = line :=
  if_neg fun last => free (List.mem_of_getLast? last)

theorem dropReturn_append (s : List Char) {t : List Char} (nonempty : t ≠ []) (free : '\r' ∉ t) :
    dropReturn (s ++ t) = s ++ t := by
  refine if_neg fun last => free ?_
  rw [List.getLast?_append, List.getLast?_eq_some_getLast nonempty, Option.some_or] at last
  rw [← Option.some.inj last]
  exact List.getLast_mem nonempty

theorem dropReturn_begins (line : List Char) : dropReturn line <+: line := by
  unfold dropReturn
  split
  · exact List.dropLast_prefix line
  · exact List.prefix_rfl

theorem withoutReturn_toBytes (line : List Char) :
    withoutReturn (toBytes (String.ofList line)) = toBytes (String.ofList (dropReturn line)) := by
  rcases List.eq_nil_or_concat line with rfl | ⟨front, c, rfl⟩
  · rfl
  · simp only [List.concat_eq_append, toBytes_ofList, List.flatMap_append, List.flatMap_singleton]
    by_cases feed : c = '\r'
    · have encoded : String.utf8EncodeChar '\r' = [13] := by decide
      simp [withoutReturn, dropReturn, feed, encoded]
    · -- no byte of another character is a carriage return
      have other : (String.utf8EncodeChar c).getLast? ≠ some 13 := by
        intro last
        have same := utf8EncodeChar_low (List.mem_of_getLast? last) (by decide)
        exact feed (Char.toNat_inj.mp same)
      simp [withoutReturn, dropReturn, feed, other]

theorem withoutReturn_free {line : String} (free : '\r' ∉ line.toList) :
    withoutReturn (toBytes line) = toBytes line := by
  have dropped := withoutReturn_toBytes line.toList
  rwa [dropReturn_free free, String.ofList_toList] at dropped

theorem toBytes_ofBytes {bytes : List UInt8} {s : String} (read : ofBytes bytes = .ok s) :
    toBytes s = bytes := by
  unfold ofBytes at read
  split at read
  · rename_i text valid
    cases read
    unfold String.fromUTF8? at valid
    split at valid
    · cases valid
      simp [toBytes, String.fromUTF8]
    · contradiction
  · contradiction

theorem readable_toBytes (lines : List String) : readable (lines.map toBytes) = (lines, false) := by
  induction lines with
  | nil => rfl
  | cons line lines ih => simp [readable, ofBytes_toBytes, ih]

theorem readable_append (lines : List String) (rest : List (List UInt8)) :
    readable (lines.map toBytes ++ rest) = (lines ++ (readable rest).1, (readable rest).2) := by
  induction lines with
  | nil => rfl
  | cons line lines ih => simp [readable, ofBytes_toBytes, ih]

/-- The lines of a stream, once nothing more comes, are its whole lines and what follows them. -/
theorem readable_linesOf {lines : List String} (single : ∀ line ∈ lines, '\n' ∉ line.toList)
    (unreturned : ∀ line ∈ lines, '\r' ∉ line.toList) {cut : List UInt8} (free : 10 ∉ cut) :
    (readable (linesOf (lineBytes lines ++ cut))).1 =
      lines ++ (readable (if cut.isEmpty then [] else [cut])).1 := by
  have kept : (lines.map toBytes).map withoutReturn = lines.map toBytes := by
    rw [List.map_map]
    exact List.map_congr_left fun line member => withoutReturn_free (unreturned line member)
  rw [linesOf, cutLines_lineBytes single free]
  simp only [kept, readable_append]

theorem utf8EncodeChar_front {c d : Char} {s t : List UInt8}
    (same : String.utf8EncodeChar c ++ s = String.utf8EncodeChar d ++ t) : c = d ∧ s = t := by
  have equal : c = d := by
    rcases Nat.lt_trichotomy c.val.toNat d.val.toNat with less | equal | more
    · have strict := utf8EncodeChar_lt less s t
      rw [same] at strict
      exact absurd strict (List.lt_irrefl _)
    · exact Char.toNat_inj.mp equal
    · have strict := utf8EncodeChar_lt more t s
      rw [same] at strict
      exact absurd strict (List.lt_irrefl _)
  subst equal
  exact ⟨rfl, List.append_cancel_left same⟩

theorem toBytes_begins {s t : String} (begins : toBytes s <+: toBytes t) : s.toList <+: t.toList := by
  rw [toBytes_eq, toBytes_eq] at begins
  generalize s.toList = s at *
  generalize t.toList = t at *
  obtain ⟨rest, same⟩ := begins
  induction s generalizing t with
  | nil => exact List.nil_prefix
  | cons c s ih =>
    cases t with
    | nil => simp [String.utf8EncodeChar_ne_nil] at same
    | cons d t =>
      rw [List.flatMap_cons, List.append_assoc, List.flatMap_cons] at same
      obtain ⟨rfl, follow⟩ := utf8EncodeChar_front same
      exact (List.prefix_cons_inj _).mpr (ih t follow)

end DebugGateway.Text
