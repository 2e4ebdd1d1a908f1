import DebugGateway.Channel.Url
import DebugGateway.Proofs.Text.Pieces

namespace DebugGateway.Url

/-! ## Characters -/

def Visible (c : Char) : Prop := 32 < c.toNat ∧ c.toNat ≤ 126

instance : DecidablePred Visible := fun _ => inferInstanceAs (Decidable (_ ∧ _))

theorem visible_of_unescaped {c : Char} (unescaped : isEscapedInPath c = false) : Visible c := by
  simp only [isEscapedInPath, isControl, Bool.or_eq_false_iff, decide_eq_false_iff_not] at unescaped
  obtain ⟨⟨low, high⟩, others⟩ := unescaped
  have noSpace : c.toNat ≠ 32 := by
    intro same
    have space : c = ' ' := Char.toNat_inj.mp same
    subst space
    exact absurd others (by decide)
  constructor
  · omega
  · omega

theorem visible_of_all {s : List Char} (all : s.all (fun c => decide (Visible c)) = true) :
    ∀ c ∈ s, Visible c := by
  simpa using all

theorem hexPair_plain {n : Nat} (byte : n < 256) {c : Char} (member : c ∈ hexPair n) :
    isEscapedInPath c = false ∧ c ≠ '/' ∧ c ≠ ':' := by
  have all : ∀ n < 256,
      (hexPair n).all (fun c => !isEscapedInPath c && c != '/' && c != ':') = true := by
    decide +kernel
  simpa [and_assoc] using List.all_eq_true.mp (all n byte) c member

variable {isEscaped : Char → Bool}

theorem mem_escaped {s : List Char} {c : Char} (member : c ∈ escaped isEscaped s) :
    (c ∈ s ∧ isEscaped c = false) ∨ isEscapedInPath c = false ∧ c ≠ '/' ∧ c ≠ ':' := by
  obtain ⟨d, source, inside⟩ := List.mem_flatMap.mp member
  cases written : isEscaped d with
  | false =>
    rw [written] at inside
    rw [List.mem_singleton.mp inside]
    exact .inl ⟨source, written⟩
  | true =>
    rw [written, if_pos rfl] at inside
    obtain ⟨b, -, mark⟩ := List.mem_flatMap.mp inside
    rcases List.mem_cons.mp mark with rfl | digit
    · exact .inr (by decide)
    · exact .inr (hexPair_plain (UInt8.toNat_lt b) digit)

theorem escaped_kept {s : List Char} (kept : ∀ c ∈ s, isEscaped c = false) :
    escaped isEscaped s = s := by
  induction s with
  | nil => rfl
  | cons c s ih =>
    have rest := ih fun d member => kept d (List.mem_cons_of_mem c member)
    rw [escaped, List.flatMap_cons, if_neg (by simp [kept c List.mem_cons_self])]
    exact congrArg (c :: ·) rest

/-! ## Segments -/

def IsRelative (segment : List Char) : Prop := isDot segment = true ∨ isDoubleDot segment = true

instance : DecidablePred IsRelative := fun _ => inferInstanceAs (Decidable (_ ∨ _))

structure Plain (path : List Char) : Prop where
  characters : ∀ c ∈ path, isEscapedInPath c = false
  segments : ∀ segment ∈ splitAtChar '/' path, ¬IsRelative segment

instance (path : List Char) : Decidable (Plain path) :=
  decidable_of_iff (path.all (fun c => !isEscapedInPath c) = true ∧
      ∀ segment ∈ splitAtChar '/' path, ¬IsRelative segment)
    ⟨fun both => ⟨by simpa using both.1, both.2⟩,
      fun plain => ⟨by simpa using plain.characters, plain.segments⟩⟩

theorem mem_up {directories : List (List Char)} {segment : List Char}
    (member : segment ∈ up directories) : segment ∈ directories := by
  cases directories with
  | nil => exact member
  | cons first rest =>
    rw [up] at member
    split at member
    · exact member
    · exact List.mem_cons_of_mem first member

/-- Segments that are walked over are either directories already or come from the path. The empty one
is added where a path ends in a relative segment. -/
theorem walk_segments {segments directories : List (List Char)} {segment : List Char}
    (member : segment ∈ (walk directories segments).1 ∨ segment = (walk directories segments).2) :
    segment ∈ directories ∨ segment = [] ∨ segment ∈ segments ∧ ¬IsRelative segment := by
  fun_induction walk directories segments with
  | case1 directories => exact member.imp_right .inl
  | case2 directories last double =>
    rcases member with inside | rfl
    · exact .inl (mem_up inside)
    · exact .inr (.inl rfl)
  | case3 directories last double dot => exact member.imp_right .inl
  | case4 directories last double dot =>
    rcases member with inside | rfl
    · exact .inl inside
    · refine .inr (.inr ⟨List.mem_singleton.mpr rfl, ?_⟩)
      rintro (here | here)
      · exact dot here
      · exact double here
  | case5 directories first rest more double ih =>
    rcases ih member with inside | empty | ⟨later, absolute⟩
    · exact .inl (mem_up inside)
    · exact .inr (.inl empty)
    · exact .inr (.inr ⟨List.mem_cons_of_mem first later, absolute⟩)
  | case6 directories first rest more double dot ih =>
    rcases ih member with inside | empty | ⟨later, absolute⟩
    · exact .inl inside
    · exact .inr (.inl empty)
    · exact .inr (.inr ⟨List.mem_cons_of_mem first later, absolute⟩)
  | case7 directories first rest more double dot ih =>
    rcases ih member with inside | empty | ⟨later, absolute⟩
    · rcases List.mem_cons.mp inside with rfl | inside
      · refine .inr (.inr ⟨List.mem_cons_self, ?_⟩)
        rintro (here | here)
        · exact dot here
        · exact double here
      · exact .inl inside
    · exact .inr (.inl empty)
    · exact .inr (.inr ⟨List.mem_cons_of_mem first later, absolute⟩)

theorem walk_absolute {segments : List (List Char)} {last : List Char}
    (absolute : ∀ segment ∈ segments ++ [last], ¬IsRelative segment)
    (directories : List (List Char)) :
    walk directories (segments ++ [last]) = (segments.reverse ++ directories, last) := by
  induction segments generalizing directories with
  | nil =>
    have here := absolute last (by simp)
    simp only [IsRelative, not_or] at here
    rw [List.nil_append, walk, if_neg here.2, if_neg here.1]
    rfl
  | cons first segments ih =>
    have here := absolute first (by simp)
    simp only [IsRelative, not_or] at here
    have step := ih (fun s member => absolute s (by simp_all)) (first :: directories)
    obtain ⟨next, more, shape⟩ : ∃ next more, segments ++ [last] = next :: more :=
      List.exists_cons_of_ne_nil (by simp)
    rw [List.cons_append, shape, walk, if_neg here.2, if_neg here.1, ← shape, step]
    · simp
    · simp

/-! ## Paths -/

theorem rootedPath_toList (s : List Char) :
    (rootedPath s).toList = '/' :: joinWith '/'
      (let walked := walk [] ((splitAtChar '/' (s.takeWhile (fun c => !endsPath c))).map
        (escaped isEscapedInPath))
      walked.1.reverse ++ [walked.2]) := by
  rw [joinWith_concat]
  simp [rootedPath]

theorem isRelative_nil : ¬IsRelative [] := by decide

theorem plain_rooted {path : List Char} (plain : Plain path) : Plain ('/' :: path) where
  characters := by
    intro c member
    rcases List.mem_cons.mp member with rfl | member
    · decide
    · exact plain.characters c member
  segments := by
    intro segment member
    rw [splitAtChar, if_pos rfl] at member
    rcases List.mem_cons.mp member with rfl | member
    · exact isRelative_nil
    · exact plain.segments segment member

theorem plain_unrooted {path : List Char} (plain : Plain ('/' :: path)) : Plain path where
  characters := fun c member => plain.characters c (List.mem_cons_of_mem '/' member)
  segments := by
    intro segment member
    apply plain.segments segment
    rw [splitAtChar, if_pos rfl]
    exact List.mem_cons_of_mem [] member

theorem plain_joinWith {segments : List (List Char)} (some : segments ≠ [])
    (free : ∀ segment ∈ segments, '/' ∉ segment)
    (characters : ∀ segment ∈ segments, ∀ c ∈ segment, isEscapedInPath c = false)
    (absolute : ∀ segment ∈ segments, ¬IsRelative segment) : Plain (joinWith '/' segments) where
  characters := by
    intro c member
    rcases mem_pieces '/' member with rfl | ⟨segment, here, inside⟩
    · decide
    · rw [splitAtChar_joinWith some free] at here
      exact characters segment here c inside
  segments := by
    rw [splitAtChar_joinWith some free]
    exact absolute

theorem rootedPath_plain (s : List Char) : Plain (rootedPath s).toList := by
  rw [rootedPath_toList]
  refine plain_rooted (plain_joinWith (by simp) ?_ ?_ ?_)
  all_goals
    intro segment member
    rw [List.mem_append, List.mem_reverse, List.mem_singleton] at member
    rcases walk_segments member with none | rfl | ⟨inside, absolute⟩
    · cases none
  · exact List.not_mem_nil
  · obtain ⟨written, cut, rfl⟩ := List.mem_map.mp inside
    intro slash
    rcases mem_escaped slash with ⟨source, -⟩ | ⟨-, other, -⟩
    · exact (mem_splitAtChar cut).1 source
    · exact other rfl
  · intro c absurd
    cases absurd
  · obtain ⟨written, cut, rfl⟩ := List.mem_map.mp inside
    intro c here
    rcases mem_escaped here with ⟨-, kept⟩ | ⟨kept, -⟩
    · exact kept
    · exact kept
  · exact isRelative_nil
  · exact absolute

theorem rootedPath_of_plain {path : List Char} (plain : Plain path) :
    rootedPath path = String.ofList ('/' :: path) := by
  have goesOn : ∀ c ∈ path, (!endsPath c) = true := by
    intro c member
    have kept := plain.characters c member
    cases ends : endsPath c with
    | false => rfl
    | true =>
      simp only [endsPath, Bool.or_eq_true, decide_eq_true_eq] at ends
      rcases ends with rfl | rfl
      · exact absurd kept (by decide)
      · exact absurd kept (by decide)
  have whole : path.takeWhile (fun c => !endsPath c) = path := List.takeWhile_eq_self_iff.mpr goesOn
  have written : (splitAtChar '/' path).map (escaped isEscapedInPath) = splitAtChar '/' path := by
    refine (List.map_congr_left fun segment cut => ?_).trans (List.map_id _)
    exact escaped_kept fun c here => plain.characters c ((mem_splitAtChar cut).2 here)
  have shape := List.dropLast_concat_getLast (splitAtChar_ne_nil '/' path)
  have walked := walk_absolute (by rw [shape]; exact plain.segments) []
  apply String.toList_inj.mp
  rw [rootedPath_toList, whole, written, ← shape, walked]
  simp only [List.append_nil, List.reverse_reverse]
  rw [shape, joinWith_splitAtChar, String.toList_ofList]

theorem pathAfterHost_cases (s : List Char) :
    pathAfterHost s = "" ∨ ∃ t, pathAfterHost s = rootedPath t := by
  fun_cases pathAfterHost s with
  | case1 => exact .inl rfl
  | case2 rest => exact .inr ⟨rest, rfl⟩
  | case3 c rest slash ends => exact .inl rfl
  | case4 c rest slash goesOn => exact .inr ⟨c :: rest, rfl⟩

end DebugGateway.Url
