import DebugGateway.FrameBuffer

namespace DebugGateway.FrameBuffer

theorem takeFrame_some_shorter {searched rest frame : List UInt8} {b : FrameBuffer}
    (h : takeFrame searched rest = (.ok (some frame), b)) : b.unsearched.length < rest.length := by
  induction rest generalizing searched with
  | nil =>
    unfold takeFrame at h
    split at h <;> cases h
  | cons byte rest ih =>
    unfold takeFrame at h
    split at h
    · dsimp only at h
      split at h
      · cases h
      · split at h
        · exact Nat.lt_succ_of_lt (ih h)
        · cases h
          exact Nat.lt_succ_self _
    · exact Nat.lt_succ_of_lt (ih h)

theorem next_some_shorter {b b' : FrameBuffer} {frame : List UInt8}
    (h : b.next = (.ok (some frame), b')) : b'.unsearched.length < b.unsearched.length :=
  takeFrame_some_shorter h

/-- A buffer without a frame has been searched to its end, so it stays without one. -/
theorem takeFrame_none_again {searched rest : List UInt8} {b : FrameBuffer}
    (h : takeFrame searched rest = (.ok none, b)) : b.next = (.ok none, b) := by
  induction rest generalizing searched with
  | nil =>
    unfold takeFrame at h
    split at h
    · cases h
    · rename_i short
      cases h
      simp only [next, takeFrame, if_neg short]
  | cons byte rest ih =>
    unfold takeFrame at h
    split at h
    · dsimp only at h
      split at h
      · cases h
      · split at h
        · exact ih h
        · cases h
    · exact ih h

theorem next_none_again {b b' : FrameBuffer} (h : b.next = (.ok none, b')) :
    b'.next = (.ok none, b') :=
  takeFrame_none_again h

def Dry (b : FrameBuffer) : Prop := b.next = (.ok none, b)

theorem dry_empty : Dry {} := rfl

/-- What comes out of a buffer by and by: all frames that are held, then those that each read brings;
a frame that is too long is the last. -/
def harvest (b : FrameBuffer) (reads : List (List UInt8)) :
    List (Except FrameTooLarge (List UInt8)) :=
  match _h : b.next with
  | (.ok (some frame), b') => .ok frame :: harvest b' reads
  | (.ok none, b') =>
    match reads with
    | [] => []
    | bytes :: reads => harvest (b'.extend bytes) reads
  | (.error e, _) => [.error e]
termination_by (reads.length, b.unsearched.length)
decreasing_by
  · exact Prod.Lex.right _ (next_some_shorter _h)
  · exact Prod.Lex.left _ _ (Nat.lt_succ_self _)

theorem harvest_frame {b b' : FrameBuffer} {frame : List UInt8}
    (h : b.next = (.ok (some frame), b')) (reads : List (List UInt8)) :
    b.harvest reads = .ok frame :: b'.harvest reads := by
  rw [harvest]
  split
  · rename_i found
    cases h.symm.trans found
    rfl
  · rename_i found
    cases h.symm.trans found
  · rename_i found
    cases h.symm.trans found

theorem harvest_refused {b b' : FrameBuffer} {e : FrameTooLarge} (h : b.next = (.error e, b'))
    (reads : List (List UInt8)) : b.harvest reads = [.error e] := by
  rw [harvest]
  split
  · rename_i found
    cases h.symm.trans found
  · rename_i found
    cases h.symm.trans found
  · rename_i found
    cases h.symm.trans found
    rfl

theorem harvest_none {b b' : FrameBuffer} (h : b.next = (.ok none, b')) (reads : List (List UInt8)) :
    b.harvest reads =
      match reads with
      | [] => []
      | bytes :: reads => (b'.extend bytes).harvest reads := by
  rw [harvest]
  split
  · rename_i found
    cases h.symm.trans found
  · rename_i found
    cases h.symm.trans found
    rfl
  · rename_i found
    cases h.symm.trans found

/-- The search for a frame that is not there changes nothing of what is to come. -/
theorem harvest_searched {b b' : FrameBuffer} (h : b.next = (.ok none, b'))
    (reads : List (List UInt8)) : b.harvest reads = b'.harvest reads := by
  rw [harvest_none h, harvest_none (next_none_again h)]

theorem harvest_read {b : FrameBuffer} (dry : b.Dry) (bytes : List UInt8)
    (reads : List (List UInt8)) : b.harvest (bytes :: reads) = (b.extend bytes).harvest reads :=
  harvest_none dry (bytes :: reads)

theorem harvest_end {b : FrameBuffer} (dry : b.Dry) : b.harvest [] = [] := harvest_none dry []

theorem harvest_refusal_last (b : FrameBuffer) (reads : List (List UInt8)) :
    ∃ (frames : List (List UInt8)) (refused : Option FrameTooLarge),
      b.harvest reads = frames.map .ok ++ refused.toList.map .error := by
  induction b, reads using harvest.induct with
  | case1 b reads frame b' found ih =>
    obtain ⟨frames, refused, shape⟩ := ih
    refine ⟨frame :: frames, refused, ?_⟩
    rw [harvest_frame found, shape]
    rfl
  | case2 b b' found =>
    rw [harvest_none found]
    exact ⟨[], none, rfl⟩
  | case3 b b' found bytes reads ih =>
    rw [harvest_none found]
    exact ih
  | case4 b reads e b' found =>
    rw [harvest_refused found]
    exact ⟨[], some e, rfl⟩

end DebugGateway.FrameBuffer
