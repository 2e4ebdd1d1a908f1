import DebugGateway.Engine.Console
import DebugGateway.Proofs.Engine.Listening

/-! What is on its way from the debugger to the call that has the console. The lines it has heard, those
that wait and those in the bytes not yet read are, in this order, the lines that the debugger prints for
this call; the last of them bears the marker and no other does. -/
namespace DebugGateway.Console

open Text

/-- A debugger that prints lines for each command, and a marker that it is asked for on a line of its
own behind some prompts. -/
structure Script where
  lines : Nat → List String
  prompts : Nat → Nat

namespace Script

def markerLine (script : Script) (nonce i : Nat) : String :=
  String.ofList ((List.replicate (script.prompts i) prompt).flatten ++ (marker nonce i).toList)

def all (script : Script) (nonce i : Nat) : List String :=
  script.lines i ++ [script.markerLine nonce i]

def reply (script : Script) (nonce : Nat) : Entry → List UInt8
  | .command i => lineBytes (script.lines i)
  | .marker i => lineBytes [script.markerLine nonce i]

/-- No line holds an end of a line or the marker of its own call. -/
structure Proper (script : Script) (nonce : Nat) : Prop where
  single : ∀ i, ∀ line ∈ script.lines i, '\n' ∉ line.toList
  unreturned : ∀ i, ∀ line ∈ script.lines i, '\r' ∉ line.toList
  unmarked : ∀ i, ∀ line ∈ script.lines i, bears (marker nonce i) line = false

variable {script : Script} {nonce i : Nat}

theorem markerLine_marked (script : Script) (nonce i : Nat) :
    bears (marker nonce i) (script.markerLine nonce i) = true := by
  rw [bears_iff, markerLine, String.toList_ofList]
  exact (List.suffix_append _ _).isInfix

theorem markerLine_free {c : Char} (unprompted : c ∉ prompt) (free : c ∉ (marker nonce i).toList) :
    c ∉ (script.markerLine nonce i).toList := by
  rw [markerLine, String.toList_ofList]
  intro member
  rcases List.mem_append.mp member with front | last
  · exact not_mem_prompts unprompted _ front
  · exact free last

theorem Proper.all_single (proper : script.Proper nonce) :
    ∀ line ∈ script.all nonce i, '\n' ∉ line.toList := by
  intro line member
  rcases List.mem_append.mp member with own | last
  · exact proper.single i line own
  · rw [List.mem_singleton.mp last]
    exact markerLine_free (by decide) (marker_single nonce i)

theorem Proper.all_unreturned (proper : script.Proper nonce) :
    ∀ line ∈ script.all nonce i, '\r' ∉ line.toList := by
  intro line member
  rcases List.mem_append.mp member with own | last
  · exact proper.unreturned i line own
  · rw [List.mem_singleton.mp last]
    exact markerLine_free (by decide) (marker_no_return nonce i)

theorem reply_call (script : Script) (nonce i : Nat) :
    [Entry.command i, .marker i].flatMap (script.reply nonce) = lineBytes (script.all nonce i) := by
  simp [reply, all, lineBytes_append]

theorem Proper.last (proper : script.Proper nonce) {before after : List String} {line : String}
    (shape : script.all nonce i = before ++ line :: after) (marked : bears (marker nonce i) line = true) :
    before = script.lines i ∧ after = [] := by
  rcases List.append_eq_append_iff.mp shape with ⟨more, rfl, last⟩ | ⟨more, own, last⟩
  · cases more with
    | nil => exact ⟨List.append_nil _, (List.cons.inj last).2.symm⟩
    | cons first more => simp at last
  · cases more with
    | nil => exact ⟨(List.append_nil before).symm.trans own.symm, (List.cons.inj last).2⟩
    | cons first more =>
      obtain ⟨rfl, -⟩ := List.cons.inj last
      have free := proper.unmarked i line (by simp [own])
      rw [free] at marked
      contradiction

theorem Proper.seen (proper : script.Proper nonce) {before after : List String}
    (all : script.all nonce i = before ++ after) {cut : List UInt8} (free : 10 ∉ cut) :
    (readable (linesOf (lineBytes before ++ cut))).1 =
      before ++ (readable (if cut.isEmpty then [] else [cut])).1 := by
  have inside : ∀ line ∈ before, line ∈ script.all nonce i := by
    intro line member
    simp [all, member]
  exact readable_linesOf (fun line member => proper.all_single line (inside line member))
    (fun line member => proper.all_unreturned line (inside line member)) free

theorem Proper.seen_torn (proper : script.Proper nonce) {before after : List String} {own : String}
    (all : script.all nonce i = before ++ own :: after) {cut : List UInt8} (torn : cut <+: toBytes own)
    (filled : cut ≠ []) :
    (readable (linesOf (lineBytes before ++ cut))).1 = before ++ (readable [cut]).1 := by
  have free : 10 ∉ cut := by
    intro member
    have inside : own ∈ script.all nonce i := by simp [all]
    exact newline_free (proper.all_single own inside) (torn.subset member)
  have seen := proper.seen all free
  rwa [if_neg (by simp [filled])] at seen

end Script

namespace Wire

variable {reply : Entry → List UInt8} {w w' : Wire}

def toCome (reply : Entry → List UInt8) (w : Wire) : List UInt8 := w.left ++ w.entries.flatMap reply

structure Serves (reply : Entry → List UInt8) (i : Nat) (w : Wire) : Prop where
  entries : ∀ e ∈ w.entries, e.call = i ∨ reply e = []
  answering : ∀ e bytes, w.answering = some (e, bytes) → e.call = i ∨ bytes = []

def Idle (reply : Entry → List UInt8) (w : Wire) : Prop :=
  w.ended = none → w.reading = true ∧ w.lines = [] ∧ w.pipe = [] ∧ w.toCome reply = []

theorem fetch_some (done : w.fetch reply = some w') :
    w.ended = none ∧ w.left = [] ∧ ∃ e entries, w.entries = e :: entries ∧
      w' = { w with entries, answering := some (e, reply e) } := by
  unfold fetch at done
  split at done
  · rename_i e entries live waiting
    split at done
    · rename_i nothing
      exact ⟨live, List.isEmpty_iff.mp nothing, e, entries, waiting, (Option.some.inj done).symm⟩
    · contradiction
  · contradiction

theorem print_some {count i : Nat} {bytes : List UInt8} (done : w.print count = some (i, bytes, w')) :
    w.ended = none ∧ ∃ e more, w.answering = some (e, bytes ++ more) ∧ bytes ≠ [] ∧ i = e.call ∧
      w' = { w with answering := some (e, more), pipe := w.pipe ++ bytes } := by
  unfold print at done
  split at done
  · rename_i e all live answering
    split at done
    · rename_i bounds
      simp only [Bool.and_eq_true, decide_eq_true_eq] at bounds
      cases done
      refine ⟨live, e, all.drop count, ?_, ?_, rfl, rfl⟩
      · rw [List.take_append_drop]
        exact answering
      · intro none
        have short := congrArg List.length none
        simp only [List.length_take, List.length_nil] at short
        omega
    · contradiction
  · contradiction

theorem fetch_toCome (done : w.fetch reply = some w') : w'.toCome reply = w.toCome reply := by
  obtain ⟨_, nothing, e, entries, waiting, rfl⟩ := fetch_some done
  rw [toCome, toCome, nothing, waiting]
  rfl

theorem Serves.fetch {i : Nat} (serves : w.Serves reply i) (done : w.fetch reply = some w') :
    w'.Serves reply i := by
  obtain ⟨_, _, e, entries, waiting, rfl⟩ := fetch_some done
  constructor
  · intro other member
    exact serves.entries other (by simp [waiting, member])
  · intro other bytes same
    obtain ⟨rfl, rfl⟩ := Prod.mk.inj (Option.some.inj same)
    exact serves.entries e (by simp [waiting])

theorem print_toCome {count i : Nat} {bytes : List UInt8} (done : w.print count = some (i, bytes, w')) :
    w.toCome reply = bytes ++ w'.toCome reply := by
  obtain ⟨_, e, more, answering, _, _, rfl⟩ := print_some done
  simp [toCome, left, answering]

theorem Serves.print {count i j : Nat} {bytes : List UInt8} (serves : w.Serves reply i)
    (done : w.print count = some (j, bytes, w')) : j = i ∧ w'.Serves reply i := by
  obtain ⟨_, e, more, answering, some, rfl, rfl⟩ := print_some done
  have own : e.call = i := by
    rcases serves.answering e _ answering with own | nothing
    · exact own
    · simp [some] at nothing
  refine ⟨own, serves.entries, ?_⟩
  intro other left same
  obtain ⟨rfl, -⟩ := Prod.mk.inj (Option.some.inj same)
  exact .inl own

inductive Reads (w : Wire) : Wire → Prop where
  | line {line after : List UInt8} {text : String} : 10 ∉ line → w.pipe = line ++ 10 :: after →
    ofBytes (withoutReturn line) = .ok text →
      Reads w { w with pipe := after, lines := w.lines ++ [text] }
  | noText {line after : List UInt8} {f : Utf8Fault} : 10 ∉ line → w.pipe = line ++ 10 :: after →
    ofBytes (withoutReturn line) = .error f → Reads w { w with pipe := after, reading := false }
  | tail {text : String} : w.ended.isSome = true → w.pipe ≠ [] → 10 ∉ w.pipe →
    ofBytes w.pipe = .ok text → Reads w { w with pipe := [], lines := w.lines ++ [text] }
  | tornTail {f : Utf8Fault} : w.ended.isSome = true → w.pipe ≠ [] → 10 ∉ w.pipe →
    ofBytes w.pipe = .error f → Reads w { w with pipe := [], reading := false }
  | ceased : w.ended.isSome = true → w.pipe = [] → Reads w { w with reading := false }

theorem nextLine_cases (w : Wire) :
    (∃ line after, 10 ∉ line ∧ w.pipe = line ++ 10 :: after ∧
      w.nextLine = some (withoutReturn line, after)) ∨
    (w.ended.isSome = true ∧ w.pipe ≠ [] ∧ 10 ∉ w.pipe ∧ w.nextLine = some (w.pipe, [])) ∨
    ((w.ended = none ∨ w.pipe = []) ∧ 10 ∉ w.pipe ∧ w.nextLine = none) := by
  unfold nextLine
  cases cut : cutLines w.pipe with
  | mk lines rest =>
    cases lines with
    | cons line lines =>
      obtain ⟨free, shape⟩ := cutLines_first cut
      exact .inl ⟨line, _, free, shape, rfl⟩
    | nil =>
      obtain ⟨same, free⟩ := cutLines_none cut
      right
      cases rest with
      | nil => exact .inr ⟨.inr same, free, by simp⟩
      | cons b rest =>
        have some : w.pipe ≠ [] := by simp [same]
        cases gone : w.ended with
        | none => exact .inr ⟨.inl rfl, free, by simp⟩
        | some status => exact .inl ⟨rfl, some, free, by simp [same]⟩

theorem read_some (done : w.read = some w') : w.reading = true ∧ Reads w w' := by
  unfold read at done
  split at done
  · rename_i reading
    refine ⟨reading, ?_⟩
    rcases w.nextLine_cases with ⟨line, after, free, shape, next⟩ | ⟨gone, some, free, next⟩ |
      ⟨why, free, next⟩
    · simp only [next] at done
      split at done
      · rename_i text good
        cases done
        exact .line free shape good
      · rename_i f bad
        cases done
        exact .noText free shape bad
    · simp only [next] at done
      split at done
      · rename_i text good
        cases done
        exact .tail gone some free good
      · rename_i f bad
        cases done
        exact .tornTail gone some free bad
    · simp only [next] at done
      split at done
      · rename_i gone
        cases done
        rcases why with live | nothing
        · rw [live] at gone
          contradiction
        · exact .ceased gone nothing
      · contradiction
  · contradiction

theorem Reads.same (reads : w.Reads w') : w'.ended = w.ended ∧ w'.entries = w.entries ∧
    w'.answering = w.answering := by
  cases reads <;> exact ⟨rfl, rfl, rfl⟩

theorem Idle.fetch (idle : w.Idle reply) (done : w.fetch reply = some w') :
    w'.Idle reply := by
  have coming := fetch_toCome done
  obtain ⟨living, _, e, entries, _, rfl⟩ := fetch_some done
  obtain ⟨reading, lines, pipe, nothing⟩ := idle living
  exact fun _ => ⟨reading, lines, pipe, coming.trans nothing⟩

theorem Idle.read (idle : w.Idle reply) (done : w.read = some w') :
    w'.Idle reply := by
  obtain ⟨_, reads⟩ := read_some done
  obtain ⟨ended, _⟩ := reads.same
  intro living
  rw [ended] at living
  obtain ⟨_, _, pipe, _⟩ := idle living
  cases reads with
  | line _ front _ | noText _ front _ => simp [pipe] at front
  | tail gone | tornTail gone | ceased gone =>
    rw [living] at gone
    contradiction

theorem Idle.print {count j : Nat} {bytes : List UInt8} (idle : w.Idle reply) :
    w.print count ≠ some (j, bytes, w') := by
  intro done
  obtain ⟨living, _, _, _, some, _⟩ := print_some done
  obtain ⟨_, _, _, nothing⟩ := idle living
  rw [print_toCome done] at nothing
  exact some (List.append_eq_nil_iff.mp nothing).1

end Wire

/-! ## The call that has the console -/

structure Kept (nonce i : Nat) (heard : List String) (captured : Capture) : Prop where
  text : captured.text = transcript heard
  unmarked : ∀ line ∈ heard, bears (marker nonce i) line = false

inductive Flow (script : Script) (nonce i : Nat) (w : Wire) (captured : Capture)
    (printed : List UInt8) : Prop where
  | whole (heard rest : List String) : Kept nonce i heard captured →
    script.all nonce i = heard ++ w.lines ++ rest → printed = lineBytes (heard ++ w.lines) ++ w.pipe →
      (w.reading = false → w.pipe = []) → Flow script nonce i w captured printed
  | torn (heard before after : List String) (line : String) (cut : List UInt8) :
    Kept nonce i heard captured → script.all nonce i = before ++ line :: after →
      heard ++ w.lines = before ++ (readable [cut]).1 → cut <+: toBytes line → cut ≠ [] →
        w.pipe = [] → w.ended.isSome = true → printed = lineBytes before ++ cut →
          Flow script nonce i w captured printed

/-- While the debugger lives, what it has printed and will print is what it prints for the call. -/
structure Live (script : Script) (nonce : Nat) (t : Turn) (w : Wire) (printed : List UInt8) : Prop where
  reading : w.reading = true
  serves : w.Serves (script.reply nonce) t.call
  due : printed ++ w.toCome (script.reply nonce) ++ t.unwritten.flatMap (script.reply nonce) =
    lineBytes (script.all nonce t.call)

/-- The call that has the console is written or is being written. -/
structure Flowing (script : Script) (nonce : Nat) (t : Turn) (w : Wire) (printed : List UInt8) : Prop where
  begun : printed <+: lineBytes (script.all nonce t.call)
  mine : ∀ e ∈ t.unwritten, e.call = t.call
  fresh : t.unwritten ≠ [] → t.captured.text = ""
  asked : w.ended.isSome = true → t.unwritten = []
  live : w.ended = none → Live script nonce t w printed
  flow : Flow script nonce t.call w t.captured printed

structure Doomed (t : Turn) (w : Wire) : Prop where
  gone : w.ended.isSome = true
  unwritten : t.unwritten ≠ []
  fresh : t.captured.text = ""

inductive Reports (script : Script) (nonce i : Nat) (ended : Option ExitStatus) (printed : List UInt8) :
    Capture → Except EngineError Unit → Prop where
  | ok {captured : Capture} {line : String} : captured.text = transcript (script.lines i) →
    (readable (linesOf printed)).1 = script.lines i ++ [line] → bears (marker nonce i) line = true →
      Reports script nonce i ended printed captured (.ok ())
  | exited {captured : Capture} : ended.isSome = true → printed <+: lineBytes (script.all nonce i) →
    Kept nonce i (readable (linesOf printed)).1 captured →
      Reports script nonce i ended printed captured (.error .exited)
  | unwritten {captured : Capture} {e : IoError} : ended.isSome = true → captured.text = "" →
    Reports script nonce i ended printed captured (.error (.io e))

section Steps

variable {script : Script} {nonce i : Nat} {t : Turn} {w w' : Wire} {captured : Capture}
  {printed : List UInt8}

theorem Reports.later {ended ended' : Option ExitStatus} {status : Except EngineError Unit}
    (reports : Reports script nonce i ended printed captured status)
    (gone : ended.isSome = true → ended'.isSome = true) :
    Reports script nonce i ended' printed captured status := by
  cases reports with
  | ok text seen marked => exact .ok text seen marked
  | exited ceased begun kept => exact .exited (gone ceased) begun kept
  | unwritten ceased text => exact .unwritten (gone ceased) text

theorem kept_nothing (nonce i : Nat) : Kept nonce i [] {} where
  text := rfl
  unmarked := nofun

theorem Kept.hear {heard : List String} (kept : Kept nonce i heard captured) {line : String}
    (free : bears (marker nonce i) line = false) :
    Kept nonce i (heard ++ [line]) (captured.pushLine (String.ofList (stripPrompts line.toList))) where
  text := by
    rw [transcript_append, ← kept.text]
    simp [Capture.pushLine, transcript, ← String.toList_inj]
  unmarked := by
    intro other member
    rcases List.mem_append.mp member with earlier | last
    · exact kept.unmarked other earlier
    · rw [List.mem_singleton.mp last]
      exact free

/-- The flow does not depend on what the debugger has still to read or to print. -/
theorem Flow.same (flow : Flow script nonce i w captured printed) (pipe : w'.pipe = w.pipe)
    (reading : w'.reading = w.reading) (lines : w'.lines = w.lines)
    (ended : w.ended.isSome = true → w'.ended.isSome = true) : Flow script nonce i w' captured printed := by
  cases flow with
  | whole heard rest kept all shape closed =>
    rw [← lines] at all shape
    rw [← pipe] at shape closed
    rw [← reading] at closed
    exact .whole heard rest kept all shape closed
  | torn heard before after line cut kept all parts torn filled empty gone shape =>
    rw [← lines] at parts
    rw [← pipe] at empty
    exact .torn heard before after line cut kept all parts torn filled empty (ended gone) shape

theorem Flowing.fetch (flowing : Flowing script nonce t w printed)
    (done : w.fetch (script.reply nonce) = some w') : Flowing script nonce t w' printed := by
  have coming := Wire.fetch_toCome done
  have serves {i : Nat} (serves : w.Serves (script.reply nonce) i) := serves.fetch done
  obtain ⟨living, _, e, entries, _, rfl⟩ := Wire.fetch_some done
  have live := flowing.live living
  refine ⟨flowing.begun, flowing.mine, flowing.fresh, flowing.asked, fun _ => ?_, ?_⟩
  · exact ⟨live.reading, serves live.serves, by rw [coming]; exact live.due⟩
  · exact flowing.flow.same rfl rfl rfl fun gone => gone

theorem Flowing.print {count j : Nat} {bytes : List UInt8} (flowing : Flowing script nonce t w printed)
    (done : w.print count = some (j, bytes, w')) :
    j = t.call ∧ Flowing script nonce t w' (printed ++ bytes) := by
  have coming : w.toCome (script.reply nonce) = bytes ++ w'.toCome (script.reply nonce) :=
    Wire.print_toCome done
  have serves {i : Nat} (serves : w.Serves (script.reply nonce) i) := serves.print done
  obtain ⟨living, e, more, _, _, _, rfl⟩ := Wire.print_some done
  obtain ⟨reading, own, due⟩ := flowing.live living
  obtain ⟨rfl, own'⟩ := serves own
  rw [coming, ← List.append_assoc printed] at due
  refine ⟨rfl, ?_, flowing.mine, flowing.fresh, flowing.asked, fun _ => ⟨reading, own', due⟩, ?_⟩
  · rw [← due, List.append_assoc (printed ++ bytes)]
    exact List.prefix_append _ _
  · cases flowing.flow with
    | whole heard rest kept all shape _ =>
      refine .whole heard rest kept all ?_ ?_
      · rw [shape, List.append_assoc]
      · intro ceased
        rw [reading] at ceased
        contradiction
    | torn heard before after line cut _ _ _ _ _ _ gone =>
      rw [living] at gone
      contradiction

theorem pipe_begins {lines rest : List String} {pipe : List UInt8}
    (begun : lineBytes lines ++ pipe <+: lineBytes (lines ++ rest)) : pipe <+: lineBytes rest := by
  rw [lineBytes_append] at begun
  exact (List.prefix_append_right_inj _).mp begun

/-- The first line in the pipe is the next line that is printed for the call. -/
theorem line_begins {rest : List String} (single : ∀ line ∈ rest, '\n' ∉ line.toList)
    {line after : List UInt8} (free : 10 ∉ line) (begun : line ++ 10 :: after <+: lineBytes rest) :
    ∃ text more, rest = text :: more ∧ line = toBytes text ∧ after <+: lineBytes more := by
  obtain ⟨later, same⟩ := begun
  cases rest with
  | nil => simp [lineBytes] at same
  | cons text more =>
    rw [lineBytes_cons, List.append_assoc, List.cons_append] at same
    have free' := newline_free (single text List.mem_cons_self)
    obtain ⟨rfl, behind⟩ := first_line_eq free free' same
    exact ⟨text, more, rfl, rfl, later, behind⟩

theorem tail_begins {rest : List String} {tail : List UInt8} (some : tail ≠ []) (free : 10 ∉ tail)
    (begun : tail <+: lineBytes rest) :
    ∃ text more, rest = text :: more ∧ tail <+: toBytes text := by
  cases rest with
  | nil => exact absurd (List.prefix_nil.mp begun) some
  | cons text more =>
    refine ⟨text, more, rfl, ?_⟩
    obtain ⟨later, same⟩ := begun
    rw [lineBytes_cons] at same
    rcases List.append_eq_append_iff.mp same with ⟨front, shape, _⟩ | ⟨front, shape, later⟩
    · exact ⟨front, shape.symm⟩
    · cases front with
      | nil => exact ⟨[], by rw [shape, List.append_nil, List.append_nil]⟩
      | cons b front =>
        obtain ⟨rfl, -⟩ := List.cons.inj later
        exact absurd (by simp [shape]) free

theorem next_text (proper : script.Proper nonce) {before rest : List String}
    (all : script.all nonce i = before ++ rest) {line after : List UInt8} (free : 10 ∉ line)
    (begun : line ++ 10 :: after <+: lineBytes rest) :
    ∃ text more, rest = text :: more ∧ line = toBytes text ∧
      ofBytes (withoutReturn line) = .ok text := by
  have inside : ∀ line ∈ rest, line ∈ script.all nonce i := by
    intro line member
    simp [all, member]
  obtain ⟨text, more, rfl, rfl, _⟩ :=
    line_begins (fun line member => proper.all_single line (inside line member)) free begun
  refine ⟨text, more, rfl, rfl, ?_⟩
  rw [withoutReturn_free (proper.all_unreturned text (inside text List.mem_cons_self)),
    ofBytes_toBytes]

theorem Flow.text (proper : script.Proper nonce) (flow : Flow script nonce i w captured printed)
    (begun : printed <+: lineBytes (script.all nonce i)) {line after : List UInt8} (free : 10 ∉ line)
    (front : w.pipe = line ++ 10 :: after) : ∃ text, ofBytes (withoutReturn line) = .ok text := by
  cases flow with
  | whole heard rest kept all shape closed =>
    rw [shape, all] at begun
    have pipe := pipe_begins begun
    rw [front] at pipe
    obtain ⟨text, _, _, _, good⟩ := next_text proper all free pipe
    exact ⟨text, good⟩
  | torn _ _ _ _ _ _ _ _ _ _ empty => simp [empty] at front

theorem Flow.reading (proper : script.Proper nonce) (flow : Flow script nonce i w captured printed)
    (begun : printed <+: lineBytes (script.all nonce i)) (living : w.ended = none)
    (reading : w.reading = true) (reads : w.Reads w') : w'.reading = true := by
  cases reads with
  | line => exact reading
  | noText free front bad =>
    obtain ⟨text, good⟩ := flow.text proper begun free front
    rw [good] at bad
    contradiction
  | tail gone | tornTail gone | ceased gone =>
    rw [living] at gone
    contradiction

theorem Flow.read (proper : script.Proper nonce) (flow : Flow script nonce i w captured printed)
    (begun : printed <+: lineBytes (script.all nonce i)) (reading : w.reading = true)
    (reads : w.Reads w') : Flow script nonce i w' captured printed := by
  cases flow with
  | whole heard rest kept all shape closed =>
    have pipe : w.pipe <+: lineBytes rest := by
      rw [shape, all] at begun
      exact pipe_begins begun
    cases reads with
    | @line line after text free front good =>
      rw [front] at pipe
      obtain ⟨next, more, rfl, rfl, good'⟩ := next_text proper all free pipe
      obtain rfl : next = text := Except.ok.inj (good'.symm.trans good)
      refine .whole heard more kept (by simp [all]) ?_ ?_
      · rw [shape, front]
        simp [lineBytes]
      · intro ceased
        rw [reading] at ceased
        contradiction
    | noText free front bad =>
      rw [front] at pipe
      obtain ⟨_, _, _, _, good⟩ := next_text proper all free pipe
      rw [good] at bad
      contradiction
    | @tail text gone some free good =>
      -- from here on the last line that is heard is a part of one that was to be printed
      obtain ⟨next, more, rfl, begins⟩ := tail_begins some free pipe
      refine .torn heard (heard ++ w.lines) more next w.pipe kept all ?_ begins some rfl gone shape
      simp [readable, good]
    | tornTail gone some free bad =>
      obtain ⟨next, more, rfl, begins⟩ := tail_begins some free pipe
      refine .torn heard (heard ++ w.lines) more next w.pipe kept all ?_ begins some rfl gone shape
      simp [readable, bad]
    | ceased gone nothing => exact .whole heard rest kept all shape fun _ => nothing
  | torn heard before after line cut kept all parts torn filled empty gone shape =>
    cases reads with
    | line _ front _ | noText _ front _ => simp [empty] at front
    | tail _ some _ _ | tornTail _ some _ _ => exact absurd empty some
    | ceased _ _ => exact .torn heard before after line cut kept all parts torn filled empty gone shape

theorem Flowing.read (proper : script.Proper nonce) (flowing : Flowing script nonce t w printed)
    (done : w.read = some w') : Flowing script nonce t w' printed := by
  obtain ⟨reading, reads⟩ := Wire.read_some done
  obtain ⟨ended, entries, answering⟩ := reads.same
  have flow := flowing.flow.read proper flowing.begun reading reads
  refine ⟨flowing.begun, flowing.mine, flowing.fresh, ?_, ?_, flow⟩
  · rw [ended]
    exact flowing.asked
  · intro living
    rw [ended] at living
    obtain ⟨_, own, due⟩ := flowing.live living
    refine ⟨flowing.flow.reading proper flowing.begun living reading reads, ⟨?_, ?_⟩, ?_⟩
    · rw [entries]
      exact own.entries
    · rw [answering]
      exact own.answering
    · rw [Wire.toCome, Wire.left, entries, answering]
      exact due

theorem Flowing.write {e : Entry} {unwritten : List Entry} (flowing : Flowing script nonce t w printed)
    (some : t.unwritten = e :: unwritten) (living : w.ended = none) :
    Flowing script nonce { t with unwritten } { w with entries := w.entries ++ [e] } printed := by
  obtain ⟨reading, own, due⟩ := flowing.live living
  refine ⟨flowing.begun, ?_, ?_, ?_, fun _ => ⟨reading, ⟨?_, own.answering⟩, ?_⟩, ?_⟩
  · intro other member
    exact flowing.mine other (by simp [some, member])
  · intro _
    exact flowing.fresh (by simp [some])
  · intro gone
    rw [living] at gone
    contradiction
  · intro other member
    rcases List.mem_append.mp member with waiting | last
    · exact own.entries other waiting
    · rw [List.mem_singleton.mp last]
      exact .inl (flowing.mine e (by simp [some]))
  · rw [some] at due
    simpa [Wire.toCome, Wire.left] using due
  · exact flowing.flow.same rfl rfl rfl fun gone => gone

theorem Flowing.leave (flowing : Flowing script nonce t w printed) (status : ExitStatus) :
    Doomed t { w with ended := some status } ∨
      Flowing script nonce t { w with ended := some status } printed := by
  by_cases written : t.unwritten = []
  · right
    refine ⟨flowing.begun, flowing.mine, flowing.fresh, fun _ => written, nofun, ?_⟩
    exact flowing.flow.same rfl rfl rfl fun _ => rfl
  · left
    exact ⟨rfl, written, flowing.fresh written⟩

theorem idle_begin (idle : w.Idle (script.reply nonce)) (i : Nat) :
    Doomed { call := i, unwritten := [.command i, .marker i] } { w with lines := [] } ∨
      Flowing script nonce { call := i, unwritten := [.command i, .marker i] } { w with lines := [] }
        [] := by
  cases living : w.ended with
  | some status => exact .inl ⟨rfl, List.cons_ne_nil _ _, rfl⟩
  | none =>
    right
    obtain ⟨reading, _, pipe, nothing⟩ := idle living
    obtain ⟨left, waiting⟩ := List.append_eq_nil_iff.mp nothing
    refine ⟨List.nil_prefix, ?_, fun _ => rfl, ?_, fun _ => ⟨reading, ⟨?_, ?_⟩, ?_⟩, ?_⟩
    · simp [Entry.call]
    · exact nofun
    · intro e member
      exact .inr (List.flatMap_eq_nil_iff.mp waiting e member)
    · intro e bytes answering
      rw [Wire.left, answering] at left
      exact .inr left
    · show [] ++ w.toCome (script.reply nonce) ++ _ = _
      rw [nothing]
      exact script.reply_call nonce i
    · refine .whole [] (script.all nonce i) (kept_nothing nonce i) rfl ?_ fun _ => pipe
      rw [pipe]
      rfl

/-- A line that the debugger left unfinished bears the marker only where that of the marker does. -/
theorem torn_marked (proper : script.Proper nonce) {heard before after lines : List String}
    {line own : String} {cut : List UInt8} (all : script.all nonce i = before ++ own :: after)
    (parts : heard ++ line :: lines = before ++ (readable [cut]).1) (torn : cut <+: toBytes own)
    (marked : bears (marker nonce i) line = true) : heard = script.lines i ∧ lines = [] := by
  -- the marker is in none of the lines before the unfinished one
  have behind {more : List String} : before ≠ heard ++ line :: more := by
    rintro rfl
    rw [List.append_assoc, List.cons_append] at all
    simpa using (proper.last all marked).2
  cases read : ofBytes cut with
  | error f =>
    simp only [readable, read, List.append_nil] at parts
    exact absurd parts.symm behind
  | ok text =>
    simp only [readable, read] at parts
    rcases List.eq_nil_or_concat lines with rfl | ⟨front, last, rfl⟩
    · obtain ⟨rfl, same⟩ := List.append_inj' parts rfl
      obtain ⟨rfl, -⟩ := List.cons.inj same
      rw [← toBytes_ofBytes read] at torn
      have within : bears (marker nonce i) own = true := by
        rw [bears_iff] at marked ⊢
        exact marked.trans (toBytes_begins torn).isInfix
      exact ⟨(proper.last all within).1, rfl⟩
    · rw [List.concat_eq_append, ← List.cons_append, ← List.append_assoc] at parts
      exact absurd (List.append_inj' parts rfl).1.symm behind

theorem Flowing.hear_marked (proper : script.Proper nonce) (flowing : Flowing script nonce t w printed)
    (written : t.unwritten = []) {line : String} {lines : List String} (waiting : w.lines = line :: lines)
    (marked : bears (marker nonce t.call) line = true) :
    Reports script nonce t.call w.ended printed t.captured (.ok ()) ∧
      Wire.Idle (script.reply nonce) { w with lines } := by
  cases flowing.flow with
  | whole heard rest kept all shape closed =>
    rw [waiting] at all shape
    have all' := all
    rw [List.append_assoc, List.cons_append] at all'
    -- the line of the marker is the last one, so nothing for this call is left on the wire
    obtain ⟨rfl, nothing⟩ := proper.last all' marked
    obtain ⟨rfl, rfl⟩ := List.append_eq_nil_iff.mp nothing
    have pipe : w.pipe = [] := by
      have begun := flowing.begun
      rw [shape, all] at begun
      exact List.prefix_nil.mp (pipe_begins begun)
    rw [pipe] at shape
    have seen := proper.seen all (List.not_mem_nil : 10 ∉ ([] : List UInt8))
    rw [← shape] at seen
    refine ⟨.ok kept.text (seen.trans (List.append_nil _)) marked, fun living => ?_⟩
    obtain ⟨reading, _, due⟩ := flowing.live living
    rw [written, shape, all] at due
    simp at due
    exact ⟨reading, rfl, pipe, due⟩
  | torn heard before after own cut kept all parts torn filled empty gone shape =>
    rw [waiting] at parts
    obtain ⟨rfl, rfl⟩ := torn_marked proper all parts torn marked
    have seen := proper.seen_torn all torn filled
    rw [← shape, ← parts] at seen
    refine ⟨.ok kept.text seen marked, fun living => ?_⟩
    rw [show w.ended = none from living] at gone
    contradiction

theorem Flowing.hear_unmarked (flowing : Flowing script nonce t w printed) (written : t.unwritten = [])
    {line : String} {lines : List String} (waiting : w.lines = line :: lines)
    (free : bears (marker nonce t.call) line = false) :
    Flowing script nonce
      { t with captured := t.captured.pushLine (String.ofList (stripPrompts line.toList)) }
      { w with lines } printed := by
  have flow : Flow script nonce t.call { w with lines }
      (t.captured.pushLine (String.ofList (stripPrompts line.toList))) printed := by
    cases flowing.flow with
    | whole heard rest kept all shape closed =>
      rw [waiting, List.append_cons] at all shape
      exact .whole (heard ++ [line]) rest (kept.hear free) all shape closed
    | torn heard before after own cut kept all parts torn filled empty gone shape =>
      rw [waiting, List.append_cons] at parts
      exact .torn (heard ++ [line]) before after own cut (kept.hear free) all parts torn filled empty gone
        shape
  refine ⟨flowing.begun, flowing.mine, ?_, flowing.asked, fun living => ?_, flow⟩
  · intro some
    exact absurd written some
  · obtain ⟨reading, own, due⟩ := flowing.live living
    exact ⟨reading, ⟨own.entries, own.answering⟩, due⟩

theorem Flowing.hear_end (proper : script.Proper nonce) (flowing : Flowing script nonce t w printed)
    (nothing : w.lines = []) (ceased : w.reading = false) :
    Reports script nonce t.call w.ended printed t.captured (.error .exited) := by
  have gone : w.ended.isSome = true := by
    cases living : w.ended with
    | some status => rfl
    | none =>
      rw [(flowing.live living).reading] at ceased
      contradiction
  refine .exited gone flowing.begun ?_
  cases flowing.flow with
  | whole heard rest kept all shape closed =>
    rw [nothing, List.append_nil] at all shape
    have seen := proper.seen all (List.not_mem_nil : 10 ∉ ([] : List UInt8))
    rw [closed ceased] at shape
    rw [shape, seen]
    simpa [readable] using kept
  | torn heard before after own cut kept all parts torn filled empty gone shape =>
    rw [nothing, List.append_nil] at parts
    rw [shape, proper.seen_torn all torn filled, ← parts]
    exact kept

theorem Reports.unmarked (proper : script.Proper nonce) {ended : Option ExitStatus}
    {status : Except EngineError Unit} (reports : Reports script nonce i ended printed captured status) :
    bears (marker nonce i) captured.text = false := by
  cases reports with
  | ok text =>
    rw [text]
    exact transcript_unmarked (proper.unmarked i)
  | exited _ _ kept =>
    rw [kept.text]
    exact transcript_unmarked kept.unmarked
  | unwritten _ text =>
    have nothing : bears (marker nonce i) (transcript []) = false := transcript_unmarked nofun
    rw [text]
    exact nothing

end Steps

end DebugGateway.Console
