import DebugGateway.Proofs.Basics
import DebugGateway.Proofs.Engine.Conversation

namespace DebugGateway.Console

open Text

namespace Wire

variable {reply : Entry → List UInt8} {w w' : Wire}

def work (reply : Entry → List UInt8) (w : Wire) : Nat :=
  4 * w.entries.length + 3 * (w.toCome reply).length + 2 * w.pipe.length + w.lines.length +
    (if w.reading then 1 else 0)

theorem fetch_work (done : w.fetch reply = some w') : w'.work reply < w.work reply := by
  have coming := fetch_toCome done
  obtain ⟨_, _, e, entries, waiting, rfl⟩ := fetch_some done
  simp only [work, coming, waiting, List.length_cons]
  omega

theorem print_work {count i : Nat} {bytes : List UInt8} (done : w.print count = some (i, bytes, w')) :
    w'.work reply < w.work reply := by
  have coming : w.toCome reply = bytes ++ w'.toCome reply := print_toCome done
  obtain ⟨_, e, more, _, some, _, rfl⟩ := print_some done
  have positive := List.length_pos_iff.mpr some
  simp only [work, coming, List.length_append]
  omega

theorem read_work (done : w.read = some w') : w'.work reply < w.work reply := by
  obtain ⟨reading, reads⟩ := read_some done
  cases reads with
  | line _ front _ =>
    simp only [work, toCome, left, front, List.length_append, List.length_cons, List.length_nil]
    omega
  | noText _ front _ =>
    simp only [work, toCome, left, front, reading, List.length_append, List.length_cons, if_true,
      Bool.false_eq_true, if_false]
    omega
  | tail _ some _ _ =>
    have positive := List.length_pos_iff.mpr some
    simp only [work, toCome, left, List.length_append, List.length_cons, List.length_nil]
    omega
  | tornTail _ some _ _ =>
    have positive := List.length_pos_iff.mpr some
    simp only [work, toCome, left, reading, List.length_nil, if_true, Bool.false_eq_true, if_false]
    omega
  | ceased _ _ =>
    simp only [work, toCome, left, reading, if_true, Bool.false_eq_true, if_false]
    omega

theorem can_read (reading : w.reading = true) (ready : w.nextLine ≠ none ∨ w.ended ≠ none) :
    w.read.isSome = true := by
  rw [read, if_pos reading]
  split
  · split <;> rfl
  · rename_i none
    rcases ready with some | gone
    · exact absurd none some
    · rw [if_pos (Option.isSome_iff_ne_none.mpr gone)]
      rfl

/-- A living debugger reads what was written and prints what it is about to print. -/
theorem can_go (living : w.ended = none)
    (busy : w.left ≠ [] ∨ w.entries ≠ []) :
    (w.fetch reply).isSome = true ∨ ∃ count, (w.print count).isSome = true := by
  by_cases nothing : w.left = []
  · left
    rcases busy with some | some
    · exact absurd nothing some
    · obtain ⟨e, entries, waiting⟩ := List.exists_cons_of_ne_nil some
      simp [fetch, living, waiting, nothing]
  · right
    cases answering : w.answering with
    | none => exact absurd (by simp [left, answering]) nothing
    | some answer =>
      obtain ⟨e, bytes⟩ := answer
      have some : bytes ≠ [] := by simpa [left, answering] using nothing
      have positive := List.length_pos_iff.mpr some
      refine ⟨bytes.length, ?_⟩
      simp [print, living, answering, positive]

end Wire

theorem Flowing.busy {script : Script} {nonce : Nat} {t : Turn} {w : Wire} {printed : List UInt8}
    (flowing : Flowing script nonce t w printed) (written : t.unwritten = []) (living : w.ended = none)
    (waiting : w.lines = []) (unended : 10 ∉ w.pipe) : w.left ≠ [] ∨ w.entries ≠ [] := by
  refine Classical.byContradiction fun nothing => ?_
  obtain ⟨left, entries⟩ := not_or.mp nothing
  have due := (flowing.live living).due
  rw [Wire.toCome, Classical.not_not.mp left, Classical.not_not.mp entries, written] at due
  simp only [List.flatMap_nil, List.append_nil] at due
  cases flowing.flow with
  | whole heard rest kept all shape _ =>
    rw [waiting, List.append_nil] at all shape
    rw [shape, all, lineBytes_append] at due
    rw [List.append_cancel_left due] at unended
    obtain rfl := lineBytes_eq_nil unended
    rw [List.append_nil] at all
    have inside : script.markerLine nonce t.call ∈ heard := by
      rw [← all]
      exact List.mem_append_right _ (List.mem_singleton_self _)
    have free := kept.unmarked _ inside
    rw [script.markerLine_marked] at free
    contradiction
  | torn _ _ _ _ _ _ _ _ _ _ _ gone =>
    rw [living] at gone
    contradiction

namespace Conversation

variable {script : Script} {nonce : Nat}

/-- What happens by itself: all but new calls, signals and the end of the debugger. -/
def Event.settles : Event → Bool
  | .begin _ | .write | .refuse _ | .fetch | .print _ | .read | .hear => true
  | .prepare _ | .leave _ | .interrupt _ | .detach _ => false

/-- The goal is reached whatever happens by itself, and until then something can. -/
inductive Settles (reply : Entry → List UInt8) (goal : Conversation → Prop) : Conversation → Prop where
  | now {s : Conversation} : goal s → Settles reply goal s
  | later {s : Conversation} : (∃ e, Event.settles e = true ∧ (s.step reply e).isSome = true) →
    (∀ e t, Event.settles e = true → s.step reply e = some t → Settles reply goal t) →
      Settles reply goal s

def unwritten (s : Conversation) : List Entry :=
  match s.turn with
  | some t => t.unwritten
  | none => []

def work (reply : Entry → List UInt8) (s : Conversation) : Nat :=
  5 * s.unwritten.length + 3 * (s.unwritten.flatMap reply).length + s.wire.work reply

def unfinished (s : Conversation) : Nat :=
  2 * s.calls.countP (·.outcome.isNone) + (if s.turn.isNone then 1 else 0)

def Nearer (reply : Entry → List UInt8) (t s : Conversation) : Prop :=
  t.unfinished < s.unfinished ∨ t.unfinished = s.unfinished ∧ t.work reply < s.work reply

variable {s s' : Conversation}

theorem finish_unfinished {t : Turn} (turn : s.turn = some t) {call : Call}
    (found : s.calls[t.call]? = some call) (waits : call.outcome = none) (captured : Capture)
    (status : Except EngineError Unit) (wire : Wire) :
    ({ s.finish t.call captured status with turn := none, wire } : Conversation).unfinished <
      s.unfinished := by
  have fewer : (s.finish t.call captured status).calls.countP (·.outcome.isNone) +
      call.outcome.isNone.toNat = s.calls.countP (·.outcome.isNone) + 0 :=
    countP_modify_toNat (·.outcome.isNone) _ found
  rw [waits, Option.isNone_none, Bool.toNat_true] at fewer
  simp only [unfinished, turn, Option.isNone_none, Option.isNone_some, if_true, Bool.false_eq_true,
    if_false]
  omega

theorem length_update (s : Conversation) (i : Nat) (change : Call → Call) :
    (s.update i change).calls.length = s.calls.length :=
  List.length_modify _ _ _

theorem Sound.nearer (sound : Sound script nonce s) {e : Event} (settles : e.settles = true)
    (done : s.step (script.reply nonce) e = some s') :
    Nearer (script.reply nonce) s' s ∧ s'.wire.ended = s.wire.ended ∧ s'.calls.length = s.calls.length := by
  cases step_moves done with
  | began i free waits =>
    refine ⟨.inl ?_, rfl, rfl⟩
    simp [unfinished, free]
  | wrote i e unwritten captured turn living =>
    refine ⟨.inr ⟨?_, ?_⟩, rfl, rfl⟩
    · simp [unfinished, turn]
    · simp [work, Conversation.unwritten, turn, Wire.work, Wire.toCome, Wire.left]
      omega
  | fetched wire fetched =>
    refine ⟨.inr ⟨rfl, Nat.add_lt_add_left (Wire.fetch_work fetched) _⟩, ?_, rfl⟩
    obtain ⟨_, _, _, _, _, rfl⟩ := Wire.fetch_some fetched
    rfl
  | printed count i bytes wire printed =>
    have same : (s.update i fun call => { call with printed := call.printed ++ bytes }).calls.countP
        (·.outcome.isNone) = s.calls.countP (·.outcome.isNone) := by
      apply countP_modify_same
      exact fun _ => rfl
    refine ⟨.inr ⟨?_, Nat.add_lt_add_left (Wire.print_work printed) _⟩, ?_, length_update _ _ _⟩
    · exact congrArg (fun waiting => 2 * waiting + if s.turn.isNone then 1 else 0) same
    · obtain ⟨_, _, _, _, _, _, rfl⟩ := Wire.print_some printed
      rfl
  | read wire read =>
    exact ⟨.inr ⟨rfl, Nat.add_lt_add_left (Wire.read_work read) _⟩, (Wire.read_some read).2.same.1, rfl⟩
  | heard i captured line lines turn waiting free =>
    refine ⟨.inr ⟨?_, ?_⟩, rfl, rfl⟩
    · simp [unfinished, turn]
    · simp [work, Conversation.unwritten, turn, Wire.work, Wire.toCome, Wire.left, waiting]
  | unwritable i first unwritten captured e turn gone | done i captured line lines turn waiting marked
  | ceased i captured turn nothing ceased =>
    obtain ⟨call, found, waits, _⟩ := sound.held _ turn
    exact ⟨.inl (finish_unfinished turn found waits _ _ _), rfl, length_update _ _ _⟩
  | refused | prepared | left | interrupted | detached => contradiction

/-! ## Something can happen -/

theorem can_hear {t : Turn} (turn : s.turn = some t) (written : t.unwritten = [])
    (ready : s.wire.lines ≠ [] ∨ s.wire.reading = false) (reply : Entry → List UInt8) :
    (s.step reply .hear).isSome = true := by
  obtain ⟨call, unwritten, captured⟩ := t
  obtain rfl : unwritten = [] := written
  cases waiting : s.wire.lines with
  | nil =>
    rcases ready with some | ceased
    · exact absurd waiting some
    · simp [Conversation.step, turn, waiting, ceased]
  | cons line lines =>
    simp only [Conversation.step, turn, waiting]
    split <;> rfl

theorem flowing_can_settle {t : Turn} {printed : List UInt8} (turn : s.turn = some t)
    (flowing : Flowing script nonce t s.wire printed) :
    ∃ e, Event.settles e = true ∧ (s.step (script.reply nonce) e).isSome = true := by
  have wired {e : Event} {next : Option Wire} (same : s.step (script.reply nonce) e =
      next.map fun wire => { s with wire }) (some : next.isSome = true) :
      (s.step (script.reply nonce) e).isSome = true := by
    rw [same, Option.isSome_map]
    exact some
  -- the call writes and hears as long as it can, then the reader reads; only where neither can is the
  -- debugger known to have something left to do
  cases rest : t.unwritten with
  | cons first unwritten =>
    have living : s.wire.ended = none := by
      cases ended : s.wire.ended with
      | none => rfl
      | some status =>
        rw [flowing.asked (by rw [ended]; rfl)] at rest
        contradiction
    obtain ⟨i, entries, captured⟩ := t
    obtain rfl : entries = first :: unwritten := rest
    exact ⟨.write, rfl, by simp [Conversation.step, turn, living]⟩
  | nil =>
    by_cases ready : s.wire.lines ≠ [] ∨ s.wire.reading = false
    · exact ⟨.hear, rfl, can_hear turn rest ready _⟩
    · obtain ⟨waiting, reading⟩ := not_or.mp ready
      rw [Bool.not_eq_false] at reading
      by_cases readable : s.wire.nextLine ≠ none ∨ s.wire.ended ≠ none
      · exact ⟨.read, rfl, wired rfl (Wire.can_read reading readable)⟩
      · obtain ⟨none, living⟩ := not_or.mp readable
        have living := Classical.not_not.mp living
        have unended : 10 ∉ s.wire.pipe := by
          rcases s.wire.nextLine_cases with ⟨_, _, _, _, next⟩ | ⟨_, _, free, _⟩ | ⟨_, free, _⟩
          · exact absurd (by simp [next]) none
          · exact free
          · exact free
        rcases Wire.can_go living (flowing.busy rest living (Classical.not_not.mp waiting) unended) with
          fetch | ⟨count, print⟩
        · exact ⟨.fetch, rfl, wired rfl fetch⟩
        · refine ⟨.print count, rfl, ?_⟩
          simp only [Conversation.step, Option.isSome_map]
          exact print

theorem Sound.can_settle (sound : Sound script nonce s) {i : Nat} {call : Call}
    (found : s.calls[i]? = some call) (waits : call.outcome = none) :
    ∃ e, Event.settles e = true ∧ (s.step (script.reply nonce) e).isSome = true := by
  cases turn : s.turn with
  | none =>
    have waiting : s.waits i = true := waits_iff.mpr ⟨call, found, waits⟩
    exact ⟨.begin i, rfl, by simp [Conversation.step, turn, waiting]⟩
  | some t =>
    obtain ⟨_, _, _, holds⟩ := sound.held t turn
    rcases holds with doomed | flowing
    · obtain ⟨status, ended⟩ := Option.isSome_iff_exists.mp doomed.gone
      obtain ⟨first, unwritten, some⟩ := List.exists_cons_of_ne_nil doomed.unwritten
      obtain ⟨j, rest, captured⟩ := t
      obtain rfl : rest = first :: unwritten := some
      exact ⟨.refuse (.bare .brokenPipe), rfl, by simp [Conversation.step, turn, ended]⟩
    · exact flowing_can_settle turn flowing

def Returned (i : Nat) (s : Conversation) : Prop :=
  ∃ call captured status, s.calls[i]? = some call ∧ call.outcome = some (captured, status) ∧
    (s.wire.ended = none → status = .ok ())

theorem Sound.returned (sound : Sound script nonce s) {i : Nat} {call : Call}
    (found : s.calls[i]? = some call) {captured : Capture} {status : Except EngineError Unit}
    (told : call.outcome = some (captured, status)) : s.Returned i := by
  refine ⟨call, captured, status, found, told, fun living => ?_⟩
  cases sound.told i call found captured status told with
  | ok => rfl
  | exited gone _ _ | unwritten gone _ =>
    rw [living] at gone
    contradiction

theorem Sound.settles (proper : script.Proper nonce) (sound : Sound script nonce s) {i : Nat}
    (prepared : i < s.calls.length) :
    Settles (script.reply nonce) (fun t => t.wire.ended = s.wire.ended ∧ t.Returned i) s := by
  generalize same : s.wire.ended = ended
  -- outside, how many calls are left; inside, how far the one that has the console still has to go
  generalize left : s.unfinished = n
  induction n using Nat.strongRecOn generalizing s with
  | ind n fewer =>
    generalize far : s.work (script.reply nonce) = m
    induction m using Nat.strongRecOn generalizing s with
    | ind m less =>
      obtain ⟨call, found⟩ : ∃ call, s.calls[i]? = some call := ⟨_, List.getElem?_eq_getElem prepared⟩
      cases told : call.outcome with
      | some outcome => exact .now ⟨same, sound.returned found told⟩
      | none =>
        refine .later (sound.can_settle found told) fun e t settles done => ?_
        obtain ⟨nearer, ended', length⟩ := sound.nearer settles done
        have sound' := sound.step proper done
        have prepared' : i < t.calls.length := by rw [length]; exact prepared
        rcases nearer with ends | ⟨equal, advances⟩
        · exact fewer t.unfinished (left ▸ ends) sound' prepared' (ended'.trans same) rfl
        · exact less (t.work (script.reply nonce)) (far ▸ advances) sound' prepared' (ended'.trans same)
            (equal.trans left) rfl

/-- Whatever happens in a session, and in whatever order: each call comes to its end, well if the
debugger does not end before; it tells of what was printed for it and of nothing else; and no marker is
in what it captures unless the debugger put it into a line for this call. -/
theorem calls_kept_apart (proper : script.Proper nonce) {program : String}
    (reached : Reachable (script.reply nonce) program nonce s) {i : Nat} {call : Call}
    (prepared : s.calls[i]? = some call) :
    Settles (script.reply nonce) (fun t => t.wire.ended = s.wire.ended ∧ t.Returned i) s ∧
    ∀ captured status, call.outcome = some (captured, status) →
      Reports script nonce i s.wire.ended call.printed captured status ∧
      bears (marker nonce i) captured.text = false ∧
      (status = .ok () → ∀ j, (∀ line ∈ script.lines i, bears (marker nonce j) line = false) →
        bears (marker nonce j) captured.text = false) := by
  have sound := reached.sound proper
  refine ⟨sound.settles proper (List.getElem?_eq_some_iff.mp prepared).1, fun captured status told => ?_⟩
  have reports := sound.told i call prepared captured status told
  refine ⟨reports, reports.unmarked proper, ?_⟩
  rintro rfl j free
  cases reports with
  | ok text => exact text ▸ transcript_unmarked free

def after (reply : Entry → List UInt8) (s : Conversation) : List Event → Option Conversation
  | [] => some s
  | e :: events => (s.step reply e).bind (after reply · events)

theorem Reachable.after {reply : Entry → List UInt8} {program : String}
    (reached : Reachable reply program nonce s) {events : List Event} {t : Conversation}
    (done : s.after reply events = some t) : Reachable reply program nonce t := by
  induction events generalizing s with
  | nil =>
    cases done
    exact reached
  | cons e events ih =>
    obtain ⟨next, first, rest⟩ := Option.bind_eq_some_iff.mp done
    exact ih (reached.step e first) rest

def prompted : Script where
  lines i := if i = 0 then ["(gdb) rax 0x0", "ok"] else ["second"]
  prompts i := i

/-- The first call is interrupted and nobody waits for it when it ends; the debugger ends in the middle
of the line that it prints for the second, and the third still waits for the console. -/
def cutShort : List Event :=
  [.prepare "info registers", .prepare "bt", .prepare "quit", .begin 0, .write, .write, .fetch,
    .interrupt 0, .print 5, .print 12, .fetch, .detach 0, .print 30, .read, .hear, .read, .read, .hear,
    .hear, .begin 1, .write, .write, .fetch, .print 3, .leave (.exited 0), .read, .read, .hear, .hear]

theorem prompted_lines {i : Nat} {line : String} (member : line ∈ prompted.lines i) :
    line ∈ ["(gdb) rax 0x0", "ok", "second"] := by
  simp only [prompted] at member
  split at member
  · exact List.mem_append_left ["second"] member
  · exact List.mem_append_right ["(gdb) rax 0x0", "ok"] member

theorem prompted_proper : prompted.Proper 42 where
  single _ line member :=
    have free : ∀ line ∈ ["(gdb) rax 0x0", "ok", "second"], '\n' ∉ line.toList := by decide +kernel
    free line (prompted_lines member)
  unreturned _ line member :=
    have free : ∀ line ∈ ["(gdb) rax 0x0", "ok", "second"], '\r' ∉ line.toList := by decide +kernel
    free line (prompted_lines member)
  unmarked i line member := by
    -- every marker holds a bar, and none of the lines does
    have free : ∀ line ∈ ["(gdb) rax 0x0", "ok", "second"], '_' ∉ line.toList := by decide +kernel
    rw [bears_false_iff]
    intro inside
    have bar : '_' ∈ (marker 42 i).toList := by simp [marker_toList]
    exact free line (prompted_lines member) (inside.subset bar)

theorem cutShort_reached : ∃ (s : Conversation) (first second third : Call),
    Reachable (prompted.reply 42) "gdb" 42 s ∧ s.calls = [first, second, third] ∧
      (first.interrupted && first.detached) = true ∧
      (first.outcome.map fun ended => (ended.1.text, ended.2.toBool)) = some ("rax 0x0\nok\n", true) ∧
      (second.outcome.map fun ended => (ended.1.text, ended.2.toBool)) = some ("sec\n", false) ∧
      (third.outcome.map fun ended => (ended.1.text, ended.2.toBool)) = none := by
  have ran : ((({ program := "gdb", nonce := 42 } : Conversation).after (prompted.reply 42) cutShort).map
      fun s => s.calls.map fun call => (call.interrupted && call.detached,
        call.outcome.map fun ended => (ended.1.text, ended.2.toBool))) =
      some [(true, some ("rax 0x0\nok\n", true)), (false, some ("sec\n", false)), (false, none)] := by
    decide +kernel
  obtain ⟨s, done, ends⟩ := Option.map_eq_some_iff.mp ran
  obtain ⟨first, calls, three, left, two⟩ := List.map_eq_cons_iff.mp ends
  obtain ⟨second, calls', two', middle, one⟩ := List.map_eq_cons_iff.mp two
  obtain ⟨third, none, one', right, nothing⟩ := List.map_eq_cons_iff.mp one
  obtain rfl := List.map_eq_nil_iff.mp nothing
  refine ⟨s, first, second, third, Reachable.start.after done, by rw [three, two', one'], ?_, ?_, ?_, ?_⟩
  · exact congrArg Prod.fst left
  · exact congrArg Prod.snd left
  · exact congrArg Prod.snd middle
  · exact congrArg Prod.snd right

theorem cutShort_kept_apart : prompted.Proper 42 ∧ ∃ (s : Conversation) (first second third : Call)
    (whole part : Capture) (status : Except EngineError Unit),
    Reachable (prompted.reply 42) "gdb" 42 s ∧ s.calls = [first, second, third] ∧
      first.outcome = some (whole, .ok ()) ∧ whole.text = "rax 0x0\nok\n" ∧
      Reports prompted 42 0 s.wire.ended first.printed whole (.ok ()) ∧
      second.outcome = some (part, status) ∧ part.text = "sec\n" ∧
      Reports prompted 42 1 s.wire.ended second.printed part status ∧ third.outcome = none ∧
      Settles (prompted.reply 42) (fun t => t.wire.ended = s.wire.ended ∧ t.Returned 2) s := by
  obtain ⟨s, first, second, third, reached, calls, _, one, two, three⟩ := cutShort_reached
  obtain ⟨⟨whole, good⟩, ended, same⟩ := Option.map_eq_some_iff.mp one
  obtain ⟨⟨part, status⟩, ended', same'⟩ := Option.map_eq_some_iff.mp two
  obtain ⟨text, fine⟩ := Prod.mk.inj same
  obtain rfl : good = .ok () := by
    cases good with
    | ok => rfl
    | error e => contradiction
  have at0 : s.calls[0]? = some first := by rw [calls]; rfl
  have at1 : s.calls[1]? = some second := by rw [calls]; rfl
  have at2 : s.calls[2]? = some third := by rw [calls]; rfl
  have kept := calls_kept_apart prompted_proper reached at0
  have kept' := calls_kept_apart prompted_proper reached at1
  have waits := calls_kept_apart prompted_proper reached at2
  exact ⟨prompted_proper, s, first, second, third, whole, part, status, reached, calls, ended, text,
    (kept.2 whole _ ended).1, ended', (Prod.mk.inj same').1, (kept'.2 part status ended').1,
    Option.map_eq_none_iff.mp three, waits.1⟩

end Conversation

end DebugGateway.Console
