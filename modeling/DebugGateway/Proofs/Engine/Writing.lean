import DebugGateway.Proofs.Engine.Conversation
import Mathlib.Data.List.Nodup
import Mathlib.Logic.Function.Basic

/-! What reaches the debugger. Of every call that is two lines and never more, the command and the
request for its marker, with nothing of another call between them, whatever the texts of the commands
are. -/
namespace DebugGateway.Console

open Text

namespace Conversation

def pair (i : Nat) : List Entry := [.command i, .marker i]

def fetchedAt (t : Conversation) : Event → List Entry
  | .fetch => t.wire.answering.toList.map Prod.fst
  | _ => []

/-- The states that a session can reach, with all the lines that the debugger has read until then. -/
inductive Observed (reply : Entry → List UInt8) (program : String) (nonce : Nat) :
    Conversation → List Entry → Prop where
  | start : Observed reply program nonce { program, nonce } []
  | step {s t : Conversation} {read : List Entry} (e : Event) : Observed reply program nonce s read →
    s.step reply e = some t → Observed reply program nonce t (read ++ t.fetchedAt e)

/-- All that ever reached the debugger: what it has read and what it is still to read. -/
def input (s : Conversation) (read : List Entry) : List Entry := read ++ s.wire.entries

abbrev Standing := Nat → Option (Option (Capture × Except EngineError Unit))

/-- How the input is made up. With the lines of `rest` it would be those of the calls of `order`, call
after call. The turn is that of the call that has the console, with the lines that it is still to
write. -/
structure Tidy (standing : Standing) (turn : Option (Nat × List Entry)) (ended : Option ExitStatus)
    (input : List Entry) (order : List Nat) (rest : List Entry) : Prop where
  shape : input ++ rest = order.flatMap pair
  nodup : order.Nodup
  begun : ∀ i ∈ order, (∃ unwritten, turn = some (i, unwritten)) ∨
    ∃ outcome, standing i = some (some outcome)
  waits : ∀ i unwritten, turn = some (i, unwritten) → standing i = some none
  own : ∀ i unwritten, turn = some (i, unwritten) → unwritten <:+ pair i
  living : ended = none → rest = (turn.map Prod.snd).getD []
  complete : ∀ i, turn = some (i, []) → .marker i ∈ input
  told : ∀ i captured status, standing i = some (some (captured, status)) →
    .marker i ∈ input ∨ (∃ e, status = .error (.io e)) ∧ ended ≠ none

theorem mem_pair {i : Nat} {e : Entry} (member : e ∈ pair i) : e.call = i := by
  rcases List.mem_cons.mp member with rfl | member
  · rfl
  · rw [List.mem_singleton.mp member]
    rfl

theorem suffix_pair {i : Nat} {lines : List Entry} (suffix : lines <:+ pair i) :
    lines = pair i ∨ lines = [.marker i] ∨ lines = [] := by
  rcases List.suffix_cons_iff.mp suffix with whole | suffix
  · exact .inl whole
  · rcases List.suffix_cons_iff.mp suffix with last | nothing
    · exact .inr (.inl last)
    · exact .inr (.inr (List.suffix_nil.mp nothing))

namespace Tidy

variable {standing : Standing} {turn : Option (Nat × List Entry)} {ended : Option ExitStatus}
  {input rest : List Entry} {order : List Nat}

theorem start : Tidy (fun _ => none) none none [] [] [] where
  shape := rfl
  nodup := List.nodup_nil
  begun _ member := absurd member List.not_mem_nil
  waits := nofun
  own := nofun
  living _ := rfl
  complete := nofun
  told := nofun

theorem prepare (tidy : Tidy standing turn ended input order rest) {k : Nat}
    (new : standing k = none) :
    Tidy (Function.update standing k (some none)) turn ended input order rest := by
  have kept {i : Nat} {outcome : Option (Capture × Except EngineError Unit)}
      (stands : standing i = some outcome) :
      Function.update standing k (some none) i = some outcome := by
    have other : i ≠ k := by
      rintro rfl
      rw [new] at stands
      contradiction
    rw [Function.update_of_ne other]
    exact stands
  refine { tidy with begun := fun i member => ?_, waits := fun i unwritten has => ?_, told := ?_ }
  · refine (tidy.begun i member).imp_right fun ⟨outcome, stands⟩ => ⟨outcome, kept stands⟩
  · exact kept (tidy.waits i unwritten has)
  · intro i captured status ended
    by_cases here : i = k
    · subst here
      simp at ended
    · rw [Function.update_of_ne here] at ended
      exact tidy.told i captured status ended

theorem begin (tidy : Tidy standing none ended input order rest) {i : Nat}
    (waits : standing i = some none) :
    Tidy standing (some (i, pair i)) ended input (order ++ [i]) (rest ++ pair i) where
  shape := by
    rw [← List.append_assoc, tidy.shape, List.flatMap_append, List.flatMap_singleton]
  nodup := by
    refine List.nodup_append.mpr ⟨tidy.nodup, List.nodup_singleton i, fun j member k here same => ?_⟩
    obtain rfl := List.mem_singleton.mp here
    rcases tidy.begun j member with ⟨_, has⟩ | ⟨outcome, stands⟩
    · contradiction
    · rw [same, waits] at stands
      cases stands
  begun j member := by
    rcases List.mem_append.mp member with old | new
    · refine .inr ((tidy.begun j old).resolve_left ?_)
      rintro ⟨_, has⟩
      contradiction
    · exact .inl ⟨pair i, by rw [List.mem_singleton.mp new]⟩
  waits j unwritten has := by
    cases has
    exact waits
  own j unwritten has := by
    cases has
    exact List.suffix_refl _
  living gone := by
    rw [tidy.living gone]
    rfl
  complete j has := by cases has
  told := tidy.told

theorem write {i : Nat} {e : Entry} {unwritten : List Entry}
    (tidy : Tidy standing (some (i, e :: unwritten)) none input order rest) :
    Tidy standing (some (i, unwritten)) none (input ++ [e]) order unwritten where
  shape := by
    rw [List.append_assoc, List.singleton_append, ← tidy.shape, tidy.living rfl]
    rfl
  nodup := tidy.nodup
  begun j member := by
    refine (tidy.begun j member).imp_left ?_
    rintro ⟨_, has⟩
    cases has
    exact ⟨unwritten, rfl⟩
  waits j _ has := by
    cases has
    exact tidy.waits i _ rfl
  own j _ has := by
    cases has
    exact (List.suffix_cons e unwritten).trans (tidy.own i _ rfl)
  living _ := rfl
  complete j has := by
    cases has
    rcases suffix_pair (tidy.own i _ rfl) with whole | last | nothing
    · cases whole
    · cases last
      exact List.mem_append_right _ List.mem_cons_self
    · cases nothing
  told j captured status ends := (tidy.told j captured status ends).imp_left (List.mem_append_left _)

/-- A call that ends has written everything, unless it could not write because the debugger is gone. -/
theorem finish {i : Nat} {unwritten : List Entry} {captured : Capture} {status : Except EngineError Unit}
    (tidy : Tidy standing (some (i, unwritten)) ended input order rest)
    (settled : unwritten = [] ∨ (∃ e, status = .error (.io e)) ∧ ended ≠ none) :
    Tidy (Function.update standing i (some (some (captured, status)))) none ended input order rest where
  shape := tidy.shape
  nodup := tidy.nodup
  begun j member := by
    right
    by_cases here : j = i
    · exact ⟨(captured, status), by rw [here, Function.update_self]⟩
    · rw [Function.update_of_ne here]
      refine (tidy.begun j member).resolve_left ?_
      rintro ⟨_, has⟩
      cases has
      exact here rfl
  waits := nofun
  own := nofun
  living gone := by
    rw [tidy.living gone]
    exact settled.resolve_right fun failed => failed.2 gone
  complete := nofun
  told j captured' status' ends := by
    by_cases here : j = i
    · subst here
      rw [Function.update_self] at ends
      cases ends
      refine settled.imp_left ?_
      rintro rfl
      exact tidy.complete j rfl
    · rw [Function.update_of_ne here] at ends
      exact tidy.told j captured' status' ends

theorem leave (tidy : Tidy standing turn none input order rest) (status : ExitStatus) :
    Tidy standing turn (some status) input order rest :=
  { tidy with
    living := nofun
    told := fun i captured status ends => (tidy.told i captured status ends).imp_right (absurd rfl ·.2) }

theorem asking (tidy : Tidy standing turn ended input order rest) (living : ended = none) {i : Nat}
    {more : List Entry} (left : rest = .marker i :: more) : turn = some (i, [.marker i]) := by
  have unwritten := tidy.living living
  rw [left] at unwritten
  cases has : turn with
  | none =>
    rw [has] at unwritten
    cases unwritten
  | some held =>
    rw [has] at unwritten
    obtain ⟨j, _⟩ := held
    obtain rfl : Entry.marker i :: more = _ := unwritten
    rcases suffix_pair (tidy.own j _ has) with whole | last | nothing
    · cases whole
    · cases last
      rfl
    · cases nothing

/-- What has arrived of a call: nothing, or its command as the last line of all, or both of its
lines. -/
theorem arrived (tidy : Tidy standing turn ended input order rest) (i : Nat) :
    (∀ e ∈ input, e.call ≠ i) ∨
    (∃ before, input = before ++ [.command i] ∧ (∀ e ∈ before, e.call ≠ i) ∧
      (ended = none → turn = some (i, [.marker i]))) ∨
    ∃ before after, input = before ++ pair i ++ after ∧ ∀ e ∈ before ++ after, e.call ≠ i := by
  have away {others : List Nat} (absent : i ∉ others) : ∀ e ∈ others.flatMap pair, e.call ≠ i := by
    intro e member same
    obtain ⟨j, here, member⟩ := List.mem_flatMap.mp member
    rw [mem_pair member] at same
    exact absent (same ▸ here)
  by_cases begun : i ∈ order
  · obtain ⟨earlier, later, rfl⟩ := List.append_of_mem begun
    obtain ⟨before, after⟩ : i ∉ earlier ∧ i ∉ later := by
      have once := (List.nodup_cons.mp (List.nodup_middle.mp tidy.nodup)).1
      rw [List.mem_append, not_or] at once
      exact once
    have shape := tidy.shape
    rw [List.flatMap_append, List.flatMap_cons] at shape
    rcases List.append_eq_append_iff.mp shape with ⟨more, front, _⟩ | ⟨own, rfl, back⟩
    · exact .inl fun e member => away before e (front ▸ List.mem_append_left more member)
    -- `own` begins with what has arrived of this call
    · rcases own with _ | ⟨e, _ | ⟨e', own⟩⟩
      · exact .inl fun e member => away before e (by simpa using member)
      · obtain ⟨rfl, left⟩ : .command i = e ∧ .marker i :: later.flatMap pair = rest := by
          simpa [pair] using back
        exact .inr (.inl ⟨_, rfl, away before, fun living => tidy.asking living left.symm⟩)
      · obtain ⟨rfl, rfl, left⟩ :
            .command i = e ∧ .marker i = e' ∧ later.flatMap pair = own ++ rest := by
          simpa [pair] using back
        refine .inr (.inr ⟨earlier.flatMap pair, own, ?_, fun e member => ?_⟩)
        · simp [pair]
        · rcases List.mem_append.mp member with member | member
          · exact away before e member
          · exact away after e (left ▸ List.mem_append_left _ member)
  · exact .inl fun e member => away begun e (tidy.shape ▸ List.mem_append_left _ member)

/-- Where the request for the marker has arrived, so has the command, right before it. -/
theorem whole (tidy : Tidy standing turn ended input order rest) {i : Nat}
    (asked : .marker i ∈ input) :
    ∃ before after, input = before ++ pair i ++ after ∧ ∀ e ∈ before ++ after, e.call ≠ i := by
  rcases tidy.arrived i with nothing | ⟨before, rfl, others, _⟩ | whole
  · exact absurd rfl (nothing _ asked)
  · rcases List.mem_append.mp asked with member | member
    · exact absurd rfl (others _ member)
    · simp at member
  · exact whole

end Tidy

section Steps

variable {reply : Entry → List UInt8} {s s' : Conversation} {read : List Entry}

def standing (s : Conversation) : Standing := fun i => s.calls[i]?.map Call.outcome

def writing (s : Conversation) : Option (Nat × List Entry) :=
  s.turn.map fun t => (t.call, t.unwritten)

theorem standing_update (i : Nat) {change : Call → Call}
    (same : ∀ call, (change call).outcome = call.outcome) :
    (s.update i change).standing = s.standing := by
  funext j
  simp only [standing, update, List.getElem?_modify, Option.map_eq_map, Option.map_map]
  refine congrArg (Option.map · _) (funext fun call => ?_)
  simp only [Function.comp]
  split
  · exact same call
  · rfl

theorem standing_finish {i : Nat} (prepared : s.standing i ≠ none) (captured : Capture)
    (status : Except EngineError Unit) :
    (s.finish i captured status).standing =
      Function.update s.standing i (some (some (captured, status))) := by
  funext j
  by_cases here : j = i
  · subst here
    cases found : s.calls[j]? with
    | none => simp [standing, found] at prepared
    | some call => simp [standing, finish, update, found]
  · simp [standing, finish, update, here, Ne.symm here]

theorem standing_prepare (command : String) :
    ({ s with calls := s.calls ++ [{ command }] } : Conversation).standing =
      Function.update s.standing s.calls.length (some none) := by
  funext j
  by_cases here : j = s.calls.length
  · subst here
    simp [standing]
  · by_cases inside : j < s.calls.length
    · simp [standing, here, List.getElem?_append_left inside]
    · have beyond : s.calls.length + 1 ≤ j := by omega
      have none : (s.calls ++ [({ command } : Call)])[j]? = none :=
        List.getElem?_eq_none (by simpa using beyond)
      have before : s.calls[j]? = Option.none := List.getElem?_eq_none (by omega)
      simp [standing, here, none, before]

theorem standing_of_waits {i : Nat} (waits : s.waits i = true) : s.standing i = some none := by
  obtain ⟨call, found, waiting⟩ := waits_iff.mp waits
  simp [standing, found, waiting]

theorem input_kept {e : Event} (quiet : s'.fetchedAt e = [])
    (same : s'.wire.entries = s.wire.entries) :
    s'.input (read ++ s'.fetchedAt e) = s.input read := by
  rw [quiet, List.append_nil, input, same, input]

theorem input_fetched {wire : Wire} (fetched : s.wire.fetch reply = some wire) :
    ({ s with wire } : Conversation).input (read ++ fetchedAt { s with wire } .fetch) =
      s.input read := by
  obtain ⟨_, _, e, entries, waiting, rfl⟩ := Wire.fetch_some fetched
  show (read ++ [e]) ++ entries = read ++ s.wire.entries
  rw [waiting, List.append_assoc, List.singleton_append]

theorem Tidy.ended {input rest : List Entry} {order : List Nat} {i : Nat} {unwritten : List Entry}
    (tidy : Tidy s.standing (some (i, unwritten)) s.wire.ended input order rest) (captured : Capture)
    {status : Except EngineError Unit}
    (settled : unwritten = [] ∨ (∃ e, status = .error (.io e)) ∧ s.wire.ended ≠ none) :
    Tidy (s.finish i captured status).standing none s.wire.ended input order rest := by
  have prepared : s.standing i ≠ none := by simp [tidy.waits i unwritten rfl]
  rw [standing_finish prepared]
  exact tidy.finish settled

theorem Tidy.stays {order : List Nat} {rest : List Entry} {e : Event}
    (tidy : Tidy s'.standing s'.writing s'.wire.ended (s.input read) order rest)
    (quiet : s'.fetchedAt e = []) (same : s'.wire.entries = s.wire.entries) :
    ∃ order rest, Tidy s'.standing s'.writing s'.wire.ended (s'.input (read ++ s'.fetchedAt e))
      order rest := by
  rw [input_kept quiet same]
  exact ⟨order, rest, tidy⟩

theorem Tidy.step {order : List Nat} {rest : List Entry}
    (tidy : Tidy s.standing s.writing s.wire.ended (s.input read) order rest) {e : Event}
    (done : s.step reply e = some s') :
    ∃ order rest, Tidy s'.standing s'.writing s'.wire.ended (s'.input (read ++ s'.fetchedAt e))
      order rest := by
  cases step_moves done with
  | wrote i e unwritten captured turn living =>
    rw [show s.writing = some (i, e :: unwritten) by simp [writing, turn], living] at tidy
    -- the line goes behind all that has reached the debugger
    have grown : (read ++ []) ++ (s.wire.entries ++ [e]) = s.input read ++ [e] := by
      rw [input, List.append_nil, List.append_assoc]
    refine ⟨order, unwritten, ?_⟩
    show Tidy s.standing (some (i, unwritten)) s.wire.ended ((read ++ []) ++ (s.wire.entries ++ [e]))
      order unwritten
    rw [living, grown]
    exact tidy.write
  | fetched wire fetched =>
    have same : wire.ended = s.wire.ended := by
      obtain ⟨_, _, _, _, _, rfl⟩ := Wire.fetch_some fetched
      rfl
    refine ⟨order, rest, ?_⟩
    rw [input_fetched fetched]
    show Tidy s.standing s.writing wire.ended _ order rest
    rw [same]
    exact tidy
  | refused => exact tidy.stays rfl rfl
  | prepared command =>
    have prepared := tidy.prepare (k := s.calls.length) (by simp [standing])
    rw [← standing_prepare command] at prepared
    exact prepared.stays rfl rfl
  | began i free waits =>
    rw [show s.writing = none by simp [writing, free]] at tidy
    exact (tidy.begin (standing_of_waits waits)).stays rfl rfl
  | unwritable i first unwritten captured e turn gone =>
    rw [show s.writing = some (i, first :: unwritten) by simp [writing, turn]] at tidy
    exact (tidy.ended captured (.inr ⟨⟨e, rfl⟩, Option.isSome_iff_ne_none.mp gone⟩)).stays rfl rfl
  | done i captured line lines turn waiting marked =>
    rw [show s.writing = some (i, []) by simp [writing, turn]] at tidy
    exact (tidy.ended captured (.inl rfl)).stays rfl rfl
  | ceased i captured turn nothing ceased =>
    rw [show s.writing = some (i, []) by simp [writing, turn]] at tidy
    exact (tidy.ended captured (.inl rfl)).stays rfl rfl
  | heard i captured line lines turn waiting free =>
    rw [show s.writing = some (i, []) by simp [writing, turn]] at tidy
    exact tidy.stays rfl rfl
  | read wire read =>
    obtain ⟨ended, entries, _⟩ := (Wire.read_some read).2.same
    refine Tidy.stays (?_ : Tidy s.standing s.writing wire.ended _ order rest) rfl entries
    rw [ended]
    exact tidy
  | printed count i bytes wire printed =>
    obtain ⟨_, _, _, _, _, _, rfl⟩ := Wire.print_some printed
    refine Tidy.stays (?_ : Tidy (update s _ _).standing s.writing s.wire.ended _ order rest) rfl rfl
    rw [standing_update]
    · exact tidy
    · exact fun _ => rfl
  | left status living =>
    rw [living] at tidy
    exact (tidy.leave status).stays rfl rfl
  | interrupted | detached =>
    refine Tidy.stays (?_ : Tidy (update s _ _).standing s.writing s.wire.ended _ order rest) rfl rfl
    rw [standing_update]
    · exact tidy
    · exact fun _ => rfl

theorem Observed.reachable {program : String} {nonce : Nat}
    (observed : Observed reply program nonce s read) : Reachable reply program nonce s := by
  induction observed with
  | start => exact .start
  | step e _ done reached => exact .step e reached done

theorem Observed.tidy {program : String} {nonce : Nat}
    (observed : Observed reply program nonce s read) :
    ∃ order rest, Tidy s.standing s.writing s.wire.ended (s.input read) order rest := by
  induction observed with
  | start =>
    have nobody : standing { program, nonce } = fun _ => none := by
      funext i
      simp [standing]
    refine ⟨[], [], ?_⟩
    rw [nobody]
    exact .start
  | step e _ done tidy =>
    obtain ⟨order, rest, tidy⟩ := tidy
    exact tidy.step done

end Steps

/-! ## The bytes -/

def sent (s : Conversation) (lines : List Entry) : List UInt8 := lineBytes (lines.map s.lineOf)

theorem sent_append (s : Conversation) (first second : List Entry) :
    s.sent (first ++ second) = s.sent first ++ s.sent second := by
  rw [sent, List.map_append, lineBytes_append, sent, sent]

theorem count_lineBytes {lines : List String} (single : ∀ line ∈ lines, '\n' ∉ line.toList) :
    (lineBytes lines).count 10 = lines.length := by
  induction lines with
  | nil => rfl
  | cons line lines ih =>
    have free := List.count_eq_zero.mpr (newline_free (single line List.mem_cons_self))
    have later := ih fun more member => single more (List.mem_cons_of_mem _ member)
    rw [lineBytes_cons, List.count_append, free, List.count_cons_self, later, List.length_cons,
      Nat.zero_add]

theorem unreturned_lineBytes {lines : List String}
    (unreturned : ∀ line ∈ lines, '\r' ∉ line.toList) : 13 ∉ lineBytes lines := by
  intro member
  obtain ⟨line, here, member⟩ := List.mem_flatMap.mp member
  rcases List.mem_append.mp member with inside | newline
  · exact unreturned line here (char_of_low_byte inside (by decide))
  · simp at newline

section Reached

variable {reply : Entry → List UInt8} {program : String} {nonce : Nat} {s : Conversation}
  {read : List Entry}

theorem Tidy.prepared {turn : Option (Nat × List Entry)} {ended : Option ExitStatus}
    {input rest : List Entry} {order : List Nat} (tidy : Tidy s.standing turn ended input order rest)
    {i : Nat} (begun : i ∈ order) : ∃ call, s.calls[i]? = some call := by
  cases found : s.calls[i]? with
  | some call => exact ⟨call, rfl⟩
  | none =>
    have nothing : s.standing i = none := by simp [standing, found]
    rcases tidy.begun i begun with ⟨unwritten, has⟩ | ⟨outcome, stands⟩
    · have waits := tidy.waits i unwritten has
      rw [nothing] at waits
      contradiction
    · rw [nothing] at stands
      contradiction

def markerLine (nonce i : Nat) : String := "echo " ++ marker nonce i ++ "\\n"

theorem markerLine_unbroken (nonce i : Nat) : ¬ Broken (markerLine nonce i) := by
  have single := marker_single nonce i
  have unreturned := marker_no_return nonce i
  simp [Broken, markerLine, single, unreturned]

theorem lineOf_unbroken (reached : Reachable reply program nonce s) {e : Entry} {call : Call}
    (found : s.calls[e.call]? = some call) : ¬ Broken (s.lineOf e) := by
  cases e with
  | command i =>
    have text : s.lineOf (.command i) = call.command := by
      have found : s.calls[i]? = some call := found
      simp [lineOf, found]
    rw [text]
    exact reached.unbroken call (List.mem_of_getElem? found)
  | marker i => exact markerLine_unbroken s.nonce i

theorem sent_pair {i : Nat} {call : Call} (found : s.calls[i]? = some call) :
    s.sent (pair i) = toBytes (written call.command (marker s.nonce i)) := by
  simp [sent, pair, lineOf, found, written_lineBytes]

theorem sent_pairs {order : List Nat} (prepared : ∀ i ∈ order, ∃ call, s.calls[i]? = some call) :
    s.sent (order.flatMap pair) =
      order.flatMap fun i => toBytes (written (s.lineOf (.command i)) (marker s.nonce i)) := by
  induction order with
  | nil => rfl
  | cons i order ih =>
    obtain ⟨call, found⟩ := prepared i List.mem_cons_self
    have text : s.lineOf (.command i) = call.command := by simp [lineOf, found]
    rw [List.flatMap_cons, sent_append, sent_pair found, List.flatMap_cons, text,
      ih fun j member => prepared j (List.mem_cons_of_mem _ member)]

theorem Observed.cut (observed : Observed reply program nonce s read) :
    cutLines (s.sent (s.input read)) = ((s.input read).map fun e => toBytes (s.lineOf e), []) := by
  obtain ⟨order, rest, tidy⟩ := observed.tidy
  have single : ∀ line ∈ (s.input read).map s.lineOf, '\n' ∉ line.toList := by
    intro line member newline
    obtain ⟨e, here, rfl⟩ := List.mem_map.mp member
    obtain ⟨i, begun, own⟩ := List.mem_flatMap.mp (tidy.shape ▸ List.mem_append_left rest here)
    obtain ⟨call, found⟩ := tidy.prepared begun
    rw [← mem_pair own] at found
    exact lineOf_unbroken observed.reachable found (.inl newline)
  have cut := cutLines_lineBytes single (List.not_mem_nil : 10 ∉ ([] : List UInt8))
  rw [List.append_nil, List.map_map] at cut
  exact cut

/-- All that is written for a call has reached the debugger, in one piece and once. -/
def Arrived (s : Conversation) (input : List Entry) (i : Nat) (command : String) : Prop :=
  ∃ before after, input = before ++ pair i ++ after ∧ (∀ e ∈ before ++ after, e.call ≠ i) ∧
    s.sent input = s.sent before ++ toBytes (written command (marker s.nonce i)) ++ s.sent after

/-- Its command has reached the debugger and nothing after it: the call is about to ask for its marker,
or the debugger has ended. -/
def Unasked (s : Conversation) (input : List Entry) (i : Nat) (command : String) : Prop :=
  ∃ before, input = before ++ [.command i] ∧ (∀ e ∈ before, e.call ≠ i) ∧
    s.sent input = s.sent before ++ toBytes command ++ [10] ∧
    (s.wire.ended = none → s.writing = some (i, [.marker i]))

/-- What is written for a call is its command on a line of its own and the request for its marker. All of
that reaches the debugger, unless the call goes on or cannot write because the debugger has ended. -/
structure OnOneLine (s : Conversation) (input : List Entry) (i : Nat) (command : String) : Prop where
  bytes : toBytes (written command (marker s.nonce i)) =
    toBytes command ++ [10] ++ toBytes ("echo " ++ marker s.nonce i ++ "\\n") ++ [10]
  newlines : (toBytes (written command (marker s.nonce i))).count 10 = 2
  unreturned : 13 ∉ toBytes (written command (marker s.nonce i))
  lines : cutLines (toBytes (written command (marker s.nonce i))) =
    ([toBytes command, toBytes ("echo " ++ marker s.nonce i ++ "\\n")], [])
  progress : (∀ e ∈ input, e.call ≠ i) ∨ Unasked s input i command ∨ Arrived s input i command
  complete : s.writing = some (i, []) → Arrived s input i command
  ended : ∀ call captured status, s.calls[i]? = some call → call.outcome = some (captured, status) →
    Arrived s input i command ∨ (∃ e, status = .error (.io e)) ∧ s.wire.ended ≠ none

theorem Observed.onOneLine (observed : Observed reply program nonce s read) {i : Nat} {call : Call}
    (found : s.calls[i]? = some call) : OnOneLine s (s.input read) i call.command := by
  obtain ⟨order, rest, tidy⟩ := observed.tidy
  have unbroken : ∀ line ∈ [call.command, markerLine s.nonce i], ¬ Broken line := by
    have command := observed.reachable.unbroken call (List.mem_of_getElem? found)
    have mark := markerLine_unbroken s.nonce i
    simp [command, mark]
  have single : ∀ line ∈ [call.command, markerLine s.nonce i], '\n' ∉ line.toList :=
    fun line member newline => unbroken line member (.inl newline)
  have stream : toBytes (written call.command (marker s.nonce i)) =
      lineBytes [call.command, markerLine s.nonce i] := written_lineBytes _ _
  have arrived {before after : List Entry} (whole : s.input read = before ++ pair i ++ after)
      (others : ∀ e ∈ before ++ after, e.call ≠ i) : Arrived s (s.input read) i call.command := by
    refine ⟨before, after, whole, others, ?_⟩
    rw [whole, sent_append, sent_append, sent_pair found]
  have asked (asks : .marker i ∈ s.input read) : Arrived s (s.input read) i call.command := by
    obtain ⟨before, after, whole, others⟩ := tidy.whole asks
    exact arrived whole others
  refine ⟨?_, ?_, ?_, ?_, ?_, fun complete => asked (tidy.complete i complete), ?_⟩
  · rw [stream]
    simp [lineBytes, markerLine]
  · rw [stream, count_lineBytes single]
    rfl
  · rw [stream]
    exact unreturned_lineBytes fun line member returned => unbroken line member (.inr returned)
  · rw [observed.reachable.written found]
    simp [lineOf, found]
  · rcases tidy.arrived i with nothing | ⟨before, last, others, living⟩ | ⟨before, after, whole, others⟩
    · exact .inl nothing
    · refine .inr (.inl ⟨before, last, others, ?_, living⟩)
      rw [last, sent_append]
      simp [sent, lineBytes, lineOf, found]
    · exact .inr (.inr (arrived whole others))
  · intro call' captured status found' ends
    refine (tidy.told i captured status ?_).imp_left asked
    rw [standing, found', Option.map_some, ends]

end Reached

end Conversation

end DebugGateway.Console
