import DebugGateway.Proofs.Engine.Capture
import DebugGateway.Proofs.Engine.Hearing

namespace DebugGateway.Console

open Text

namespace Conversation

variable {script : Script} {nonce : Nat}

/-! ## What an event does -/

section Moves

variable {reply : Entry → List UInt8} {s s' : Conversation}

inductive Moves (reply : Entry → List UInt8) (s : Conversation) : Event → Conversation → Prop where
  | refused (command : String) (e : EngineError) : refusal? s.program command s.wire.ended = some e →
    Moves reply s (.prepare command) s
  | prepared (command : String) : refusal? s.program command s.wire.ended = none →
    Moves reply s (.prepare command) { s with calls := s.calls ++ [{ command }] }
  | began (i : Nat) : s.turn = none → s.waits i = true →
    Moves reply s (.begin i) { s with
      turn := some { call := i, unwritten := [.command i, .marker i] }
      wire := { s.wire with lines := [] } }
  | wrote (i : Nat) (e : Entry) (unwritten : List Entry) (captured : Capture) :
    s.turn = some { call := i, unwritten := e :: unwritten, captured } → s.wire.ended = none →
      Moves reply s .write { s with
        turn := some { call := i, unwritten, captured }
        wire := { s.wire with entries := s.wire.entries ++ [e] } }
  | unwritable (i : Nat) (first : Entry) (unwritten : List Entry) (captured : Capture) (e : IoError) :
    s.turn = some { call := i, unwritten := first :: unwritten, captured } → s.wire.ended.isSome = true →
      Moves reply s (.refuse e) { s.finish i captured (.error (.io e)) with turn := none }
  | fetched (wire : Wire) : s.wire.fetch reply = some wire → Moves reply s .fetch { s with wire }
  | printed (count i : Nat) (bytes : List UInt8) (wire : Wire) :
    s.wire.print count = some (i, bytes, wire) → Moves reply s (.print count)
      { s.update i fun call => { call with printed := call.printed ++ bytes } with wire }
  | read (wire : Wire) : s.wire.read = some wire → Moves reply s .read { s with wire }
  | heard (i : Nat) (captured : Capture) (line : String) (lines : List String) :
    s.turn = some { call := i, unwritten := [], captured } → s.wire.lines = line :: lines →
      bears (marker s.nonce i) line = false → Moves reply s .hear { s with
        turn := some
          { call := i, unwritten := []
            captured := captured.pushLine (String.ofList (stripPrompts line.toList)) }
        wire := { s.wire with lines } }
  | done (i : Nat) (captured : Capture) (line : String) (lines : List String) :
    s.turn = some { call := i, unwritten := [], captured } → s.wire.lines = line :: lines →
      bears (marker s.nonce i) line = true → Moves reply s .hear
        { s.finish i captured (.ok ()) with turn := none, wire := { s.wire with lines } }
  | ceased (i : Nat) (captured : Capture) : s.turn = some { call := i, unwritten := [], captured } →
    s.wire.lines = [] → s.wire.reading = false →
      Moves reply s .hear { s.finish i captured (.error .exited) with turn := none }
  | left (status : ExitStatus) : s.wire.ended = none →
    Moves reply s (.leave status) { s with wire := { s.wire with ended := some status } }
  | interrupted (i : Nat) : Moves reply s (.interrupt i) (s.update i ({ · with interrupted := true }))
  | detached (i : Nat) : Moves reply s (.detach i) (s.update i ({ · with detached := true }))

theorem hear_moves (done : s.step reply .hear = some s') : Moves reply s .hear s' := by
  simp only [step] at done
  split at done
  · rename_i i captured line lines turn waiting
    rw [listen] at done
    cases marked : bears (marker s.nonce i) line with
    | true =>
      rw [marked, if_pos rfl] at done
      cases done
      exact .done i captured line lines turn waiting marked
    | false =>
      rw [marked, if_neg Bool.false_ne_true] at done
      cases done
      exact .heard i captured line lines turn waiting marked
  · rename_i i captured turn nothing
    split at done
    · contradiction
    · rename_i ceased
      cases done
      exact .ceased i captured turn nothing (Bool.not_eq_true _ ▸ ceased)
  · contradiction

theorem step_moves {e : Event} (done : s.step reply e = some s') : Moves reply s e s' := by
  cases e with
  | prepare command =>
    simp only [step] at done
    split at done
    · rename_i e refused
      cases done
      exact .refused command e refused
    · rename_i accepted
      cases done
      exact .prepared command accepted
  | begin i =>
    simp only [step, Bool.and_eq_true, Option.isNone_iff_eq_none] at done
    split at done
    · rename_i free
      cases done
      exact .began i free.1 free.2
    · contradiction
  | write =>
    simp only [step] at done
    split at done
    · rename_i i e unwritten captured turn living
      cases done
      exact .wrote i e unwritten captured turn living
    · contradiction
  | refuse e =>
    simp only [step] at done
    split at done
    · rename_i i first unwritten captured status turn ended
      cases done
      exact .unwritable i first unwritten captured e turn (by rw [ended]; rfl)
    · contradiction
  | fetch =>
    obtain ⟨wire, fetched, rfl⟩ := Option.map_eq_some_iff.mp done
    exact .fetched wire fetched
  | print count =>
    obtain ⟨⟨i, bytes, wire⟩, printed, rfl⟩ := Option.map_eq_some_iff.mp done
    exact .printed count i bytes wire printed
  | read =>
    obtain ⟨wire, read, rfl⟩ := Option.map_eq_some_iff.mp done
    exact .read wire read
  | hear => exact hear_moves done
  | leave status =>
    simp only [step, Option.isNone_iff_eq_none] at done
    split at done
    · rename_i living
      cases done
      exact .left status living
    · contradiction
  | interrupt i =>
    cases done
    exact .interrupted i
  | detach i =>
    cases done
    exact .detached i

end Moves

def Held (script : Script) (nonce : Nat) (t : Turn) (w : Wire) (printed : List UInt8) : Prop :=
  Doomed t w ∨ Flowing script nonce t w printed

structure Sound (script : Script) (nonce : Nat) (s : Conversation) : Prop where
  named : s.nonce = nonce
  told : ∀ j call, s.calls[j]? = some call → ∀ captured status, call.outcome = some (captured, status) →
    Reports script nonce j s.wire.ended call.printed captured status
  fresh : ∀ j call, s.calls[j]? = some call → call.outcome = none →
    (∀ t, s.turn = some t → t.call ≠ j) → call.printed = []
  idle : s.turn = none → s.wire.Idle (script.reply nonce)
  held : ∀ t, s.turn = some t → ∃ call, s.calls[t.call]? = some call ∧ call.outcome = none ∧
    Held script nonce t s.wire call.printed

section Wires

variable {t : Turn} {w w' : Wire} {printed : List UInt8}

theorem Held.fetch (held : Held script nonce t w printed)
    (done : w.fetch (script.reply nonce) = some w') : Held script nonce t w' printed := by
  rcases held with doomed | flowing
  · have gone := doomed.gone
    rw [(Wire.fetch_some done).1] at gone
    contradiction
  · exact .inr (flowing.fetch done)

theorem Held.read (proper : script.Proper nonce) (held : Held script nonce t w printed)
    (done : w.read = some w') : Held script nonce t w' printed := by
  rcases held with ⟨gone, unwritten, fresh⟩ | flowing
  · obtain ⟨ended, _⟩ := (Wire.read_some done).2.same
    exact .inl ⟨by rw [ended]; exact gone, unwritten, fresh⟩
  · exact .inr (flowing.read proper done)

theorem Held.leave (held : Held script nonce t w printed) (status : ExitStatus) :
    Held script nonce t { w with ended := some status } printed := by
  rcases held with ⟨_, unwritten, fresh⟩ | flowing
  · exact .inl ⟨rfl, unwritten, fresh⟩
  · exact flowing.leave status

theorem Held.print {count j : Nat} {bytes : List UInt8} (held : Held script nonce t w printed)
    (done : w.print count = some (j, bytes, w')) :
    j = t.call ∧ Held script nonce t w' (printed ++ bytes) := by
  rcases held with doomed | flowing
  · have gone := doomed.gone
    rw [(Wire.print_some done).1] at gone
    contradiction
  · obtain ⟨own, flowing'⟩ := flowing.print done
    exact ⟨own, .inr flowing'⟩

end Wires

section Steps

variable {s s' : Conversation}

theorem update_get {i j : Nat} {change : Call → Call} {call : Call}
    (found : (s.update i change).calls[j]? = some call) :
    ∃ old, s.calls[j]? = some old ∧ (i = j ∧ call = change old ∨ i ≠ j ∧ call = old) := by
  simp only [update, List.getElem?_modify] at found
  cases stands : s.calls[j]? with
  | none => simp [stands] at found
  | some old =>
    simp only [stands, Option.map_eq_map, Option.map_some, Option.some.injEq] at found
    refine ⟨old, rfl, ?_⟩
    split at found
    · rename_i same
      exact .inl ⟨same, found.symm⟩
    · rename_i other
      exact .inr ⟨other, found.symm⟩

theorem update_own {i : Nat} {change : Call → Call} {call : Call} (found : s.calls[i]? = some call) :
    (s.update i change).calls[i]? = some (change call) := by
  simp [update, found]

theorem Sound.rewired (sound : Sound script nonce s) {wire : Wire}
    (gone : s.wire.ended.isSome = true → wire.ended.isSome = true)
    (idle : s.turn = none → wire.Idle (script.reply nonce))
    (held : ∀ t printed, Held script nonce t s.wire printed → Held script nonce t wire printed) :
    Sound script nonce { s with wire } where
  named := sound.named
  told j call found captured status ended := (sound.told j call found captured status ended).later gone
  fresh := sound.fresh
  idle := idle
  held t turn := by
    obtain ⟨call, found, waits, holds⟩ := sound.held t turn
    exact ⟨call, found, waits, held t _ holds⟩

theorem Sound.marked (sound : Sound script nonce s) (i : Nat) {change : Call → Call}
    (printed : ∀ call, (change call).printed = call.printed)
    (outcome : ∀ call, (change call).outcome = call.outcome) :
    Sound script nonce (s.update i change) := by
  have same {j : Nat} {call : Call} (found : (s.update i change).calls[j]? = some call) :
      ∃ old, s.calls[j]? = some old ∧ call.printed = old.printed ∧ call.outcome = old.outcome := by
    obtain ⟨old, origin, ⟨_, rfl⟩ | ⟨_, rfl⟩⟩ := update_get found
    · exact ⟨old, origin, printed old, outcome old⟩
    · exact ⟨call, origin, rfl, rfl⟩
  refine ⟨sound.named, ?_, ?_, sound.idle, ?_⟩
  · intro j call found captured status ended
    obtain ⟨old, origin, print, out⟩ := same found
    rw [out] at ended
    rw [print]
    exact sound.told j old origin captured status ended
  · intro j call found waits away
    obtain ⟨old, origin, print, out⟩ := same found
    rw [out] at waits
    rw [print]
    exact sound.fresh j old origin waits away
  · intro t turn
    obtain ⟨call, found, waits, holds⟩ := sound.held t turn
    by_cases own : i = t.call
    · subst own
      exact ⟨change call, update_own found, (outcome call).trans waits, by rw [printed]; exact holds⟩
    · exact ⟨call, by simp [update, own, found], waits, holds⟩

theorem Sound.finish (sound : Sound script nonce s) {t : Turn} (turn : s.turn = some t) {call : Call}
    (found : s.calls[t.call]? = some call) {captured : Capture} {status : Except EngineError Unit}
    {wire : Wire} (ended : wire.ended = s.wire.ended)
    (reports : Reports script nonce t.call s.wire.ended call.printed captured status)
    (idle : wire.Idle (script.reply nonce)) :
    Sound script nonce { s.finish t.call captured status with turn := none, wire } := by
  refine ⟨sound.named, ?_, ?_, fun _ => idle, nofun⟩
  · intro j call' found' captured' status' told
    show Reports script nonce j wire.ended _ _ _
    rw [ended]
    obtain ⟨old, origin, ⟨rfl, rfl⟩ | ⟨_, rfl⟩⟩ := update_get found'
    · obtain rfl : call = old := Option.some.inj (found.symm.trans origin)
      obtain ⟨rfl, rfl⟩ := Prod.mk.inj (Option.some.inj told)
      exact reports
    · exact sound.told j _ origin captured' status' told
  · intro j call' found' waits _
    obtain ⟨old, origin, ⟨rfl, rfl⟩ | ⟨other, rfl⟩⟩ := update_get found'
    · contradiction
    · refine sound.fresh j _ origin waits fun t' turn' => ?_
      obtain rfl : t = t' := Option.some.inj (turn.symm.trans turn')
      exact other

theorem Sound.prepare (sound : Sound script nonce s) (command : String) :
    Sound script nonce { s with calls := s.calls ++ [{ command }] } := by
  have old {j : Nat} {call : Call} (found : (s.calls ++ [({ command } : Call)])[j]? = some call) :
      s.calls[j]? = some call ∨ call = ({ command } : Call) := by
    by_cases inside : j < s.calls.length
    · rw [List.getElem?_append_left inside] at found
      exact .inl found
    · rw [List.getElem?_append_right (by omega)] at found
      exact .inr (List.mem_singleton.mp (List.mem_of_getElem? found))
  refine ⟨sound.named, ?_, ?_, sound.idle, ?_⟩
  · intro j call found captured status ended
    rcases old found with origin | rfl
    · exact sound.told j call origin captured status ended
    · contradiction
  · intro j call found waits away
    rcases old found with origin | rfl
    · exact sound.fresh j call origin waits away
    · rfl
  · intro t turn
    obtain ⟨call, found, waits, holds⟩ := sound.held t turn
    have inside := (List.getElem?_eq_some_iff.mp found).1
    exact ⟨call, (List.getElem?_append_left inside).trans found, waits, holds⟩

theorem waits_iff {i : Nat} :
    s.waits i = true ↔ ∃ call, s.calls[i]? = some call ∧ call.outcome = none := by
  unfold waits
  cases s.calls[i]? <;> simp

theorem Sound.begin (sound : Sound script nonce s) {i : Nat} (free : s.turn = none)
    (waits : s.waits i = true) :
    Sound script nonce { s with
      turn := some { call := i, unwritten := [.command i, .marker i] }
      wire := { s.wire with lines := [] } } := by
  obtain ⟨call, found, waiting⟩ := waits_iff.mp waits
  refine ⟨sound.named, sound.told, ?_, nofun, ?_⟩
  · intro j other there open_ _
    exact sound.fresh j other there open_ (by simp [free])
  · intro t turn
    obtain rfl := Option.some.inj turn
    have nothing := sound.fresh i call found waiting (by simp [free])
    refine ⟨call, found, waiting, ?_⟩
    rw [nothing]
    exact idle_begin (sound.idle free) i

theorem Sound.goes (sound : Sound script nonce s) {t t' : Turn} (turn : s.turn = some t)
    (same : t'.call = t.call) {wire : Wire} (ended : wire.ended = s.wire.ended)
    (held : ∀ printed, Held script nonce t s.wire printed → Held script nonce t' wire printed) :
    Sound script nonce { s with turn := some t', wire } := by
  obtain ⟨call, found, waits, holds⟩ := sound.held t turn
  refine ⟨sound.named, ?_, ?_, nofun, ?_⟩
  · intro j other there captured status told
    show Reports script nonce j wire.ended _ _ _
    rw [ended]
    exact sound.told j other there captured status told
  · intro j other there open_ away
    refine sound.fresh j other there open_ fun t'' turn' => ?_
    obtain rfl : t = t'' := Option.some.inj (turn.symm.trans turn')
    rw [← same]
    exact away t' rfl
  · intro t'' turn'
    obtain rfl := Option.some.inj turn'
    rw [same]
    exact ⟨call, found, waits, held _ holds⟩

theorem Sound.print (sound : Sound script nonce s) {count i : Nat} {bytes : List UInt8} {wire : Wire}
    (done : s.wire.print count = some (i, bytes, wire)) :
    Sound script nonce
      { s.update i fun call => { call with printed := call.printed ++ bytes } with wire } := by
  -- nothing is printed but for the call that has the console
  cases turn : s.turn with
  | none => exact absurd done (sound.idle turn).print
  | some t =>
    obtain ⟨call, found, waits, holds⟩ := sound.held t turn
    obtain ⟨rfl, holds'⟩ := holds.print done
    have ended : wire.ended = s.wire.ended := by
      obtain ⟨_, _, _, _, _, _, rfl⟩ := Wire.print_some done
      rfl
    refine ⟨sound.named, ?_, ?_, ?_, ?_⟩
    · intro j other there captured status told
      show Reports script nonce j wire.ended _ _ _
      rw [ended]
      obtain ⟨old, origin, ⟨rfl, rfl⟩ | ⟨_, rfl⟩⟩ := update_get there
      · obtain rfl : call = old := Option.some.inj (found.symm.trans origin)
        rw [show call.outcome = _ from told] at waits
        contradiction
      · exact sound.told j _ origin captured status told
    · intro j other there open_ away
      obtain ⟨old, origin, ⟨rfl, rfl⟩ | ⟨_, rfl⟩⟩ := update_get there
      · exact absurd rfl (away t turn)
      · exact sound.fresh j _ origin open_ away
    · intro free
      rw [show s.turn = none from free] at turn
      contradiction
    · intro t' turn'
      obtain rfl : t = t' := Option.some.inj (turn.symm.trans turn')
      exact ⟨_, update_own found, waits, holds'⟩

theorem Sound.flowing (sound : Sound script nonce s) {i : Nat} {captured : Capture}
    (turn : s.turn = some { call := i, unwritten := [], captured }) :
    ∃ call, s.calls[i]? = some call ∧
      Flowing script nonce { call := i, unwritten := [], captured } s.wire call.printed := by
  obtain ⟨call, found, _, doomed | flowing⟩ := sound.held _ turn
  · exact absurd rfl doomed.unwritten
  · exact ⟨call, found, flowing⟩

theorem Sound.heard (sound : Sound script nonce s) {i : Nat} {captured : Capture} {line : String}
    {lines : List String} (turn : s.turn = some { call := i, unwritten := [], captured })
    (waiting : s.wire.lines = line :: lines) (free : bears (marker nonce i) line = false) :
    Sound script nonce { s with
      turn := some
        { call := i, unwritten := []
          captured := captured.pushLine (String.ofList (stripPrompts line.toList)) }
      wire := { s.wire with lines } } := by
  refine sound.goes turn ?_ ?_ fun printed held => ?_
  · rfl
  · rfl
  · rcases held with doomed | flowing
    · exact absurd rfl doomed.unwritten
    · exact .inr (flowing.hear_unmarked rfl waiting free)

theorem Sound.ceased (proper : script.Proper nonce) (sound : Sound script nonce s) {i : Nat}
    {captured : Capture} (turn : s.turn = some { call := i, unwritten := [], captured })
    (nothing : s.wire.lines = []) (ceased : s.wire.reading = false) :
    Sound script nonce { s.finish i captured (.error .exited) with turn := none } := by
  obtain ⟨call, found, flowing⟩ := sound.flowing turn
  refine sound.finish turn found rfl (flowing.hear_end proper nothing ceased) fun living => ?_
  rw [(flowing.live living).reading] at ceased
  contradiction

theorem Sound.wrote (sound : Sound script nonce s) {i : Nat} {e : Entry} {unwritten : List Entry}
    {captured : Capture} (turn : s.turn = some { call := i, unwritten := e :: unwritten, captured })
    (living : s.wire.ended = none) :
    Sound script nonce { s with
      turn := some { call := i, unwritten, captured }
      wire := { s.wire with entries := s.wire.entries ++ [e] } } := by
  refine sound.goes turn ?_ ?_ fun printed held => ?_
  · rfl
  · rfl
  · rcases held with doomed | flowing
    · have gone := doomed.gone
      rw [living] at gone
      contradiction
    · exact .inr (flowing.write rfl living)

theorem Sound.unwritable (sound : Sound script nonce s) {i : Nat} {first : Entry}
    {unwritten : List Entry} {captured : Capture}
    (turn : s.turn = some { call := i, unwritten := first :: unwritten, captured })
    (gone : s.wire.ended.isSome = true) (e : IoError) :
    Sound script nonce { s.finish i captured (.error (.io e)) with turn := none } := by
  obtain ⟨call, found, waits, holds⟩ := sound.held _ turn
  have fresh : captured.text = "" := by
    rcases holds with doomed | flowing
    · exact doomed.fresh
    · exact flowing.fresh (List.cons_ne_nil _ _)
  refine sound.finish turn found rfl (.unwritten gone fresh) fun living => ?_
  rw [show s.wire.ended = none from living] at gone
  contradiction

theorem Sound.step (proper : script.Proper nonce) (sound : Sound script nonce s) {e : Event}
    (done : s.step (script.reply nonce) e = some s') : Sound script nonce s' := by
  cases step_moves done with
  | refused => exact sound
  | prepared command => exact sound.prepare command
  | began i free waits => exact sound.begin free waits
  | wrote i e unwritten captured turn living => exact sound.wrote turn living
  | unwritable i first unwritten captured e turn gone => exact sound.unwritable turn gone e
  | fetched wire fetched =>
    have living := (Wire.fetch_some fetched).1
    refine sound.rewired ?_ (fun free => (sound.idle free).fetch fetched) fun t printed held =>
      held.fetch fetched
    intro gone
    rw [living] at gone
    contradiction
  | printed count i bytes wire printed => exact sound.print printed
  | read wire read =>
    obtain ⟨ended, _⟩ := (Wire.read_some read).2.same
    refine sound.rewired ?_ (fun free => (sound.idle free).read read) fun t printed held =>
      held.read proper read
    rw [ended]
    exact fun gone => gone
  | heard i captured line lines turn waiting free =>
    obtain rfl := sound.named
    exact sound.heard turn waiting free
  | done i captured line lines turn waiting marked =>
    obtain rfl := sound.named
    obtain ⟨call, found, flowing⟩ := sound.flowing turn
    obtain ⟨reports, idle⟩ := flowing.hear_marked proper rfl waiting marked
    exact sound.finish turn found rfl reports idle
  | ceased i captured turn nothing ceased => exact sound.ceased proper turn nothing ceased
  | left status living =>
    exact sound.rewired (fun _ => rfl) (fun _ => nofun) fun t printed held => held.leave status
  | interrupted i => exact sound.marked i (fun _ => rfl) fun _ => rfl
  | detached i => exact sound.marked i (fun _ => rfl) fun _ => rfl

end Steps

theorem Reachable.sound (proper : script.Proper nonce) {program : String} {s : Conversation}
    (reached : Reachable (script.reply nonce) program nonce s) : Sound script nonce s := by
  induction reached with
  | start =>
    refine ⟨rfl, ?_, ?_, fun _ _ => ⟨rfl, rfl, rfl, rfl⟩, ?_⟩
    · intro j call found
      simp at found
    · intro j call found
      simp at found
    · intro t turn
      contradiction
  | step e _ done sound => exact sound.step proper done

/-! ## What is written -/

theorem update_command {s : Conversation} {i : Nat} {change : Call → Call} {call : Call}
    (member : call ∈ (s.update i change).calls)
    (same : ∀ call, (change call).command = call.command) :
    ∃ old ∈ s.calls, call.command = old.command := by
  obtain ⟨j, found⟩ := List.mem_iff_getElem?.mp member
  obtain ⟨old, origin, ⟨_, rfl⟩ | ⟨_, rfl⟩⟩ := update_get found
  · exact ⟨old, List.mem_of_getElem? origin, same old⟩
  · exact ⟨call, List.mem_of_getElem? origin, rfl⟩

def Broken (command : String) : Prop := '\n' ∈ command.toList ∨ '\r' ∈ command.toList

theorem broken_iff (command : String) :
    Broken command ↔ command.toList.any (fun c => c = '\n' || c = '\r') = true := by
  simp only [Broken, List.any_eq_true, Bool.or_eq_true, decide_eq_true_eq]
  constructor
  · rintro (member | member)
    · exact ⟨_, member, .inl rfl⟩
    · exact ⟨_, member, .inr rfl⟩
  · rintro ⟨c, member, rfl | rfl⟩
    · exact .inl member
    · exact .inr member

theorem refusal_broken {program command : String} {ended : Option ExitStatus}
    (broken : Broken command) :
    refusal? program command ended = some (.failed "commands must fit on a single line") := by
  rw [refusal?, if_pos ((broken_iff command).mp broken)]

theorem refusal_unbroken {program command : String} {ended : Option ExitStatus}
    (accepted : refusal? program command ended = none) : ¬ Broken command := by
  intro broken
  rw [refusal_broken broken] at accepted
  contradiction

theorem step_commands {reply : Entry → List UInt8} {s s' : Conversation} {e : Event}
    (done : s.step reply e = some s') {call : Call} (member : call ∈ s'.calls) :
    (∃ old ∈ s.calls, call.command = old.command) ∨ ¬ Broken call.command := by
  cases step_moves done with
  | prepared command accepted =>
    rcases List.mem_append.mp member with old | new
    · exact .inl ⟨call, old, rfl⟩
    · rw [List.mem_singleton.mp new]
      exact .inr (refusal_unbroken accepted)
  | unwritable | printed | done | ceased | interrupted | detached =>
    exact .inl (update_command member fun _ => rfl)
  | refused | began | wrote | fetched | read | heard | left => exact .inl ⟨call, member, rfl⟩

theorem written_lineBytes (command mark : String) :
    toBytes (written command mark) = lineBytes [command, "echo " ++ mark ++ "\\n"] := by
  have middle : toBytes "\necho " = 10 :: toBytes "echo " := rfl
  have last : toBytes "\\n\n" = toBytes "\\n" ++ [10] := rfl
  simp only [written, lineBytes, toBytes_append, middle, last, List.flatMap_cons, List.flatMap_nil,
    List.append_assoc, List.cons_append, List.nil_append, List.append_nil]

section Reached

variable {reply : Entry → List UInt8} {program : String} {s : Conversation}

theorem Reachable.unbroken (reached : Reachable reply program nonce s) :
    ∀ call ∈ s.calls, ¬ Broken call.command := by
  induction reached with
  | start =>
    intro call member
    exact absurd member List.not_mem_nil
  | step e _ done ih =>
    intro call member
    rcases step_commands done member with ⟨old, origin, same⟩ | unbroken
    · rw [same]
      exact ih old origin
    · exact unbroken

theorem Reachable.written (reached : Reachable reply program nonce s) {i : Nat} {call : Call}
    (prepared : s.calls[i]? = some call) :
    cutLines (toBytes (written call.command (marker s.nonce i))) =
      ([Entry.command i, .marker i].map fun e => toBytes (s.lineOf e), []) := by
  have single : ∀ line ∈ [call.command, "echo " ++ marker s.nonce i ++ "\\n"], '\n' ∉ line.toList := by
    have command : '\n' ∉ call.command.toList := fun newline =>
      reached.unbroken call (List.mem_of_getElem? prepared) (.inl newline)
    have mark := marker_single s.nonce i
    simp [command, mark]
  have cut := cutLines_lineBytes single (List.not_mem_nil : 10 ∉ ([] : List UInt8))
  rw [written_lineBytes, ← List.append_nil (lineBytes _), cut]
  simp [lineOf, prepared]

/-- A call that ends well captures the same where all that is printed for it is read at once. -/
theorem Reachable.run_agrees {script : Script} (proper : script.Proper Rehearsal.trialNonce)
    (reached : Reachable (script.reply Rehearsal.trialNonce) program Rehearsal.trialNonce s)
    {c : Rehearsal.Console} (hearing : c.deaf = false) (clear : c.unread = [])
    (prints : ∀ e ∈ [Entry.command c.calls, .marker c.calls],
      c.process.react (s.lineOf e) = .prints (script.reply Rehearsal.trialNonce e))
    {call : Call} (prepared : s.calls[c.calls]? = some call) {captured : Capture}
    (ended : call.outcome = some (captured, .ok ())) :
    (c.run call.command).finish = some (.returned captured.text (.ok ())) := by
  have sound := reached.sound proper
  have text : captured.text = transcript (script.lines c.calls) := by
    cases sound.told c.calls call prepared captured _ ended with
    | ok text => exact text
  have command := prints (.command c.calls) (by simp)
  have marker := prints (.marker c.calls) (by simp)
  simp only [lineOf, prepared, Option.map_some, Option.getD_some, sound.named] at command marker
  -- one reading of all that is printed for the call
  have spoken := Rehearsal.Console.heard_lineBytes (proper.all_single (i := c.calls))
  have same : ((script.all Rehearsal.trialNonce c.calls).map fun line =>
      String.ofList (dropReturn line.toList)) = script.all Rehearsal.trialNonce c.calls := by
    refine (List.map_congr_left fun line member => ?_).trans (List.map_id' _)
    rw [dropReturn_free (proper.all_unreturned line member), String.ofList_toList]
  rw [same] at spoken
  have course : c.run call.command = c.conclude (Console.marker Rehearsal.trialNonce c.calls) false
      (lineBytes (script.all Rehearsal.trialNonce c.calls)) none := by
    simp only [Rehearsal.Console.run, hearing, Bool.false_eq_true, if_false, command, marker, clear,
      List.nil_append, Script.reply, ← lineBytes_append]
    rfl
  rw [course, text]
  exact Rehearsal.Console.conclude_marked c (proper.unmarked _) (script.markerLine_marked _ _) spoken false

end Reached

end Conversation

end DebugGateway.Console
