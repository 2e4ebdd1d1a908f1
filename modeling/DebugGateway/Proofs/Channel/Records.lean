import DebugGateway.Channel
import DebugGateway.Proofs.Channel.Rereading
import DebugGateway.Proofs.Json.Records

/-! Channels in records. A port of sixteen bits is all that is asked of a record, so a host of any
network is accepted there, whereas a text names a host that is local. -/
namespace DebugGateway.Channel

open Json

def Fits : Channel → Prop
  | unix _ => True
  | tcp _ port => port ≤ Url.greatestPort

/-! ## Texts -/

theorem parse_fits {text : String} {channel : Channel} (read : parse text = .ok channel) :
    channel.Fits ∧ channel.isLocal = true := by
  cases channel with
  | unix path => exact ⟨trivial, rfl⟩
  | tcp host port =>
    obtain ⟨loopback, small, -⟩ := tcp_read read
    exact ⟨small, loopback⟩

/-! ## What a record gives -/

theorem portOf_le {v : Value} {port : Nat} (read : portOf v = .ok port) :
    port ≤ Url.greatestPort := by
  obtain ⟨n, taken, rfl⟩ := map_eq_ok read
  cases v with
  | int m =>
    rw [IntRange.ofValue] at taken
    split at taken
    · rename_i inside
      cases taken
      have high : n ≤ 0xffff := inside.2
      show n.toNat ≤ 65535
      omega
    · cases taken
  | _ => cases taken

theorem take_fits {kind : Kind} {parts more : Parts} {member : String × Value}
    (fits : ∀ port ∈ parts.port, port ≤ Url.greatestPort)
    (taken : parts.take kind member = .ok more) : ∀ port ∈ more.port, port ≤ Url.greatestPort := by
  obtain ⟨key, value⟩ := member
  unfold Parts.take at taken
  dsimp only at taken
  split at taken
  · split at taken
    · cases taken
    · obtain ⟨path, -, rfl⟩ := map_eq_ok taken
      exact fits
  · split at taken
    · cases taken
    · obtain ⟨host, -, rfl⟩ := map_eq_ok taken
      exact fits
  · split at taken
    · cases taken
    · obtain ⟨given, read, rfl⟩ := map_eq_ok taken
      obtain ⟨port, inner, filled⟩ := bind_eq_ok read
      cases filled
      intro number member
      cases member
      exact portOf_le inner
  · cases taken
    exact fits

theorem ofMembers_fits {kind : Kind} {members : Members} {channel : Channel}
    (made : ofMembers kind members = .ok channel) : channel.Fits := by
  rw [ofMembers] at made
  obtain ⟨parts, folded, made⟩ := bind_eq_ok made
  have fits := foldlM_keeps (P := fun parts : Parts => ∀ port ∈ parts.port, port ≤ Url.greatestPort)
    (fun _ _ _ fits taken => take_fits fits taken) (by simp) folded
  cases kind with
  | unix =>
    dsimp only at made
    split at made
    · cases made
      exact trivial
    · cases made
  | tcp =>
    dsimp only at made
    split at made
    · rename_i port _ number
      cases made
      exact fits _ number
    · cases made
    · cases made

theorem ofItems_fits {kind : Kind} {items : List Value} {channel : Channel}
    (made : ofItems kind items = .ok channel) : channel.Fits := by
  unfold ofItems at made
  split at made
  · cases made
  · obtain ⟨path, -, made⟩ := bind_eq_ok made
    split at made
    · cases made
      exact trivial
    · cases made
  · cases made
  · obtain ⟨host, -, made⟩ := bind_eq_ok made
    cases made
  · obtain ⟨host, -, made⟩ := bind_eq_ok made
    obtain ⟨port, number, made⟩ := bind_eq_ok made
    split at made
    · cases made
      exact portOf_le number
    · cases made

theorem concluded_eq_ok {rest after : List Char} {made : Except Fault Channel} {channel : Channel}
    (read : concluded rest made = .ok (channel, after)) : made = .ok channel := by
  cases made with
  | error fault => cases read
  | ok c =>
    cases read
    rfl

theorem read_fits {levels : Nat} {text rest : List Char} {channel : Channel}
    (reads : read levels text = .ok (channel, rest)) : channel.Fits := by
  rw [read] at reads
  split at reads
  · cases reads
  · split at reads
    · obtain ⟨⟨⟨kind, items⟩, after⟩, -, reads⟩ := bind_eq_ok reads
      exact ofItems_fits (concluded_eq_ok reads)
    · split at reads
      · obtain ⟨⟨⟨kind, members⟩, after⟩, -, reads⟩ := bind_eq_ok reads
        exact ofMembers_fits (concluded_eq_ok reads)
      · cases reads

/-! ## What is written -/

def Kind.name : Kind → String
  | unix => "unix"
  | tcp => "tcp"

theorem lookup_kind (kind : Kind) : List.lookup kind.name kinds = some kind := by
  cases kind <;> decide

theorem readTag_written {α : Type} {known : List (String × α)} {name : String} {a : α}
    (found : List.lookup name known = some a) (rest : List Char) :
    readTag known ((Value.text name).render ++ rest) = .ok (a, rest) := by
  rw [readTag, readText_written]
  simp [found, bind, Except.bind, pure, Except.pure]

variable {levels bound : Nat}

theorem readTagged_kind (first : Bool) (kind : Kind) (seen : Members) (rest : List Char) :
    readTagged levels (bound + 1) first none seen
        (comma first ++ (writeMember Value.render (kindField, .text kind.name) ++ rest)) =
      readTagged levels bound false (some kind) seen rest := by
  rw [writeMember_append, renderText_append, readTagged, nextKey_written]
  simp only [bind, Except.bind, readQuoted_written, if_true, expectColon_written,
    readTag_written (lookup_kind kind)]
  rfl

theorem readTagged_members (first : Bool) (kind : Option Kind) {members : Members} (seen : Members)
    {rest : List Char} (other : ∀ kv ∈ members, kv.1 ≠ kindField)
    (reads : ∀ kv ∈ members, ReadsBack levels kv.2) (ends : EndsNumber rest) :
    readTagged levels (bound + members.length) first kind seen
        (separated (writeMember Value.render) first members ++ rest) =
      readTagged levels bound (first && members.isEmpty) kind (members.reverse ++ seen) rest := by
  induction members generalizing first seen with
  | nil => simp [separated]
  | cons kv members ih =>
    have goesOn : EndsNumber (separated (writeMember Value.render) false members ++ rest) := by
      cases members with
      | nil => exact ends
      | cons other members => exact endsNumber_cons _ (by decide)
    have read := reads kv (by simp) _ goesOn
    have others := ih false (kv :: seen) (fun kv member => other kv (List.mem_cons_of_mem _ member))
      (fun kv member => reads kv (List.mem_cons_of_mem _ member))
    rw [List.length_cons, ← Nat.add_assoc, separated, List.append_assoc, List.append_assoc,
      writeMember_append, renderText_append, readTagged, nextKey_written]
    simp only [bind, Except.bind, readQuoted_written, if_neg (other kv (by simp)),
      expectColon_written, read, id, others]
    simp

theorem separated_append {β : Type} (write : β → List Char) (first : Bool) (front back : List β) :
    separated write first (front ++ back) =
      separated write first front ++ separated write (first && front.isEmpty) back := by
  induction front generalizing first with
  | nil => simp [separated]
  | cons b front ih => simp [separated, ih]

theorem read_record (kind : Kind) (before after : Members) {channel : Channel}
    (other : ∀ kv ∈ before ++ after, kv.1 ≠ kindField)
    (reads : ∀ kv ∈ before ++ after, ReadsBack levels kv.2)
    (made : ofMembers kind (before ++ after) = .ok channel) (rest : List Char) :
    read levels
        ((Value.object (before ++ (kindField, .text kind.name) :: after)).render ++ rest) =
      .ok (channel, rest) := by
  have otherBefore := fun kv member => other kv (List.mem_append_left after member)
  have otherAfter := fun kv member => other kv (List.mem_append_right before member)
  have readsBefore := fun kv member => reads kv (List.mem_append_left after member)
  have readsAfter := fun kv member => reads kv (List.mem_append_right before member)
  obtain ⟨text, written⟩ : ∃ text, text = separated (writeMember Value.render) true
      (before ++ (kindField, .text kind.name) :: after) ++ '\x7d' :: rest := ⟨_, rfl⟩
  obtain ⟨slack, enough⟩ : ∃ slack,
      text.length + 1 = slack + 1 + after.length + 1 + before.length := by
    have := length_le_members Value.render (before ++ (kindField, .text kind.name) :: after)
    rw [List.length_append, List.length_cons] at this
    refine ⟨text.length + 1 - (1 + after.length + 1 + before.length), ?_⟩
    rw [written, List.length_append, List.length_cons]
    omega
  have tagged : readTagged levels (text.length + 1) true none [] text =
      .ok ((kind, before ++ after), rest) := by
    rw [enough, written, separated_append, separated, List.append_assoc, List.append_assoc,
      List.append_assoc, readTagged_members true none [] otherBefore readsBefore ?_, readTagged_kind,
      readTagged_members false (some kind) _ otherAfter readsAfter ?_]
    · rw [readTagged, nextKey_done]
      simp [bind, Except.bind, pure, Except.pure]
    · exact endsNumber_cons rest (by decide)
    · rw [writeMember_append, renderText_append]
      cases true && before.isEmpty with
      | true => exact endsNumber_cons _ (by decide)
      | false => exact endsNumber_cons _ (by decide)
  rw [Value.render_object, ← written, read, skipGap_of_not_gap _ (by decide)]
  simp [tagged, Shape.settle, bind, Except.bind, made, concluded]

def kind : Channel → Kind
  | unix _ => .unix
  | tcp .. => .tcp

def details : Channel → Members
  | unix path => [("path", .text path)]
  | tcp host port => [("host", .text host), ("port", .int port)]

theorem toMembers_eq (channel : Channel) :
    channel.toMembers = (kindField, .text channel.kind.name) :: channel.details := by
  cases channel <;> rfl

theorem details_other (channel : Channel) : ∀ kv ∈ channel.details, kv.1 ≠ kindField := by
  cases channel <;> simp [details, kindField]

theorem details_read {channel : Channel} (fits : channel.Fits) (levels : Nat) :
    ∀ kv ∈ channel.details, ReadsBack levels kv.2 := by
  have text (s : String) : ReadsBack levels (.text s) := readValue_scalar trivial rfl
  cases channel with
  | unix path =>
    simp only [details, List.forall_mem_singleton]
    exact text path
  | tcp host port =>
    have word : IsWord port := by
      have small : port ≤ 65535 := fits
      constructor
      · omega
      · omega
    simp only [details, List.forall_mem_cons]
    exact ⟨text host, readValue_scalar word rfl, nofun⟩

theorem ofMembers_details {channel : Channel} (fits : channel.Fits) :
    ofMembers channel.kind channel.details = .ok channel := by
  cases channel with
  | unix path => rfl
  | tcp host port =>
    have inside : IntRange.unsigned16.ofValue (.int port) = .ok (port : Int) := by
      have small : port ≤ 65535 := fits
      rw [IntRange.ofValue, if_pos]
      constructor
      · exact Int.natCast_nonneg port
      · show (port : Int) ≤ 0xffff
        omega
    simp [ofMembers, details, kind, Parts.take, textOf, portOf, inside, Except.map, bind,
      Except.bind, pure, Except.pure]

theorem read_written {channel : Channel} (fits : channel.Fits) (levels : Nat) :
    ReadsAs (read levels) Value.render (fun _ => channel) (.object channel.toMembers) := by
  intro rest _
  rw [toMembers_eq]
  exact read_record channel.kind [] channel.details channel.details_other (details_read fits levels)
    (ofMembers_details fits) rest

theorem read_kind_last {channel : Channel} (fits : channel.Fits) (levels : Nat) :
    ReadsAs (read levels) Value.render (fun _ => channel)
      (.object (channel.details ++ [(kindField, .text channel.kind.name)])) := by
  intro rest _
  apply read_record channel.kind channel.details []
  · rw [List.append_nil]
    exact channel.details_other
  · rw [List.append_nil]
    exact details_read fits levels
  · rw [List.append_nil]
    exact ofMembers_details fits

end DebugGateway.Channel
