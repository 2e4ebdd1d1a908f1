import DebugGateway.Json.Record
import DebugGateway.Message
import DebugGateway.Proofs.Json.Members
import DebugGateway.Proofs.Json.Records
import DebugGateway.Proofs.Text.Bytes

/-! What the line of a response says, member by member. The line is read as one object, each value kept
as the text that it is written as, so a key that stood there twice would be seen twice; the envelope
comes first and in its order, and no field that a handler adds can change it. -/
namespace DebugGateway

open Json

namespace Json

/-! ## Objects as they are spelled -/

def readSpelled (text : List Char) : Read (List Char) :=
  (skipValue text).map fun rest => (text.take (text.length - rest.length), rest)

def readSpelledObject (text : List Char) : Read (List (String × List Char)) :=
  match skipGap text with
  | [] => .error (halt .missingValue [])
  | c :: rest =>
    if c = '\x7b' then readMembers readSpelled (rest.length + 1) [] rest
    else .error (haltOn .expectedValue (c :: rest))

def objectIn? (line : List UInt8) : Option (List (String × List Char)) :=
  match Text.ofBytes line with
  | .ok text => (readAll readSpelledObject text.toList).toOption
  | .error _ => none

theorem readSpelled_render (v : Value) : ReadsAs readSpelled Value.render Value.render v := by
  intro rest ends
  simp [readSpelled, skipValue_render v ends, Except.map]

theorem readSpelledObject_render (members : Members) :
    readSpelledObject (Value.object members).render =
      .ok (members.map fun kv => (kv.1, kv.2.render), []) := by
  obtain ⟨text, shape⟩ : ∃ text, text = separated (writeMember Value.render) true members ++ ['\x7d'] :=
    ⟨_, rfl⟩
  have read := readMembers_written (fun kv _ => readSpelled_render kv.2) shape
  rw [← List.append_nil (Value.render _), Value.render_object, ← shape, readSpelledObject,
    skipGap_of_not_gap _ (by decide)]
  exact read

theorem objectIn?_compact (members : Members) :
    objectIn? (Text.toBytes (Value.object members).compact) =
      some (members.map fun kv => (kv.1, kv.2.render)) := by
  simp [objectIn?, Text.ofBytes_toBytes, Value.compact, readAll, readSpelledObject_render, skipGap,
    bind, Except.bind, pure, Except.pure, Except.toOption]

theorem readAll_render {v : Value} (word : v.Every Value.IsWordNumber) :
    readAll (readValue v.depth) v.render = .ok v := by
  have read := readValue_render word (Nat.le_refl _) [] endsNumber_nil
  rw [List.append_nil] at read
  simp [readAll, read, skipGap, bind, Except.bind, pure, Except.pure]

end Json

/-! ## Fields given one after the other -/

def Reply.withFields (r : Reply) (given : Members) : Reply :=
  given.foldl (fun r kv => r.withField kv.1 kv.2) r

def Failure.withFields (f : Failure) (given : Members) : Failure :=
  given.foldl (fun f kv => f.withField kv.1 kv.2) f

theorem Reply.withFields_eq (r : Reply) (given : Members) :
    r.withFields given = { r with fields := r.fields.putAll given } := by
  induction given generalizing r with
  | nil => rfl
  | cons kv given ih => exact ih (r.withField kv.1 kv.2)

theorem Failure.withFields_eq (f : Failure) (given : Members) :
    f.withFields given = { f with fields := f.fields.putAll given } := by
  induction given generalizing f with
  | nil => rfl
  | cons kv given ih => exact ih (f.withField kv.1 kv.2)

/-- The fields that come after an envelope: those given under other names than the nine of an
envelope, each once with the value given last, in the order of the bytes of their names. -/
structure Extras (given extras : Members) : Prop where
  ascending : extras.Pairwise fun a b => Text.toBytes a.1 < Text.toBytes b.1
  last : ∀ k v, (k, v) ∈ extras ↔
    k ∉ ["id", "type", "command", "status", "output", "error", "error_code", "error_category",
      "suggestion"] ∧ List.lookup k given.reverse = some v

theorem extras_filter (given : Members) :
    Extras given ((Members.putAll [] given).filter fun kv =>
      !Response.envelopeKeys.contains kv.1) where
  ascending := by
    have ordered : (Members.putAll [] given).Ordered := Members.Ordered.putAll .nil given
    exact (ordered.imp Text.toBytes_lt).filter _
  last := by
    intro k v
    have ordered : (Members.putAll [] given).Ordered := Members.Ordered.putAll .nil given
    rw [List.mem_filter, Members.mem_iff_lookup ordered, Members.lookup_putAll, List.lookup_nil,
      Option.or_none, and_comm]
    simp [Response.envelopeKeys]

namespace Response

/-! ## Lines -/

/-- An envelope takes its keys from the names set aside for it, in their order. -/
theorem envelope_sublist (r : Response) : (r.envelope.map (·.1)).Sublist envelopeKeys := by
  obtain ⟨id, kind, command, outcome⟩ := r
  rcases id with _ | id <;> rcases command with _ | command <;>
    rcases outcome with ⟨_ | output, fields⟩ | failure <;>
    exact List.isSublist_iff_sublist.mp rfl

theorem keys_nodup (r : Response) {given extras : Members} (after : Extras given extras) :
    ((r.envelope ++ extras).map (·.1)).Nodup := by
  rw [List.map_append, List.nodup_append]
  refine ⟨?_, ?_, ?_⟩
  · have names : envelopeKeys.Nodup := by decide
    exact names.sublist r.envelope_sublist
  · refine List.pairwise_map.mpr (after.ascending.imp ?_)
    intro a b less same
    rw [same] at less
    exact List.lt_irrefl _ less
  · rintro key named _ extra rfl
    obtain ⟨⟨_, v⟩, member, rfl⟩ := List.mem_map.mp extra
    exact ((after.last _ v).mp member).1 (r.envelope_sublist.subset named)

/-- An encoding is one line, and the line is one object: an envelope, then extra fields, no key of
them all twice. What is written of a value reads as the value, unless it has numbers that are no
integers of 64 bits. -/
def Presents (encoded : List UInt8) (envelope given : Members) : Prop :=
  ∃ line extras, encoded = line ++ [0x0A] ∧ Extras given extras ∧
    objectIn? line = some ((envelope ++ extras).map fun kv => (kv.1, kv.2.render)) ∧
    ((envelope ++ extras).map (·.1)).Nodup ∧
    ∀ kv ∈ envelope ++ extras, kv.2.Every Value.IsWordNumber →
      readAll (readValue kv.2.depth) kv.2.render = .ok kv.2

theorem presents_envelope (r : Response) {given : Members}
    (fields : r.extraFields = Members.putAll [] given) : Presents r.encode r.envelope given := by
  have after := extras_filter given
  refine ⟨_, _, rfl, after, ?_, r.keys_nodup after, fun kv _ word => readAll_render word⟩
  rw [objectIn?_compact, toMembers, fields]

/-- Who is answered and how it went; the id and the command only where they are known. -/
def heading (id : Option Int) (kind : ResponseKind) (command : Option String) (status : String) :
    Members :=
  (id.map fun n => ("id", .int n)).toList ++ ("type", .text kind.name) ::
    (command.map fun name => ("command", .text name)).toList ++ [("status", .text status)]

/-- The line of a response has its own envelope first and then the extra fields, whatever fields were
given: none of them changes, shadows or doubles a member of the envelope. -/
theorem encode_presents (id : Option Int) (kind : ResponseKind) (command : Option String)
    (given : Members) :
    (∀ output, Presents
      (encode ⟨id, kind, command, .success (Reply.withFields { output } given)⟩)
      (heading id kind command "success" ++
        (output.map fun text => ("output", Value.text text)).toList) given) ∧
    ∀ error code category suggestion, Presents
      (encode ⟨id, kind, command,
        .failure (Failure.withFields { error, code, category, suggestion } given)⟩)
      (heading id kind command "error" ++
        [("error", .text error), ("error_code", .text code.name),
          ("error_category", .text category.name), ("suggestion", .text suggestion)]) given := by
  constructor
  · intro output
    rw [Reply.withFields_eq]
    have line := presents_envelope ⟨id, kind, command, .success ⟨output, Members.putAll [] given⟩⟩ rfl
    cases id <;> cases command <;> cases output <;> exact line
  · intro error code category suggestion
    rw [Failure.withFields_eq]
    have line := presents_envelope
      ⟨id, kind, command, .failure ⟨error, code, category, suggestion, Members.putAll [] given⟩⟩ rfl
    cases id <;> cases command <;> exact line

end Response

end DebugGateway
