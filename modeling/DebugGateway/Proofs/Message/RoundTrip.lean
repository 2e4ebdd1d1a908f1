import DebugGateway.Message
import DebugGateway.Proofs.Json.Members
import DebugGateway.Proofs.Json.Records
import DebugGateway.Proofs.Text.Bytes

namespace DebugGateway

open Json

namespace Request

/-- What can stand in a request: an id of 64 bits with its sign; arguments of which every number is an
integer of 64 bits and every object has its keys in order; at most 127 lists and objects inside one
another, the request itself and its arguments counted. -/
structure Sound (r : Request) : Prop where
  id : -0x8000000000000000 ≤ r.id ∧ r.id ≤ 0x7fffffffffffffff
  words : (Value.object r.args).Every Value.IsWordNumber
  ordered : (Value.object r.args).Every Value.IsOrdered
  nested : (Value.object r.toMembers).depth ≤ 127

theorem depth_toMembers (r : Request) :
    (Value.object r.toMembers).depth = Value.depthMembers r.args + 2 := by
  simp [toMembers, Value.depth, Value.depthMembers]

def take (r : Request) : String × Value → Request
  | ("type", .text kind) => { r with kind }
  | ("id", .int id) => { r with id }
  | ("command", .text command) => { r with command }
  | ("args", .object args) => { r with args := Members.ofArrivals (Value.settledMembers args) }
  | _ => r

theorem reader_type (r : Request) (kind : String) :
    ReadsAs (shape.reader "type" r) Value.render (fun _ => { r with kind }) (.text kind) := by
  intro rest _
  simp [Shape.reader, shape, readText_written, Except.map]

theorem reader_id (r : Request) {id : Int} (word : IsWord id)
    (inside : IntRange.signed64.least ≤ id ∧ id ≤ IntRange.signed64.greatest) :
    ReadsAs (shape.reader "id" r) Value.render (fun _ => { r with id }) (.int id) := by
  intro rest ends
  simp [Shape.reader, shape, readInt_written word inside ends, Except.map]

theorem reader_command (r : Request) (command : String) :
    ReadsAs (shape.reader "command" r) Value.render (fun _ => { r with command })
      (.text command) := by
  intro rest _
  simp [Shape.reader, shape, readText_written, Except.map]

theorem reader_args (r : Request) {args : Members}
    (reads : ∀ kv ∈ args, ReadsBack 125 kv.2) :
    ReadsAs (shape.reader "args" r) Value.render
      (fun _ => { r with args := Members.ofArrivals (Value.settledMembers args) })
      (.object args) := by
  intro rest _
  have read := readBag_written reads rest
  simp [Shape.reader, shape, greatestDepth, read, Except.map]

theorem takes_toMembers {r : Request} (sound : r.Sound) :
    ∀ kv ∈ r.toMembers, ∀ s : Request,
      ReadsAs (shape.reader kv.1 s) Value.render (fun _ => s.take kv) kv.2 := by
  have word : IsWord r.id := by
    have := sound.id
    unfold IsWord
    omega
  have args : ∀ kv ∈ r.args, ReadsBack 125 kv.2 := by
    obtain ⟨_, inside⟩ := Value.every_object.mp sound.words
    intro kv member
    refine readValue_render (inside kv member) ?_
    have deep := Value.depth_le_members member
    have nested := sound.nested
    rw [depth_toMembers] at nested
    omega
  intro kv member s
  simp only [toMembers, List.mem_cons, List.not_mem_nil, or_false] at member
  rcases member with rfl | rfl | rfl | rfl
  · exact reader_type s r.kind
  · exact reader_id s word sound.id
  · exact reader_command s r.command
  · exact reader_args s args

theorem foldl_take_toMembers {r : Request} (sound : r.Sound) : r.toMembers.foldl take {} = r := by
  have settled : Members.ofArrivals (Value.settledMembers r.args) = r.args := by
    rw [Value.settledMembers_ordered r.args sound.ordered.2,
      Members.ofArrivals_ordered sound.ordered.1]
  simp [toMembers, take, settled]

theorem toMembers_once (r : Request) :
    r.toMembers.Pairwise fun a b => shape.knows a.1 = true → a.1 ≠ b.1 := by
  have keys : (r.toMembers.map (·.1)).Nodup :=
    show ["type", "id", "command", "args"].Nodup by decide
  refine (List.pairwise_map.mp keys).imp ?_
  intro a b apart _
  exact apart

/-- What can stand in a request reads back from the line that it is written as. -/
theorem parse_encode (r : Request) (sound : r.Sound) :
    ∃ line, r.encode = line ++ [0x0A] ∧ parse line = .ok r := by
  have read := shape.read_object {} [] (takes_toMembers sound) r.toMembers_once
  rw [List.append_nil, foldl_take_toMembers sound] at read
  have whole : parseWith (shape.read {}) (Value.object r.toMembers).compact = .ok r :=
    parseWith_whole (by rw [Value.compact, String.toList_ofList, read])
  refine ⟨Text.toBytes (Value.object r.toMembers).compact, rfl, ?_⟩
  rw [parse, Text.ofBytes_toBytes]
  show (parseWith (shape.read {}) (Value.object r.toMembers).compact).mapError _ = _
  rw [whole]
  rfl

/-- The least id, a command that breaks lines, the greatest number, and a list in a list. -/
def farCorner : Request where
  id := -0x8000000000000000
  command := "k\u0000\r\n\"\\ \u007f\u2028😀"
  args := [("", .list [.int 0xffffffffffffffff, .list [.null, .bool true]]),
    ("at", .object [("0", .int (-1)), ("é", .text "\n")])]

theorem parse_encode_farCorner :
    farCorner.Sound ∧ ∃ line, farCorner.encode = line ++ [0x0A] ∧ parse line = .ok farCorner := by
  have sound : farCorner.Sound := by
    constructor
    · decide
    · simp only [farCorner, Value.Every, Value.EveryItem, Value.EveryMember, Value.IsWordNumber]
      decide
    · simp only [farCorner, Value.Every, Value.EveryItem, Value.EveryMember, Value.IsOrdered,
        Members.Ordered]
      decide
    · decide
  exact ⟨sound, parse_encode farCorner sound⟩

end Request

end DebugGateway
