import DebugGateway.Proofs.Json.Refusing
import DebugGateway.Proofs.Json.Settling
import DebugGateway.Proofs.Message.RoundTrip

namespace DebugGateway

open Json

namespace Request

def fieldNames : List String := ["type", "id", "command", "args"]

def frameOf (members : Members) : List UInt8 := Text.toBytes (Value.object members).compact

/-- A member that its field takes: a text; an integer of 64 bits with its sign; `null` or an object that
nests within the 127 levels counted from the request. Other keys take any value. -/
structure Suits (kv : String × Value) : Prop where
  text : kv.1 = "type" ∨ kv.1 = "command" → ∃ s, kv.2 = .text s
  id : kv.1 = "id" →
    ∃ n, kv.2 = .int n ∧ -0x8000000000000000 ≤ n ∧ n ≤ 0x7fffffffffffffff
  args : kv.1 = "args" → kv.2 = .null ∨ ∃ given, kv.2 = .object given ∧ kv.2.depth + 1 ≤ 127

structure Acceptable (members : Members) : Prop where
  suits : ∀ kv ∈ members, Suits kv
  once : ∀ key ∈ fieldNames, (members.map (·.1)).count key ≤ 1

/-- The value of a key states something, or the key is left out and a default holds. -/
def Given (members : Members) (key : String) (stated : Value → Prop) (default : Prop) : Prop :=
  (∃ v, (key, v) ∈ members ∧ stated v) ∨ key ∉ members.map (·.1) ∧ default

structure Conveys (members : Members) (r : Request) : Prop where
  kind : Given members "type" (fun v => v = .text r.kind) (r.kind = "")
  id : Given members "id" (fun v => v = .int r.id) (r.id = 0)
  command : Given members "command" (fun v => v = .text r.command) (r.command = "")
  args : Given members "args"
    (fun v => v = .null ∧ r.args = [] ∨ (∃ given, v = .object given) ∧ v.Keeps (.object r.args))
    (r.args = [])

/-! ## One member -/

def absorb (r : Request) (kv : String × Value) : Request :=
  match kv with
  | ("args", .null) => { r with args := [] }
  | kv => r.take kv

theorem knows_iff (key : String) : shape.knows key = true ↔ key ∈ fieldNames := by
  have names : fieldNames = shape.fields.map (·.name) := rfl
  rw [names, List.mem_map, Shape.knows, List.find?_isSome]
  simp only [beq_iff_eq]

theorem reader_other {key : String} (other : key ∉ fieldNames) (r : Request) (v : Value) :
    ReadsAs (shape.reader key r) Value.render (fun _ => r) v := by
  have unknown : shape.fields.find? (·.name == key) = none := by
    have none := mt (knows_iff key).mp other
    simpa [Shape.knows] using none
  intro rest ends
  simp only [Shape.reader, unknown]
  simp [shape, ignoreOther, skipValue_render v ends, Except.map]

theorem absorb_other {kv : String × Value} (other : kv.1 ∉ fieldNames) (r : Request) :
    r.absorb kv = r := by
  unfold absorb
  split
  · exact absurd (by simp [fieldNames]) other
  · unfold take
    split <;> first | rfl | exact absurd (by simp [fieldNames]) other

theorem reader_null (r : Request) :
    ReadsAs (shape.reader "args" r) Value.render (fun _ => { r with args := [] }) .null := by
  intro rest _
  have read := readBag_null (greatestDepth - 1) rest
  simp [Shape.reader, shape, read, Except.map, Value.settledMembers, Members.ofArrivals]

theorem suits_takes {kv : String × Value} (word : kv.2.Every Value.IsWordNumber) (suits : Suits kv) :
    shape.Takes absorb kv := by
  obtain ⟨key, v⟩ := kv
  intro r
  by_cases known : key ∈ fieldNames
  · simp only [fieldNames, List.mem_cons, List.not_mem_nil, or_false] at known
    rcases known with rfl | rfl | rfl | rfl
    · obtain ⟨s, rfl⟩ := suits.text (.inl rfl)
      exact reader_type r s
    · obtain ⟨n, rfl, inside⟩ := suits.id rfl
      exact reader_id r word inside
    · obtain ⟨s, rfl⟩ := suits.text (.inr rfl)
      exact reader_command r s
    · rcases suits.args rfl with rfl | ⟨given, rfl, nested⟩
      · exact reader_null r
      · obtain ⟨_, inside⟩ := Value.every_object.mp word
        refine reader_args r fun kv member => readValue_render (inside kv member) ?_
        have deep := Value.depth_le_members member
        simp only [Value.depth] at nested
        omega
  · rw [absorb_other known]
    exact reader_other known r v

theorem suits_other {kv : String × Value} (other : kv.1 ∉ fieldNames) : Suits kv := by
  have unnamed (name : String) (field : name ∈ fieldNames) : kv.1 ≠ name := by
    rintro rfl
    exact other field
  constructor
  · rintro (kind | command)
    · exact absurd kind (unnamed "type" (by decide))
    · exact absurd command (unnamed "command" (by decide))
  · exact fun id => absurd id (unnamed "id" (by decide))
  · exact fun args => absurd args (unnamed "args" (by decide))

theorem rejects_unless {kv : String × Value} (word : kv.2.Every Value.IsWordNumber)
    (unsuited : ¬ Suits kv) : shape.Rejects kv := by
  obtain ⟨key, v⟩ := kv
  have mapped {α β : Type} {read : List Char → Read α} (into : α × List Char → β × List Char)
      (refuses : Refuses read Value.render v) :
      Refuses (fun text => (read text).map into) Value.render v := by
    intro rest ends
    obtain ⟨h, failed⟩ := refuses rest ends
    refine ⟨h, ?_⟩
    show (read (v.render ++ rest)).map into = _
    rw [failed]
    rfl
  intro r
  by_cases known : key ∈ fieldNames
  · simp only [fieldNames, List.mem_cons, List.not_mem_nil, or_false] at known
    rcases known with rfl | rfl | rfl | rfl
    · refine mapped _ (readText_refused _ fun s same => unsuited ?_)
      exact ⟨fun _ => ⟨s, same⟩, by simp, by simp⟩
    · refine mapped _ (readInt_refused word fun n same inside => unsuited ?_)
      exact ⟨by simp, fun _ => ⟨n, same, inside⟩, by simp⟩
    · refine mapped _ (readText_refused _ fun s same => unsuited ?_)
      exact ⟨fun _ => ⟨s, same⟩, by simp, by simp⟩
    · have filled : v ≠ .null := by
        intro same
        exact unsuited ⟨by simp, by simp, fun _ => .inl same⟩
      have deep (given) (same : v = .object given) : 125 + 1 < v.depth := by
        have unnested : ¬ v.depth + 1 ≤ 127 := fun nested =>
          unsuited ⟨by simp, by simp, fun _ => .inr ⟨given, same, nested⟩⟩
        omega
      exact mapped _ (readBag_refused word filled deep)
  · exact absurd (suits_other known) unsuited

theorem suits_of_takes {kv : String × Value} (word : kv.2.Every Value.IsWordNumber)
    (takes : shape.Takes absorb kv) : Suits kv := by
  by_contra unsuited
  obtain ⟨h, failed⟩ := rejects_unless word unsuited {} [] endsNumber_nil
  rw [takes {} [] endsNumber_nil] at failed
  cases failed

/-! ## All members -/

theorem once_iff (members : Members) :
    shape.Once [] members ↔ ∀ key ∈ fieldNames, (members.map (·.1)).count key ≤ 1 := by
  have apart : shape.Once [] members ↔ ((members.map (·.1)).filter shape.knows).Nodup := by
    rw [List.Nodup, List.pairwise_filter, List.pairwise_map]
    constructor
    · intro once
      exact once.apart.imp fun distinct known _ => distinct known
    · intro distinct
      refine ⟨distinct.imp ?_, fun _ _ _ => List.not_mem_nil⟩
      intro a b distinct known same
      exact distinct known (same ▸ known) same
  rw [apart, List.nodup_iff_count]
  constructor
  · intro few key field
    have counted := few key
    rwa [List.count_filter ((knows_iff key).mpr field)] at counted
  · intro few key
    by_cases known : shape.knows key = true
    · rw [List.count_filter known]
      exact few key ((knows_iff key).mp known)
    · rw [List.count_eq_zero_of_not_mem fun member => known (List.of_mem_filter member)]
      exact Nat.zero_le 1

/-- A field has the value that its key was given last, or what it had before. -/
theorem given_foldl {α : Type} (field : Request → α) (key : String) (states : α → Value → Prop)
    {members : Members}
    (sets : ∀ (r : Request) v, (key, v) ∈ members → states (field (r.absorb (key, v))) v)
    (leaves : ∀ (r : Request) kv, kv.1 ≠ key → field (r.absorb kv) = field r) (r : Request) :
    Given members key (states (field (members.foldl absorb r)))
      (field (members.foldl absorb r) = field r) := by
  induction members generalizing r with
  | nil => exact .inr ⟨List.not_mem_nil, rfl⟩
  | cons kv members ih =>
    rw [List.foldl_cons]
    rcases ih (fun r v member => sets r v (List.mem_cons_of_mem _ member)) (r.absorb kv) with
      ⟨v, later, stated⟩ | ⟨absent, same⟩
    · exact .inl ⟨v, List.mem_cons_of_mem _ later, stated⟩
    · by_cases here : kv.1 = key
      · subst here
        refine .inl ⟨kv.2, List.mem_cons_self, ?_⟩
        rw [same]
        exact sets r kv.2 List.mem_cons_self
      · refine .inr ⟨?_, same.trans (leaves r kv here)⟩
        rintro (_ | ⟨_, later⟩)
        · exact here rfl
        · exact absent later

theorem absorb_leaves (r : Request) (kv : String × Value) :
    (kv.1 ≠ "type" → (r.absorb kv).kind = r.kind) ∧ (kv.1 ≠ "id" → (r.absorb kv).id = r.id) ∧
    (kv.1 ≠ "command" → (r.absorb kv).command = r.command) ∧
    (kv.1 ≠ "args" → (r.absorb kv).args = r.args) := by
  unfold absorb
  split
  · simp
  · unfold take
    split <;> simp

theorem conveys_foldl {members : Members} (suits : ∀ kv ∈ members, Suits kv) :
    Conveys members (members.foldl absorb {}) := by
  constructor
  · refine given_foldl kind "type" (fun kind v => v = .text kind) ?_
      (fun r kv => (r.absorb_leaves kv).1) {}
    intro r v member
    obtain ⟨s, rfl⟩ := (suits _ member).text (.inl rfl)
    rfl
  · refine given_foldl id "id" (fun id v => v = .int id) ?_
      (fun r kv => (r.absorb_leaves kv).2.1) {}
    intro r v member
    obtain ⟨n, rfl, _⟩ := (suits _ member).id rfl
    rfl
  · refine given_foldl command "command" (fun command v => v = .text command) ?_
      (fun r kv => (r.absorb_leaves kv).2.2.1) {}
    intro r v member
    obtain ⟨s, rfl⟩ := (suits _ member).text (.inr rfl)
    rfl
  · refine given_foldl args "args"
      (fun args v => v = .null ∧ args = [] ∨ (∃ given, v = .object given) ∧ v.Keeps (.object args)) ?_
      (fun r kv => (r.absorb_leaves kv).2.2.2) {}
    intro r v member
    rcases (suits _ member).args rfl with rfl | ⟨given, rfl, _⟩
    · exact .inl ⟨rfl, rfl⟩
    · exact .inr ⟨⟨given, rfl⟩, (Value.keeps_iff _ _).mpr rfl⟩

theorem value_unique {members : Members} {key : String}
    (once : (members.map (·.1)).count key ≤ 1) {v w : Value} (first : (key, v) ∈ members)
    (second : (key, w) ∈ members) : v = w := by
  induction members with
  | nil => cases first
  | cons kv members ih =>
    rw [List.map_cons, List.count_cons] at once
    have alone {u : Value} (later : (key, u) ∈ members) : 0 < (members.map (·.1)).count key :=
      List.count_pos_iff.mpr (List.mem_map.mpr ⟨_, later, rfl⟩)
    rcases List.mem_cons.mp first with rfl | later
    · rcases List.mem_cons.mp second with same | later
      · exact (congrArg Prod.snd same).symm
      · have := alone later
        simp at once
        omega
    · rcases List.mem_cons.mp second with rfl | later'
      · have := alone later
        simp at once
        omega
      · exact ih (by omega) later later'

theorem Given.both {members : Members} {key : String} {states states' : Value → Prop}
    {default default' : Prop} (given : Given members key states default)
    (once : (members.map (·.1)).count key ≤ 1) (given' : Given members key states' default') :
    (∃ v, states v ∧ states' v) ∨ default ∧ default' := by
  rcases given with ⟨v, member, stated⟩ | ⟨absent, holds⟩
  · rcases given' with ⟨w, member', stated'⟩ | ⟨absent, _⟩
    · cases value_unique once member member'
      exact .inl ⟨v, stated, stated'⟩
    · exact absurd (List.mem_map.mpr ⟨_, member, rfl⟩) absent
  · rcases given' with ⟨w, member', _⟩ | ⟨_, holds'⟩
    · exact absurd (List.mem_map.mpr ⟨_, member', rfl⟩) absent
    · exact .inr ⟨holds, holds'⟩

/-- A field is known from the value of its key, where values are told apart by what they hold. -/
theorem Given.same {α : Type} {members : Members} {key : String} {wrap : α → Value}
    {a b d : α} (given : Given members key (· = wrap a) (a = d))
    (apart : ∀ a b, wrap a = wrap b → a = b) (once : (members.map (·.1)).count key ≤ 1)
    (given' : Given members key (· = wrap b) (b = d)) : a = b := by
  rcases given.both once given' with ⟨v, left, right⟩ | ⟨left, right⟩
  · exact apart a b (left.symm.trans right)
  · exact left.trans right.symm

theorem Conveys.unique {members : Members} (acceptable : Acceptable members) {r r' : Request}
    (conveys : Conveys members r) (conveys' : Conveys members r') : r = r' := by
  have once := acceptable.once
  have kind : r.kind = r'.kind :=
    conveys.kind.same (fun _ _ => Value.text.inj) (once "type" (by decide)) conveys'.kind
  have id : r.id = r'.id :=
    conveys.id.same (fun _ _ => Value.int.inj) (once "id" (by decide)) conveys'.id
  have command : r.command = r'.command :=
    conveys.command.same (fun _ _ => Value.text.inj) (once "command" (by decide)) conveys'.command
  have args : r.args = r'.args := by
    rcases conveys.args.both (once "args" (by decide)) conveys'.args with
      ⟨v, ⟨rfl, left⟩ | ⟨⟨given, rfl⟩, left⟩, right⟩ | ⟨left, right⟩
    · rcases right with ⟨_, right⟩ | ⟨⟨_, filled⟩, _⟩
      · rw [left, right]
      · cases filled
    · rcases right with ⟨empty, _⟩ | ⟨_, right⟩
      · cases empty
      · exact Value.object.inj
          (((Value.keeps_iff _ _).mp left).trans ((Value.keeps_iff _ _).mp right).symm)
    · rw [left, right]
  cases r
  cases r'
  rw [mk.injEq]
  exact ⟨kind, id, command, args⟩

/-! ## The whole request -/

theorem parse_refused {members : Members} {h : Halt}
    (failed : shape.read {} (Value.object members).render = .error h) :
    ∀ r, parse (frameOf members) ≠ .ok r := by
  have whole : parseWith (shape.read {}) (Value.object members).compact = .error _ :=
    parseWith_refused (by rw [Value.compact, String.toList_ofList, failed])
  intro r parsed
  rw [parse, frameOf, Text.ofBytes_toBytes] at parsed
  simp only [whole] at parsed
  cases parsed

theorem parse_taken {members : Members} {r : Request}
    (read : shape.read {} (Value.object members).render = .ok (r, [])) :
    parse (frameOf members) = .ok r := by
  have whole : parseWith (shape.read {}) (Value.object members).compact = .ok r :=
    parseWith_whole (by rw [Value.compact, String.toList_ofList, read])
  rw [parse, frameOf, Text.ofBytes_toBytes]
  simp only [whole]
  rfl

/-- Members that make a request are read as what they say, and others are refused. -/
theorem parse_iff {members : Members} (words : (Value.object members).Every Value.IsWordNumber)
    (r : Request) : parse (frameOf members) = .ok r ↔ Acceptable members ∧ Conveys members r := by
  obtain ⟨_, inside⟩ := Value.every_object.mp words
  by_cases acceptable : Acceptable members
  · have takes : ∀ kv ∈ members, shape.Takes absorb kv :=
      fun kv member => suits_takes (inside kv member) (acceptable.suits kv member)
    have once := (once_iff members).mpr acceptable.once
    have read := shape.read_object {} [] takes once.apart
    rw [List.append_nil] at read
    have conveys := conveys_foldl acceptable.suits
    rw [parse_taken read]
    constructor
    · intro same
      cases same
      exact ⟨acceptable, conveys⟩
    · rintro ⟨_, conveys'⟩
      rw [conveys.unique acceptable conveys']
  · have either : ∀ kv ∈ members, shape.Takes absorb kv ∨ shape.Rejects kv := by
      intro kv member
      by_cases suits : Suits kv
      · exact .inl (suits_takes (inside kv member) suits)
      · exact .inr (rejects_unless (inside kv member) suits)
    have refused : ¬ ((∀ kv ∈ members, shape.Takes absorb kv) ∧ shape.Once [] members) := by
      rintro ⟨takes, once⟩
      refine acceptable ⟨fun kv member => ?_, (once_iff members).mp once⟩
      exact suits_of_takes (inside kv member) (takes kv member)
    obtain ⟨h, failed⟩ := Shape.read_object_refused {} [] either refused
    rw [List.append_nil] at failed
    constructor
    · exact fun parsed => absurd parsed (parse_refused failed r)
    · exact fun good => absurd good.1 acceptable

/-! ## What does not count -/

def fieldsOf (members : Members) : Members := members.filter fun kv => fieldNames.contains kv.1

variable {members others : Members}

theorem mem_fieldsOf {key : String} (field : key ∈ fieldNames) (v : Value) :
    (key, v) ∈ fieldsOf members ↔ (key, v) ∈ members := by
  simp [fieldsOf, field]

theorem count_fieldsOf {key : String} (field : key ∈ fieldNames) :
    ((fieldsOf members).map (·.1)).count key = (members.map (·.1)).count key := by
  have names : (fieldsOf members).map (·.1) = (members.map (·.1)).filter fieldNames.contains := by
    rw [List.filter_map]
    rfl
  rw [names, List.count_filter (by simpa using field)]

theorem Given.of_perm {key : String} (field : key ∈ fieldNames)
    (same : (fieldsOf members).Perm (fieldsOf others)) {states : Value → Prop} {default : Prop}
    (given : Given members key states default) : Given others key states default := by
  rcases given with ⟨v, member, stated⟩ | ⟨absent, holds⟩
  · exact .inl ⟨v, (mem_fieldsOf field v).mp (same.subset ((mem_fieldsOf field v).mpr member)), stated⟩
  · refine .inr ⟨?_, holds⟩
    rw [← List.count_eq_zero] at absent ⊢
    rw [← count_fieldsOf field, ← (same.map _).count_eq, count_fieldsOf field]
    exact absent

theorem Acceptable.of_perm (same : (fieldsOf members).Perm (fieldsOf others))
    (acceptable : Acceptable members) : Acceptable others := by
  constructor
  · intro kv member
    by_cases field : kv.1 ∈ fieldNames
    · have member' := same.symm.subset ((mem_fieldsOf field kv.2).mpr member)
      exact acceptable.suits kv ((mem_fieldsOf field kv.2).mp member')
    · exact suits_other field
  · intro key field
    rw [← count_fieldsOf field, ← (same.map _).count_eq, count_fieldsOf field]
    exact acceptable.once key field

theorem Conveys.of_perm (same : (fieldsOf members).Perm (fieldsOf others)) {r : Request}
    (conveys : Conveys members r) : Conveys others r where
  kind := conveys.kind.of_perm (by decide) same
  id := conveys.id.of_perm (by decide) same
  command := conveys.command.of_perm (by decide) same
  args := conveys.args.of_perm (by decide) same

/-- An object in which every number is an integer of 64 bits is a request exactly where none of the four
fields stands twice and each has a value of its kind, and then it is read as what these values say, the
last one of each key inside the arguments. The order of the members does not count, and other members do
not count at all. -/
theorem parse_members (members : Members)
    (words : (Value.object members).Every Value.IsWordNumber) :
    ((∃ r, parse (frameOf members) = .ok r) ↔ Acceptable members) ∧
    (∀ r, parse (frameOf members) = .ok r → Conveys members r) ∧
    ∀ others : Members, (Value.object others).Every Value.IsWordNumber →
      (fieldsOf members).Perm (fieldsOf others) →
        ∀ r, parse (frameOf members) = .ok r ↔ parse (frameOf others) = .ok r := by
  refine ⟨⟨?_, ?_⟩, ?_, ?_⟩
  · rintro ⟨r, parsed⟩
    exact ((parse_iff words r).mp parsed).1
  · intro acceptable
    exact ⟨_, (parse_iff words _).mpr ⟨acceptable, conveys_foldl acceptable.suits⟩⟩
  · exact fun r parsed => ((parse_iff words r).mp parsed).2
  · intro others words' same r
    rw [parse_iff words r, parse_iff words' r]
    constructor
    · exact fun ⟨acceptable, conveys⟩ => ⟨acceptable.of_perm same, conveys.of_perm same⟩
    · exact fun ⟨acceptable, conveys⟩ => ⟨acceptable.of_perm same.symm, conveys.of_perm same.symm⟩

/-- A key that no request knows stands twice, a key of the arguments twice, and there is no command. -/
def disordered : Members :=
  [("x", .list [.list [.null]]),
    ("args", .object [("k", .int 1), ("a", .null), ("k", .object [("z", .int 0), ("z", .text "é")])]),
    ("id", .int (-0x8000000000000000)), ("x", .int 0xffffffffffffffff), ("type", .text "q")]

def reordered : Members :=
  [("type", .text "q"), ("id", .int (-0x8000000000000000)),
    ("args", .object [("k", .int 1), ("a", .null), ("k", .object [("z", .int 0), ("z", .text "é")])])]

def disorderedRequest : Request where
  kind := "q"
  id := -0x8000000000000000
  args := [("a", .null), ("k", .object [("z", .text "é")])]

theorem acceptable_disordered : Acceptable disordered := by
  constructor
  · intro kv member
    simp only [disordered, List.mem_cons, List.not_mem_nil, or_false] at member
    rcases member with rfl | rfl | rfl | rfl | rfl
    · exact suits_other (by decide)
    · exact ⟨by simp, by simp, fun _ => .inr ⟨_, rfl, by decide⟩⟩
    · exact ⟨by simp, fun _ => ⟨_, rfl, by decide, by decide⟩, by simp⟩
    · exact suits_other (by decide)
    · exact ⟨fun _ => ⟨_, rfl⟩, by simp, by simp⟩
  · decide

theorem disordered_read :
    (Value.object disordered).Every Value.IsWordNumber ∧
    (Value.object reordered).Every Value.IsWordNumber ∧
    (fieldsOf disordered).Perm (fieldsOf reordered) ∧
    parse (frameOf disordered) = .ok disorderedRequest ∧
    parse (frameOf reordered) = .ok disorderedRequest := by
  have words : (Value.object disordered).Every Value.IsWordNumber := by
    simp only [disordered, Value.Every, Value.EveryItem, Value.EveryMember, Value.IsWordNumber]
    decide
  have words' : (Value.object reordered).Every Value.IsWordNumber := by
    simp only [reordered, Value.Every, Value.EveryMember, Value.IsWordNumber]
    decide
  have same : (fieldsOf disordered).Perm (fieldsOf reordered) := by
    have reversed : fieldsOf reordered = (fieldsOf disordered).reverse := by
      simp [fieldsOf, reordered, disordered, fieldNames]
    rw [reversed]
    exact (List.reverse_perm _).symm
  obtain ⟨accepted, conveyed, unchanged⟩ := parse_members disordered words
  obtain ⟨r, parsed⟩ := accepted.mpr acceptable_disordered
  have meant : Conveys disordered disorderedRequest := conveys_foldl acceptable_disordered.suits
  cases (conveyed r parsed).unique acceptable_disordered meant
  exact ⟨words, words', same, parsed, (unchanged reordered words' same _).mp parsed⟩

end Request

end DebugGateway
