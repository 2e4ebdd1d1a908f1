import DebugGateway.Proofs.Json.Listing
import DebugGateway.Proofs.Message.Acceptance

namespace DebugGateway

open Json

namespace Request

/-- A text that is a list of at most four values, each of the kind that the field in its place takes. -/
structure Positional (text : String) (items : List Value) : Prop where
  reads : parseWith (readValue greatestDepth) text = .ok (.list items)
  few : items.length ≤ fieldNames.length
  suits : ∀ kv ∈ fieldNames.zip items, Suits kv

/-! ## The fields -/

theorem suits_text_iff {key : String} (field : key = "type" ∨ key = "command") (v : Value) :
    Suits (key, v) ↔ ∃ s, v = .text s := by
  constructor
  · exact fun suits => suits.text field
  · intro text
    rcases field with rfl | rfl
    · exact ⟨fun _ => text, by simp, by simp⟩
    · exact ⟨fun _ => text, by simp, by simp⟩

theorem suits_id_iff (v : Value) : Suits ("id", v) ↔
    ∃ n, v = .int n ∧ IntRange.signed64.least ≤ n ∧ n ≤ IntRange.signed64.greatest :=
  ⟨fun suits => suits.id rfl, fun number => ⟨by simp, fun _ => number, by simp⟩⟩

theorem suits_args_iff {v : Value} (nested : v.depth ≤ greatestDepth - 1) :
    Suits ("args", v) ↔ ∃ members : Members, v = .null ∧ members = [] ∨ v = .object members := by
  constructor
  · intro suits
    rcases suits.args rfl with null | ⟨given, object, _⟩
    · exact ⟨[], .inl ⟨null, rfl⟩⟩
    · exact ⟨given, .inr object⟩
  · rintro ⟨members, ⟨null, _⟩ | object⟩
    · exact ⟨by simp, by simp, fun _ => .inl null⟩
    · exact ⟨by simp, by simp, fun _ => .inr ⟨members, object, Nat.succ_le_succ nested⟩⟩

theorem readText_means {wanted : String} {levels : Nat} (text : List Char) (s : String)
    (rest : List Char) : readText wanted text = .ok (s, rest) ↔
      ∃ v, readValue levels text = .ok (v, rest) ∧ v = .text s := by
  rw [readText_iff]
  constructor
  · intro read
    exact ⟨_, read, rfl⟩
  · rintro ⟨_, read, rfl⟩
    exact read

/-- Each field takes the values that suit it, read as any value inside a list is. -/
theorem heeds_fields : ∀ field ∈ shape.fields,
    Heeds (readValue (greatestDepth - 1)) Suits absorb field := by
  intro field member
  simp only [shape, List.mem_cons, List.not_mem_nil, or_false] at member
  rcases member with rfl | rfl | rfl | rfl
  · apply heeds_map (fun (r : Request) kind => { r with kind })
      (fun _ v _ _ => suits_text_iff (.inl rfl) v) readText_means
    rintro r _ kind rfl
    rfl
  · apply heeds_map (fun (r : Request) id => { r with id }) (fun _ v _ _ => suits_id_iff v)
    · intro text id rest
      rw [readInt_iff]
      constructor
      · rintro ⟨read, inside⟩
        exact ⟨_, read, rfl, inside⟩
      · rintro ⟨_, read, rfl, inside⟩
        exact ⟨read, inside⟩
    · rintro r _ id ⟨rfl, _⟩
      rfl
  · apply heeds_map (fun (r : Request) command => { r with command })
      (fun _ v _ _ => suits_text_iff (.inr rfl) v) readText_means
    rintro r _ command rfl
    rfl
  · apply heeds_map
      (fun (r : Request) args => { r with args := Members.ofArrivals (Value.settledMembers args) })
      (fun text v rest read => suits_args_iff (readValue_yields _ text v rest read).1)
    · intro text args rest
      -- a bag counts its levels as a value inside a list does
      rw [show greatestDepth - 1 = 125 + 1 from rfl, readBag_iff]
      constructor
      · rintro (⟨read, empty⟩ | read)
        · exact ⟨.null, read, .inl ⟨rfl, empty⟩⟩
        · exact ⟨.object args, read, .inr rfl⟩
      · rintro ⟨v, read, ⟨rfl, empty⟩ | rfl⟩
        · exact .inl ⟨read, empty⟩
        · exact .inr read
    · rintro r _ args (⟨rfl, rfl⟩ | rfl)
      · rfl
      · rfl

/-! ## The whole request -/

variable {frame : List UInt8} {text : String}

theorem parse_eq_ok_iff (legible : Text.ofBytes frame = .ok text) {r : Request} :
    parse frame = .ok r ↔ parseWith (shape.read {}) text = .ok r := by
  rw [parse, legible]
  constructor
  · exact mapError_eq_ok
  · intro parsed
    simp only [parsed]
    rfl

theorem parse_unless (legible : Text.ofBytes frame = .ok text) (none : ∀ r, parse frame ≠ .ok r) :
    ∃ refusal, parse frame = .error (.malformed refusal) := by
  rw [parse, legible] at none ⊢
  dsimp only at none ⊢
  cases parsed : parseWith (shape.read {}) text with
  | ok r =>
    rw [parsed] at none
    exact absurd rfl (none r)
  | error refusal => exact ⟨refusal, rfl⟩

/-- A list of values for the fields is the request that they make one after the other. -/
theorem parse_positional_iff (legible : Text.ofBytes frame = .ok text)
    (unbraced : (skipGap text.toList).head? ≠ some '\x7b') (r : Request) :
    parse frame = .ok r ↔
      ∃ items, Positional text items ∧ r = (fieldNames.zip items).foldl absorb {} := by
  rw [parse_eq_ok_iff legible, parseWith_iff]
  constructor
  · rintro ⟨rest, read, nothing⟩
    obtain ⟨items, list, few, suits, made⟩ := (read_unbraced_iff heeds_fields unbraced).mp read
    exact ⟨items, ⟨parseWith_iff.mpr ⟨rest, list, nothing⟩, few, suits⟩, made⟩
  · rintro ⟨items, ⟨reads, few, suits⟩, made⟩
    obtain ⟨rest, list, nothing⟩ := parseWith_iff.mp reads
    have read := (read_unbraced_iff heeds_fields unbraced).mpr ⟨items, list, few, suits, made⟩
    exact ⟨rest, read, nothing⟩

/-- Of the texts that do not open an object those are requests that list at most four values, each of the kind
that the field in its place takes, and they say what these values say. Whatever else the text is, a string, a
number, a boolean, `null`, another list or no value at all, the frame is malformed. -/
theorem parse_unbraced (legible : Text.ofBytes frame = .ok text)
    (unbraced : (skipGap text.toList).head? ≠ some '\x7b') :
    ((∃ r, parse frame = .ok r) ↔ ∃ items, Positional text items) ∧
    (∀ items, Positional text items → ∀ r, parse frame = .ok r → Conveys (fieldNames.zip items) r) ∧
    ((∀ items, ¬ Positional text items) → ∃ refusal, parse frame = .error (.malformed refusal)) := by
  have parses := parse_positional_iff legible unbraced
  refine ⟨⟨?_, ?_⟩, ?_, ?_⟩
  · rintro ⟨r, parsed⟩
    obtain ⟨items, positional, _⟩ := (parses r).mp parsed
    exact ⟨items, positional⟩
  · rintro ⟨items, positional⟩
    exact ⟨_, (parses _).mpr ⟨items, positional, rfl⟩⟩
  · intro items positional r parsed
    have made := (parses _).mpr ⟨items, positional, rfl⟩
    rw [parsed] at made
    cases made
    exact conveys_foldl positional.suits
  · intro others
    apply parse_unless legible
    intro r parsed
    obtain ⟨items, positional, _⟩ := (parses r).mp parsed
    exact others items positional

def spacedPair : String := " [\"command\" ,\t7\n]"

theorem positional_spacedPair : Positional spacedPair [.text "command", .int 7] where
  reads := by cbv
  few := by decide
  suits := by
    have listed : fieldNames.zip [.text "command", .int 7] =
        [("type", Value.text "command"), ("id", .int 7)] := rfl
    rw [listed, List.forall_mem_cons, List.forall_mem_singleton]
    constructor
    · exact (suits_text_iff (.inl rfl) _).mpr ⟨_, rfl⟩
    · exact (suits_id_iff _).mpr ⟨7, rfl, by decide, by decide⟩

theorem parse_unbraced_spacedPair :
    Text.ofBytes (Text.toBytes spacedPair) = .ok spacedPair ∧
    (skipGap spacedPair.toList).head? ≠ some '\x7b' ∧
    ∃ r, parse (Text.toBytes spacedPair) = .ok r ∧
      Conveys [("type", .text "command"), ("id", .int 7)] r := by
  have legible := Text.ofBytes_toBytes spacedPair
  have unbraced := unbraced_of_value positional_spacedPair.reads (fun members => nofun)
  obtain ⟨parsed, conveyed, _⟩ := parse_unbraced legible unbraced
  obtain ⟨r, read⟩ := parsed.mpr ⟨_, positional_spacedPair⟩
  exact ⟨legible, unbraced, r, read, conveyed _ positional_spacedPair r read⟩

theorem parse_empty_list :
    parseWith (readValue greatestDepth) "[]" = .ok (.list []) ∧
      parse (Text.toBytes "[]") = .ok {} := by
  have read : parseWith (shape.read {}) "[]" = .ok {} := by cbv
  exact ⟨by cbv, (parse_eq_ok_iff (Text.ofBytes_toBytes "[]")).mpr read⟩

end Request

end DebugGateway
