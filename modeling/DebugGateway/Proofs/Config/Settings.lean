import DebugGateway.Config
import DebugGateway.Proofs.Channel.Records
import DebugGateway.Proofs.Json.Finishing
import DebugGateway.Proofs.Json.Members
import Mathlib.Data.List.Nodup

namespace DebugGateway.Config

open Json

def channelKey : String := "channel"

/-! ## Single settings -/

section Written

variable {P : Channel → Prop}

theorem field_spares {α : Type} {name : String} {reader : List Char → Except Halt (α × List Char)}
    {put : α → Config → Config} {v : Value} {c c' : Config} {rest after : List Char}
    (read : (field name reader put).read c (v.render ++ rest) = .ok (c', after))
    (beside : ∀ a c, (put a c).channel = c.channel) (finishes : Finishes reader v)
    (ends : EndsNumber rest) (holds : P c.channel) : P c'.channel ∧ after = rest := by
  obtain ⟨⟨a, left⟩, taken, same⟩ := map_eq_ok read
  cases same
  rw [beside]
  exact ⟨holds, finishes rest ends a after taken⟩

theorem spares_beside {kv : String × Value} (other : kv.1 ≠ channelKey) :
    shape.Spares (fun c => P c.channel) kv := by
  obtain ⟨key, v⟩ := kv
  intro c rest ends holds c' after read
  rw [Shape.reader] at read
  split at read
  · rename_i field found
    have named : field.name = key := by simpa using List.find?_some found
    have member := List.mem_of_find?_eq_some found
    simp only [shape, List.mem_cons, List.not_mem_nil, or_false] at member
    rcases member with rfl | rfl | rfl | rfl | rfl | rfl | rfl
    · exact absurd named.symm other
    · exact field_spares read (fun _ _ => rfl) (readText_finishes _ v) ends holds
    · exact field_spares read (fun _ _ => rfl) (readVariant_finishes _ v) ends holds
    · exact field_spares read (fun _ _ => rfl) (readInt_finishes _ v) ends holds
    · exact field_spares read (fun _ _ => rfl) (readInt_finishes _ v) ends holds
    · exact field_spares read (fun _ _ => rfl) (readText_finishes _ v) ends holds
    · exact field_spares read (fun _ _ => rfl) (readText_finishes _ v) ends holds
  · have stops := ignoreOther_finishes key c v rest ends c' after read
    rw [show shape.other = ignoreOther from rfl, ignoreOther, skipValue_render v ends] at read
    cases read
    exact ⟨holds, stops⟩

theorem reader_channel {v : Value} {channel : Channel}
    (reads : ∀ levels, ReadsAs (Channel.read levels) Value.render (fun _ => channel) v) (c : Config) :
    ReadsAs (shape.reader channelKey c) Value.render (fun _ => { c with channel }) v := by
  intro rest ends
  have read := reads (greatestDepth - 1) rest ends
  simp [Shape.reader, shape, channelKey, field, read, Except.map]

theorem spares_channel {v : Value} {channel : Channel}
    (reads : ∀ levels, ReadsAs (Channel.read levels) Value.render (fun _ => channel) v)
    (holds : P channel) : shape.Spares (fun c => P c.channel) (channelKey, v) := by
  intro c rest ends _ c' after read
  rw [reader_channel reads c rest ends] at read
  cases read
  exact ⟨holds, rfl⟩

end Written

/-! ## Any text -/

/-- A channel is either the one that settings start with or has a port that fits. -/
theorem parse_channel {start config : Config} {text : String}
    (parsed : start.parse text = .ok config) :
    config.channel = start.channel ∨ config.channel.Fits := by
  have beside {α : Type} {name : String} {reader : List Char → Except Halt (α × List Char)}
      {put : α → Config → Config} (same : ∀ a c, (put a c).channel = c.channel) :
      Shape.Keeps (fun c : Config => c.channel = start.channel ∨ c.channel.Fits)
        (field name reader put).read := by
    intro c text c' rest holds read
    obtain ⟨⟨a, left⟩, -, put⟩ := map_eq_ok read
    cases put
    rwa [same]
  have keeps : Shape.Keeps (fun c : Config => c.channel = start.channel ∨ c.channel.Fits)
      shape.read := by
    apply Shape.read_keeps
    · intro f member
      simp only [shape, List.mem_cons, List.not_mem_nil, or_false] at member
      rcases member with rfl | rfl | rfl | rfl | rfl | rfl | rfl
      · intro c text c' rest _ read
        obtain ⟨⟨channel, left⟩, taken, put⟩ := map_eq_ok read
        cases put
        exact .inr (Channel.read_fits taken)
      all_goals exact beside fun _ _ => rfl
    · intro key c text c' rest holds read
      obtain ⟨left, -, same⟩ := map_eq_ok read
      cases same
      exact holds
  obtain ⟨rest, read⟩ := parseWith_eq_ok parsed
  exact keeps _ _ _ _ (.inl rfl) read

theorem parse_channel_only (start : Config) {channel : Channel} (fits : channel.Fits) :
    start.parse (Value.object [(channelKey, .object channel.toMembers)]).compact =
      .ok { start with channel } := by
  have takes : ∀ kv ∈ [(channelKey, Value.object channel.toMembers)], ∀ c : Config,
      ReadsAs (shape.reader kv.1 c) Value.render (fun _ => { c with channel }) kv.2 := by
    simp only [List.forall_mem_singleton]
    exact reader_channel (Channel.read_written fits)
  have read := shape.read_object start [] takes (List.pairwise_singleton _ _)
  rw [List.append_nil] at read
  exact parseWith_whole (by rw [Value.compact, String.toList_ofList, read]; rfl)

theorem parse_nothing (start : Config) : start.parse (Value.object []).compact = .ok start := by
  have none : ∀ kv ∈ ([] : Members), ∀ c : Config,
      ReadsAs (shape.reader kv.1 c) Value.render (fun _ => c) kv.2 := nofun
  have read := shape.read_object start [] none .nil
  rw [List.append_nil] at read
  exact parseWith_whole (by rw [Value.compact, String.toList_ofList, read]; rfl)

/-! ## Layers -/

def Silent (members : Members) : Prop := ∀ kv ∈ members, kv.1 ≠ channelKey

def Tame (members : Members) : Prop :=
  ∀ kv ∈ members, kv.1 = channelKey →
    ∃ channel : Channel, channel.isLocal = true ∧
      ∀ levels, ReadsAs (Channel.read levels) Value.render (fun _ => channel) kv.2

theorem parse_tame {start config : Config} {members : Members} (tame : Tame members)
    (holds : start.channel.isLocal = true)
    (parsed : start.parse (Value.object members).compact = .ok config) :
    config.channel.isLocal = true := by
  obtain ⟨rest, read⟩ := parseWith_eq_ok parsed
  rw [Value.compact, String.toList_ofList, ← List.append_nil (Value.render _)] at read
  have spares : ∀ kv ∈ members, shape.Spares (fun c => c.channel.isLocal = true) kv := by
    intro kv member
    by_cases here : kv.1 = channelKey
    · obtain ⟨channel, isLocal, reads⟩ := tame kv member here
      obtain ⟨key, v⟩ := kv
      cases here
      exact spares_channel (P := fun channel => channel.isLocal = true) reads isLocal
    · exact spares_beside (P := fun channel => channel.isLocal = true) here
  exact Shape.read_object_spares (P := fun c => c.channel.isLocal = true) spares holds read

theorem silent_iff {members : Members} : Silent members ↔ Members.get? channelKey members = none := by
  rw [Members.get?, List.lookup_eq_none_iff]
  constructor
  · intro silent kv member
    exact bne_iff_ne.mpr (silent kv member).symm
  · intro absent kv member
    exact (bne_iff_ne.mp (absent kv member)).symm

theorem Silent.tame {members : Members} (silent : Silent members) : Tame members :=
  fun kv member here => absurd here (silent kv member)

section Put

variable {under : Members} {key : String} {v : Value}

theorem Silent.put (silent : Silent under) (other : key ≠ channelKey) :
    Silent (Members.put key v under) := by
  intro kv member
  rcases Members.mem_put member with rfl | old
  · exact other
  · exact silent kv old

theorem Tame.put (tame : Tame under) (other : key ≠ channelKey) :
    Tame (Members.put key v under) := by
  intro kv member named
  rcases Members.mem_put member with rfl | old
  · exact absurd named other
  · exact tame kv old named

theorem Silent.put_channel {channel : Channel} (silent : Silent under)
    (isLocal : channel.isLocal = true)
    (reads : ∀ levels, ReadsAs (Channel.read levels) Value.render (fun _ => channel) v) :
    Tame (Members.put channelKey v under) := by
  intro kv member named
  rcases Members.mem_put member with rfl | old
  · exact ⟨channel, isLocal, reads⟩
  · exact absurd named (silent kv old)

end Put

theorem Silent.overlay {under layer : Members} (silent : Silent under) (above : Silent layer) :
    Silent (overlayMembers under layer) := by
  induction layer generalizing under with
  | nil =>
    rw [overlayMembers]
    exact silent
  | cons head layer ih =>
    rw [overlayMembers]
    apply ih
    · exact silent.put (above head List.mem_cons_self)
    · exact fun kv member => above kv (List.mem_cons_of_mem head member)

/-- A record of a channel laid over nothing has its members in order, so its kind comes last. -/
theorem overlay_channel (channel : Channel) :
    overlay .null (.object channel.toMembers) =
      .object (channel.details ++ [(Channel.kindField, .text channel.kind.name)]) := by
  cases channel with
  | unix path =>
    have order : ("path" : String) < "transport" := by decide
    simp [Channel.toMembers, overlay, overlayMembers, Members.put, order,
      Channel.details, Channel.kindField, Channel.kind, Channel.Kind.name]
  | tcp host port =>
    have order : ("host" : String) < "transport" := by decide
    have order' : ("port" : String) < "transport" := by decide
    have order'' : ¬("port" : String) < "host" := by decide
    simp [Channel.toMembers, overlay, overlayMembers, Members.put, order, order',
      order'', Channel.details, Channel.kindField, Channel.kind, Channel.Kind.name]

/-- Settings as a command line gives them: each once, and the channel as it is read from a text. -/
structure Asked (members : Members) : Prop where
  apart : (members.map (·.1)).Nodup
  channels : ∀ kv ∈ members, kv.1 = channelKey →
    ∃ text channel, Channel.parse text = .ok channel ∧ kv.2 = .object channel.toMembers

theorem Asked.snoc {members : Members} {key : String} {v : Value} (asked : Asked members)
    (new : Members.get? key members = none)
    (given : key = channelKey →
      ∃ text channel, Channel.parse text = .ok channel ∧ v = .object channel.toMembers) :
    Asked (members ++ [(key, v)]) := by
  have absent : key ∉ members.map (·.1) := by
    intro member
    obtain ⟨kv, old, same⟩ := List.mem_map.mp member
    exact bne_iff_ne.mp (List.lookup_eq_none_iff.mp new kv old) same.symm
  constructor
  · rw [List.map_append, List.map_singleton, ← List.concat_eq_append]
    exact List.Nodup.concat absent asked.apart
  · intro kv member named
    rcases List.mem_append.mp member with old | last
    · exact asked.channels kv old named
    · cases List.mem_singleton.mp last
      exact given named

theorem overlay_asked {under given : Members} (asked : Asked given)
    (before : Silent under ∨ Tame under ∧ channelKey ∉ given.map (·.1)) :
    Tame (overlayMembers under given) := by
  induction given generalizing under with
  | nil =>
    rw [overlayMembers]
    rcases before with silent | ⟨tame, -⟩
    · exact silent.tame
    · exact tame
  | cons head given ih =>
    obtain ⟨key, v⟩ := head
    obtain ⟨new, apart⟩ := List.nodup_cons.mp asked.apart
    have later : Asked given :=
      ⟨apart, fun kv member => asked.channels kv (List.mem_cons_of_mem _ member)⟩
    rw [overlayMembers]
    apply ih later
    by_cases here : key = channelKey
    · subst here
      rcases before with silent | ⟨-, absent⟩
      · obtain ⟨text, channel, read, written⟩ := asked.channels _ List.mem_cons_self rfl
        obtain ⟨fits, isLocal⟩ := Channel.parse_fits read
        dsimp only at written
        rw [silent_iff.mp silent, Option.getD_none, written, overlay_channel]
        exact .inr ⟨silent.put_channel isLocal (Channel.read_kind_last fits), new⟩
      · exact absurd List.mem_cons_self absent
    · rcases before with silent | ⟨tame, absent⟩
      · exact .inl (silent.put here)
      · exact .inr ⟨tame.put here, fun later => absent (List.mem_cons_of_mem _ later)⟩

def membersOf : Value → Members
  | .object members => members
  | _ => []

theorem overlay_object (under : Value) (layer : Members) :
    overlay under (.object layer) = .object (overlayMembers (membersOf under) layer) := by
  cases under <;> rfl

theorem merged_append (layers : List Members) (layer : Members) :
    merged (layers ++ [layer]) = .object (overlayMembers (membersOf (merged layers)) layer) := by
  rw [merged, List.foldl_append, ← merged]
  exact overlay_object _ layer

theorem merged_silent {layers : List Members} (silent : ∀ layer ∈ layers, Silent layer) :
    Silent (membersOf (merged layers)) := by
  induction layers using List.reverseRecOn with
  | nil => exact nofun
  | append_singleton layers layer ih =>
    rw [merged_append]
    apply Silent.overlay
    · exact ih fun layer member => silent layer (List.mem_append_left _ member)
    · exact silent layer (by simp)

theorem parse_null (start config : Config) : start.parse Value.null.compact ≠ .ok config := by
  intro parsed
  obtain ⟨rest, read⟩ := parseWith_eq_ok parsed
  rw [Value.compact, String.toList_ofList, Value.render, Shape.read,
    skipGap_of_not_gap _ (by decide)] at read
  cases read

/-- Settings that are accepted come from a record: nothing can be read where there is no layer. -/
theorem ofLayers_eq_ok {start config : Config} {layers : List Members}
    (made : ofLayers start layers = .ok config) :
    start.parse (Value.object (membersOf (merged layers))).compact = .ok config := by
  have parsed : start.parse (merged layers).compact = .ok config := by
    rw [ofLayers] at made
    cases read : start.parse (merged layers).compact with
    | error refusal =>
      rw [read] at made
      cases made
    | ok other =>
      rw [read] at made
      cases made
      rfl
  rcases List.eq_nil_or_concat layers with rfl | ⟨front, layer, rfl⟩
  · exact absurd parsed (parse_null start config)
  · rw [List.concat_eq_append, merged_append] at parsed ⊢
    exact parsed

/-- Layers that leave the channel alone, and a command line if it sets anything. -/
theorem ofLayers_local {start config : Config} {layers : List Members} {given : Members}
    (silent : ∀ layer ∈ layers, Silent layer) (asked : Asked given)
    (holds : start.channel.isLocal = true)
    (made : ofLayers start (layers ++ [given].filter (!·.isEmpty)) = .ok config) :
    config.channel.isLocal = true := by
  have under := merged_silent silent
  have parsed := ofLayers_eq_ok made
  rw [List.filter_singleton] at parsed
  cases empty : given.isEmpty with
  | false =>
    rw [empty, Bool.not_false, cond_true, merged_append] at parsed
    exact parse_tame (overlay_asked asked (.inl under)) holds parsed
  | true =>
    rw [empty, Bool.not_true, cond_false, List.append_nil] at parsed
    exact parse_tame under.tame holds parsed

end DebugGateway.Config
