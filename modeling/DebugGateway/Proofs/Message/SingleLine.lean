import DebugGateway.Message
import DebugGateway.Proofs.Text.Bytes

/-! Every message is one line. No control character stands anywhere in a compact JSON text, at any
depth and in no key, so the delimiter at the end is the only newline; the opening of a line tells
notifications from responses. -/
namespace DebugGateway

open Json

namespace Text

def Plain (s : List Char) : Prop := ∀ c ∈ s, 32 ≤ c.toNat

instance (s : List Char) : Decidable (Plain s) :=
  List.decidableBAll _ s

theorem Plain.append {s t : List Char} (hs : Plain s) (ht : Plain t) : Plain (s ++ t) := by
  intro c member
  rcases List.mem_append.mp member with left | right
  · exact hs c left
  · exact ht c right

theorem Plain.cons {c : Char} {s : List Char} (hc : 32 ≤ c.toNat) (hs : Plain s) :
    Plain (c :: s) := by
  intro d member
  rcases List.mem_cons.mp member with rfl | tail
  · exact hc
  · exact hs d tail

theorem plain_nil : Plain [] := by simp [Plain]

theorem Plain.subset {s t : List Char} (hs : Plain s) (inside : t ⊆ s) : Plain t :=
  fun c member => hs c (inside member)

theorem plain_replicate {c : Char} (hc : 32 ≤ c.toNat) (n : Nat) : Plain (List.replicate n c) := by
  intro d member
  rw [List.eq_of_mem_replicate member]
  exact hc

theorem Plain.toBytes {s : List Char} (plain : Plain s) :
    ∀ b ∈ toBytes (String.ofList s), 32 ≤ b.toNat := by
  intro b member
  rw [toBytes_ofList] at member
  obtain ⟨c, inside, encoded⟩ := List.mem_flatMap.mp member
  by_cases low : b.toNat < 128
  · rw [← utf8EncodeChar_low encoded low]
    exact plain c inside
  · omega

theorem Plain.no_control {s : List Char} (plain : Plain s) {b : UInt8} (control : b.toNat < 32) :
    b ∉ Text.toBytes (String.ofList s) := by
  intro member
  have printable := plain.toBytes b member
  omega

theorem plain_toDigits (n : Nat) : Plain (Nat.toDigits 10 n) := by
  intro c member
  have digit := Nat.isDigit_of_mem_toDigits (by decide) (by decide) member
  simp only [Char.isDigit, Bool.and_eq_true, decide_eq_true_eq] at digit
  have low : (48 : UInt32) ≤ c.val := digit.1
  have low' : 48 ≤ c.val.toNat := low
  exact Nat.le_trans (by decide) low'

end Text

open Text (Plain)

theorem Number.Double.plain_render (x : Number.Double) : Plain x.render := by
  have digits := Text.plain_toDigits x.shortest.digits
  unfold render
  dsimp only
  have sign : Plain (if x.negative then ['-'] else []) := by split <;> decide
  split
  · exact sign.append (by decide)
  · refine sign.append ?_
    split
    · split
      · exact (digits.append (Text.plain_replicate (by decide) _)).append (by decide)
      · split
        · exact (digits.subset (List.take_subset _ _)).append
            (.cons (by decide) (digits.subset (List.drop_subset _ _)))
        · exact .cons (by decide) (.cons (by decide)
            ((Text.plain_replicate (by decide) _).append digits))
    · refine (((digits.subset (List.take_subset _ _)).append ?_).append ?_).append
        (Text.plain_toDigits _)
      · split
        · exact Text.plain_nil
        · exact .cons (by decide) (digits.subset (List.drop_subset _ _))
      · split <;> decide

namespace Json

theorem plain_escapeControl : ∀ n < 32, Plain (escapeChar (Char.ofNat n)) := by decide

theorem plain_escapeChar (c : Char) : Plain (escapeChar c) := by
  by_cases control : c.toNat < 32
  · have h := plain_escapeControl c.toNat control
    rwa [Char.ofNat_toNat] at h
  · unfold escapeChar
    split
    · decide
    · split
      · decide
      · rw [if_neg (show c.toNat ≠ 8 by omega), if_neg (show c.toNat ≠ 9 by omega),
          if_neg (show c.toNat ≠ 10 by omega), if_neg (show c.toNat ≠ 12 by omega),
          if_neg (show c.toNat ≠ 13 by omega)]
        exact .cons (by omega) Text.plain_nil

theorem plain_renderText (s : String) : Plain (renderText s) := by
  have inside : Plain (s.toList.flatMap escapeChar) := by
    intro c member
    obtain ⟨d, _, escaped⟩ := List.mem_flatMap.mp member
    exact plain_escapeChar d c escaped
  exact .cons (by decide) (inside.append (by decide))

theorem plain_renderInt (n : Int) : Plain (renderInt n) := by
  cases n with
  | ofNat n => exact Text.plain_toDigits n
  | negSucc n => exact .cons (by decide) (Text.plain_toDigits (n + 1))

namespace Value

mutual

theorem plain_render : (v : Value) → Plain v.render
  | .null => by decide
  | .bool true => by decide
  | .bool false => by decide
  | .int n => plain_renderInt n
  | .real x => x.plain_render
  | .text s => plain_renderText s
  | .list items => .cons (by decide) ((plain_renderItems items).append (by decide))
  | .object members => .cons (by decide) ((plain_renderMembers members).append (by decide))

theorem plain_renderItems : (items : List Value) → Plain (renderItems items)
  | [] => Text.plain_nil
  | [v] => plain_render v
  | v :: w :: rest => (plain_render v).append (.cons (by decide) (plain_renderItems (w :: rest)))

theorem plain_renderMembers : (members : List (String × Value)) → Plain (renderMembers members)
  | [] => Text.plain_nil
  | [(k, v)] => (plain_renderText k).append (.cons (by decide) (plain_render v))
  | (k, v) :: w :: rest =>
    ((plain_renderText k).append (.cons (by decide) (plain_render v))).append
      (.cons (by decide) (plain_renderMembers (w :: rest)))

end

end Value

end Json

/-! ## Lines -/

def Outbound.line (m : Outbound) : List UInt8 := Text.toBytes (Value.object m.toMembers).compact

theorem Outbound.encode_eq (m : Outbound) : m.encode = m.line ++ [10] := rfl

theorem Outbound.encode_ne_nil (m : Outbound) : m.encode ≠ [] := by simp [encode_eq]

theorem Outbound.line_no_newline (m : Outbound) : 10 ∉ m.line :=
  (Value.plain_render _).no_control (by decide)

theorem Outbound.cutLines_encode (messages : List Outbound) :
    Text.cutLines (messages.flatMap encode) = (messages.map line, []) :=
  Text.cutLines_flatMap Outbound.line_no_newline messages

/-! ## Notifications among responses -/

def notificationOpening : List UInt8 := Text.toBytes "\x7b\"type\":\"notification\""

def isNotificationLine (line : List UInt8) : Bool := notificationOpening.isPrefixOf line

theorem Json.Value.render_object_opening (key : String) (v : Value) (rest : Members) :
    ∃ more, (Value.object ((key, v) :: rest)).render =
      '\x7b' :: renderText key ++ ':' :: v.render ++ more := by
  cases rest with
  | nil => exact ⟨['\x7d'], by simp [render, renderMembers]⟩
  | cons member rest =>
    exact ⟨',' :: renderMembers (member :: rest) ++ ['\x7d'], by simp [render, renderMembers]⟩

theorem Outbound.notification_line (n : Notification) :
    isNotificationLine (line (.notification n)) = true := by
  obtain ⟨more, opening⟩ := Value.render_object_opening "type" (.text "notification")
    [("event", .text n.event), ("data", n.data)]
  have bytes : line (.notification n) = notificationOpening ++ more.flatMap String.utf8EncodeChar := by
    show Text.toBytes (String.ofList (Value.object _).render) = _
    rw [Text.toBytes_ofList, show (notification n).toMembers = n.toMembers from rfl,
      Notification.toMembers, opening, List.flatMap_append]
    rfl
  rw [isNotificationLine, bytes, List.isPrefixOf_iff_prefix]
  exact List.prefix_append _ _

theorem Response.toMembers_opening (r : Response) :
    ∃ rest, (∃ id, r.toMembers = ("id", .int id) :: rest) ∨
      r.toMembers = ("type", .text r.kind.name) :: rest := by
  unfold toMembers envelope
  cases r.id with
  | none => exact ⟨_, .inr rfl⟩
  | some id => exact ⟨_, .inl ⟨id, rfl⟩⟩

theorem Outbound.response_line (r : Response) : isNotificationLine (line (.response r)) = false := by
  have bytes : line (.response r) = (Value.object r.toMembers).render.flatMap String.utf8EncodeChar :=
    Text.toBytes_ofList _
  rw [isNotificationLine, bytes]
  obtain ⟨rest, ⟨id, members⟩ | members⟩ := r.toMembers_opening
  · obtain ⟨more, opening⟩ := Value.render_object_opening "id" (.int id) rest
    rw [members, opening]
    rfl
  · obtain ⟨more, opening⟩ := Value.render_object_opening "type" (.text r.kind.name) rest
    rw [members, opening]
    cases r.kind <;> rfl

end DebugGateway
