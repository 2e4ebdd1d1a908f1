import DebugGateway.Execution.Gate
import DebugGateway.Proofs.Basics

/-! Who is awake before a free gate. A release sends out one notification. It may go to a sleeper whose
time is up at that moment, or be spent on a visitor that has just woken by itself, and one who has only
just come may be first at the gate. No release is lost by that: a visitor asks whether the gate is free
before it asks what time it is, so whoever looks first after a release has the ticket, and until then
somebody is awake to look. -/
namespace DebugGateway.Gate

variable {g h : Gate} {e : Event} {i : Nat} {u v w : Visitor}

def Sleepless (g : Gate) : Prop := ∀ v ∈ g.visitors, v.waiter ≠ .asleep

def Alert (g : Gate) : Prop := ∃ v ∈ g.visitors, v.woken = true

def tickets (g : Gate) : Nat := g.visitors.countP (·.waiter == .holding)

/-! ## What can happen -/

inductive Moves (g : Gate) : Event → Gate → Prop where
  | pass (duration : Nat) : Moves g (.pass duration) { g with now := g.now + duration }
  | arrive (deadline : Nat) :
    Moves g (.arrive deadline) { g with visitors := g.visitors ++ [.coming deadline] }
  | enters {i : Nat} {v : Visitor} : g.visitors[i]? = some v → v.waiter = .looking → g.busy = false →
    Moves g (.look i) { g.put i (v.settle .holding) with busy := true }
  | sleeps {i : Nat} {v : Visitor} : g.visitors[i]? = some v → v.waiter = .looking → g.busy = true →
    g.now < v.deadline → Moves g (.look i) (g.put i (v.settle .asleep))
  | givesUp {i : Nat} {v : Visitor} : g.visitors[i]? = some v → v.waiter = .looking → g.busy = true →
    v.deadline ≤ g.now → Moves g (.look i) (g.put i (v.settle .gone))
  | timesOut {i : Nat} {v : Visitor} : g.visitors[i]? = some v → v.waiter = .asleep →
    v.deadline ≤ g.now → Moves g (.timeUp i) (g.put i v.rouse)
  | stirs {i : Nat} {v : Visitor} : g.visitors[i]? = some v → v.waiter = .asleep →
    Moves g (.stir i) (g.put i v.rouse)
  | releases {h : Gate} {i : Nat} {v : Visitor} {notified : Option Nat} :
    g.visitors[i]? = some v → v.waiter = .holding →
      { g.put i (v.settle .gone) with busy := false }.notify notified = some h →
        Moves g (.release i notified) h

theorem rouse_some {may : Visitor → Bool} (roused : g.rouse i may = some h) :
    ∃ v, g.visitors[i]? = some v ∧ may v = true ∧ h = g.put i v.rouse := by
  unfold rouse at roused
  split at roused
  · rename_i v found
    split at roused
    · rename_i can
      exact ⟨v, found, can, (Option.some.inj roused).symm⟩
    · contradiction
  · contradiction

theorem notify_some {notified : Option Nat} (sent : g.notify notified = some h) :
    h = g ∧ g.Sleepless ∨
      ∃ j v, g.visitors[j]? = some v ∧ v.waits = true ∧ h = g.put j v.rouse := by
  cases notified with
  | none =>
    simp only [notify] at sent
    split at sent
    · rename_i nobody
      refine .inl ⟨(Option.some.inj sent).symm, ?_⟩
      simpa [Sleepless] using nobody
    · contradiction
  | some j =>
    obtain ⟨v, found, waits, rfl⟩ := rouse_some sent
    exact .inr ⟨j, v, found, waits, rfl⟩

theorem look_moves (looked : g.step (.look i) = some h) : Moves g (.look i) h := by
  simp only [step] at looked
  split at looked
  · rename_i v found
    split at looked
    · rename_i looking
      obtain ⟨now, busy, visitors⟩ := g
      cases busy with
      | false =>
        cases looked
        exact .enters found looking rfl
      | true =>
        by_cases late : v.deadline ≤ now
        · rw [decide_eq_true late] at looked
          cases looked
          exact .givesUp found looking rfl late
        · rw [decide_eq_false late] at looked
          cases looked
          exact .sleeps found looking rfl (Nat.lt_of_not_le late)
    · contradiction
  · contradiction

theorem step_moves (stepped : g.step e = some h) : Moves g e h := by
  cases e with
  | pass duration =>
    cases stepped
    exact .pass duration
  | arrive deadline =>
    cases stepped
    exact .arrive deadline
  | look i => exact look_moves stepped
  | timeUp i =>
    obtain ⟨v, found, can, rfl⟩ := rouse_some stepped
    simp only [Bool.and_eq_true, beq_iff_eq, decide_eq_true_eq] at can
    exact .timesOut found can.1 can.2
  | stir i =>
    obtain ⟨v, found, asleep, rfl⟩ := rouse_some stepped
    exact .stirs found (beq_iff_eq.mp asleep)
  | release i notified =>
    simp only [step] at stepped
    split at stepped
    · rename_i v found
      split at stepped
      · rename_i holding
        exact .releases found holding stepped
      · contradiction
    · contradiction

/-! ## Tickets -/

theorem waits_not_holding (waits : v.waits = true) : v.waiter ≠ .holding := by
  simp only [Visitor.waits, Bool.or_eq_true, beq_iff_eq] at waits
  rcases waits with asleep | woken
  · rw [asleep]
    exact Waiter.noConfusion
  · rw [v.looks_again woken]
    exact Waiter.noConfusion

theorem put_tickets (found : g.visitors[i]? = some v) :
    (g.put i w).tickets + (v.waiter == .holding).toNat = g.tickets + (w.waiter == .holding).toNat :=
  countP_set_toNat (fun v : Visitor => v.waiter == .holding) found

theorem put_tickets_same (found : g.visitors[i]? = some v) (before : v.waiter ≠ .holding)
    (after : w.waiter ≠ .holding) : (g.put i w).tickets = g.tickets := by
  have counted := put_tickets (w := w) found
  rw [beq_false_of_ne before, beq_false_of_ne after] at counted
  exact counted

theorem notify_tickets {notified : Option Nat} (sent : g.notify notified = some h) :
    h.tickets = g.tickets ∧ h.busy = g.busy := by
  rcases notify_some sent with ⟨rfl, -⟩ | ⟨j, v, found, waits, rfl⟩
  · exact ⟨rfl, rfl⟩
  · exact ⟨put_tickets_same found (waits_not_holding waits) Waiter.noConfusion, rfl⟩

theorem Moves.tickets (move : Moves g e h) (one : g.tickets = g.busy.toNat) :
    h.tickets = h.busy.toNat := by
  cases move with
  | pass => exact one
  | arrive deadline =>
    rw [Gate.tickets, List.countP_append]
    exact one
  | @enters i v found looking free =>
    have counted := put_tickets (w := v.settle .holding) found
    rw [one, looking, free] at counted
    exact counted
  | sleeps found looking | givesUp found looking =>
    exact (put_tickets_same found (by simp [looking]) Waiter.noConfusion).trans one
  | timesOut found asleep | stirs found asleep =>
    exact (put_tickets_same found (by simp [asleep]) Waiter.noConfusion).trans one
  | @releases _ i v notified found holding sent =>
    have counted := put_tickets (w := v.settle .gone) found
    rw [one, holding] at counted
    have others : (g.put i (v.settle .gone)).tickets + 1 = g.busy.toNat := counted
    have most := Bool.toNat_le g.busy
    obtain ⟨same, opened⟩ := notify_tickets sent
    rw [same, opened]
    show (g.put i (v.settle .gone)).tickets = 0
    omega

/-! ## Who is awake -/

theorem mem_put_of_ne (member : u ∈ g.visitors) (found : g.visitors[i]? = some v) (other : u ≠ v) :
    u ∈ (g.put i w).visitors := by
  obtain ⟨j, there⟩ := List.getElem?_of_mem member
  have apart : i ≠ j := by
    rintro rfl
    exact other (Option.some.inj (there.symm.trans found))
  exact List.mem_of_getElem? ((List.getElem?_set_ne apart).trans there)

theorem put_alert (found : g.visitors[i]? = some v) : (g.put i v.rouse).Alert :=
  ⟨v.rouse, List.mem_set (List.getElem?_eq_some_iff.mp found).1 _, rfl⟩

theorem notify_attended {notified : Option Nat} (sent : g.notify notified = some h) :
    h.Sleepless ∨ h.Alert := by
  rcases notify_some sent with ⟨rfl, nobody⟩ | ⟨j, v, found, -, rfl⟩
  · exact .inl nobody
  · exact .inr (put_alert found)

theorem notify_alert {notified : Option Nat} (sent : g.notify notified = some h)
    (member : u ∈ g.visitors) (waits : u.waits = true) : h.Alert := by
  rcases notify_some sent with ⟨rfl, nobody⟩ | ⟨j, v, found, -, rfl⟩
  · -- it went to nobody, so whoever waits is awake already
    simp only [Visitor.waits, Bool.or_eq_true, beq_iff_eq] at waits
    exact ⟨u, member, waits.resolve_left (nobody u member)⟩
  · exact put_alert found

/-- The gate is free, and somebody woken is about to look at it. -/
structure Offered (g : Gate) : Prop where
  free : g.busy = false
  alert : g.Alert

theorem release_offers {notified : Option Nat} (released : g.step (.release i notified) = some h)
    (member : u ∈ g.visitors) (waits : u.waits = true) : h.Offered := by
  cases step_moves released with
  | @releases _ _ v _ found holding sent =>
    have other : u ≠ v := fun same => waits_not_holding waits (same ▸ holding)
    have still := mem_put_of_ne (w := v.settle .gone) member found other
    exact ⟨(notify_tickets sent).2, notify_alert sent still waits⟩

theorem Offered.step (offered : g.Offered) (stepped : g.step e = some h) (unlooked : ∀ j, e ≠ .look j) :
    h.Offered := by
  obtain ⟨free, u, member, woken⟩ := offered
  cases step_moves stepped with
  | pass => exact ⟨free, u, member, woken⟩
  | arrive deadline => exact ⟨free, u, List.mem_append_left _ member, woken⟩
  | enters | sleeps | givesUp => exact absurd rfl (unlooked _)
  | timesOut found | stirs found => exact ⟨free, put_alert found⟩
  | releases =>
    have waits : u.waits = true := by simp [Visitor.waits, woken]
    exact release_offers stepped member waits

theorem Offered.after (offered : g.Offered) (events : List Event)
    (run : events.foldlM Gate.step g = some h) (unlooked : ∀ j, .look j ∉ events) : h.Offered := by
  apply foldlM_kept run _ offered
  intro _ e member _ before stepped
  apply before.step stepped
  rintro j rfl
  exact unlooked j member

/-! ## Looking at the gate -/

theorem look_possible (found : g.visitors[i]? = some v) (looking : v.waiter = .looking) :
    ∃ h, g.step (.look i) = some h := by
  simp only [step, found, if_pos looking]
  exact ⟨_, rfl⟩

theorem look_free (free : g.busy = false) (looked : g.step (.look i) = some h) :
    h.busy = true ∧ h.holds i = true := by
  cases look_moves looked with
  | enters found =>
    have inside := (List.getElem?_eq_some_iff.mp found).1
    refine ⟨rfl, ?_⟩
    simp only [holds, put, List.getElem?_set_self inside]
    rfl
  | sleeps _ _ busy | givesUp _ _ busy => exact absurd (free.symm.trans busy) Bool.noConfusion

theorem look_shut (looked : g.step (.look i) = some h) : h.busy = true := by
  cases look_moves looked with
  | enters => rfl
  | sleeps _ _ busy | givesUp _ _ busy => exact busy

/-! ## Every state that can be reached -/

/-- The gate is shut for just one ticket, and nobody is left asleep before a free gate. -/
structure Orderly (g : Gate) : Prop where
  tickets : g.tickets = g.busy.toNat
  attended : g.busy = false → g.Sleepless ∨ g.Alert

theorem Orderly.start : Orderly {} := ⟨rfl, fun _ => .inl (by simp [Sleepless])⟩

theorem Orderly.step (orderly : g.Orderly) (stepped : g.step e = some h) : h.Orderly := by
  have move := step_moves stepped
  refine ⟨move.tickets orderly.tickets, fun free => ?_⟩
  cases move with
  | pass => exact orderly.attended free
  | arrive deadline =>
    rcases orderly.attended free with sleepless | ⟨v, member, woken⟩
    · left
      intro v member
      rcases List.mem_append.mp member with old | new
      · exact sleepless v old
      · cases List.mem_singleton.mp new
        exact Waiter.noConfusion
    · exact .inr ⟨v, List.mem_append_left _ member, woken⟩
  | enters | sleeps | givesUp =>
    -- to fall asleep, or to give up, one must have found the gate shut
    exact absurd (free.symm.trans (look_shut stepped)) Bool.noConfusion
  | timesOut found | stirs found => exact .inr (put_alert found)
  | releases _ _ sent => exact notify_attended sent

theorem Reachable.orderly (reached : g.Reachable) : g.Orderly := by
  induction reached with
  | start => exact .start
  | step e _ stepped ih => exact ih.step stepped

theorem Reachable.after (events : List Event) (reached : g.Reachable)
    (run : events.foldlM Gate.step g = some h) : h.Reachable := by
  apply foldlM_kept run _ reached
  intro _ e _ _ before stepped
  exact before.step e stepped

/-- In every state that can be reached, however many visitors came: the gate is free just when no ticket
is out; before a free gate nobody is asleep, or somebody woken is about to look; one who was woken and
looks at a free gate has the ticket, its deadline having passed or not; whatever comes of a look, a
ticket is out after it, the visitor's own or one whose release is still to come; and once a ticket is
given back where anybody waits, the gate stays free and somebody woken is about to look until somebody
looks, and the first who looks has the ticket. -/
theorem releases_kept (reached : g.Reachable) :
    (g.busy = false ↔ g.tickets = 0) ∧
    (g.busy = false → g.Sleepless ∨ g.Alert) ∧
    (g.busy = false → ∀ i v, g.visitors[i]? = some v → v.woken = true →
      ∃ h, g.step (.look i) = some h ∧ h.busy = true ∧ h.holds i = true) ∧
    (∀ i h, g.step (.look i) = some h → h.tickets = 1) ∧
    (∀ i notified h, g.step (.release i notified) = some h → (∃ v ∈ g.visitors, v.waits = true) →
      ∀ (events : List Event) (k : Gate), events.foldlM step h = some k → (∀ j, .look j ∉ events) →
        k.busy = false ∧ k.Alert ∧
          ∀ j l, k.step (.look j) = some l → l.busy = true ∧ l.holds j = true) := by
  have orderly := reached.orderly
  refine ⟨?_, orderly.attended, ?_, ?_, ?_⟩
  · rw [orderly.tickets]
    cases g.busy <;> simp
  · intro free i v found woken
    obtain ⟨h, looked⟩ := look_possible found (v.looks_again woken)
    exact ⟨h, looked, look_free free looked⟩
  · intro i h looked
    rw [(orderly.step looked).tickets, look_shut looked]
    rfl
  · intro i notified h released ⟨v, member, waits⟩ events k run unlooked
    have offered : k.Offered := (release_offers released member waits).after events run unlooked
    exact ⟨offered.free, offered.alert, fun j l looked => look_free offered.free looked⟩

def overdue : Gate where
  now := 10
  busy := true
  visitors := [.settle (.coming 5) .holding, .rouse (.coming 10), .settle (.coming 50) .asleep]

/-- The notification is spent on the one whose time is up. It looks late, after somebody else has come and
while another sleeps, and has the ticket. -/
theorem releases_kept_overdue :
    overdue.Reachable ∧ ∃ h k l, overdue.step (.release 0 (some 1)) = some h ∧
      [.pass 7, .arrive 60].foldlM step h = some k ∧ k.busy = false ∧ ¬ k.Sleepless ∧ k.Alert ∧
        k.step (.look 1) = some l ∧ l.holds 1 = true := by
  have reached : overdue.Reachable := Reachable.start.after
    [.arrive 5, .look 0, .arrive 10, .look 1, .arrive 50, .look 2, .pass 10, .timeUp 1] rfl
  obtain ⟨_, _, _, _, kept⟩ := releases_kept reached
  obtain ⟨free, alert, first⟩ := kept 0 (some 1) _ rfl ⟨.rouse (.coming 10), by decide, rfl⟩
    [.pass 7, .arrive 60] _ rfl (by simp)
  refine ⟨reached, _, _, _, rfl, rfl, free, ?_, alert, rfl, (first 1 _ rfl).2⟩
  exact fun sleepless => sleepless (.settle (.coming 50) .asleep) (by decide) rfl

end DebugGateway.Gate
