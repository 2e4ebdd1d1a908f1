/-!
The gate that admits one call at a time, as a step system on a clock, over any number of visitors. A
visitor looks at the gate under a lock; it first asks whether the gate is free and only then whether its
deadline has passed. One who is to wait falls asleep as it lets go of the lock, and wakes when it is
notified, when its time is up, or for no reason; then it looks again. Giving a ticket back opens the gate
and sends out one notification.
-/
namespace DebugGateway

inductive Waiter where
  | looking
  | asleep
  | holding
  | gone
deriving DecidableEq, Repr

structure Visitor where
  deadline : Nat
  waiter : Waiter := .looking
  woken : Bool := false
  looks_again : woken = true → waiter = .looking := by intro; contradiction
deriving DecidableEq, Repr

namespace Visitor

def coming (deadline : Nat) : Visitor := { deadline }

def settle (v : Visitor) (w : Waiter) : Visitor :=
  { deadline := v.deadline, waiter := w }

def rouse (v : Visitor) : Visitor :=
  { deadline := v.deadline, woken := true, looks_again := fun _ => rfl }

def waits (v : Visitor) : Bool := v.waiter == .asleep || v.woken

end Visitor

structure Gate where
  now : Nat := 0
  busy : Bool := false
  visitors : List Visitor := []
deriving DecidableEq, Repr

namespace Gate

/-- What can happen at the gate; visitors are named by their place. -/
inductive Event where
  | pass (duration : Nat)
  | arrive (deadline : Nat)
  | look (i : Nat)
  | timeUp (i : Nat)
  | stir (i : Nat)
  -- a ticket is given back, and the visitor named is notified, if there is one
  | release (i : Nat) (notified : Option Nat)
deriving DecidableEq, Repr

def verdict (busy late : Bool) : Waiter :=
  if busy then (if late then .gone else .asleep) else .holding

def put (g : Gate) (i : Nat) (v : Visitor) : Gate := { g with visitors := g.visitors.set i v }

def rouse (g : Gate) (i : Nat) (may : Visitor → Bool) : Option Gate :=
  match g.visitors[i]? with
  | some v => if may v then some (g.put i v.rouse) else none
  | none => none

/-- Sends out one notification. It goes to nobody only if nobody sleeps; it may be spent on a visitor that
has just woken by itself. -/
def notify (g : Gate) : Option Nat → Option Gate
  | some j => g.rouse j (·.waits)
  | none => if g.visitors.all (·.waiter != .asleep) then some g else none

def step (g : Gate) : Event → Option Gate
  | .pass duration => some { g with now := g.now + duration }
  | .arrive deadline => some { g with visitors := g.visitors ++ [.coming deadline] }
  | .look i =>
    match g.visitors[i]? with
    | some v =>
      if v.waiter = .looking then
        -- whoever finds the gate free has the ticket, however late
        let w := verdict g.busy (v.deadline ≤ g.now)
        some { g.put i (v.settle w) with busy := g.busy || w == .holding }
      else none
    | none => none
  | .timeUp i => g.rouse i fun v => v.waiter == .asleep && v.deadline ≤ g.now
  | .stir i => g.rouse i (·.waiter == .asleep)
  | .release i notified =>
    match g.visitors[i]? with
    | some v =>
      if v.waiter = .holding then { g.put i (v.settle .gone) with busy := false }.notify notified
      else none
    | none => none

inductive Reachable : Gate → Prop where
  | start : Reachable {}
  | step {g h : Gate} (e : Event) : Reachable g → g.step e = some h → Reachable h

def holds (g : Gate) (i : Nat) : Bool := g.visitors[i]?.any (·.waiter == .holding)

def sleeper? (g : Gate) : Option Nat := g.visitors.findIdx? (·.waiter == .asleep)

end Gate

end DebugGateway
