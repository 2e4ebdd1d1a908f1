import DebugGateway.Execution.Gate

namespace DebugGateway.Rehearsal

/-- The gate, whose time is in milliseconds, and the tickets that will be given back at a time, earliest
first. -/
structure Turnstile where
  gate : Gate := {}
  due : List (Nat × Nat) := []

namespace Turnstile

def delay : Nat := 30

def happen (t : Turnstile) (e : Gate.Event) : Turnstile :=
  { t with gate := (t.gate.step e).getD t.gate }

def pass (t : Turnstile) (time : Nat) : Turnstile :=
  t.happen (.pass (time - t.gate.now))

def giveBack (t : Turnstile) (i : Nat) : Turnstile :=
  t.happen (.release i t.gate.sleeper?)

def outwait (t : Turnstile) (i deadline : Nat) : Turnstile :=
  ((t.pass deadline).happen (.timeUp i)).happen (.look i)

def await (i deadline : Nat) : List (Nat × Nat) → Turnstile → Turnstile
  | [], t => { t with due := [] }.outwait i deadline
  | (opening, j) :: rest, t =>
    if opening < deadline then
      let t := (({ t with due := rest }.pass opening).giveBack j).happen (.look i)
      if t.gate.holds i then t else await i deadline rest t
    else { t with due := (opening, j) :: rest }.outwait i deadline

/-- Asks for a ticket and waits at most so many milliseconds; says whether it was had. -/
def acquire (t : Turnstile) (limit : Nat) : Bool × Turnstile :=
  let i := t.gate.visitors.length
  let deadline := t.gate.now + limit
  let t := (t.happen (.arrive deadline)).happen (.look i)
  let t := if t.gate.visitors[i]?.any (·.waiter == .asleep) then await i deadline t.due t else t
  (t.gate.holds i, t)

def has (t : Turnstile) (i : Nat) : Bool :=
  t.gate.holds i && !(t.due.any (·.2 == i))

def drop (t : Turnstile) (i : Nat) : Bool × Turnstile :=
  if t.has i then (true, t.giveBack i) else (false, t)

def dropLater (t : Turnstile) (i : Nat) : Bool × Turnstile :=
  if t.has i then (true, { t with due := t.due ++ [(t.gate.now + delay, i)] }) else (false, t)

end Turnstile

end DebugGateway.Rehearsal
