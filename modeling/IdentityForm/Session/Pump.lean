import IdentityForm.Session.Step

/-! # The pump

A session together with a clock. As long as the pump runs, whatever is due is done at its own time;
it stops when the session is cancelled or nothing can reach it any more.
-/

namespace IdentityForm

structure Pump where
  session : Session
  now : Nat
  running : Bool

namespace Pump

open Session (Action Answer)

def start (s : Session) : Pump := ⟨s, 0, true⟩

/-- Ticks at every deadline up to a time. Every tick but the last leaves its deadline behind, so
the milliseconds until then bound the ticks. -/
def turn (limit : Nat) : Nat → Pump → Pump
  | 0, p => p
  | fuel + 1, p =>
    if !p.running then p
    else if p.session.cancelled then { p with running := false }
    else
      match p.session.nextDeadline? p.now with
      | none => p
      | some due =>
        if due ≤ limit then
          let now := max p.now due
          turn limit fuel { p with session := p.session.tick now, now }
        else p

/-- Does all that is due by a time. -/
def settle (p : Pump) (limit : Nat) : Pump := turn limit (limit - p.now + 3) p

/-- Calls the session directly. That works also when the pump has stopped. -/
def call (p : Pump) (action : Action) : Pump × Answer :=
  let (session, answer) := p.session.act p.now action
  ({ p with session }.settle p.now, answer)

/-- Hands in a reply or an event, which a pump that has stopped does not take. -/
def deliver (p : Pump) (action : Action) : Pump × Bool :=
  if p.running then ((p.call action).1, true) else (p, false)

/-- Nothing can be handed in any more. -/
def closeInbox (p : Pump) : Pump := { p with running := false }

/-- Lets time pass. -/
def sleep (p : Pump) (duration : Nat) : Pump :=
  let limit := p.now + duration
  { p.settle limit with now := limit }

end Pump

end IdentityForm
