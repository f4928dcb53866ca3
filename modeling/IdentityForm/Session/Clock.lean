import IdentityForm.Session.Step

/-! # Deadlines on a clock

A clock counts its seconds in a signed word of 64 bits, and a deadline is a time on that clock. An action
that would set a deadline behind the last of these seconds is not carried out: the program ends there.
-/

namespace IdentityForm

/-- The first millisecond that a clock cannot show, that of second `2 ^ 63`. -/
def Clock.limit : Nat := 9223372036854775808000

namespace Session

/-! ## The deadlines that an action sets -/

/-- A code that was sent sets the time of the call, and when the countdown is looked at. -/
def codeDeadlines (s : Session) (now : Nat) (kind : Kind) : Outcome → List Nat
  | .failed _ => []
  | .ok response =>
    match codeSent? kind response with
    | some (_, some timeout) => [now + 1000 * timeout, now + s.setup.settings.callTick]
    | _ => []

/-- Settings that wait for something are asked for again, a right password is remembered for a while,
and a form that was submitted is closed after a while. -/
def errandDeadlines (s : Session) (now : Nat) : Errand → Outcome → List Nat
  | .passwordState, .ok (.passwordState settings) =>
    if settings.unconfirmedPattern.isSome then [now + s.setup.settings.shortPoll] else []
  | .availableElements, .ok (.availableElements _ _) =>
    if s.checking.isSome then [now + s.setup.settings.rememberFor] else []
  | .submit, .ok _ => [now + s.setup.settings.closeDelay]
  | _, _ => []

/-- Only a reply that something waits for sets deadlines. -/
def replyDeadlines (s : Session) (now : Nat) (r : Reply) : List Nat :=
  if s.cancelled then []
  else
    match r.token.pending with
    | .errand errand =>
      if s.awaited.get errand = some r.token.id then s.errandDeadlines now errand r.outcome else []
    | .task .sendCode kind =>
      match s.entry? kind with
      | none => []
      | some e =>
        if e.awaits? .sendCode = some r.token.id then s.codeDeadlines now kind r.outcome else []
    | .task _ _ => []

/-- A countdown that is not over is looked at again. -/
def timerDeadlines (s : Session) (now : Nat) : Timer → List Nat
  | .callTick kind =>
    match (s.entry? kind).bind fun e => e.verification.call with
    | some (.waiting due) => if due ≤ now then [] else [now + s.setup.settings.callTick]
    | _ => []
  | _ => []

/-- The deadlines that are set while timers are fired one after the other. -/
def firedDeadlines (s : Session) (now : Nat) : List (Nat × Timer) → List Nat
  | [] => []
  | t :: rest =>
    if s.cancelled then []
    else s.timerDeadlines now t.2 ++ (s.fire now t.2).firedDeadlines now rest

def tickDeadlines (s : Session) (now : Nat) : List Nat :=
  let s := s.reportUnchanged
  firedDeadlines { s with timers := s.timers.filter fun t => ¬ t.1 ≤ now } now
    (s.timers.filter fun t => t.1 ≤ now)

def deadlines (s : Session) (now : Nat) : Action → List Nat
  | .reply r => s.replyDeadlines now r
  | .tick => s.tickDeadlines now
  | _ => []

/-- An action on a clock, which fails if the clock has no time for a deadline of it. -/
def attempt (s : Session) (now : Nat) (action : Action) : Option (Session × Answer) :=
  if ∀ deadline ∈ s.deadlines now action, deadline < Clock.limit then some (s.act now action)
  else none

end Session

end IdentityForm
