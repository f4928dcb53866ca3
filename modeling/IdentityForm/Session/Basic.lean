import IdentityForm.Backend.Request
import IdentityForm.Failure
import IdentityForm.Scope
import IdentityForm.Settings

/-! # Sessions

All that is known from the moment a form is asked for until it is closed. A session never waits: an
operation gives the session after it, whose outbox holds what is to be sent and shown, in order.
-/

namespace IdentityForm

inductive Timer where
  | closeAfterSubmit
  | shortPoll
  | forgetPassword
  | callTick (kind : Kind)
  deriving DecidableEq, Repr

/-- What an operation does to the world outside. -/
inductive Effect where
  | request (request : Request)
  | notice (notice : Notice)
  deriving DecidableEq

/-- The requests of the session as a whole that have not been answered. -/
structure Awaited where
  form : Option Nat
  passwordState : Option Nat
  availableElements : Option Nat
  submit : Option Nat
  clearPassword : Option Nat
  recovery : Option Nat
  deriving DecidableEq, Repr

namespace Awaited

def none : Awaited :=
  ⟨Option.none, Option.none, Option.none, Option.none, Option.none, Option.none⟩

def get (a : Awaited) : Errand → Option Nat
  | .form => a.form
  | .passwordState => a.passwordState
  | .availableElements => a.availableElements
  | .submit => a.submit
  | .clearPassword => a.clearPassword
  | .recovery => a.recovery

def set (a : Awaited) (errand : Errand) (id : Option Nat) : Awaited :=
  match errand with
  | .form => { a with form := id }
  | .passwordState => { a with passwordState := id }
  | .availableElements => { a with availableElements := id }
  | .submit => { a with submit := id }
  | .clearPassword => { a with clearPassword := id }
  | .recovery => { a with recovery := id }

@[simp] theorem get_set_self (a : Awaited) (e : Errand) (id : Option Nat) :
    (a.set e id).get e = id := by
  cases e <;> rfl

theorem get_set_of_ne (a : Awaited) {e e' : Errand} (id : Option Nat) (h : e' ≠ e) :
    (a.set e id).get e' = a.get e' := by
  cases e <;> cases e' <;> first | rfl | exact absurd rfl h

/-- The awaited ids. -/
def ids (a : Awaited) : List Nat :=
  a.form.toList ++ (a.passwordState.toList ++ (a.availableElements.toList ++
    (a.submit.toList ++ (a.clearPassword.toList ++ a.recovery.toList))))

end Awaited

/-- What a session is given for its whole life. -/
structure Setup where
  settings : Settings
  link : LinkRequest
  userPhone : Option String
  deriving DecidableEq

structure Session where
  setup : Setup
  form : Form
  formReceived : Bool
  passwordSettings : Option PasswordSettings
  /-- The password that unlocked the form; every save carries it. -/
  password : Option String
  /-- The password that is being checked. -/
  checking : Option String
  /-- How many tokens have been issued. The count has no bound here; a word of 64 bits holds it for
  any number of requests that a session can make. -/
  issued : Nat
  awaited : Awaited
  secretReady : Bool
  promptShown : Bool
  /-- The next password settings are to be shown even if they are the old ones. -/
  forceShow : Bool
  submitted : Bool
  cancelled : Bool
  suggestingRestart : Bool
  serviceError : Option String
  /-- The ids of the files that are being downloaded, in order. -/
  downloads : List UInt64
  /-- Saves without a change whose completion the next tick reports. -/
  unreported : List Kind
  timers : List (Nat × Timer)
  credentials : Credentials
  outbox : List Effect
  deriving DecidableEq

namespace Session

def fresh (setup : Setup) (credentials : Credentials) : Session where
  setup := setup
  form := .empty
  formReceived := false
  passwordSettings := none
  password := none
  checking := none
  issued := 0
  awaited := .none
  secretReady := false
  promptShown := false
  forceShow := false
  submitted := false
  cancelled := false
  suggestingRestart := false
  serviceError := none
  downloads := []
  unreported := []
  timers := []
  credentials := credentials
  outbox := []

/-! ## The outbox -/

def send (s : Session) (r : Request) : Session := { s with outbox := s.outbox ++ [.request r] }

def notify (s : Session) (n : Notice) : Session := { s with outbox := s.outbox ++ [.notice n] }

def sendAll (s : Session) (rs : List Request) : Session := rs.foldl send s

def notifyAll (s : Session) (ns : List Notice) : Session := ns.foldl notify s

/-- What every step of a fold leaves alone, the fold does. -/
theorem foldl_keeps {α β : Type} {f : Session → α → Session} {xs : List α} {s : Session}
    (view : Session → β) (h : ∀ (s : Session), ∀ x ∈ xs, view (f s x) = view s) :
    view (xs.foldl f s) = view s := by
  induction xs generalizing s with
  | nil => rfl
  | cons x rest ih =>
      have later := ih (s := f s x) fun s y hy => h s y (List.mem_cons_of_mem x hy)
      exact later.trans (h s x List.mem_cons_self)

/-- The effects so far, and the session without them. -/
def drain (s : Session) : List Effect × Session := (s.outbox, { s with outbox := [] })

/-! ## Tokens -/

/-- The id of the next token. -/
def nextId (s : Session) : Nat := s.issued + 1

/-- Sends a request with a new token. -/
def ask (s : Session) (pending : Pending) (make : Token → Request) : Session :=
  { s with issued := s.nextId }.send (make ⟨s.nextId, pending⟩)

/-- Sends a request of the session as a whole and awaits its answer. -/
def run (s : Session) (errand : Errand) (make : Token → Request) : Session :=
  { s with awaited := s.awaited.set errand (some s.nextId) }.ask (.errand errand) make

/-! ## Entries -/

def entry? (s : Session) (kind : Kind) : Option Entry := s.form.entry? kind

def modify (s : Session) (kind : Kind) (change : Entry → Entry) : Session :=
  { s with form := s.form.modify kind change }

/-- Puts an entry in the place of the one of its kind. -/
def put (s : Session) (e : Entry) : Session := s.modify e.kind fun _ => e

def clearIfIdle (s : Session) (kind : Kind) : Session := s.modify kind Entry.clearIfIdle

/-! ## Timers -/

def disarm (s : Session) (timer : Timer) : Session :=
  { s with timers := s.timers.filter fun t => t.2 ≠ timer }

/-- Arms a timer in place of an earlier one of its kind. -/
def schedule (s : Session) (due : Nat) (timer : Timer) : Session :=
  let s := s.disarm timer
  { s with timers := s.timers ++ [(due, timer)] }

/-- When the next tick has something to do. -/
def nextDeadline? (s : Session) (now : Nat) : Option Nat :=
  if s.unreported.isEmpty then (s.timers.map (·.1)).min? else some now

end Session

end IdentityForm
