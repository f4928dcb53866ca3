import IdentityForm.Session.Step

/-! # Runs

A run is what a session goes through from its opening: one action after the other, at times that
never go back, with replies to issued tokens only. Its history keeps every action together with the
session that it found, so that what was sent, answered and cancelled can be read off it.
-/

namespace IdentityForm

/-! ## Tokens and cancellations among effects -/

namespace Effect

def token? : Effect → Option Token
  | .request r => r.token?
  | .notice _ => none

def cancels? : Effect → Option Nat
  | .request (.cancel id) => some id
  | _ => none

end Effect

def tokensOf (effects : List Effect) : List Token := effects.filterMap Effect.token?

def cancelsOf (effects : List Effect) : List Nat := effects.filterMap Effect.cancels?

@[simp] theorem tokensOf_nil : tokensOf [] = [] := rfl

@[simp] theorem cancelsOf_nil : cancelsOf [] = [] := rfl

@[simp] theorem tokensOf_append (xs ys : List Effect) :
    tokensOf (xs ++ ys) = tokensOf xs ++ tokensOf ys := List.filterMap_append

@[simp] theorem cancelsOf_append (xs ys : List Effect) :
    cancelsOf (xs ++ ys) = cancelsOf xs ++ cancelsOf ys := List.filterMap_append

theorem mem_tokensOf {effects : List Effect} {token : Token} :
    token ∈ tokensOf effects ↔ ∃ r, .request r ∈ effects ∧ r.token? = some token := by
  simp only [tokensOf, List.mem_filterMap]
  constructor
  · rintro ⟨x, hx, ht⟩
    cases x with
    | request r => exact ⟨r, hx, ht⟩
    | notice n => cases ht
  · rintro ⟨r, hr, ht⟩
    exact ⟨.request r, hr, ht⟩

/-! ## Histories -/

def Session.Action.answers? : Session.Action → Option Token
  | .reply r => some r.token
  | _ => none

/-- One action of a run and the session that it found. -/
structure Turn where
  before : Session
  now : Nat
  action : Session.Action

namespace Turn

/-- What the action sent and showed. -/
def effects (t : Turn) : List Effect := (t.before.act t.now t.action).1.outbox

/-- The session that the action left behind. -/
def after (t : Turn) : Session := (t.before.act t.now t.action).1.drain.2

end Turn

/-- The turns of a run so far, the latest first. -/
abbrev History := List Turn

namespace History

def log : History → List Effect
  | [] => []
  | t :: past => log past ++ t.effects

def tokens (past : History) : List Token := tokensOf past.log

def cancels (past : History) : List Nat := cancelsOf past.log

/-- A token that was issued, to which no reply has come, and whose request was not cancelled. -/
def Outstanding (past : History) (token : Token) : Prop :=
  token ∈ past.tokens ∧ (∀ t ∈ past, t.action.answers? ≠ some token) ∧ token.id ∉ past.cancels

instance (past : History) (token : Token) : Decidable (past.Outstanding token) :=
  inferInstanceAs (Decidable (_ ∧ _ ∧ _))

/-- A reply carries a token that was issued. -/
def Genuine (past : History) (action : Session.Action) : Prop :=
  ∀ token ∈ action.answers?, token ∈ past.tokens

instance (past : History) (action : Session.Action) : Decidable (past.Genuine action) :=
  inferInstanceAs (Decidable (∀ token ∈ action.answers?, token ∈ past.tokens))

@[simp] theorem tokens_cons (t : Turn) (past : History) :
    tokens (t :: past) = past.tokens ++ tokensOf t.effects := tokensOf_append _ _

@[simp] theorem cancels_cons (t : Turn) (past : History) :
    cancels (t :: past) = past.cancels ++ cancelsOf t.effects := cancelsOf_append _ _

end History

/-! ## Runs -/

/-- The sessions that can be reached, each with a history that leads there. -/
inductive Run (setup : Setup) : History → Session → Prop
  | start (credentials : Credentials) : Run setup [] (.fresh setup credentials)
  | step {past : History} {s : Session} (now : Nat) (action : Session.Action) :
      Run setup past s → (∀ t ∈ past, t.now ≤ now) → past.Genuine action →
        Run setup (⟨s, now, action⟩ :: past) (Turn.after ⟨s, now, action⟩)

namespace Run

variable {setup : Setup} {past : History} {s : Session}

/-- Between two actions nothing is left to be sent. -/
theorem outbox_eq_nil (run : Run setup past s) : s.outbox = [] := by
  cases run <;> rfl

theorem before {t : Turn} {later earlier : History} (run : Run setup (later ++ t :: earlier) s) :
    Run setup earlier t.before := by
  induction later generalizing s with
  | nil =>
      cases run with
      | step _ _ run => exact run
  | cons _ later ih =>
      cases run with
      | step _ _ run => exact ih run

end Run

/-! ## Playing actions -/

/-- The history and the session after actions at given times, the latest first. -/
def play (start : Session) : List (Nat × Session.Action) → History × Session
  | [] => ([], start)
  | (now, action) :: earlier =>
    let (past, s) := play start earlier
    (⟨s, now, action⟩ :: past, Turn.after ⟨s, now, action⟩)

/-- Later actions are played from where the earlier ones lead. -/
theorem play_append (start : Session) (later earlier : List (Nat × Session.Action)) :
    play start (later ++ earlier) =
      ((play (play start earlier).2 later).1 ++ (play start earlier).1,
        (play (play start earlier).2 later).2) := by
  induction later with
  | nil => rfl
  | cons x later ih =>
      obtain ⟨now, action⟩ := x
      rw [List.cons_append, play, ih]
      rfl

/-- Actions that a run can take: times do not go back, and replies carry issued tokens. -/
def Playable (start : Session) : List (Nat × Session.Action) → Prop
  | [] => True
  | (now, action) :: earlier =>
    Playable start earlier ∧ (∀ t ∈ (play start earlier).1, t.now ≤ now) ∧
      (play start earlier).1.Genuine action

instance decidablePlayable (start : Session) : (actions : List (Nat × Session.Action)) →
    Decidable (Playable start actions)
  | [] => inferInstanceAs (Decidable True)
  | (_, _) :: earlier =>
    have := decidablePlayable start earlier
    inferInstanceAs (Decidable (_ ∧ _ ∧ _))

theorem Run.of_playable {setup : Setup} {credentials : Credentials}
    {actions : List (Nat × Session.Action)}
    (playable : Playable (.fresh setup credentials) actions) :
    Run setup (play (.fresh setup credentials) actions).1
      (play (.fresh setup credentials) actions).2 := by
  induction actions with
  | nil => exact .start credentials
  | cons x earlier ih =>
      obtain ⟨now, action⟩ := x
      obtain ⟨before, ordered, genuine⟩ := playable
      exact .step now action (ih before) ordered genuine

theorem Run.turn_of_playable {setup : Setup} {credentials : Credentials}
    {actions : List (Nat × Session.Action)} {now : Nat} {action : Session.Action}
    (playable : Playable (.fresh setup credentials) ((now, action) :: actions)) :
    Run setup (⟨(play (.fresh setup credentials) actions).2, now, action⟩ ::
        (play (.fresh setup credentials) actions).1)
      (Turn.after ⟨(play (.fresh setup credentials) actions).2, now, action⟩) :=
  .step now action (.of_playable playable.1) playable.2.1 playable.2.2

/-! ## An opening -/

def Setup.plain : Setup := ⟨.standard, ⟨1, "null", none, "key", "nonce"⟩, none⟩

/-- The form is opened and unlocked with what the server has. -/
def opening (form : AuthorizationForm) (elements : List StoredElement) :
    List (Nat × Session.Action) :=
  [(3, .reply ⟨⟨3, .errand .availableElements⟩, .ok (.availableElements elements [])⟩),
    (2, .submitPassword "secret"),
    (1, .reply ⟨⟨1, .errand .form⟩, .ok (.authorizationForm form)⟩),
    (1, .reply ⟨⟨2, .errand .passwordState⟩,
      .ok (.passwordState ⟨true, true, "hint", none, none, false, none⟩)⟩),
    (0, .display)]

end IdentityForm
