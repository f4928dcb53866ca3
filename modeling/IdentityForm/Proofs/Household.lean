import IdentityForm.Proofs.Credentials.Calls

/-! # Sessions that share the remembered password

All sessions of a user have one register between them, and so may others that have nothing to do with a
form. However they take turns, the register is told by the calls of all of them. A session unlocks
itself only with the password that was the last one written, and only before it expires.
-/

namespace IdentityForm

open Credentials (Call Log)

/-- The register, and the sessions that share it. -/
structure Household where
  register : Credentials
  sessions : List Session

namespace Household

/-- What happens next: somebody calls the register, a session is opened, or one of them acts. -/
inductive Step where
  | call (call : Call)
  | opens (setup : Setup)
  | acts (place : Nat) (action : Session.Action)

/-- The turn of the session at a place, which finds in the register what is there now. -/
def turn? (h : Household) (now place : Nat) (action : Session.Action) : Option Turn :=
  h.sessions[place]?.map fun s => ⟨{ s with credentials := h.register }, now, action⟩

def step (h : Household) (now : Nat) : Step → Household
  | .call call => { h with register := h.register.perform now call }
  | .opens setup => { h with sessions := h.sessions ++ [.fresh setup h.register] }
  | .acts place action =>
    match h.turn? now place action with
    | some t => ⟨t.after.credentials, h.sessions.set place t.after⟩
    | none => h

def calls (h : Household) (now : Nat) : Step → List Call
  | .call call => [call]
  | .opens _ => []
  | .acts place action =>
    match h.turn? now place action with
    | some t => t.before.calls now action
    | none => []

abbrev Life := List (Nat × Step)

/-- A household after its steps. In the beginning there is no session, and nothing is remembered. -/
def live : Life → Household
  | [] => ⟨.empty, []⟩
  | (now, step) :: life => (live life).step now step

def log : Life → Log
  | [] => []
  | (now, step) :: life => (((live life).calls now step).map (now, ·)).reverse ++ log life

def Life.Until (life : Life) (now : Nat) : Prop := ∀ p ∈ life, p.1 ≤ now

instance (life : Life) (now : Nat) : Decidable (life.Until now) :=
  inferInstanceAs (Decidable (∀ p ∈ life, p.1 ≤ now))

variable {life : Life} {now : Nat}

theorem register_step (h : Household) (now : Nat) (step : Step) :
    (h.step now step).register = h.register.performAll now (h.calls now step) := by
  cases step with
  | call call => rfl
  | opens setup => rfl
  | acts place action =>
      simp only [Household.step, calls]
      cases turn : h.turn? now place action with
      | none => rfl
      | some t =>
          obtain ⟨s, -, rfl⟩ := Option.map_eq_some_iff.1 turn
          exact Session.credentials_act _ now action

/-- The register is what the calls have made of it. -/
theorem register_live (life : Life) : (live life).register = Credentials.after (log life) := by
  induction life with
  | nil => rfl
  | cons p life ih => rw [live, log, register_step, Credentials.after_append, ih]

theorem until_log (past : life.Until now) : (log life).Until now := by
  induction life with
  | nil => exact fun c hc => absurd hc List.not_mem_nil
  | cons p life ih =>
      obtain ⟨last, past⟩ := List.forall_mem_cons.1 past
      intro c hc
      rcases List.mem_append.1 hc with hc | hc
      · obtain ⟨call, -, rfl⟩ := List.mem_map.1 (List.mem_reverse.1 hc)
        exact last
      · exact ih past c hc

theorem drained_live (life : Life) : ∀ s ∈ (live life).sessions, s.outbox = [] := by
  induction life with
  | nil => exact fun s hs => absurd hs List.not_mem_nil
  | cons p life ih =>
      obtain ⟨now, step⟩ := p
      cases step with
      | call call => exact ih
      | opens setup =>
          intro s hs
          rcases List.mem_append.1 hs with hs | hs
          · exact ih s hs
          · rw [List.mem_singleton.1 hs]
            rfl
      | acts place action =>
          simp only [live, Household.step]
          cases turn : (live life).turn? now place action with
          | none => exact ih
          | some t =>
              intro s hs
              rcases List.mem_or_eq_of_mem_set hs with hs | rfl
              · exact ih s hs
              · rfl

/-- A password that nobody has typed in is checked if the register gives it out. -/
theorem remembered_of_check {t : Turn} {token : Token} {form : Int64} {password : Secret}
    (drained : t.before.outbox = []) (untyped : t.action.isAttempt = false)
    (sent : .request (.getAvailableElements token form password) ∈ t.effects) :
    (t.before.credentials.get t.now).1 = some password.text := by
  have quiet : t.before.prompts.effects = [] := congrArg (List.filter Effect.isPrompt) drained
  have told : .request (.getAvailableElements token form password) ∈
      (t.before.act t.now t.action).1.prompts.effects := (mem_filter_isPrompt rfl).1 sent
  rcases t.before.act_adds t.now t.action with ⟨-, -, same⟩ | ⟨x, brings, same⟩
  · rw [same, quiet] at told
    cases told
  · rw [same, Prompts.tell, quiet, List.nil_append, Option.mem_toList] at told
    cases brings with
    | checks token' form' password' why =>
        cases told
        rcases why with typed | ⟨-, remembered⟩
        · rw [typed] at untyped
          cases untyped
        · exact remembered
    | rejects =>
        obtain ⟨n, -, other⟩ := Option.map_eq_some_iff.1 told
        cases other
    | _ => cases told

/-- The register of a household, whoever shares it and in whatever order they take their turns. It gives
out the password that was written last, if that has not been forgotten and has not expired. It has
something expired to forget exactly if the password written last has expired without anybody having
looked since, and then it is empty. What it holds in this way is what it tells the expiry of. A password
that was refused as expired is not given out until it is written again. And without being typed in, a
password is only checked by a session if it was the last one written and has not expired. -/
theorem register_spec (past : life.Until now) :
    let register := (live life).register
    (∀ password, (register.get now).1 = some password ↔
      ∃ expires, (log life).Wrote ⟨password, expires⟩ ∧ now < expires) ∧
    ((register.forgetIfExpired now).1 = true ↔ ∃ r, (log life).Holds r ∧ r.expires ≤ now) ∧
    ((register.forgetIfExpired now).1 = true → (register.forgetIfExpired now).2.slot = none) ∧
    (∀ expires, register.expires? = some expires ↔
      ∃ password, (log life).Holds ⟨password, expires⟩) ∧
    (∀ password, (log life).Refused password → (register.get now).1 ≠ some password) ∧
    ∀ place action t, (live life).turn? now place action = some t → action.isAttempt = false →
      ∀ token form password,
        .request (.getAvailableElements token form password) ∈ t.effects →
          ∃ expires, (log life).Wrote ⟨password.text, expires⟩ ∧ now < expires := by
  intro register
  have given (password : String) : (register.get now).1 = some password ↔
      ∃ expires, (log life).Wrote ⟨password, expires⟩ ∧ now < expires := by
    rw [show register = _ from register_live life]
    exact Credentials.get_after (until_log past)
  have held (r : Remembered) : register.slot = some r ↔ (log life).Holds r := by
    rw [show register = _ from register_live life]
    exact Credentials.slot_after (log life)
  refine ⟨given, ?_, Credentials.slot_forgetIfExpired, fun expires => ?_,
    fun password refused out => ?_, fun place action t turn untyped token form password sent => ?_⟩
  · simp only [Credentials.forgetIfExpired_eq_true, held]
  · simp only [Credentials.expires?_eq_some, held]
  · obtain ⟨expires, there, -⟩ := Credentials.get_eq_some.1 out
    exact refused.not_holds expires ((held _).1 there)
  · obtain ⟨s, hs, rfl⟩ := Option.map_eq_some_iff.1 turn
    have drained : s.outbox = [] := drained_live life s (List.mem_of_getElem? hs)
    exact (given _).1 (remembered_of_check drained untyped sent)

/-- One session has a password accepted and is closed. Another one that is opened then checks that
password without asking for it, on the last answer it waits for. -/
theorem register_spec_of_two_sessions :
    let form : AuthorizationForm := ⟨1, [[⟨.identity .passport, false, false, false⟩]], none⟩
    let settings : PasswordSettings := ⟨true, true, "hint", none, none, false, none⟩
    let life : Life :=
      [(7, .acts 1 (.reply ⟨⟨1, .errand .form⟩, .ok (.authorizationForm form)⟩)),
        (6, .acts 1 .display), (6, .opens .plain), (5, .acts 0 .cancelSurely), (4, .call .get)] ++
      (opening form []).map (fun p => (p.1, .acts 0 p.2)) ++
      [(0, .opens .plain), (0, .call .forget), (0, .call (.remember "old" 9))]
    let answer : Session.Action := .reply ⟨⟨2, .errand .passwordState⟩, .ok (.passwordState settings)⟩
    life.Until 8 ∧ (∃ t, (live life).turn? 8 1 answer = some t ∧
      .request (.getAvailableElements ⟨3, .errand .availableElements⟩ 1 ⟨"secret"⟩) ∈ t.effects) ∧
    (∃ expires, (log life).Wrote ⟨"secret", expires⟩ ∧ 8 < expires) ∧
    ((live life).register.get 8).1 = some "secret" := by
  intro form settings life answer
  have past : life.Until 8 := by decide +kernel
  obtain ⟨given, -, -, -, -, checked⟩ := register_spec past
  have turn : ∃ t, (live life).turn? 8 1 answer = some t ∧
      .request (.getAvailableElements ⟨3, .errand .availableElements⟩ 1 ⟨"secret"⟩) ∈
        t.effects := by
    refine ⟨⟨_, 8, answer⟩, rfl, ?_⟩
    decide +kernel
  obtain ⟨t, taken, sent⟩ := turn
  have wrote := checked 1 answer t taken rfl _ _ _ sent
  exact ⟨past, ⟨t, taken, sent⟩, wrote, (given "secret").2 wrote⟩

end Household

end IdentityForm
