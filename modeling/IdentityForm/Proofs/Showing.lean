import IdentityForm.Session.Unlock

/-! # Showing a form

A form that is there and still locked is shown on the password settings: something stands in the way
of a password, or the remembered one is checked, or the user is asked for one. New settings arrive in
one step, with the poll that they ask for and with the showing that they lead to.
-/

namespace IdentityForm

namespace PasswordSettings

/-- What stands in the way of a password. -/
def objection? (settings : PasswordSettings) : Option Notice :=
  match settings.serverError with
  | some code => some (.criticalError code)
  | none =>
    if settings.outdatedClient then some .updateAppRequired
    else if !settings.hasPassword then some .noPassword
    else none

theorem objection_cases {settings : PasswordSettings} {n : Notice}
    (opposed : settings.objection? = some n) :
    (∃ code, n = .criticalError code) ∨ n = .updateAppRequired ∨ n = .noPassword := by
  unfold objection? at opposed
  repeat' split at opposed
  all_goals cases opposed <;> simp

end PasswordSettings

namespace Session

variable {s : Session} {now : Nat} {settings : PasswordSettings}

/-! ## One showing -/

def Showable (s : Session) : Prop :=
  s.formReceived = true ∧ s.secretReady = false ∧ s.serviceError = none

instance (s : Session) : Decidable s.Showable := inferInstanceAs (Decidable (_ ∧ _ ∧ _))

/-- Checks the remembered password or asks the user for one, unless one is being checked. -/
def prompt (s : Session) (now : Nat) : Session :=
  if s.awaited.availableElements.isSome then s
  else
    match s.credentials.get now with
    | (some password, credentials) => { s with credentials }.checkPassword password
    | (none, credentials) => { s with credentials, promptShown := true }.notify .askPassword

def present (s : Session) (now : Nat) (settings : PasswordSettings) : Session :=
  match settings.objection? with
  | some n => s.notify n
  | none => s.prompt now

def shown? (s : Session) (now : Nat) (settings : PasswordSettings) : Option Effect :=
  match settings.objection? with
  | some n => some (.notice n)
  | none =>
    if s.awaited.availableElements.isSome then none
    else
      match (s.credentials.get now).1 with
      | some password => some (.request
          (.getAvailableElements ⟨s.nextId, .errand .availableElements⟩ s.form.id ⟨password⟩))
      | none => some (.notice .askPassword)

theorem showForm_of_not_showable (h : ¬ s.Showable) : s.showForm now = s := by
  unfold showForm
  refine if_pos (Decidable.by_contra fun pending => h ?_)
  simpa [Showable, and_assoc] using pending

theorem showForm_of_unknown (unknown : s.passwordSettings = none) : s.showForm now = s := by
  unfold showForm
  rw [unknown, ite_self]

theorem showForm_of_showable (h : s.Showable) (known : s.passwordSettings = some settings) :
    s.showForm now = s.present now settings := by
  obtain ⟨received, locked, sound⟩ := h
  unfold showForm present PasswordSettings.objection? prompt
  rw [received, locked, sound, known, if_neg (by simp)]
  dsimp only
  cases settings.serverError with
  | some code => rfl
  | none =>
      cases settings.outdatedClient with
      | true => rfl
      | false => cases settings.hasPassword <;> rfl

/-- A showing checks a password or tells something, and is the same session otherwise. -/
theorem present_eq (s : Session) (now : Nat) (settings : PasswordSettings) :
    ∃ credentials checking issued availableElements promptShown,
      s.present now settings = { s with
        credentials, checking, issued, promptShown
        awaited := { s.awaited with availableElements }
        outbox := s.outbox ++ (s.shown? now settings).toList } := by
  unfold present shown? prompt
  split
  · exact ⟨_, _, _, _, _, rfl⟩
  · split
    · exact ⟨_, _, _, _, _, by simp; rfl⟩
    · cases s.credentials.get now with
      | mk password credentials => cases password <;> exact ⟨_, _, _, _, _, rfl⟩

theorem outbox_present (s : Session) (now : Nat) (settings : PasswordSettings) :
    (s.present now settings).outbox = s.outbox ++ (s.shown? now settings).toList := by
  obtain ⟨_, _, _, _, _, same⟩ := s.present_eq now settings
  rw [same]

theorem present_comm (g : Session → Session)
    (tells : ∀ u n, (g u).notify n = g (u.notify n))
    (asks : ∀ u credentials, { g u with credentials, promptShown := true } =
      g { u with credentials, promptShown := true })
    (checks : ∀ u credentials password, { g u with credentials }.checkPassword password =
      g ({ u with credentials }.checkPassword password))
    (credentials : (g s).credentials = s.credentials)
    (checking : (g s).awaited.availableElements = s.awaited.availableElements) :
    (g s).present now settings = g (s.present now settings) := by
  unfold present prompt
  rw [credentials, checking]
  split
  · exact tells _ _
  · split
    · rfl
    · split
      · exact checks _ _ _
      · rw [asks, tells]

theorem showForm_eq (s : Session) (now : Nat) :
    ∃ credentials checking issued availableElements promptShown sent,
      s.showForm now = { s with
        credentials, checking, issued, promptShown
        awaited := { s.awaited with availableElements }
        outbox := s.outbox ++ sent } := by
  have same : ∃ credentials checking issued availableElements promptShown sent,
      s = { s with
        credentials, checking, issued, promptShown
        awaited := { s.awaited with availableElements }
        outbox := s.outbox ++ sent } :=
    ⟨_, _, _, _, _, [], by rw [List.append_nil]⟩
  by_cases showable : s.Showable
  · by_cases unknown : s.passwordSettings = none
    · rwa [showForm_of_unknown unknown]
    · obtain ⟨settings, known⟩ := Option.ne_none_iff_exists'.1 unknown
      obtain ⟨_, _, _, _, _, shown⟩ := s.present_eq now settings
      exact ⟨_, _, _, _, _, _, (showForm_of_showable showable known).trans shown⟩
  · rwa [showForm_of_not_showable showable]

/-- A showing tells what stands in the way, asks for the password or checks a remembered one. -/
theorem showForm_cases (s : Session) (now : Nat) : s.showForm now = s ∨
    s.formReceived = true ∧ s.secretReady = false ∧
      ((∃ settings n, PasswordSettings.objection? settings = some n ∧ s.showForm now = s.notify n) ∨
        (∃ credentials, s.showForm now =
          { s with credentials, promptShown := true }.notify .askPassword) ∨
        s.awaited.availableElements = none ∧ ∃ credentials password,
          (s.credentials.get now).1 = some password ∧
            s.showForm now = { s with credentials }.checkPassword password) := by
  by_cases showable : s.Showable
  · by_cases unknown : s.passwordSettings = none
    · exact .inl (showForm_of_unknown unknown)
    obtain ⟨settings, known⟩ := Option.ne_none_iff_exists'.1 unknown
    rw [showForm_of_showable showable known]
    unfold present prompt
    cases opposed : settings.objection? with
    | some n => exact .inr ⟨showable.1, showable.2.1, .inl ⟨settings, n, opposed, rfl⟩⟩
    | none =>
        dsimp only
        split
        · exact .inl rfl
        · rename_i idle
          have idle : s.awaited.availableElements = none := by simpa using idle
          refine .inr ⟨showable.1, showable.2.1, .inr ?_⟩
          split
          · rename_i password credentials remembered
            exact .inr ⟨idle, credentials, password, congrArg Prod.fst remembered, rfl⟩
          · exact .inl ⟨_, rfl⟩
  · exact .inl (showForm_of_not_showable showable)

/-! ## New settings -/

/-- New settings are taken in. As long as an email waits for confirmation, they are read again after
a while; and old ones leave nothing to be shown in spite of that. -/
def learn (s : Session) (now : Nat) (settings : PasswordSettings) : Session :=
  { s with
    timers := s.timers.filter (fun t => t.2 ≠ .shortPoll) ++
      if settings.unconfirmedPattern.isSome then
        [(now + s.setup.settings.shortPoll, .shortPoll)]
      else []
    passwordSettings := some settings
    forceShow := s.forceShow && s.passwordSettings ≠ some settings }

/-- Only settings that are new, or wanted all the same, show the form. -/
theorem passwordStateDone_ok (s : Session) (now : Nat) (settings : PasswordSettings) :
    s.passwordStateDone now (.ok (.passwordState settings)) =
      if s.passwordSettings ≠ some settings ∨ s.forceShow = true then
        (s.learn now settings).showForm now
      else s.learn now settings := by
  have armed : (if settings.unconfirmedPattern.isSome then
      (s.disarm .shortPoll).schedule (now + s.setup.settings.shortPoll) .shortPoll
      else s.disarm .shortPoll) = { s with
        timers := s.timers.filter (fun t => t.2 ≠ .shortPoll) ++
          if settings.unconfirmedPattern.isSome then
            [(now + s.setup.settings.shortPoll, .shortPoll)]
          else [] } := by
    split <;> simp [schedule, disarm]
  unfold passwordStateDone learn
  dsimp only
  rw [show (s.disarm .shortPoll).setup = s.setup from rfl, armed]
  by_cases changed : s.passwordSettings ≠ some settings
  · simp [changed]
  · cases s.forceShow <;> simp [changed]

end Session

end IdentityForm
