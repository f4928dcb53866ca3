import IdentityForm.Session.Basic

/-! # Opening and unlocking

The form and the password settings are asked for side by side. Once both are there, the form is
unlocked with the remembered password, or the user is asked for one.
-/

namespace IdentityForm.Session

def requestPasswordState (s : Session) : Session :=
  if s.awaited.passwordState.isSome then s else s.run .passwordState .getPasswordState

/-- Asks for the form and the password settings. -/
def display (s : Session) : Session :=
  if s.cancelled then s
  else
    let s :=
      if s.formReceived || s.awaited.form.isSome then s
      else s.run .form fun t => .getForm t s.setup.link
    s.requestPasswordState

/-- Reads the password settings again, for instance because the user has set a password. -/
def reloadPassword (s : Session) : Session := { s with forceShow := true }.requestPasswordState

def checkPassword (s : Session) (password : String) : Session :=
  { s with checking := some password }.run .availableElements fun t =>
    .getAvailableElements t s.form.id ⟨password⟩

/-- Goes on as soon as both the form and the password settings are known. -/
def showForm (s : Session) (now : Nat) : Session :=
  if !s.formReceived || s.secretReady || s.serviceError.isSome then s
  else
    match s.passwordSettings with
    | none => s
    | some settings =>
      match settings.serverError with
      | some code => s.notify (.criticalError code)
      | none =>
        if settings.outdatedClient then s.notify .updateAppRequired
        else if !settings.hasPassword then s.notify .noPassword
        else if s.awaited.availableElements.isSome then s
        else
          match s.credentials.get now with
          | (some password, credentials) => { s with credentials }.checkPassword password
          | (none, credentials) => { s with credentials, promptShown := true }.notify .askPassword

/-- The form or the settings cannot be had. -/
def failForm (s : Session) (error : ServerError) : Session :=
  let s := { s with serviceError := some error.code }
  match FormFailure.ofCode error.code with
  | .updateApp => s.notify .updateAppRequired
  | .critical code => s.notify (.criticalError code)

def formDone (s : Session) (now : Nat) : Outcome → Session
  | .ok (.authorizationForm a) =>
    { s with form := .ofAuthorization a, formReceived := true }.showForm now
  | .ok other => s.failForm other.unexpected
  | .failed error => s.failForm error

/-- Settings that cannot be read again leave the old ones in force. -/
def failPasswordState (s : Session) (error : ServerError) : Session :=
  if s.passwordSettings.isNone then s.failForm error else s

def passwordStateDone (s : Session) (now : Nat) : Outcome → Session
  | .ok (.passwordState settings) =>
    let s := s.disarm .shortPoll
    let s :=
      if settings.unconfirmedPattern.isSome then
        s.schedule (now + s.setup.settings.shortPoll) .shortPoll
      else s
    let changed := s.passwordSettings ≠ some settings
    let s := { s with passwordSettings := some settings }
    if changed then s.showForm now
    else if s.forceShow then { s with forceShow := false }.showForm now
    else s
  | .ok other => s.failPasswordState other.unexpected
  | .failed error => s.failPasswordState error

/-- Takes a password from the user. -/
def submitPassword (s : Session) (password : String) : Session :=
  if s.awaited.availableElements.isSome || s.secretReady || s.cancelled then s
  else if password = "" then s.notify (.passwordError "")
  else s.checkPassword password

def passwordCheckFailed (s : Session) (error : ServerError) : Session :=
  let s := { s with checking := none }
  match PasswordFailure.ofCode error.code with
  | .wrong =>
    let s := { s with credentials := s.credentials.forget }
    if s.promptShown then s.notify (.passwordError Phrase.wrongPassword)
    else { s with promptShown := true }.notify .askPassword
  | .stale =>
    { s with credentials := s.credentials.forget, forceShow := true }.requestPasswordState
  | .flood => s.notify (.passwordError Phrase.tooManyTries)
  | .updateApp => s.notify .updateAppRequired
  | .other code => s.notify (.passwordError code)

/-- The password was right: it is remembered, and the form is unlocked. -/
def unlock (s : Session) (now : Nat) (password : String) (elements : List StoredElement)
    (errors : List ElementError) : Session :=
  let expires := now + s.setup.settings.rememberFor
  let s := { s with
    checking := none
    credentials := s.credentials.remember password expires }
  let s := s.schedule expires .forgetPassword
  { s with
    password := some password
    form := s.form.takeElements elements errors
    secretReady := true }.notifyAll [.secretReady, .showForm]

def availableElementsDone (s : Session) (now : Nat) : Outcome → Session
  | .ok (.availableElements elements errors) =>
    match s.checking with
    | none => s
    | some password => s.unlock now password elements errors
  | .ok other => s.passwordCheckFailed other.unexpected
  | .failed error => s.passwordCheckFailed error

/-! ## Clearing and recovering the password -/

def clearUnconfirmedPassword (s : Session) : Session :=
  if s.awaited.clearPassword.isSome then s else s.run .clearPassword .clearPassword

def clearPasswordDone (s : Session) : Outcome → Session
  | .ok _ => s.reloadPassword
  | .failed error => s.notify (.errorBox error.code)

def recoverPassword (s : Session) : Session :=
  if s.awaited.recovery.isSome then s else s.run .recovery .recoverPassword

def recoveryDone (s : Session) : Outcome → Session
  | .ok (.recoveryEmail pattern) => s.notify (.recoveryStarted pattern)
  | .ok other => s.notify (.errorBox other.unexpected.code)
  | .failed error => s.notify (.errorBox error.code)

end IdentityForm.Session
