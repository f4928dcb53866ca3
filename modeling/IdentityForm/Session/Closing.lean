import IdentityForm.Session.Unlock
import IdentityForm.Session.Verifying

/-! # Submitting, closing and starting over

The form is submitted once every scope of it is complete. Closing and starting over cancel all that
is under way.
-/

namespace IdentityForm

namespace Entry

/-- What has to be cancelled for an entry. -/
def cancellations (e : Entry) : List Request :=
  (match e.write with
    | .pending id => [.cancel id]
    | _ => []) ++
  (e.verification.request.toList.map .cancel ++
    (e.verification.callRequest?.toList.map .cancel ++
      e.draftFiles.toList.filterMap fun d =>
        if d.isUploading then d.upload.map fun u => .cancelUpload u.key else none))

/-- The entry once its write and its verification are cancelled. -/
def stopped (e : Entry) : Entry :=
  { e with write := .idle, verification := { e.verification with request := none } }

end Entry

namespace Session

/-! ## Submission -/

/-- Submits the form, or tells which entries are to be fixed first. -/
def submit (s : Session) : Session × List Kind :=
  if s.awaited.submit.isSome || s.submitted || s.cancelled || !s.formReceived || !s.secretReady then
    (s, [])
  else
    let (toFix, kinds) := s.form.checkScopes
    if toFix = [] then
      (s.run .submit fun t => .sendForm t s.form.id (Kind.inOrder kinds), [])
    else (s, toFix)

def submitDone (s : Session) (now : Nat) : Outcome → Session
  | .ok _ =>
    ({ s with submitted := true }.notify (.toast Phrase.submitted)).schedule
      (now + s.setup.settings.closeDelay) .closeAfterSubmit
  | .failed error =>
    match SubmitFailure.ofCode error.code with
    | .updateApp => s.notify .updateAppRequired
    | .restart => s.suggestRestart
    | .other code => s.notify (.errorBox code)

/-! ## Stopping what is under way -/

/-- Cancels every request and transfer, and disarms every timer. -/
def abort (s : Session) : Session :=
  let s' := s.sendAll <|
    s.awaited.ids.map .cancel ++
      (s.form.entries.flatMap Entry.cancellations ++ s.downloads.map .cancelDownload)
  { s' with
    awaited := .none
    form := { s.form with entries := s.form.entries.map Entry.stopped }
    downloads := []
    timers := []
    unreported := [] }

/-! ## Closing -/

/-- The address to send the user back to, with the outcome added to its query. -/
def callbackUrl? (s : Session) : Option String := do
  let base ← s.setup.link.callbackUrl
  let outcome ←
    if s.submitted then some "tg_passport=success"
    else
      match s.serviceError with
      | some code =>
        if Code.isForwarded code then
          some ("tg_passport=error&error=" ++ Text.percentEncode code)
        else none
      | none => some "tg_passport=cancel"
  return base ++ (if base.toList.contains '?' then "&" else "?") ++ outcome

def cancelSurely (s : Session) : Session :=
  if s.cancelled then s
  else
    let s := { s with cancelled := true }.abort
    s.notify (.close s.callbackUrl?)

/-- Closes at once if there is nothing left to lose, and asks otherwise. -/
def cancel (s : Session) : Session :=
  if s.cancelled then s
  else if s.submitted || s.serviceError.isSome then s.cancelSurely
  else s.notify .confirmCancel

/-- Throws everything away, edits included, and begins anew. -/
def restart (s : Session) : Session :=
  if s.cancelled then s
  else
    let s := s.abort
    { s with
      credentials := s.credentials.forget
      form := .empty
      formReceived := false
      passwordSettings := none
      password := none
      checking := none
      secretReady := false
      promptShown := false
      forceShow := false
      suggestingRestart := false
      serviceError := none }.display

end Session

end IdentityForm
