import IdentityForm.Files
import IdentityForm.Kind

/-! # Notices

What a session tells the view that shows it.
-/

namespace IdentityForm

/-- One slot of one entry. -/
structure Place where
  kind : Kind
  slot : Slot
  deriving DecidableEq, Repr

inductive Notice where
  | showForm
  | askPassword
  /-- The user has no password yet and has to set one first. -/
  | noPassword
  | updateAppRequired
  | criticalError (code : String)
  | scanUpdated (place : Place)
  | saveFinished (kind : Kind)
  | editFailed (kind : Kind)
  /-- A field of the edit buffer has got an error. -/
  | fieldError (kind : Kind) (field : String)
  | verificationNeeded (kind : Kind)
  | verificationUpdate (kind : Kind)
  | secretReady
  | passwordError (message : String)
  | recoveryStarted (emailPattern : String)
  | toast (text : String)
  | errorBox (text : String)
  | suggestRestart
  | confirmCancel
  | close (callbackUrl : Option String)
  deriving DecidableEq, Repr

end IdentityForm
