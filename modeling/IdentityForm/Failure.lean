import IdentityForm.Files
import IdentityForm.Kind
import IdentityForm.Link

/-! # Failures

Calls that cannot be carried out, and what the error codes of the server mean in each situation.
-/

namespace IdentityForm

/-- Why a call was refused. -/
inductive CallError where
  | notRequested (kind : Kind)
  | noFile (kind : Kind) (slot : Slot)
  | notEditing (kind : Kind)
  | noCodeSent (kind : Kind)
  | locked
  | invalidRequest (fault : LinkFault)
  deriving DecidableEq, Repr

/-- A position in a list, or that there is none. -/
def indexText : Option Nat → String
  | some i => s!"Some({i})"
  | none => "None"

def CallError.message : CallError → String
  | .notRequested kind => s!"Value {kind.title} is not part of this form"
  | .noFile kind slot =>
    s!"No {slot.role.title} file at {indexText slot.index} in {kind.title}"
  | .notEditing kind => s!"{kind.title} is not being edited"
  | .noCodeSent kind => s!"No code was sent for {kind.title}"
  | .locked => "Passport data is locked until the password is entered"
  | .invalidRequest fault => s!"Invalid passport request: {fault.message}"

/-! ## Texts shown to the user -/

namespace Phrase

def badPhone : String := "Invalid phone number"
def badEmail : String := "Invalid email address"
def badDate : String := "Invalid date"
def uploadFailed : String := "Upload failed. Try attaching the file again."
def wrongCode : String := "Invalid code"
def wrongPassword : String := "Wrong password"
def tooManyTries : String := "Too many tries. Please try again later."
def submitted : String := "Data sent"
def limitReached (limit : Nat) : String := s!"You can attach up to {limit} files."

end Phrase

/-! ## Error codes -/

namespace Code

def outdated : String := "APP_VERSION_OUTDATED"
def kindMismatch : String := "ELEMENT_TYPE_MISMATCH"

/-- The stored secret of the user has to be set up anew. -/
def lostSecret (code : String) : Bool :=
  code == "PASSWORD_REQUIRED" || code.startsWith "SECURE_SECRET_REQUIRED" ||
    code == "SECURE_SECRET_INVALID"

def isFlood (code : String) : Bool := code.startsWith "FLOOD_WAIT_"

/-- Errors that the service that asked for the form is told about. -/
def isForwarded (code : String) : Bool :=
  ["BOT_INVALID", "PUBLIC_KEY_REQUIRED", "PUBLIC_KEY_INVALID", "SCOPE_EMPTY",
    "PAYLOAD_EMPTY"].contains code

end Code

/-- What a failed save means. -/
inductive SaveFailure where
  | updateApp
  | verifyPhone
  | verifyEmail
  | badField (field message : String)
  | restart
  | other (code : String)
  deriving DecidableEq, Repr

def SaveFailure.ofCode (kind : Kind) (code : String) : SaveFailure :=
  if code = Code.outdated then .updateApp
  else if kind = .phone ∧ code = "PHONE_VERIFICATION_NEEDED" then .verifyPhone
  else if kind = .phone ∧ code = "PHONE_NUMBER_INVALID" then
    .badField Kind.plainField Phrase.badPhone
  else if kind = .email ∧ code = "EMAIL_VERIFICATION_NEEDED" then .verifyEmail
  else if kind = .email ∧ code = "EMAIL_INVALID" then
    .badField Kind.plainField Phrase.badEmail
  else if Code.lostSecret code then .restart
  else .other code

/-- What a failed check of the password means. -/
inductive PasswordFailure where
  | wrong
  /-- The password was changed, or the check took too long. -/
  | stale
  | flood
  | updateApp
  | other (code : String)
  deriving DecidableEq, Repr

def PasswordFailure.ofCode (code : String) : PasswordFailure :=
  if code = "PASSWORD_HASH_INVALID" then .wrong
  else if code = "SRP_ID_INVALID" ∨ code = "SRP_PASSWORD_CHANGED" then .stale
  else if code = Code.outdated then .updateApp
  else if Code.isFlood code then .flood
  else .other code

/-- What a failed submission means. -/
inductive SubmitFailure where
  | updateApp
  | restart
  | other (code : String)
  deriving DecidableEq, Repr

def SubmitFailure.ofCode (code : String) : SubmitFailure :=
  if code = Code.outdated then .updateApp
  else if code = "PASSWORD_REQUIRED" ∨ code.startsWith "SECURE_SECRET_REQUIRED" ∨
      code.startsWith "SECURE_VALUE_HASH_INVALID" ∨ code.startsWith "SECURE_VALUE_EMPTY" then
    .restart
  else .other code

/-- What a failure to send or check a code means. -/
inductive CodeFailure where
  | wrong
  | flood
  | other (code : String)
  deriving DecidableEq, Repr

def CodeFailure.ofCode (code : String) : CodeFailure :=
  if code = "PHONE_CODE_INVALID" ∨ code = "CODE_INVALID" ∨ code = "EMAIL_VERIFY_CODE_INVALID" then
    .wrong
  else if Code.isFlood code then .flood
  else .other code

/-- What a failure to get the form means. -/
inductive FormFailure where
  | updateApp
  | critical (code : String)
  deriving DecidableEq, Repr

def FormFailure.ofCode (code : String) : FormFailure :=
  if code = Code.outdated then .updateApp else .critical code

end IdentityForm
