import IdentityForm.Backend.Token
import IdentityForm.Element

/-! # Replies

What the server answers, and what the transfer of files reports.
-/

namespace IdentityForm

/-- One kind that satisfies a requested row, and what it must include. -/
structure RequiredKind where
  kind : Kind
  selfie : Bool
  rendition : Bool
  nativeNames : Bool
  deriving DecidableEq, Repr

/-- The form as requested: rows of alternatives. -/
structure AuthorizationForm where
  id : Int64
  rows : List (List RequiredKind)
  policyUrl : Option String
  deriving DecidableEq, Repr

structure PasswordSettings where
  hasPassword : Bool
  hasRecovery : Bool
  hint : String
  /-- The pattern of an email that waits for confirmation. -/
  unconfirmedPattern : Option String
  confirmedEmail : Option String
  outdatedClient : Bool
  serverError : Option String
  deriving DecidableEq, Repr

/-- How a code reaches the user. -/
inductive CodeDelivery where
  | sms (length : UInt64)
  | call (length : UInt64)
  | flashCall (pattern : String)
  | app (length : UInt64)
  deriving DecidableEq, Repr

/-- How many characters the code has, if the server tells. -/
def CodeDelivery.length? : CodeDelivery → Option Nat
  | .sms n | .call n | .app n => if n = 0 then none else some n.toNat
  | .flashCall _ => none

def CodeDelivery.isCall : CodeDelivery → Bool
  | .call _ => true
  | _ => false

structure PhoneCode where
  delivery : CodeDelivery
  /-- How the code will be sent again, if at all. -/
  next : Option CodeDelivery
  /-- Seconds until then. -/
  timeout : UInt64
  deriving DecidableEq, Repr

structure EmailCode where
  emailPattern : String
  length : UInt64
  deriving DecidableEq, Repr

inductive Response where
  | authorizationForm (form : AuthorizationForm)
  | passwordState (settings : PasswordSettings)
  | availableElements (elements : List StoredElement) (errors : List ElementError)
  | element (element : StoredElement)
  | phoneCode (code : PhoneCode)
  | emailCode (code : EmailCode)
  | recoveryEmail (emailPattern : String)
  | ok
  deriving DecidableEq, Repr

/-- The name of a kind of response. -/
def Response.name : Response → String
  | .authorizationForm _ => "authorization_form"
  | .passwordState _ => "password_state"
  | .availableElements _ _ => "available_elements"
  | .element _ => "element"
  | .phoneCode _ => "phone_code"
  | .emailCode _ => "email_code"
  | .recoveryEmail _ => "recovery_email"
  | .ok => "ok"

/-- An error of the server, known by its code. -/
structure ServerError where
  code : String
  deriving DecidableEq, Repr

/-- What a response of the wrong shape counts as. -/
def Response.unexpected (_ : Response) : ServerError := ⟨"UNEXPECTED_RESPONSE"⟩

/-- A response, or the error in its place. -/
inductive Outcome where
  | ok (response : Response)
  | failed (error : ServerError)
  deriving DecidableEq, Repr

structure Reply where
  token : Token
  outcome : Outcome
  deriving DecidableEq, Repr

/-- What happens to a transfer. A download goes by the id of its file, an upload by its own key. -/
inductive FileEvent where
  | uploadProgress (key offset : UInt64)
  | uploadDone (key fileId : UInt64)
  | uploadFailed (key : UInt64)
  | downloadProgress (key offset : UInt64)
  | downloadDone (key : UInt64) (bytes : List UInt8)
  | downloadFailed (key : UInt64)
  deriving DecidableEq

end IdentityForm
