import IdentityForm.Backend.Token
import IdentityForm.Credentials
import IdentityForm.Element
import IdentityForm.Link

/-! # Requests

What a session asks of the server and of the transfer of files.
-/

namespace IdentityForm

inductive Request where
  | getForm (token : Token) (link : LinkRequest)
  | getPasswordState (token : Token)
  | getAvailableElements (token : Token) (formId : Int64) (password : Secret)
  | setElement (token : Token) (element : SubmittedElement) (password : Secret)
  | deleteElement (token : Token) (kind : Kind)
  | sendForm (token : Token) (formId : Int64) (kinds : List Kind)
  | sendPhoneCode (token : Token) (phone : String)
  | resendPhoneCode (token : Token) (phone : String)
  | checkPhoneCode (token : Token) (phone code : String)
  | sendEmailCode (token : Token) (email : String)
  | checkEmailCode (token : Token) (email code : String)
  | clearPassword (token : Token)
  | recoverPassword (token : Token)
  | cancel (id : Nat)
  | uploadFile (key : UInt64) (role : Role) (bytes : List UInt8)
  | cancelUpload (key : UInt64)
  | downloadFile (key fileId size : UInt64)
  | cancelDownload (key : UInt64)
  deriving DecidableEq

/-- The token that the answer will carry; transfers and cancellations have none. -/
def Request.token? : Request → Option Token
  | .getForm t _ | .getPasswordState t | .getAvailableElements t _ _ | .setElement t _ _
  | .deleteElement t _ | .sendForm t _ _ | .sendPhoneCode t _ | .resendPhoneCode t _
  | .checkPhoneCode t _ _ | .sendEmailCode t _ | .checkEmailCode t _ _ | .clearPassword t
  | .recoverPassword t => some t
  | .cancel _ | .uploadFile _ _ _ | .cancelUpload _ | .downloadFile _ _ _
  | .cancelDownload _ => none

end IdentityForm
