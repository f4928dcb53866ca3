import IdentityForm.Backend.Request
import IdentityForm.Wire.Response

/-! # Requests in JSON

The request for a form, and the requests of a session, each an object tagged with its method.
-/

namespace IdentityForm

open Json (Reader)

def LinkRequest.toJson (l : LinkRequest) : Json :=
  .record [("bot_id", .int l.botId.toInt), ("scope", .text l.scope),
    ("callback_url", .ofOption .text l.callbackUrl), ("public_key", .text l.publicKey),
    ("nonce", .text l.nonce)]

def LinkRequest.read : Reader LinkRequest := fun c j => do
  let r ← Json.readRecord ["bot_id", "scope", "callback_url", "public_key", "nonce"] c j
  let botId ← r.required "bot_id" Json.readInt64
  let scope ← r.required "scope" Json.readString
  let callbackUrl ← r.nullable "callback_url" Json.readString
  let publicKey ← r.required "public_key" Json.readString
  let nonce ← r.required "nonce" Json.readString
  return { botId, scope, callbackUrl, publicKey, nonce }

def Secret.toJson (s : Secret) : Json := .text s.text

/-- How keys, ids of files and bytes are written. -/
structure TransferStyle where
  key : UInt64 → Json
  fileId : UInt64 → Json
  bytes : List UInt8 → Json

def TransferStyle.plain : TransferStyle := ⟨keyToJson, fileIdToJson, bytesToJson⟩

/-- The name of a request and its members. -/
def Request.written (style : TransferStyle) : Request → String × List (String × Json)
  | .getForm t link => ("get_authorization_form", [("token", t.toJson), ("request", link.toJson)])
  | .getPasswordState t => ("get_password_state", [("token", t.toJson)])
  | .getAvailableElements t formId password =>
    ("get_available_elements",
      [("token", t.toJson), ("form_id", .int formId.toInt), ("password", password.toJson)])
  | .setElement t element password =>
    ("set_element", [("token", t.toJson), ("element", SubmittedElement.toJson element),
      ("password", password.toJson)])
  | .deleteElement t kind => ("delete_element", [("token", t.toJson), ("value_type", kind.toJson)])
  | .sendForm t formId kinds =>
    ("send_authorization_form", [("token", t.toJson), ("form_id", .int formId.toInt),
      ("types", .ofList Kind.toJson kinds)])
  | .sendPhoneCode t phone => ("send_phone_code", [("token", t.toJson), ("phone", .text phone)])
  | .resendPhoneCode t phone =>
    ("resend_phone_code", [("token", t.toJson), ("phone", .text phone)])
  | .checkPhoneCode t phone code =>
    ("check_phone_code", [("token", t.toJson), ("phone", .text phone), ("code", .text code)])
  | .sendEmailCode t email => ("send_email_code", [("token", t.toJson), ("email", .text email)])
  | .checkEmailCode t email code =>
    ("check_email_code", [("token", t.toJson), ("email", .text email), ("code", .text code)])
  | .clearPassword t => ("clear_unconfirmed_password", [("token", t.toJson)])
  | .recoverPassword t => ("request_password_recovery", [("token", t.toJson)])
  | .cancel id => ("cancel", [("id", .nat id)])
  | .uploadFile key role bytes =>
    ("upload_file", [("key", style.key key), ("role", role.toJson), ("bytes", style.bytes bytes)])
  | .cancelUpload key => ("cancel_upload", [("key", style.key key)])
  | .downloadFile key fileId size =>
    ("download_file", [("key", style.key key), ("file_id", style.fileId fileId),
      ("size", .nat size.toNat)])
  | .cancelDownload key => ("cancel_download", [("key", style.key key)])

def Request.toJson (style : TransferStyle) (r : Request) : Json :=
  let (name, members) := r.written style
  .record (("method", .text name) :: members)

end IdentityForm
