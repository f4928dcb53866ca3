import IdentityForm.Backend.Response
import IdentityForm.Wire.Element

/-! # Replies in JSON -/

namespace IdentityForm

open Json (Reader)

/-! ## Tokens -/

def Errand.name : Errand → String
  | .form => "form"
  | .passwordState => "password_state"
  | .availableElements => "available_elements"
  | .submit => "submit"
  | .clearPassword => "clear_unconfirmed_password"
  | .recovery => "password_recovery"

def Task.name : Task → String
  | .save => "save"
  | .delete => "delete"
  | .sendCode => "send_code"
  | .resendCall => "resend_call"
  | .checkCode => "check_code"

def Pending.toJson : Pending → Json
  | .errand e => .record [("op", .text e.name)]
  | .task t kind => .record [("op", .text t.name), ("value", kind.toJson)]

def Pending.read : Reader Pending :=
  let errand (e : Errand) : String × Json.Beside Pending := (e.name, .empty (.errand e))
  let task (t : Task) : String × Json.Beside Pending := (t.name, .content (.task t) Kind.read)
  Json.readAdjacentTagged "op" "value"
    [errand .form, errand .passwordState, errand .availableElements, task .save, task .delete,
      task .sendCode, task .resendCall, task .checkCode, errand .submit, errand .clearPassword,
      errand .recovery]

def Token.toJson (t : Token) : Json := .record [("id", .nat t.id), ("pending", t.pending.toJson)]

def Token.read : Reader Token := fun c j => do
  let r ← Json.readRecord ["id", "pending"] c j
  let id ← r.required "id" Json.readNat
  let pending ← r.required "pending" Pending.read
  return { id, pending }

/-! ## The requested form -/

def RequiredKind.toJson (r : RequiredKind) : Json :=
  .record [("value_type", r.kind.toJson), ("selfie_required", .bool r.selfie),
    ("translation_required", .bool r.rendition), ("native_names", .bool r.nativeNames)]

def RequiredKind.read : Reader RequiredKind := fun c j => do
  let r ← Json.readRecord
    ["value_type", "selfie_required", "translation_required", "native_names"] c j
  let kind ← r.required "value_type" Kind.read
  let selfie ← r.defaulted "selfie_required" Json.readBool false
  let rendition ← r.defaulted "translation_required" Json.readBool false
  let nativeNames ← r.defaulted "native_names" Json.readBool false
  return { kind, selfie, rendition, nativeNames }

/-- A row is an object with its alternatives as the only member. -/
def RequiredKind.rowToJson (row : List RequiredKind) : Json :=
  .record [("suitable", .ofList RequiredKind.toJson row)]

def RequiredKind.readRow : Reader (List RequiredKind) :=
  Json.readSingle "suitable" (Json.readList RequiredKind.read) id

def AuthorizationForm.members (a : AuthorizationForm) : List (String × Json) :=
  [("id", .int a.id.toInt), ("required_elements", .ofList RequiredKind.rowToJson a.rows),
    ("privacy_policy_url", .ofOption .text a.policyUrl)]

def AuthorizationForm.toJson (a : AuthorizationForm) : Json := .record a.members

def AuthorizationForm.read : Reader AuthorizationForm := fun c j => do
  let r ← Json.readRecord ["id", "required_elements", "privacy_policy_url"] c j
  let id ← r.required "id" Json.readInt64
  let rows ← r.required "required_elements" (Json.readList RequiredKind.readRow)
  let policyUrl ← r.nullable "privacy_policy_url" Json.readString
  return { id, rows, policyUrl }

/-! ## Passwords and codes -/

def PasswordSettings.members (s : PasswordSettings) : List (String × Json) :=
  [("has_password", .bool s.hasPassword), ("has_recovery", .bool s.hasRecovery),
    ("hint", .text s.hint), ("unconfirmed_pattern", .ofOption .text s.unconfirmedPattern),
    ("confirmed_email", .ofOption .text s.confirmedEmail),
    ("outdated_client", .bool s.outdatedClient), ("server_error", .ofOption .text s.serverError)]

def PasswordSettings.toJson (s : PasswordSettings) : Json := .record s.members

def PasswordSettings.read : Reader PasswordSettings := fun c j => do
  let r ← Json.readRecord ["has_password", "has_recovery", "hint", "unconfirmed_pattern",
    "confirmed_email", "outdated_client", "server_error"] c j
  let hasPassword ← r.required "has_password" Json.readBool
  let hasRecovery ← r.defaulted "has_recovery" Json.readBool false
  let hint ← r.defaulted "hint" Json.readString ""
  let unconfirmedPattern ←
    r.defaulted "unconfirmed_pattern" (Json.readOption Json.readString) none
  let confirmedEmail ← r.defaulted "confirmed_email" (Json.readOption Json.readString) none
  let outdatedClient ← r.defaulted "outdated_client" Json.readBool false
  let serverError ← r.defaulted "server_error" (Json.readOption Json.readString) none
  return {
    hasPassword, hasRecovery, hint, unconfirmedPattern, confirmedEmail, outdatedClient,
    serverError }

def CodeDelivery.toJson : CodeDelivery → Json
  | .sms length => .record [("type", .text "sms"), ("length", .nat length.toNat)]
  | .call length => .record [("type", .text "call"), ("length", .nat length.toNat)]
  | .flashCall pattern => .record [("type", .text "flash_call"), ("pattern", .text pattern)]
  | .app length => .record [("type", .text "app"), ("length", .nat length.toNat)]

def CodeDelivery.read : Reader CodeDelivery :=
  Json.readInnerTagged "type"
    [("sms", Json.readSingle "length" Json.readUInt64 .sms),
      ("call", Json.readSingle "length" Json.readUInt64 .call),
      ("flash_call", Json.readSingle "pattern" Json.readString .flashCall),
      ("app", Json.readSingle "length" Json.readUInt64 .app)]

def PhoneCode.members (p : PhoneCode) : List (String × Json) :=
  [("kind", p.delivery.toJson), ("next", .ofOption CodeDelivery.toJson p.next),
    ("timeout", .nat p.timeout.toNat)]

def PhoneCode.toJson (p : PhoneCode) : Json := .record p.members

def PhoneCode.read : Reader PhoneCode := fun c j => do
  let r ← Json.readRecord ["kind", "next", "timeout"] c j
  let delivery ← r.required "kind" CodeDelivery.read
  let next ← r.defaulted "next" (Json.readOption CodeDelivery.read) none
  let timeout ← r.defaulted "timeout" Json.readUInt64 0
  return { delivery, next, timeout }

def EmailCode.members (e : EmailCode) : List (String × Json) :=
  [("email_pattern", .text e.emailPattern), ("length", .nat e.length.toNat)]

def EmailCode.toJson (e : EmailCode) : Json := .record e.members

def EmailCode.read : Reader EmailCode := fun c j => do
  let r ← Json.readRecord ["email_pattern", "length"] c j
  let emailPattern ← r.required "email_pattern" Json.readString
  let length ← r.required "length" Json.readUInt64
  return { emailPattern, length }

/-! ## Responses and replies -/

def Response.members : Response → List (String × Json)
  | .authorizationForm form => form.members
  | .passwordState settings => settings.members
  | .availableElements elements errors =>
    [("elements", .ofList StoredElement.toJson elements),
      ("errors", .ofList ElementError.toJson errors)]
  | .element e => StoredElement.members e
  | .phoneCode code => code.members
  | .emailCode code => code.members
  | .recoveryEmail pattern => [("email_pattern", .text pattern)]
  | .ok => []

def Response.toJson (r : Response) : Json := .record (("response", .text r.name) :: r.members)

def Response.readElements : Reader Response := fun c j => do
  let r ← Json.readRecord ["elements", "errors"] c j
  let elements ← r.required "elements" (Json.readList StoredElement.read)
  let errors ← r.required "errors" (Json.readList ElementError.read)
  return .availableElements elements errors

def Response.read : Reader Response :=
  Json.readInnerTagged "response"
    [("authorization_form", Json.readAs .authorizationForm AuthorizationForm.read),
      ("password_state", Json.readAs .passwordState PasswordSettings.read),
      ("available_elements", Response.readElements),
      ("element", Json.readAs .element StoredElement.read),
      ("phone_code", Json.readAs .phoneCode PhoneCode.read),
      ("email_code", Json.readAs .emailCode EmailCode.read),
      ("recovery_email", Json.readSingle "email_pattern" Json.readString .recoveryEmail),
      ("ok", Json.readEmpty .ok)]

def ServerError.toJson (e : ServerError) : Json := .record [("code", .text e.code)]

def ServerError.read : Reader ServerError := Json.readSingle "code" Json.readString .mk

def Outcome.toJson : Outcome → Json
  | .ok response => .record [("Ok", response.toJson)]
  | .failed error => .record [("Err", error.toJson)]

def Outcome.read : Reader Outcome :=
  Json.readOuterTagged
    [("Ok", Json.readAs .ok Response.read), ("Err", Json.readAs .failed ServerError.read)]

def Reply.toJson (r : Reply) : Json :=
  .record [("token", r.token.toJson), ("result", r.outcome.toJson)]

def Reply.read : Reader Reply := fun c j => do
  let r ← Json.readRecord ["token", "result"] c j
  let token ← r.required "token" Token.read
  let outcome ← r.required "result" Outcome.read
  return { token, outcome }

/-! ## Transfers -/

def keyToJson (key : UInt64) : Json := .nat key.toNat

def bytesToJson (bytes : List UInt8) : Json := .ofList (fun b => .nat b.toNat) bytes

def readBytes : Reader (List UInt8) := Json.readList Json.readUInt8

def FileEvent.toJson : FileEvent → Json
  | .uploadProgress key offset =>
    .record [("type", .text "upload_progress"), ("key", keyToJson key),
      ("offset", .nat offset.toNat)]
  | .uploadDone key fileId =>
    .record [("type", .text "upload_done"), ("key", keyToJson key),
      ("file_id", fileIdToJson fileId)]
  | .uploadFailed key => .record [("type", .text "upload_failed"), ("key", keyToJson key)]
  | .downloadProgress key offset =>
    .record [("type", .text "download_progress"), ("key", keyToJson key),
      ("offset", .nat offset.toNat)]
  | .downloadDone key bytes =>
    .record [("type", .text "download_done"), ("key", keyToJson key),
      ("bytes", bytesToJson bytes)]
  | .downloadFailed key => .record [("type", .text "download_failed"), ("key", keyToJson key)]

/-- A variant with a key and one more member. -/
def FileEvent.readKeyed {β : Type} (name : String) (read : Reader β)
    (make : UInt64 → β → FileEvent) : Reader FileEvent := fun c j => do
  let r ← Json.readRecord ["key", name] c j
  let key ← r.required "key" Json.readUInt64
  return make key (← r.required name read)

def FileEvent.read : Reader FileEvent :=
  Json.readInnerTagged "type"
    [("upload_progress", readKeyed "offset" Json.readUInt64 .uploadProgress),
      ("upload_done", readKeyed "file_id" Json.readUInt64 .uploadDone),
      ("upload_failed", Json.readSingle "key" Json.readUInt64 .uploadFailed),
      ("download_progress", readKeyed "offset" Json.readUInt64 .downloadProgress),
      ("download_done", readKeyed "bytes" readBytes .downloadDone),
      ("download_failed", Json.readSingle "key" Json.readUInt64 .downloadFailed)]

end IdentityForm
