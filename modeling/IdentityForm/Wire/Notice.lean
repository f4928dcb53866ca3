import IdentityForm.Notice
import IdentityForm.Wire.Element

/-! # Notices in JSON

Places and notices, each notice an object tagged with its type.
-/

namespace IdentityForm

open Json (Reader)

def Place.members (p : Place) : List (String × Json) :=
  [("value", p.kind.toJson), ("role", p.slot.role.toJson),
    ("index", .ofOption .nat p.slot.index)]

def Place.toJson (p : Place) : Json := .record p.members

def Place.read : Reader Place := fun c j => do
  let r ← Json.readRecord ["value", "role", "index"] c j
  let kind ← r.required "value" Kind.read
  let role ← r.required "role" Role.read
  let index ← r.nullable "index" Json.readNat
  return { kind, slot := { role, index } }

def Notice.toJson : Notice → Json
  | .showForm => .record [("type", .text "show_form")]
  | .askPassword => .record [("type", .text "ask_password")]
  | .noPassword => .record [("type", .text "no_password")]
  | .updateAppRequired => .record [("type", .text "update_app_required")]
  | .criticalError code => .record [("type", .text "critical_error"), ("code", .text code)]
  | .scanUpdated place => .record (("type", .text "scan_updated") :: place.members)
  | .saveFinished kind => .record [("type", .text "value_save_finished"), ("value", kind.toJson)]
  | .editFailed kind => .record [("type", .text "value_edit_failed"), ("value", kind.toJson)]
  | .fieldError kind field =>
    .record [("type", .text "field_error"), ("value", kind.toJson), ("field", .text field)]
  | .verificationNeeded kind =>
    .record [("type", .text "verification_needed"), ("value", kind.toJson)]
  | .verificationUpdate kind =>
    .record [("type", .text "verification_update"), ("value", kind.toJson)]
  | .secretReady => .record [("type", .text "secret_ready")]
  | .passwordError message =>
    .record [("type", .text "password_error"), ("message", .text message)]
  | .recoveryStarted pattern =>
    .record [("type", .text "password_recovery_started"), ("email_pattern", .text pattern)]
  | .toast text => .record [("type", .text "toast"), ("text", .text text)]
  | .errorBox text => .record [("type", .text "error_box"), ("text", .text text)]
  | .suggestRestart => .record [("type", .text "suggest_restart")]
  | .confirmCancel => .record [("type", .text "confirm_cancel")]
  | .close url => .record [("type", .text "close"), ("callback_url", .ofOption .text url)]

def Notice.readFieldError : Reader Notice := fun c j => do
  let r ← Json.readRecord ["value", "field"] c j
  let kind ← r.required "value" Kind.read
  return .fieldError kind (← r.required "field" Json.readString)

def Notice.readClose : Reader Notice := fun c j => do
  let r ← Json.readRecord ["callback_url"] c j
  return .close (← r.nullable "callback_url" Json.readString)

def Notice.read : Reader Notice :=
  Json.readInnerTagged "type"
    [("show_form", Json.readEmpty .showForm),
      ("ask_password", Json.readEmpty .askPassword),
      ("no_password", Json.readEmpty .noPassword),
      ("update_app_required", Json.readEmpty .updateAppRequired),
      ("critical_error", Json.readSingle "code" Json.readString .criticalError),
      ("scan_updated", Json.readAs .scanUpdated Place.read),
      ("value_save_finished", Json.readSingle "value" Kind.read .saveFinished),
      ("value_edit_failed", Json.readSingle "value" Kind.read .editFailed),
      ("field_error", Notice.readFieldError),
      ("verification_needed", Json.readSingle "value" Kind.read .verificationNeeded),
      ("verification_update", Json.readSingle "value" Kind.read .verificationUpdate),
      ("secret_ready", Json.readEmpty .secretReady),
      ("password_error", Json.readSingle "message" Json.readString .passwordError),
      ("password_recovery_started",
        Json.readSingle "email_pattern" Json.readString .recoveryStarted),
      ("toast", Json.readSingle "text" Json.readString .toast),
      ("error_box", Json.readSingle "text" Json.readString .errorBox),
      ("suggest_restart", Json.readEmpty .suggestRestart),
      ("confirm_cancel", Json.readEmpty .confirmCancel),
      ("close", Notice.readClose)]

end IdentityForm
