import IdentityForm.Proofs.Wire.Element
import IdentityForm.Wire.Response

/-! # Replies read back

Tokens, responses, replies and the events of transfers are read back from what is written for them.
-/

namespace IdentityForm

open Json (Reads)

/-! ## Tokens -/

theorem Pending.reads (p : Pending) : Reads Pending.read 1 p.toJson p := by
  cases p with
  | errand e => cases e <;> exact Json.reads_tag rfl rfl
  | task t kind =>
      cases t <;> exact Reads.adjacentTagged (kind.reads.as _) rfl

theorem Token.reads (t : Token) (small : t.id < UInt64.size) : Reads Token.read 2 t.toJson t := by
  have id : Reads Json.readNat 1 _ t.id := Json.reads_nat small
  have pending := t.pending.reads
  refine .record ?_ rfl (by simp) fun inner enough => ?_
  · simp [id.written, pending.written]
  · simp [List.lookup_cons, id.read_eq inner enough, pending.read_eq inner enough]

/-! ## The requested form -/

theorem reads_text_option (s : Option String) :
    Reads (Json.readOption Json.readString) 0 (.ofOption .text s) s :=
  .option fun s _ => ⟨Json.reads_text s, Json.text_ne_null s⟩

theorem RequiredKind.reads (r : RequiredKind) : Reads RequiredKind.read 1 r.toJson r :=
  .record (by simp [r.kind.reads.written]) rfl (by simp) fun inner enough => by
    simp [List.lookup_cons, r.kind.reads.read_eq inner enough]

theorem RequiredKind.reads_row (row : List RequiredKind) :
    Reads RequiredKind.readRow 3 (rowToJson row) row :=
  Reads.single (.list fun r _ => r.reads) "suitable" id

theorem AuthorizationForm.reads (a : AuthorizationForm) :
    Reads AuthorizationForm.read 5 a.toJson a := by
  have rows : Reads (Json.readList RequiredKind.readRow) 4 _ a.rows :=
    .list fun row _ => RequiredKind.reads_row row
  have policy := (reads_text_option a.policyUrl).mono (show 0 ≤ 4 by omega)
  refine .record ?_ rfl (by simp) fun inner enough => ?_
  · simp [AuthorizationForm.members, rows.written, policy.written]
  · simp [AuthorizationForm.members, List.lookup_cons, rows.read_eq inner enough,
      policy.read_eq inner enough]

/-! ## Passwords and codes -/

theorem PasswordSettings.reads (s : PasswordSettings) :
    Reads PasswordSettings.read 1 s.toJson s := by
  have pattern := reads_text_option s.unconfirmedPattern
  have email := reads_text_option s.confirmedEmail
  have error := reads_text_option s.serverError
  refine .record ?_ rfl (by simp) fun inner enough => ?_
  · simp [PasswordSettings.members, pattern.written, email.written, error.written]
  · simp [PasswordSettings.members, List.lookup_cons, pattern.read_eq inner enough,
      email.read_eq inner enough, error.read_eq inner enough]

theorem CodeDelivery.reads (d : CodeDelivery) : Reads CodeDelivery.read 1 d.toJson d := by
  cases d with
  | sms length =>
      exact ((Json.reads_uint64 length).single "length" CodeDelivery.sms).innerTagged rfl (by simp)
  | call length =>
      exact ((Json.reads_uint64 length).single "length" CodeDelivery.call).innerTagged rfl (by simp)
  | flashCall pattern =>
      exact ((Json.reads_text pattern).single "pattern" CodeDelivery.flashCall).innerTagged rfl
        (by simp)
  | app length =>
      exact ((Json.reads_uint64 length).single "length" CodeDelivery.app).innerTagged rfl (by simp)

theorem CodeDelivery.toJson_ne_null (d : CodeDelivery) : d.toJson ≠ .null := by
  cases d <;> exact Json.record_ne_null _

theorem PhoneCode.reads (p : PhoneCode) : Reads PhoneCode.read 2 p.toJson p := by
  have delivery := p.delivery.reads
  have next : Reads (Json.readOption CodeDelivery.read) 1 (.ofOption CodeDelivery.toJson p.next) p.next :=
    .option fun d _ => ⟨d.reads, d.toJson_ne_null⟩
  refine .record ?_ rfl (by simp) fun inner enough => ?_
  · simp [PhoneCode.members, delivery.written, next.written]
  · simp [PhoneCode.members, List.lookup_cons, delivery.read_eq inner enough, next.read_eq inner enough]

theorem EmailCode.reads (e : EmailCode) : Reads EmailCode.read 1 e.toJson e :=
  .record (by simp [EmailCode.members]) rfl (by simp) fun inner _ => by
    simp [EmailCode.members, List.lookup_cons]

/-! ## Responses and replies -/

theorem Response.reads_elements (elements : List StoredElement) (errors : List ElementError) :
    Reads Response.readElements 7
      (.record (Response.availableElements elements errors).members)
      (.availableElements elements errors) := by
  have elements' : Reads (Json.readList StoredElement.read) 6 _ elements := .list fun e _ => e.reads
  have errors' : Reads (Json.readList ElementError.read) 6 _ errors :=
    (Reads.list fun e _ => e.reads).mono (by omega)
  refine .record ?_ rfl (by simp) fun inner enough => ?_
  · simp [Response.members, elements'.written, errors'.written]
  · simp [Response.members, List.lookup_cons, elements'.read_eq inner enough,
      errors'.read_eq inner enough]

theorem Response.reads (r : Response) : Reads Response.read 7 r.toJson r := by
  cases r with
  | authorizationForm form =>
      exact ((form.reads.mono (by omega)).as Response.authorizationForm).innerTagged rfl
        (by simp [AuthorizationForm.members])
  | passwordState settings =>
      exact ((settings.reads.mono (by omega)).as Response.passwordState).innerTagged rfl
        (by simp [PasswordSettings.members])
  | availableElements elements errors =>
      exact (Response.reads_elements elements errors).innerTagged rfl (by simp [Response.members])
  | element e =>
      exact ((e.reads.mono (by omega)).as Response.element).innerTagged rfl
        (by simp [StoredElement.members, Element.members])
  | phoneCode code =>
      exact ((code.reads.mono (by omega)).as Response.phoneCode).innerTagged rfl
        (by simp [PhoneCode.members])
  | emailCode code =>
      exact ((code.reads.mono (by omega)).as Response.emailCode).innerTagged rfl
        (by simp [EmailCode.members])
  | recoveryEmail pattern =>
      exact ((Json.reads_text pattern).single "email_pattern" Response.recoveryEmail).innerTagged rfl
        (by simp)
  | ok => exact (Json.reads_empty Response.ok).innerTagged rfl (by simp)

theorem ServerError.reads (e : ServerError) : Reads ServerError.read 1 e.toJson e :=
  (Json.reads_text e.code).single "code" ServerError.mk

theorem Outcome.reads (o : Outcome) : Reads Outcome.read 8 o.toJson o := by
  cases o with
  | ok response => exact Reads.outerTagged (response.reads.as Outcome.ok) rfl
  | failed error => exact Reads.outerTagged ((error.reads.mono (by omega)).as Outcome.failed) rfl

theorem Reply.reads (r : Reply) (small : r.token.id < UInt64.size) : Reads Reply.read 9 r.toJson r := by
  have token := (r.token.reads small).mono (show 2 ≤ 8 by omega)
  have outcome := r.outcome.reads
  refine .record ?_ rfl (by simp) fun inner enough => ?_
  · simp [token.written, outcome.written]
  · simp [List.lookup_cons, token.read_eq inner enough, outcome.read_eq inner enough]

/-! ## Transfers -/

theorem reads_bytes (bytes : List UInt8) : Reads readBytes 1 (bytesToJson bytes) bytes :=
  .list fun b _ => ⟨Json.written_uint8 b, fun c _ => Json.readUInt8_nat c b⟩

theorem FileEvent.reads_keyed {β : Type} {read : Json.Reader β} {j : Json} {b : β} (key : UInt64)
    (name : String) (make : UInt64 → β → FileEvent) (h : Reads read 1 j b) (apart : "key" ≠ name) :
    Reads (readKeyed name read make) 2 (.record [("key", keyToJson key), (name, j)])
      (make key b) := by
  have other : (name == "key") = false := beq_false_of_ne apart.symm
  refine .record ?_ rfl (by simpa using apart) fun inner enough => ?_
  · simp [keyToJson, h.written]
  · simp [List.lookup_cons, keyToJson, other, h.read_eq inner enough]

theorem FileEvent.reads (e : FileEvent) : Reads FileEvent.read 2 e.toJson e := by
  cases e with
  | uploadProgress key offset =>
      exact (reads_keyed key "offset" uploadProgress (Json.reads_uint64 offset) (by simp)).innerTagged
        rfl (by simp)
  | uploadDone key fileId =>
      exact (reads_keyed key "file_id" uploadDone (reads_fileId fileId) (by simp)).innerTagged rfl
        (by simp)
  | uploadFailed key =>
      exact ((Json.reads_uint64 key).single "key" uploadFailed).innerTagged rfl (by simp)
  | downloadProgress key offset =>
      exact (reads_keyed key "offset" downloadProgress (Json.reads_uint64 offset)
        (by simp)).innerTagged rfl (by simp)
  | downloadDone key bytes =>
      exact (reads_keyed key "bytes" downloadDone (reads_bytes bytes) (by simp)).innerTagged rfl
        (by simp)
  | downloadFailed key =>
      exact ((Json.reads_uint64 key).single "key" downloadFailed).innerTagged rfl (by simp)

end IdentityForm
