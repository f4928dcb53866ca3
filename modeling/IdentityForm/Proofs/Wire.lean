import IdentityForm.Proofs.Wire.Response
import IdentityForm.Wire.Notice
import IdentityForm.Wire.Request

/-! # What travels is read back

Replies, events of transfers, notices, elements that are sent and requests for a form: the text of
each is read back as what it was written for. So two of them with the same text are the same.
-/

namespace IdentityForm

open Json (Reads)

/-! ## Notices -/

/-- A word holds the position, if there is one. -/
def Place.Fits (p : Place) : Prop := ∀ i ∈ p.slot.index, i < UInt64.size

theorem Place.reads (p : Place) (fits : p.Fits) : Reads Place.read 1 p.toJson p := by
  have kind := p.kind.reads
  have role := p.slot.role.reads
  have index : Reads (Json.readOption Json.readNat) 0 (.ofOption .nat p.slot.index) p.slot.index :=
    .option fun i hi => ⟨Json.reads_nat (fits i hi), Json.nat_ne_null i⟩
  refine .record ?_ rfl (by simp) fun inner enough => ?_
  · simp [Place.members, kind.written, role.written, index.written]
  · simp [Place.members, List.lookup_cons, kind.read_eq inner enough, role.read_eq inner enough,
      index.read_eq inner enough]

def Notice.Fits : Notice → Prop
  | .scanUpdated place => place.Fits
  | _ => True

theorem Notice.reads_fieldError (kind : Kind) (field : String) :
    Reads Notice.readFieldError 1 (.record [("value", kind.toJson), ("field", .text field)])
      (.fieldError kind field) :=
  .record (by simp [kind.reads.written]) rfl (by simp) fun inner enough => by
    simp [List.lookup_cons, kind.reads.read_eq inner enough]

theorem Notice.reads_close (url : Option String) :
    Reads Notice.readClose 1 (.record [("callback_url", .ofOption .text url)]) (.close url) :=
  .record (by simp [(reads_text_option url).written]) rfl (by simp) fun inner enough => by
    simp [(reads_text_option url).read_eq inner enough]

theorem Notice.reads (n : Notice) (fits : n.Fits) : Reads Notice.read 1 n.toJson n := by
  cases n with
  | criticalError code =>
      exact ((Json.reads_text code).single "code" criticalError).innerTagged rfl (by simp)
  | scanUpdated place =>
      exact ((place.reads fits).as scanUpdated).innerTagged rfl (by simp [Place.members])
  | saveFinished kind => exact (kind.reads.single "value" saveFinished).innerTagged rfl (by simp)
  | editFailed kind => exact (kind.reads.single "value" editFailed).innerTagged rfl (by simp)
  | fieldError kind field => exact (reads_fieldError kind field).innerTagged rfl (by simp)
  | verificationNeeded kind =>
      exact (kind.reads.single "value" verificationNeeded).innerTagged rfl (by simp)
  | verificationUpdate kind =>
      exact (kind.reads.single "value" verificationUpdate).innerTagged rfl (by simp)
  | passwordError message =>
      exact ((Json.reads_text message).single "message" passwordError).innerTagged rfl (by simp)
  | recoveryStarted pattern =>
      exact ((Json.reads_text pattern).single "email_pattern" recoveryStarted).innerTagged rfl
        (by simp)
  | toast text => exact ((Json.reads_text text).single "text" toast).innerTagged rfl (by simp)
  | errorBox text => exact ((Json.reads_text text).single "text" errorBox).innerTagged rfl (by simp)
  | close url => exact (reads_close url).innerTagged rfl (by simp)
  | _ => exact (Json.reads_empty _).innerTagged rfl (by simp)

/-! ## Requests for a form -/

theorem LinkRequest.reads (l : LinkRequest) : Reads LinkRequest.read 1 l.toJson l := by
  have url := reads_text_option l.callbackUrl
  refine .record ?_ rfl (by simp) fun inner enough => ?_
  · simp [url.written]
  · simp [List.lookup_cons, url.read_eq inner enough]

/-! ## Whole texts -/

namespace Json

variable {α : Type}

/-- What a whole text is read as. -/
def decode (read : Reader α) (text : String) : Option α :=
  (parse text).bind (read ⟨maxLevels, false⟩)

/-- The text of everything that fits is read back, and it is the text of nothing else that fits. -/
structure RoundTrips (read : Reader α) (write : α → Json) (fits : α → Prop) : Prop where
  read_back : ∀ a, fits a → decode read (write a).compact = some a
  injective : ∀ a b, fits a → fits b → (write a).compact = (write b).compact → a = b

theorem Reads.decode_compact {read : Reader α} {levels : Nat} {j : Json} {a : α}
    (h : Reads read levels j a) (shallow : levels ≤ maxLevels) : decode read j.compact = some a := by
  rw [decode, h.written.parse_compact]
  exact h.read_eq _ shallow

theorem RoundTrips.of_reads {read : Reader α} {write : α → Json} {fits : α → Prop} (levels : Nat)
    (shallow : levels ≤ maxLevels) (h : ∀ a, fits a → Reads read levels (write a) a) :
    RoundTrips read write fits where
  read_back a ha := (h a ha).decode_compact shallow
  injective a b ha hb same := by
    have first := (h a ha).decode_compact shallow
    rw [same, (h b hb).decode_compact shallow] at first
    exact (Option.some.inj first).symm

end Json

def Reply.Fits (r : Reply) : Prop := r.token.id < UInt64.size

/-- Everything that travels is read back as it was. -/
theorem wire_round_trip :
    Json.RoundTrips Reply.read Reply.toJson Reply.Fits ∧
      Json.RoundTrips FileEvent.read FileEvent.toJson (fun _ => True) ∧
      Json.RoundTrips Notice.read Notice.toJson Notice.Fits ∧
      Json.RoundTrips SubmittedElement.read SubmittedElement.toJson (fun _ => True) ∧
      Json.RoundTrips LinkRequest.read LinkRequest.toJson (fun _ => True) :=
  ⟨.of_reads 9 (by decide) fun r fits => r.reads fits,
    .of_reads 2 (by decide) fun e _ => e.reads,
    .of_reads 1 (by decide) fun n fits => n.reads fits,
    .of_reads 3 (by decide) fun e _ => e.reads,
    .of_reads 1 (by decide) fun l _ => l.reads⟩

/-- A reply with texts that have to be escaped, a number at the end of its range, and a form, and a
notice about a position. -/
theorem wire_round_trip_of_escapes :
    let file : DatedFile := ⟨⟨18446744073709551615, 0, 7⟩, -1⟩
    let passport : IdentityDocument DatedFile := ⟨"\"\\\n\u0001é", none, some file, none, none, [file]⟩
    let reply : Reply := ⟨⟨18446744073709551615, .task .save .phone⟩,
      .ok (.availableElements [.identity .passport passport, .phone ""]
        [⟨.phone, "\u007f😀", .dataField "type"⟩])⟩
    let notice : Notice := .scanUpdated ⟨.address, ⟨.scan, some 18446744073709551615⟩⟩
    (reply.Fits ∧ Json.decode Reply.read reply.toJson.compact = some reply) ∧
      notice.Fits ∧ ∀ other : Notice, other.Fits → notice.toJson.compact = other.toJson.compact →
        notice = other := by
  intro file passport reply notice
  have fits : notice.Fits := fun i hi => by cases hi; decide
  exact ⟨⟨by unfold Reply.Fits; decide, wire_round_trip.1.read_back reply (by unfold Reply.Fits; decide)⟩,
    fits, fun other fits' => wire_round_trip.2.2.1.injective notice other fits fits'⟩

end IdentityForm
