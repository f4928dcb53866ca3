import IdentityForm.Proofs.Committed
import IdentityForm.Proofs.Drafts
import IdentityForm.Proofs.Reading
import IdentityForm.Proofs.Text.White

/-! # Whole edits

The element of a save holds everything that was edited. Building it would leave out a date that
cannot be read and a file that is not on the server; a save with such a date or file is refused, or
waits, and sends no element.
-/

namespace IdentityForm

/-! ## What an element is made of -/

def Element.textsByField {F : Type} : Element F → List (String × String)
  | .personalDetails d =>
    [("first_name", d.firstName), ("middle_name", d.middleName), ("last_name", d.lastName),
      ("first_name_native", d.nativeFirstName), ("middle_name_native", d.nativeMiddleName),
      ("last_name_native", d.nativeLastName), ("gender", d.gender), ("country_code", d.country),
      ("residence_country_code", d.residenceCountry)]
  | .identity _ d => [("document_no", d.number)]
  | .address a =>
    [("street_line1", a.streetLine1), ("street_line2", a.streetLine2), ("city", a.city),
      ("state", a.state), ("country_code", a.country), ("post_code", a.postCode)]
  | .residence _ _ => []
  | .phone text | .email text => [(Kind.plainField, text)]

def Element.datesByField {F : Type} : Element F → List (String × Option Date)
  | .personalDetails d => [("birth_date", d.birthDate)]
  | .identity _ d => [("expiry_date", d.expiryDate)]
  | _ => []

theorem Date.parse_trim (s : String) : parse (Text.trim s) = parse s := by
  simp only [parse, Text.trim_trim]

namespace SubmittedElement

variable {fields : Fields} {files : Files Draft} {kind : Kind}

theorem kind_ofDraft : (ofDraft fields files kind).kind = kind := by
  cases kind <;> rfl

theorem textsByField_ofDraft : ∀ p ∈ (ofDraft fields files kind).textsByField,
    p.2 = Text.trim (fields.text p.1) := by
  cases kind <;> simp [ofDraft, Element.textsByField]

/-- Where no date is refused, every date is read from its field, and is only missing from an element
if there is nothing in the field. -/
theorem datesByField_ofDraft (dated : fields.badDates kind = []) {p : String × Option Date}
    (hp : p ∈ (ofDraft fields files kind).datesByField) :
    p.2 = Date.parse (Text.trim (fields.text p.1)) ∧
      (p.2 = none → Text.trim (fields.text p.1) = "") := by
  have read : p.1 ∈ kind.dateFields ∧ p.2 = Date.parse (Text.trim (fields.text p.1)) := by
    cases kind <;> simp_all [ofDraft, Element.datesByField, Kind.dateFields, Date.parse_trim]
  refine ⟨read.2, fun missing => ?_⟩
  have accepted := List.filter_eq_nil_iff.1 dated p.1 read.1
  simpa [← read.2, missing] using accepted

end SubmittedElement

/-! ## Files that are ready to be saved -/

/-- A draft that is neither uploading nor failed is on the server. -/
theorem Draft.remoteId?_eq {d : Draft} (begun : ∀ u, d.upload = some u → u.transfer ≠ .notStarted)
    (idle : d.isUploading = false) (sound : d.hasFailed = false) :
    d.remoteId? = some d.file.id := by
  unfold Draft.isUploading at idle
  unfold Draft.hasFailed at sound
  unfold Draft.remoteId?
  cases hu : d.upload with
  | none => rfl
  | some u =>
      have begun := begun u hu
      cases ht : u.transfer <;> simp_all [Transfer.isRunning]

theorem submittedIds_eq_map {drafts : List Draft}
    (remote : ∀ d ∈ drafts, d.deleted = false → d.remoteId? = some d.file.id) :
    submittedIds drafts = (drafts.filter fun d => !d.deleted).map (·.file.id) := by
  rw [submittedIds, ← List.filterMap_eq_map]
  apply List.filterMap_congr
  intro d hd
  obtain ⟨hd, kept⟩ := List.mem_filter.1 hd
  exact remote d hd (by simpa using kept)

namespace Entry

variable {e : Entry} {slot : Slot} {d : Draft}

theorem isUploading_of_quiet (quiet : e.isBusy = false) (hd : e.draftFiles.get? slot = some d) :
    d.isUploading = false := by
  obtain ⟨-, -, -, idle⟩ := quiet_iff.1 quiet
  exact eq_false_of_ne_true fun uploads =>
    absurd ((isUploading_iff.2 ⟨slot, d, hd, uploads⟩).symm.trans idle) (by simp)

/-- What failed to upload and is not marked for removal is found. -/
theorem hasFailed_of_sound (sound : e.failedUpload? = none) (hd : e.draftFiles.get? slot = some d)
    (kept : d.deleted = false) : d.hasFailed = false := by
  obtain ⟨place, there, same⟩ := Files.mem_slots_of_get? (f := e.files) hd
  have found := List.find?_eq_none.1 sound place there
  rw [← Files.get?_congr _ same, hd] at found
  simpa [kept] using found

/-- The text that a save writes under a name: the one that comes with it, or else what the edit
buffer has, and without an editor the committed one. -/
def textAtSave (e : Entry) (changes : Fields) (key : String) : String :=
  match changes.get? key with
  | some field => field.text
  | none => (if e.editors = 0 then e.fields else e.draftFields).text key

/-- The ids of all files of a role in the edit buffer that are not marked for removal, or without an
editor those of the committed files. -/
def idsAtSave (e : Entry) (role : Role) : List UInt64 :=
  if e.editors = 0 then (e.files.ofRole role).map (·.id)
  else ((e.draftFiles.ofRole role).filter fun d => !d.deleted).map (·.file.id)

theorem text_overlay_atSave (e : Entry) (changes : Fields) (key : String) :
    (e.atSave.draftFields.overlay changes).text key = e.textAtSave changes key := by
  unfold textAtSave
  cases mentioned : changes.get? key with
  | some field => exact Fields.text_overlay_of_mentioned mentioned
  | none =>
      rw [Fields.text_overlay_of_unmentioned mentioned, atSave]
      split <;> rfl

/-- Where nothing is under way and no upload has failed, a save leaves no file out. -/
theorem submittedIds_atSave (regular : e.Regular)
    (quiet : e.isBusy = false) (sound : e.atSave.failedUpload? = none) (role : Role) :
    submittedIds (e.atSave.draftFiles.ofRole role) = e.idsAtSave role := by
  unfold idsAtSave
  split
  · rename_i unedited
    rw [atSave_of_unedited unedited, submittedIds_snapshot]
  · rename_i editing
    rw [atSave_of_editing editing] at sound ⊢
    apply submittedIds_eq_map
    intro d hd kept
    obtain ⟨index, hd⟩ := Files.get?_of_mem_ofRole hd
    exact Draft.remoteId?_eq (fun u hu => (regular _ u ⟨d, hd, hu⟩).begun)
      (isUploading_of_quiet quiet hd) (hasFailed_of_sound sound hd kept)

end Entry

/-! ## The element of a save -/

namespace Session

variable {s t : Session} {kind : Kind} {changes : Fields}

/-- What is sent with a save, and what had to be so for that. -/
theorem Saving.of_setElement {token : Token} {element : SubmittedElement} {password : Secret}
    (h : s.Saving kind changes t) (drained : s.outbox = [])
    (sent : .request (.setElement token element password) ∈ t.outbox) :
    ∃ e, s.form.entry? kind = some e ∧ e.isBusy = false ∧ e.atSave.failedUpload? = none ∧
      (e.atSave.draftFields.overlay changes).badDates kind = [] ∧
      element = .ofDraft (e.atSave.draftFields.overlay changes) e.atSave.draftFiles kind := by
  cases h with
  | nothing => simp [drained] at sent
  | spared => simp [drained] at sent
  | unkeyed => simp [drained] at sent
  | blocked => simp [drained] at sent
  | misdated => simp [drained] at sent
  | @sent e draft _ he _ _ _ quiet sound hdraft dated =>
      subst hdraft
      have hk : e.atSave.kind = kind := e.kind_atSave.trans (kind_of_entry he)
      simp only [outbox_ask, outbox_put, drained, List.nil_append, List.mem_singleton,
        Effect.request.injEq, Request.setElement.injEq] at sent
      exact ⟨e, he, quiet, sound, dated, by rw [sent.2.1, Entry.submission, hk]⟩

end Session

namespace Run

variable {setup : Setup} {past : History} {s : Session} {kind : Kind}

/-- A save that sends an element carries the whole edit: the texts that came with it on top of those
that stood there, each without the white space around it; every date that is given; and every file
that is not marked for removal, in order. -/
theorem save_carries_edit {now : Nat} {changes : Fields} {token : Token}
    {element : SubmittedElement} {password : Secret} (run : Run setup past s)
    (sent : .request (.setElement token element password) ∈
      Turn.effects ⟨s, now, .save kind changes⟩) :
    ∃ e, s.form.entry? kind = some e ∧ element.kind = kind ∧
      (∀ p ∈ element.textsByField, p.2 = Text.trim (e.textAtSave changes p.1)) ∧
      (∀ p ∈ element.datesByField, p.2 = Date.parse (Text.trim (e.textAtSave changes p.1)) ∧
        (p.2 = none → Text.trim (e.textAtSave changes p.1) = "")) ∧
      ∀ role, kind.takes role = true → element.filesOf role = e.idsAtSave role := by
  obtain ⟨e, he, quiet, sound, dated, rfl⟩ :=
    (s.saving kind changes).of_setElement run.outbox_eq_nil sent
  have regular := run.regular e (Form.mem_of_entry he)
  refine ⟨e, he, SubmittedElement.kind_ofDraft, fun p hp => ?_, fun p hp => ?_,
    fun role takes => ?_⟩
  · rw [← e.text_overlay_atSave]
    exact SubmittedElement.textsByField_ofDraft p hp
  · rw [← e.text_overlay_atSave]
    exact SubmittedElement.datesByField_ofDraft dated hp
  · rw [SubmittedElement.filesOf_ofDraft, if_pos takes]
    exact e.submittedIds_atSave regular quiet sound role

/-- A rendition was removed in an editor and another one uploaded; a save then gives the number of the
passport. Its element has that number, no date, the front side as it was and the new rendition. -/
theorem save_carries_edit_after_upload :
    let actions := [(7, .file (.uploadDone 50 9)),
        (6, .upload (.identity .passport) .rendition 50 0 []),
        (5, .deleteScan (.identity .passport) ⟨.rendition, some 0⟩),
        (4, .startEdit (.identity .passport))] ++ opening passportForm [scannedPassport]
    let t : Turn := ⟨(play (.fresh .plain .empty) actions).2, 8,
      .save (.identity .passport) (.ofTexts [("document_no", " AB2 ")])⟩
    ∃ token element password, .request (.setElement token element password) ∈ t.effects ∧
      element.kind = .identity .passport ∧ (∀ p ∈ element.textsByField, p.2 = "AB2") ∧
      (∀ p ∈ element.datesByField, p.2 = none) ∧ element.filesOf .frontSide = [7] ∧
      element.filesOf .rendition = [9] := by
  intro actions t
  have playable : Playable (.fresh .plain .empty) actions := by decide +kernel
  let element : SubmittedElement := .identity .passport ⟨"AB2", none, some 7, none, none, [9]⟩
  have sent : .request (.setElement ⟨4, .task .save (.identity .passport)⟩ element ⟨"secret"⟩) ∈
      t.effects := by decide +kernel
  obtain ⟨e, he, kind, texts, dates, files⟩ := save_carries_edit (.of_playable playable) sent
  have held : ∀ e ∈ t.before.form.entry? (.identity .passport),
      Text.trim (e.textAtSave (.ofTexts [("document_no", " AB2 ")]) "document_no") = "AB2" ∧
      Date.parse (Text.trim (e.textAtSave (.ofTexts [("document_no", " AB2 ")]) "expiry_date")) =
        none ∧ e.idsAtSave .frontSide = [7] ∧ e.idsAtSave .rendition = [9] := by decide +kernel
  obtain ⟨number, expiry, front, renditions⟩ := held e he
  refine ⟨_, element, _, sent, kind, fun p hp => ?_, fun p hp => ?_, ?_, ?_⟩
  · have value := texts p hp
    obtain rfl := List.mem_singleton.1 hp
    exact value.trans number
  · have value := (dates p hp).1
    obtain rfl := List.mem_singleton.1 hp
    exact value.trans expiry
  · exact (files .frontSide rfl).trans front
  · exact (files .rendition rfl).trans renditions

end Run

end IdentityForm
