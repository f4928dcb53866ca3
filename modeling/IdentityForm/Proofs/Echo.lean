import IdentityForm.Proofs.Date
import IdentityForm.Proofs.Reading

/-! # Elements that pass through an editor

What the server stores fills an entry, an editor shows that, and the element that would be saved from
there is the one that was stored, with its files named by their ids. Nothing of it is seen as a change.
-/

namespace IdentityForm

/-! ## Texts and dates of an element -/

namespace Element

variable {F G : Type}

def texts : Element F → List String
  | .personalDetails d =>
    [d.firstName, d.middleName, d.lastName, d.nativeFirstName, d.nativeMiddleName, d.nativeLastName,
      d.gender, d.country, d.residenceCountry]
  | .identity _ d => [d.number]
  | .address a => [a.streetLine1, a.streetLine2, a.city, a.state, a.country, a.postCode]
  | .residence _ _ => []
  | .phone text => [text]
  | .email text => [text]

def dates : Element F → List Date
  | .personalDetails d => d.birthDate.toList
  | .identity _ d => d.expiryDate.toList
  | _ => []

def map (name : F → G) : Element F → Element G
  | .personalDetails d => .personalDetails d
  | .identity paper d => .identity paper
    { number := d.number
      expiryDate := d.expiryDate
      frontSide := d.frontSide.map name
      reverseSide := d.reverseSide.map name
      selfie := d.selfie.map name
      renditions := d.renditions.map name }
  | .address a => .address a
  | .residence paper d => .residence paper
    { files := d.files.map name, renditions := d.renditions.map name }
  | .phone text => .phone text
  | .email text => .email text

/-- Texts without white space around them, and dates whose texts can be read. -/
structure Tidy (x : Element F) : Prop where
  texts : ∀ text ∈ x.texts, Text.Trimmed text.toList
  dates : ∀ date ∈ x.dates, date.IsPlain

end Element

/-! ## Fields -/

namespace Fields

variable {texts : List (String × String)} {m : Fields} {key : String}

theorem text_ofTexts (distinct : (texts.map Prod.fst).Nodup) (key : String) :
    (ofTexts texts).text key = (texts.lookup key).getD "" := by
  have names : ((texts.map fun p => (p.1, (⟨p.2, none⟩ : Field))).map Prod.fst).Nodup := by
    rwa [List.map_map]
  have found : (texts.map fun p => (p.1, (⟨p.2, none⟩ : Field))).lookup key =
      (texts.lookup key).map fun text => ⟨text, none⟩ := by
    clear distinct names
    induction texts with
    | nil => rfl
    | cons p texts ih =>
        rw [List.map_cons, Field.lookup_cons, List.lookup_cons, ih]
        by_cases here : key = p.1
        · rw [if_pos here, beq_iff_eq.2 here]
          rfl
        · rw [if_neg here, beq_false_of_ne here]
  rw [text, ofTexts, ofList, get?_foldl_set names, found, get?_empty, Option.or_none]
  cases texts.lookup key <;> rfl

theorem text_of_mem {p : String × Field} (h : p ∈ m.entries) : m.text p.1 = p.2.text := by
  have found : m.get? p.1 = some p.2 := get?_eq_some_iff.2 h
  rw [text, found]
  rfl

end Fields

/-! ## Files -/

theorem submittedIds_stored (files : List DatedFile) :
    submittedIds (files.map (Draft.ofStored ∘ DatedFile.stored)) = files.map (·.file.id) := by
  rw [← List.map_map, submittedIds_ofStored, List.map_map]
  rfl

theorem submittedId?_stored (file : Option DatedFile) :
    submittedId? (file.map (Draft.ofStored ∘ DatedFile.stored)) = file.map (·.file.id) := by
  cases file <;> rfl

theorem parse_dateText {date : Option Date} (plain : ∀ d ∈ date.toList, d.IsPlain) :
    Date.parse (dateText date) = date := by
  cases date with
  | none => decide +kernel
  | some d => exact Date.parse_format (plain d List.mem_cons_self)

/-! ## An editor -/

namespace StoredElement

variable {x : StoredElement}

/-- The contents of an element give the element. -/
theorem ofDraft_contents (tidy : x.Tidy) :
    SubmittedElement.ofDraft x.contents.fields (x.contents.files.map Draft.ofStored) x.kind =
      x.map (·.file.id) := by
  obtain ⟨texts, dates⟩ := tidy
  replace texts : ∀ text ∈ x.texts, Text.trim text = text := fun text ht => (texts text ht).trim_eq
  cases x with
  | personalDetails d =>
      have date : Date.parse (dateText d.birthDate) = d.birthDate := parse_dateText dates
      simp only [Element.texts, List.forall_mem_cons] at texts
      simp (disch := simp) [contents, SubmittedElement.ofDraft, Element.kind, Element.map,
        Fields.text_ofTexts, List.lookup_cons, texts, date]
  | identity paper d =>
      have date : Date.parse (dateText d.expiryDate) = d.expiryDate := parse_dateText dates
      simp only [Element.texts, List.forall_mem_cons] at texts
      simp (disch := simp) [contents, SubmittedElement.ofDraft, Element.kind, Element.map, Files.map,
        Fields.text_ofTexts, List.lookup_cons, texts, date, submittedId?_stored, submittedIds_stored]
  | address a =>
      simp only [Element.texts, List.forall_mem_cons] at texts
      simp (disch := simp) [contents, SubmittedElement.ofDraft, Element.kind, Element.map,
        Fields.text_ofTexts, List.lookup_cons, texts]
  | residence paper d =>
      simp [contents, SubmittedElement.ofDraft, Element.kind, Element.map, Files.map,
        submittedIds_stored]
  | phone text =>
      simp only [Element.texts, List.forall_mem_cons] at texts
      simp (disch := simp) [contents, SubmittedElement.ofDraft, Element.kind, Element.map,
        Fields.text_ofTexts, List.lookup_cons, texts]
  | email text =>
      simp only [Element.texts, List.forall_mem_cons] at texts
      simp (disch := simp) [contents, SubmittedElement.ofDraft, Element.kind, Element.map,
        Fields.text_ofTexts, List.lookup_cons, texts]

end StoredElement

namespace Entry

/-- A buffer that was just filled shows no change, whatever the contents are. -/
theorem isChangedBy_snapshot (e : Entry) : e.snapshot.isChangedBy e.snapshot.draftFields = false := by
  have files : e.snapshot.draftFiles.toList.any Draft.isChange = false := by
    simp [snapshot, Files.toList, Files.map, Draft.ofStored, Draft.isChange]
  have fields : (e.snapshot.draftFields.entries.any fun p =>
      p.2.text ≠ e.snapshot.fields.text p.1) = false := by
    refine List.any_eq_false.2 fun p hp => ?_
    have same : e.fields.text p.1 = p.2.text := Fields.text_of_mem hp
    simp [snapshot, same]
  rw [isChangedBy, files, fields]
  rfl

/-- An element that is shown in an editor and saved as it stands is the element that was stored: the
same texts and dates, and the ids of the same files in the same places. It is not even seen as changed.
-/
theorem submission_of_stored {x : StoredElement} {e : Entry} (same : e.kind = x.kind)
    (tidy : x.Tidy) : (e.fill x.contents).snapshot.submission = x.map (·.file.id) ∧
      (e.fill x.contents).snapshot.isChangedBy (e.fill x.contents).snapshot.draftFields = false := by
  refine ⟨?_, isChangedBy_snapshot _⟩
  rw [← StoredElement.ofDraft_contents tidy, ← same]
  rfl

/-- A card that ran out before the first year, with files in all but one of its places. -/
def oldCard : StoredElement :=
  .identity .identityCard
    { number := "AB 1"
      expiryDate := some ⟨29, 2, -44⟩
      frontSide := some ⟨⟨7, 10, 1⟩, 100⟩
      reverseSide := none
      selfie := some ⟨⟨8, 10, 1⟩, 101⟩
      renditions := [⟨⟨9, 10, 1⟩, 102⟩, ⟨⟨7, 10, 1⟩, 103⟩] }

theorem submission_of_stored_card :
    let e := ((blank (.identity .identityCard)).fill oldCard.contents).snapshot
    e.draftFields.text "expiry_date" = "29.02.-044" ∧
      e.submission = .identity .identityCard
        ⟨"AB 1", some ⟨29, 2, -44⟩, some 7, none, some 8, [9, 7]⟩ ∧
      e.isChangedBy e.draftFields = false := by
  have tidy : oldCard.Tidy := ⟨by decide +kernel, by decide +kernel⟩
  exact ⟨by decide +kernel, submission_of_stored rfl tidy⟩

end Entry

end IdentityForm
