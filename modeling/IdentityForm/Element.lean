import IdentityForm.Date
import IdentityForm.Fields
import IdentityForm.File
import IdentityForm.Files
import IdentityForm.Kind

/-! # Elements

An entry as the server stores it and as it is sent there. The two differ in how they name files: a
stored element carries them with their dates, a submitted one by their ids alone.
-/

namespace IdentityForm

/-- A file the server has. -/
structure RemoteFile where
  id : UInt64
  size : UInt64
  accessHash : UInt64
  deriving DecidableEq, Repr

structure DatedFile where
  file : RemoteFile
  date : Int64
  deriving DecidableEq, Repr

structure PersonalDetails where
  firstName : String
  middleName : String
  lastName : String
  nativeFirstName : String
  nativeMiddleName : String
  nativeLastName : String
  birthDate : Option Date
  gender : String
  country : String
  residenceCountry : String
  deriving DecidableEq, Repr

structure Address where
  streetLine1 : String
  streetLine2 : String
  city : String
  state : String
  country : String
  postCode : String
  deriving DecidableEq, Repr

/-- A document that proves identity, its files named by `F`. -/
structure IdentityDocument (F : Type) where
  number : String
  expiryDate : Option Date
  frontSide : Option F
  reverseSide : Option F
  selfie : Option F
  renditions : List F
  deriving DecidableEq, Repr

/-- A document that proves residence, its files named by `F`. -/
structure ResidenceDocument (F : Type) where
  files : List F
  renditions : List F
  deriving DecidableEq, Repr

inductive Element (F : Type) where
  | personalDetails (details : PersonalDetails)
  | identity (paper : IdentityPaper) (document : IdentityDocument F)
  | address (address : Address)
  | residence (paper : ResidencePaper) (document : ResidenceDocument F)
  | phone (text : String)
  | email (text : String)
  deriving DecidableEq, Repr

abbrev StoredElement := Element DatedFile

abbrev SubmittedElement := Element UInt64

def Element.kind {F : Type} : Element F → Kind
  | .personalDetails _ => .personalDetails
  | .identity paper _ => .identity paper
  | .address _ => .address
  | .residence paper _ => .residence paper
  | .phone _ => .phone
  | .email _ => .email

/-! ## Errors in elements -/

/-- What an error of the server is about. -/
inductive ErrorSource where
  | unspecified
  | dataField (field : String)
  | frontSide
  | reverseSide
  | selfie
  | file (index : UInt64)
  | files
  | renditionFile (index : UInt64)
  | renditionFiles
  deriving DecidableEq, Repr

structure ElementError where
  kind : Kind
  message : String
  source : ErrorSource
  deriving DecidableEq, Repr

/-! ## Contents -/

/-- The fields and files of an entry. -/
structure Contents where
  fields : Fields
  files : Files StoredFile
  deriving DecidableEq

def DatedFile.stored (f : DatedFile) : StoredFile :=
  ⟨f.file.id, f.file.size, f.file.accessHash, f.date, none, .notStarted, none⟩

def dateText (date : Option Date) : String := (date.map Date.format).getD ""

/-- The contents that a stored element stands for. -/
def StoredElement.contents : StoredElement → Contents
  | .personalDetails d =>
    ⟨Fields.ofTexts
      [("first_name", d.firstName), ("middle_name", d.middleName), ("last_name", d.lastName),
        ("first_name_native", d.nativeFirstName), ("middle_name_native", d.nativeMiddleName),
        ("last_name_native", d.nativeLastName), ("birth_date", dateText d.birthDate),
        ("gender", d.gender), ("country_code", d.country),
        ("residence_country_code", d.residenceCountry)], .empty⟩
  | .identity _ d =>
    ⟨Fields.ofTexts [("document_no", d.number), ("expiry_date", dateText d.expiryDate)],
      ⟨[], d.renditions.map DatedFile.stored, d.frontSide.map DatedFile.stored,
        d.reverseSide.map DatedFile.stored, d.selfie.map DatedFile.stored⟩⟩
  | .address a =>
    ⟨Fields.ofTexts
      [("street_line1", a.streetLine1), ("street_line2", a.streetLine2), ("city", a.city),
        ("state", a.state), ("country_code", a.country), ("post_code", a.postCode)], .empty⟩
  | .residence _ d =>
    ⟨.empty, ⟨d.files.map DatedFile.stored, d.renditions.map DatedFile.stored, none, none, none⟩⟩
  | .phone text => ⟨Fields.ofTexts [(Kind.plainField, text)], .empty⟩
  | .email text => ⟨Fields.ofTexts [(Kind.plainField, text)], .empty⟩

/-- The ids of the files that stay: not marked for removal, and on the server. -/
def submittedIds (drafts : List Draft) : List UInt64 :=
  (drafts.filter fun d => !d.deleted).filterMap Draft.remoteId?

def submittedId? (draft : Option Draft) : Option UInt64 :=
  (draft.filter fun d => !d.deleted).bind Draft.remoteId?

/-- The element to be sent for an edit buffer. Texts lose the white space around them. -/
def SubmittedElement.ofDraft (fields : Fields) (files : Files Draft) : Kind → SubmittedElement :=
  let text (key : String) : String := Text.trim (fields.text key)
  fun
    | .personalDetails =>
      .personalDetails
        { firstName := text "first_name"
          middleName := text "middle_name"
          lastName := text "last_name"
          nativeFirstName := text "first_name_native"
          nativeMiddleName := text "middle_name_native"
          nativeLastName := text "last_name_native"
          birthDate := Date.parse (fields.text "birth_date")
          gender := text "gender"
          country := text "country_code"
          residenceCountry := text "residence_country_code" }
    | .identity paper =>
      .identity paper
        { number := text "document_no"
          expiryDate := Date.parse (fields.text "expiry_date")
          frontSide := submittedId? files.frontSide
          reverseSide := submittedId? files.reverseSide
          selfie := submittedId? files.selfie
          renditions := submittedIds files.renditions }
    | .address =>
      .address
        { streetLine1 := text "street_line1"
          streetLine2 := text "street_line2"
          city := text "city"
          state := text "state"
          country := text "country_code"
          postCode := text "post_code" }
    | .residence paper =>
      .residence paper
        { files := submittedIds files.scans, renditions := submittedIds files.renditions }
    | .phone => .phone (text Kind.plainField)
    | .email => .email (text Kind.plainField)

/-- The fields of a kind that hold dates. -/
def Kind.dateFields : Kind → List String
  | .personalDetails => ["birth_date"]
  | .identity _ => ["expiry_date"]
  | _ => []

/-- The date fields with a text that is no date. -/
def Fields.badDates (fields : Fields) (kind : Kind) : List String :=
  kind.dateFields.filter fun key =>
    let text := Text.trim (fields.text key)
    text ≠ "" && (Date.parse text).isNone

end IdentityForm
