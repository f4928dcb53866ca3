import IdentityForm.Element
import IdentityForm.Json.Reader

/-! # Elements in JSON

Kinds, roles, dates and elements as they travel to the server and back.
-/

namespace IdentityForm

open Json (Reader)

/-! ## Kinds, roles and dates -/

def Kind.toJson (k : Kind) : Json := .text k.name

def Kind.read : Reader Kind := Json.readVariant (Kind.all.map fun k => (k.name, k))

def Role.toJson (r : Role) : Json := .text r.name

def Role.read : Reader Role := Json.readVariant (Role.all.map fun r => (r.name, r))

def Date.toJson (d : Date) : Json :=
  .record [("day", .nat d.day.toNat), ("month", .nat d.month.toNat), ("year", .int d.year.toInt)]

def Date.read : Reader Date := fun c j => do
  let r ← Json.readRecord ["day", "month", "year"] c j
  let day ← r.required "day" Json.readUInt32
  let month ← r.required "month" Json.readUInt32
  let year ← r.required "year" Json.readInt32
  return { day, month, year }

/-! ## Files -/

def fileIdToJson (id : UInt64) : Json := .nat id.toNat

def RemoteFile.toJson (f : RemoteFile) : Json :=
  .record [("id", fileIdToJson f.id), ("size", .nat f.size.toNat),
    ("access_hash", .nat f.accessHash.toNat)]

def RemoteFile.read : Reader RemoteFile := fun c j => do
  let r ← Json.readRecord ["id", "size", "access_hash"] c j
  let id ← r.required "id" Json.readUInt64
  let size ← r.required "size" Json.readUInt64
  let accessHash ← r.defaulted "access_hash" Json.readUInt64 0
  return { id, size, accessHash }

def DatedFile.toJson (f : DatedFile) : Json :=
  .record [("file", f.file.toJson), ("date", .int f.date.toInt)]

def DatedFile.read : Reader DatedFile := fun c j => do
  let r ← Json.readRecord ["file", "date"] c j
  let file ← r.required "file" RemoteFile.read
  let date ← r.required "date" Json.readInt64
  return { file, date }

/-! ## Details and documents -/

def PersonalDetails.toJson (d : PersonalDetails) : Json :=
  .record [("first_name", .text d.firstName), ("middle_name", .text d.middleName),
    ("last_name", .text d.lastName), ("native_first_name", .text d.nativeFirstName),
    ("native_middle_name", .text d.nativeMiddleName),
    ("native_last_name", .text d.nativeLastName),
    ("birthdate", .ofOption Date.toJson d.birthDate), ("gender", .text d.gender),
    ("country_code", .text d.country), ("residence_country_code", .text d.residenceCountry)]

def PersonalDetails.read : Reader PersonalDetails := fun c j => do
  let r ← Json.readRecord ["first_name", "middle_name", "last_name", "native_first_name",
    "native_middle_name", "native_last_name", "birthdate", "gender", "country_code",
    "residence_country_code"] c j
  let firstName ← r.required "first_name" Json.readString
  let middleName ← r.defaulted "middle_name" Json.readString ""
  let lastName ← r.required "last_name" Json.readString
  let nativeFirstName ← r.defaulted "native_first_name" Json.readString ""
  let nativeMiddleName ← r.defaulted "native_middle_name" Json.readString ""
  let nativeLastName ← r.defaulted "native_last_name" Json.readString ""
  let birthDate ← r.nullable "birthdate" Date.read
  let gender ← r.required "gender" Json.readString
  let country ← r.required "country_code" Json.readString
  let residenceCountry ← r.required "residence_country_code" Json.readString
  return {
    firstName, middleName, lastName, nativeFirstName, nativeMiddleName, nativeLastName, birthDate,
    gender, country, residenceCountry }

def Address.toJson (a : Address) : Json :=
  .record [("street_line1", .text a.streetLine1), ("street_line2", .text a.streetLine2),
    ("city", .text a.city), ("state", .text a.state), ("country_code", .text a.country),
    ("postal_code", .text a.postCode)]

def Address.read : Reader Address := fun c j => do
  let r ← Json.readRecord
    ["street_line1", "street_line2", "city", "state", "country_code", "postal_code"] c j
  let streetLine1 ← r.required "street_line1" Json.readString
  let streetLine2 ← r.defaulted "street_line2" Json.readString ""
  let city ← r.required "city" Json.readString
  let state ← r.defaulted "state" Json.readString ""
  let country ← r.required "country_code" Json.readString
  let postCode ← r.required "postal_code" Json.readString
  return { streetLine1, streetLine2, city, state, country, postCode }

def identityMembers : List String :=
  ["number", "expiry_date", "front_side", "reverse_side", "selfie", "translation"]

def IdentityDocument.toJson {F : Type} (file : F → Json) (d : IdentityDocument F) : Json :=
  .record [("number", .text d.number), ("expiry_date", .ofOption Date.toJson d.expiryDate),
    ("front_side", .ofOption file d.frontSide), ("reverse_side", .ofOption file d.reverseSide),
    ("selfie", .ofOption file d.selfie), ("translation", .ofList file d.renditions)]

/-- In a stored document everything but the number may be missing. -/
def IdentityDocument.readStored : Reader (IdentityDocument DatedFile) := fun c j => do
  let r ← Json.readRecord identityMembers c j
  let number ← r.required "number" Json.readString
  let expiryDate ← r.defaulted "expiry_date" (Json.readOption Date.read) none
  let frontSide ← r.defaulted "front_side" (Json.readOption DatedFile.read) none
  let reverseSide ← r.defaulted "reverse_side" (Json.readOption DatedFile.read) none
  let selfie ← r.defaulted "selfie" (Json.readOption DatedFile.read) none
  let renditions ← r.defaulted "translation" (Json.readList DatedFile.read) []
  return { number, expiryDate, frontSide, reverseSide, selfie, renditions }

def IdentityDocument.readSubmitted : Reader (IdentityDocument UInt64) := fun c j => do
  let r ← Json.readRecord identityMembers c j
  let number ← r.required "number" Json.readString
  let expiryDate ← r.nullable "expiry_date" Date.read
  let frontSide ← r.nullable "front_side" Json.readUInt64
  let reverseSide ← r.nullable "reverse_side" Json.readUInt64
  let selfie ← r.nullable "selfie" Json.readUInt64
  let renditions ← r.required "translation" (Json.readList Json.readUInt64)
  return { number, expiryDate, frontSide, reverseSide, selfie, renditions }

def ResidenceDocument.toJson {F : Type} (file : F → Json) (d : ResidenceDocument F) : Json :=
  .record [("files", .ofList file d.files), ("translation", .ofList file d.renditions)]

def ResidenceDocument.readStored : Reader (ResidenceDocument DatedFile) := fun c j => do
  let r ← Json.readRecord ["files", "translation"] c j
  let files ← r.defaulted "files" (Json.readList DatedFile.read) []
  let renditions ← r.defaulted "translation" (Json.readList DatedFile.read) []
  return { files, renditions }

def ResidenceDocument.readSubmitted : Reader (ResidenceDocument UInt64) := fun c j => do
  let r ← Json.readRecord ["files", "translation"] c j
  let files ← r.required "files" (Json.readList Json.readUInt64)
  let renditions ← r.required "translation" (Json.readList Json.readUInt64)
  return { files, renditions }

/-! ## Elements -/

def Element.contentJson {F : Type} (file : F → Json) : Element F → Json
  | .personalDetails d => d.toJson
  | .identity _ d => d.toJson file
  | .address a => a.toJson
  | .residence _ d => d.toJson file
  | .phone s => .text s
  | .email s => .text s

/-- An element is its kind beside its content. -/
def Element.members {F : Type} (file : F → Json) (e : Element F) : List (String × Json) :=
  [("type", e.kind.toJson), ("value", e.contentJson file)]

/-- How the content of each kind is read. -/
def Element.content {F : Type} (identity : Reader (IdentityDocument F))
    (residence : Reader (ResidenceDocument F)) : Kind → Json.Beside (Element F)
  | .personalDetails => .content .personalDetails PersonalDetails.read
  | .identity paper => .content (.identity paper) identity
  | .address => .content .address Address.read
  | .residence paper => .content (.residence paper) residence
  | .phone => .content .phone Json.readString
  | .email => .content .email Json.readString

def StoredElement.members (e : StoredElement) : List (String × Json) :=
  Element.members DatedFile.toJson e

def StoredElement.toJson (e : StoredElement) : Json := .record (StoredElement.members e)

def StoredElement.read : Reader StoredElement :=
  Json.readAdjacentTagged "type" "value" <| Kind.all.map fun k =>
    (k.name, Element.content IdentityDocument.readStored ResidenceDocument.readStored k)

def SubmittedElement.toJson (e : SubmittedElement) : Json :=
  .record (Element.members fileIdToJson e)

def SubmittedElement.read : Reader SubmittedElement :=
  Json.readAdjacentTagged "type" "value" <| Kind.all.map fun k =>
    (k.name, Element.content IdentityDocument.readSubmitted ResidenceDocument.readSubmitted k)

/-! ## Errors in elements -/

def ErrorSource.toJson : ErrorSource → Json
  | .unspecified => .record [("type", .text "unspecified")]
  | .dataField field => .record [("type", .text "data_field"), ("field", .text field)]
  | .frontSide => .record [("type", .text "front_side")]
  | .reverseSide => .record [("type", .text "reverse_side")]
  | .selfie => .record [("type", .text "selfie")]
  | .file index => .record [("type", .text "file"), ("index", .nat index.toNat)]
  | .files => .record [("type", .text "files")]
  | .renditionFile index =>
    .record [("type", .text "translation_file"), ("index", .nat index.toNat)]
  | .renditionFiles => .record [("type", .text "translation_files")]

def ErrorSource.read : Reader ErrorSource :=
  Json.readInnerTagged "type"
    [("unspecified", Json.readEmpty .unspecified),
      ("data_field", Json.readSingle "field" Json.readString .dataField),
      ("front_side", Json.readEmpty .frontSide),
      ("reverse_side", Json.readEmpty .reverseSide),
      ("selfie", Json.readEmpty .selfie),
      ("file", Json.readSingle "index" Json.readUInt64 .file),
      ("files", Json.readEmpty .files),
      ("translation_file", Json.readSingle "index" Json.readUInt64 .renditionFile),
      ("translation_files", Json.readEmpty .renditionFiles)]

def ElementError.toJson (e : ElementError) : Json :=
  .record [("value_type", e.kind.toJson), ("message", .text e.message),
    ("source", e.source.toJson)]

def ElementError.read : Reader ElementError := fun c j => do
  let r ← Json.readRecord ["value_type", "message", "source"] c j
  let kind ← r.required "value_type" Kind.read
  let message ← r.required "message" Json.readString
  let source ← r.required "source" ErrorSource.read
  return { kind, message, source }

end IdentityForm
