import IdentityForm.Proofs.Json.Reading
import IdentityForm.Wire.Element

/-! # Elements read back

Kinds, roles, dates, files, elements and errors in elements are read back from what is written for
them.
-/

namespace IdentityForm

open Json (Reads)

/-! ## Kinds, roles and dates -/

/-- No two kinds have the same name. -/
theorem Kind.lookup_named {α : Type} (k : Kind) (f : Kind → α) :
    (Kind.all.map fun k => (k.name, f k)).lookup k.name = some (f k) := by
  rcases k with _ | p | _ | p | _ | _ <;> (try cases p) <;> rfl

theorem Kind.reads (k : Kind) : Reads Kind.read 0 k.toJson k :=
  Json.reads_variant (k.lookup_named id)

theorem Role.reads (r : Role) : Reads Role.read 0 r.toJson r :=
  Json.reads_variant (by cases r <;> rfl)

theorem Date.reads (d : Date) : Reads Date.read 1 d.toJson d :=
  .record (by simp) rfl (by simp) fun inner _ => by simp [List.lookup_cons]

theorem Date.reads_option (date : Option Date) :
    Reads (Json.readOption Date.read) 1 (.ofOption Date.toJson date) date :=
  .option fun d _ => ⟨d.reads, Json.record_ne_null _⟩

/-! ## Files -/

theorem reads_fileId {levels : Nat} (id : UInt64) :
    Reads Json.readUInt64 levels (fileIdToJson id) id := Json.reads_uint64 id

theorem reads_fileId_option (id : Option UInt64) :
    Reads (Json.readOption Json.readUInt64) 1 (.ofOption fileIdToJson id) id :=
  .option fun id _ => ⟨reads_fileId id, Json.nat_ne_null _⟩

theorem RemoteFile.reads (f : RemoteFile) : Reads RemoteFile.read 1 f.toJson f :=
  .record (by simp [fileIdToJson]) rfl (by simp) fun inner _ => by
    simp [List.lookup_cons, fileIdToJson]

theorem DatedFile.reads (f : DatedFile) : Reads DatedFile.read 2 f.toJson f :=
  .record (by simp [f.file.reads.written]) rfl (by simp) fun inner enough => by
    simp [List.lookup_cons, f.file.reads.read_eq inner enough]

theorem DatedFile.reads_option (f : Option DatedFile) :
    Reads (Json.readOption DatedFile.read) 3 (.ofOption DatedFile.toJson f) f :=
  .option fun f _ => ⟨f.reads.mono (by omega), Json.record_ne_null _⟩

/-! ## Details and documents -/

theorem PersonalDetails.reads (d : PersonalDetails) : Reads PersonalDetails.read 2 d.toJson d :=
  .record (by simp [(Date.reads_option d.birthDate).written]) rfl (by simp) fun inner enough => by
    simp [List.lookup_cons, (Date.reads_option d.birthDate).read_eq inner enough]

theorem Address.reads (a : Address) : Reads Address.read 1 a.toJson a :=
  .record (by simp) rfl (by simp) fun inner _ => by simp [List.lookup_cons]

theorem IdentityDocument.reads_stored (d : IdentityDocument DatedFile) :
    Reads IdentityDocument.readStored 4 (d.toJson DatedFile.toJson) d := by
  have date := (Date.reads_option d.expiryDate).mono (show 1 ≤ 3 by omega)
  have front := DatedFile.reads_option d.frontSide
  have reverse := DatedFile.reads_option d.reverseSide
  have selfie := DatedFile.reads_option d.selfie
  have renditions : Reads (Json.readList DatedFile.read) 3 _ d.renditions :=
    .list fun f _ => f.reads
  refine .record ?_ rfl (by simp [identityMembers]) fun inner enough => ?_
  · simp [date.written, front.written, reverse.written, selfie.written, renditions.written]
  · simp [List.lookup_cons, date.read_eq inner enough, front.read_eq inner enough,
      reverse.read_eq inner enough, selfie.read_eq inner enough, renditions.read_eq inner enough]

theorem IdentityDocument.reads_submitted (d : IdentityDocument UInt64) :
    Reads IdentityDocument.readSubmitted 2 (d.toJson fileIdToJson) d := by
  have date := Date.reads_option d.expiryDate
  have front := reads_fileId_option d.frontSide
  have reverse := reads_fileId_option d.reverseSide
  have selfie := reads_fileId_option d.selfie
  have renditions : Reads (Json.readList Json.readUInt64) 1 _ d.renditions :=
    .list fun id _ => reads_fileId id
  refine .record ?_ rfl (by simp [identityMembers]) fun inner enough => ?_
  · simp [date.written, front.written, reverse.written, selfie.written, renditions.written]
  · simp [List.lookup_cons, date.read_eq inner enough, front.read_eq inner enough,
      reverse.read_eq inner enough, selfie.read_eq inner enough, renditions.read_eq inner enough]

theorem ResidenceDocument.reads_stored (d : ResidenceDocument DatedFile) :
    Reads ResidenceDocument.readStored 4 (d.toJson DatedFile.toJson) d := by
  have files : Reads (Json.readList DatedFile.read) 3 _ d.files := .list fun f _ => f.reads
  have renditions : Reads (Json.readList DatedFile.read) 3 _ d.renditions := .list fun f _ => f.reads
  refine .record ?_ rfl (by simp) fun inner enough => ?_
  · simp [files.written, renditions.written]
  · simp [List.lookup_cons, files.read_eq inner enough, renditions.read_eq inner enough]

theorem ResidenceDocument.reads_submitted (d : ResidenceDocument UInt64) :
    Reads ResidenceDocument.readSubmitted 2 (d.toJson fileIdToJson) d := by
  have files : Reads (Json.readList Json.readUInt64) 1 _ d.files := .list fun id _ => reads_fileId id
  have renditions : Reads (Json.readList Json.readUInt64) 1 _ d.renditions :=
    .list fun id _ => reads_fileId id
  refine .record ?_ rfl (by simp) fun inner enough => ?_
  · simp [files.written, renditions.written]
  · simp [List.lookup_cons, files.read_eq inner enough, renditions.read_eq inner enough]

/-! ## Elements -/

/-- An element is read back if its documents are. -/
theorem Element.reads {F : Type} {file : F → Json} {levels : Nat}
    {identity : Json.Reader (IdentityDocument F)} {residence : Json.Reader (ResidenceDocument F)}
    (enough : 2 ≤ levels) (identities : ∀ d, Reads identity levels (d.toJson file) d)
    (residences : ∀ d, Reads residence levels (d.toJson file) d) (e : Element F) :
    Reads (Json.readAdjacentTagged "type" "value"
        (Kind.all.map fun k => (k.name, Element.content identity residence k)))
      (levels + 1) (.record (e.members file)) e := by
  have content : Reads (Element.content identity residence e.kind).read levels
      (e.contentJson file) e := by
    cases e with
    | personalDetails d => exact (d.reads.mono enough).as _
    | identity paper d => exact (identities d).as _
    | address a => exact (a.reads.mono (by omega)).as _
    | residence paper d => exact (residences d).as _
    | phone s => exact (Json.reads_text s).as _
    | email s => exact (Json.reads_text s).as _
  exact content.adjacentTagged (e.kind.lookup_named _)

theorem StoredElement.reads (e : StoredElement) :
    Reads StoredElement.read 5 (StoredElement.toJson e) e :=
  Element.reads (by omega) IdentityDocument.reads_stored ResidenceDocument.reads_stored e

theorem SubmittedElement.reads (e : SubmittedElement) :
    Reads SubmittedElement.read 3 (SubmittedElement.toJson e) e :=
  Element.reads (by omega) IdentityDocument.reads_submitted ResidenceDocument.reads_submitted e

/-! ## Errors in elements -/

theorem ErrorSource.reads (source : ErrorSource) :
    Reads ErrorSource.read 1 source.toJson source := by
  cases source with
  | dataField field =>
      exact ((Json.reads_text field).single "field" ErrorSource.dataField).innerTagged rfl (by simp)
  | file index =>
      exact ((Json.reads_uint64 index).single "index" ErrorSource.file).innerTagged rfl (by simp)
  | renditionFile index =>
      exact ((Json.reads_uint64 index).single "index" ErrorSource.renditionFile).innerTagged rfl
        (by simp)
  | _ => exact (Json.reads_empty _).innerTagged rfl (by simp)

theorem ElementError.reads (e : ElementError) : Reads ElementError.read 2 e.toJson e := by
  have kind := e.kind.reads.mono (show 0 ≤ 1 by omega)
  have source := e.source.reads
  refine .record ?_ rfl (by simp) fun inner enough => ?_
  · simp [kind.written, source.written]
  · simp [List.lookup_cons, kind.read_eq inner (by omega), source.read_eq inner enough]

end IdentityForm
