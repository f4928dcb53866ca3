import IdentityForm.Element

/-! # Entries

One requested entry: what the server has of it, the edit buffer, and the writes and verifications
under way.
-/

namespace IdentityForm

/-- How far a write of the entry has come. -/
inductive WriteState where
  | idle
  | pending (request : Nat)
  /-- Nothing was to be written; that is reported at the next tick. -/
  | unchanged
  deriving DecidableEq, Repr

/-- What is known of the length of a code. -/
inductive CodeLength where
  | exact (length : Nat)
  | unknown
  deriving DecidableEq, Repr

/-- The voice call that follows when a message did not arrive. -/
inductive VoiceCall where
  | waiting (due : Nat)
  | calling (request : Nat)
  | called
  deriving DecidableEq, Repr

/-- A code that the server need not be asked about. -/
def CodeLength.refuses (length : CodeLength) (code : String) : Bool :=
  match length with
  | .exact n => code.length ≠ n
  | .unknown => code = ""

structure Verification where
  request : Option Nat
  codeLength : Option CodeLength
  call : Option VoiceCall
  error : Option String
  deriving DecidableEq, Repr

def Verification.none : Verification := ⟨Option.none, Option.none, Option.none, Option.none⟩

/-- Whole seconds until the call, if there is a countdown. -/
def Verification.secondsLeft? (v : Verification) (now : Nat) : Option Nat :=
  match v.call with
  | some (.waiting due) => some ((due - now) / 1000)
  | _ => Option.none

/-- The request for a call that is being placed. -/
def Verification.callRequest? (v : Verification) : Option Nat :=
  match v.call with
  | some (.calling id) => some id
  | _ => Option.none

structure Entry where
  kind : Kind
  fields : Fields
  files : Files StoredFile
  draftFields : Fields
  draftFiles : Files Draft
  error : Option String
  scanError : Option String
  renditionError : Option String
  selfieRequired : Bool
  renditionRequired : Bool
  nativeNames : Bool
  /-- How many editors are open. The count has no bound here; a word of 32 bits holds it for any
  number of editors that a session can have open. -/
  editors : Nat
  verification : Verification
  write : WriteState
  /-- Whether the server has returned this element. -/
  present : Bool
  deriving DecidableEq

namespace Entry

def blank (kind : Kind) : Entry :=
  ⟨kind, .empty, .empty, .empty, .empty, none, none, none, false, false, false, 0, .none, .idle,
    false⟩

/-! ## Files -/

/-- The slots that hold a committed file or a draft. -/
def slots (e : Entry) : List Slot := e.files.slots e.draftFiles

/-- Whether a slot shows the file with an id, committed or in the edit buffer. -/
def shows (e : Entry) (id : UInt64) (s : Slot) : Bool :=
  (match e.files.get? s with
    | some file => file.id == id
    | none => false) ||
  (match e.draftFiles.get? s with
    | some d => d.upload.isNone && d.file.id == id
    | none => false)

/-- Drafts of a role that are not marked for removal. -/
def activeDrafts (e : Entry) (role : Role) : Nat :=
  (e.draftFiles.ofRole role).countP fun d => !d.deleted

def hasRoom (e : Entry) (role : Role) (limit : Option Nat) : Bool :=
  match limit with
  | some limit => e.activeDrafts role < limit
  | none => true

def requiresSpecial (e : Entry) : Role → Bool
  | .frontSide => e.kind.isIdentityDocument
  | .reverseSide =>
    match e.kind with
    | .identity .driverLicense | .identity .identityCard => true
    | _ => false
  | .selfie => e.selfieRequired
  | .scan | .rendition => false

/-- Whether a committed file of the role is required. -/
def requires (e : Entry) (role : Role) : Bool :=
  match role with
  | .scan => e.kind.isAddressDocument
  | .rendition => e.renditionRequired
  | _ => e.requiresSpecial role

def scansFilled (e : Entry) : Bool :=
  Role.all.all fun role => !e.requires role || !(e.files.ofRole role).isEmpty

/-! ## Completeness -/

def fieldsFilled (e : Entry) : Bool :=
  (e.kind.requiredFields e.nativeNames).all fun key => !Text.isBlank (e.fields.text key)

def hasErrors (e : Entry) : Bool :=
  e.error.isSome || e.scanError.isSome || e.renditionError.isSome || e.fields.hasErrors ||
    e.files.toList.any fun f => f.error.isSome

/-- Complete enough to be submitted. -/
def isReady (e : Entry) : Bool := e.present && e.fieldsFilled && e.scansFilled && !e.hasErrors

/-! ## What is under way -/

def isUploading (e : Entry) : Bool := e.draftFiles.toList.any Draft.isUploading

/-- The first draft that stays and whose upload failed. -/
def failedUpload? (e : Entry) : Option Slot :=
  e.slots.find? fun s =>
    match e.draftFiles.get? s with
    | some d => !d.deleted && d.hasFailed
    | none => false

/-- A write, a verification or an upload is under way. -/
def isBusy (e : Entry) : Bool :=
  e.write ≠ .idle || e.verification.request.isSome || e.verification.codeLength.isSome ||
    e.isUploading

/-- Whether saving these fields would change what is committed. -/
def isChangedBy (e : Entry) (candidate : Fields) : Bool :=
  e.draftFiles.toList.any Draft.isChange ||
    candidate.entries.any fun p => p.2.text ≠ e.fields.text p.1

/-! ## The edit buffer -/

/-- Fills the edit buffer with what is committed. -/
def snapshot (e : Entry) : Entry :=
  { e with draftFields := e.fields, draftFiles := e.files.map Draft.ofStored }

/-- Empties the edit buffer. -/
def clearDraft (e : Entry) : Entry := { e with draftFields := e.fields, draftFiles := .empty }

/-- Outside of any editing the buffer shows the committed fields. -/
def clearIfIdle (e : Entry) : Entry :=
  if e.editors = 0 ∧ ¬ e.isBusy then e.clearDraft else e

/-- Takes over what the server has. -/
def fill (e : Entry) (c : Contents) : Entry :=
  { e with
    fields := c.fields
    files := c.files
    error := none
    scanError := none
    renditionError := none
    present := true
    draftFields := if e.editors = 0 then c.fields else e.draftFields }

/-- The previews in an edit buffer by the ids of their files; of two the later counts. -/
def previews (e : Entry) : List (UInt64 × Preview) :=
  (e.draftFiles.toList.filterMap fun d => d.file.preview.map fun p => (d.file.id, p)).reverse

/-- Gives a file the preview known for its id. -/
def withPreview (known : List (UInt64 × Preview)) (f : StoredFile) : StoredFile :=
  match known.lookup f.id with
  | some p => { f with preview := some p, download := .done }
  | none => f

/-- Takes over the echo of a successful save and keeps the previews of the edit buffer. -/
def commit (e : Entry) (c : Contents) : Entry :=
  let filled := e.fill c
  let shown := { filled with files := filled.files.map (withPreview e.previews) }
  if shown.editors = 0 then shown.clearDraft else shown.snapshot

/-- Back to an entry the server does not have; what is required of it stays. -/
def reset (e : Entry) : Entry :=
  let fresh := { blank e.kind with
    selfieRequired := e.selfieRequired
    renditionRequired := e.renditionRequired
    nativeNames := e.nativeNames
    editors := e.editors }
  if 0 < fresh.editors then fresh.snapshot else fresh

/-! ## Errors reported by the server -/

/-- Puts an error on a file, or somewhere else if there is no such file. -/
def setFileError (e : Entry) (slot : Slot) (message : String) (otherwise : Entry) : Entry :=
  match e.files.get? slot with
  | some _ => { e with files := e.files.modify slot fun f => { f with error := some message } }
  | none => otherwise

/-- Puts an error where its source says. -/
def placeError (e : Entry) (message : String) : ErrorSource → Entry
  | .unspecified =>
    if e.kind.canHaveError then { e with error := some message }
    else { e with fields := e.fields.setError Kind.plainField message }
  | .dataField field => { e with fields := e.fields.setError field message }
  | .frontSide => e.setFileError ⟨.frontSide, none⟩ message { e with error := some message }
  | .reverseSide => e.setFileError ⟨.reverseSide, none⟩ message { e with error := some message }
  | .selfie => e.setFileError ⟨.selfie, none⟩ message { e with error := some message }
  | .file index =>
    e.setFileError ⟨.scan, some index.toNat⟩ message { e with scanError := some message }
  | .files => { e with scanError := some message }
  | .renditionFile index =>
    e.setFileError ⟨.rendition, some index.toNat⟩ message
      { e with renditionError := some message }
  | .renditionFiles => { e with renditionError := some message }

/-- Takes in an error of the server. Outside of any editing the buffer shows it too. -/
def applyError (e : Entry) (error : ElementError) : Entry :=
  let e := e.placeError error.message error.source
  if e.editors = 0 ∧ ¬ e.isBusy then { e with draftFields := e.fields } else e

/-- The element that saving the edit buffer would send. -/
def submission (e : Entry) : SubmittedElement :=
  SubmittedElement.ofDraft e.draftFields e.draftFiles e.kind

/-- The text that a verification is about. -/
def target (e : Entry) : String := Text.trim (e.draftFields.text Kind.plainField)

end Entry

end IdentityForm
