import IdentityForm.Session.Basic

/-! # Attached files

Uploads into the edit buffer, removals that the next save carries out, and downloads of committed
files for display.
-/

namespace IdentityForm.Session

/-- Adds a file to the edit buffer and starts its upload, or tells that there is no room. A file
that had the slot of a special role is kept until the new one is on the server. -/
def upload (s : Session) (kind : Kind) (role : Role) (key : UInt64) (date : Int64)
    (bytes : List UInt8) : Session × Option CallError :=
  match s.entry? kind with
  | none => (s, some (.notRequested kind))
  | some e =>
    let limit := s.setup.settings.limit? role
    if e.editors = 0 then (s, some (.notEditing kind))
    else if !e.hasRoom role limit then
      (s.notify (.toast (Phrase.limitReached (limit.getD 0))), none)
    else
      let slot := e.draftFiles.nextSlot role
      let old := e.draftFiles.get? slot
      let draft := { Draft.ofBytes key date bytes with
        upload := some { Upload.started key bytes with replaced := old.bind Draft.twin? } }
      let stopped := ((old.filter Draft.isUploading).bind (·.upload)).toList.map fun u =>
        Request.cancelUpload u.key
      let s := s.sendAll (.uploadFile key role bytes :: stopped)
      let s := s.put { e with draftFiles := e.draftFiles.add role draft }
      (s.notify (.scanUpdated ⟨kind, slot⟩), none)

/-- Marks a file for removal, or takes that back if there is room. -/
def setDeleted (s : Session) (kind : Kind) (slot : Slot) (deleted : Bool) :
    Session × Option CallError :=
  match s.entry? kind with
  | none => (s, some (.notRequested kind))
  | some e =>
    let limit := s.setup.settings.limit? slot.role
    match e.draftFiles.get? slot with
    | none => (s, some (.noFile kind slot))
    | some d =>
      if d.deleted = deleted then (s, none)
      else if !deleted && !e.hasRoom slot.role limit then
        (s.notify (.toast (Phrase.limitReached (limit.getD 0))), none)
      else
        let s := s.put { e with
          draftFiles := e.draftFiles.modify slot fun d => { d with deleted } }
        (s.notify (.scanUpdated ⟨kind, slot⟩), none)

/-! ## Downloads -/

/-- Adds an id to ids in order. -/
def insertId (id : UInt64) : List UInt64 → List UInt64
  | [] => [id]
  | other :: rest =>
    if id < other then id :: other :: rest
    else if id = other then other :: rest
    else other :: insertId id rest

/-- Starts a download, unless the file is on its way already. -/
def startDownload (s : Session) (id size : UInt64) : Session :=
  if id ∈ s.downloads then s
  else { s with downloads := insertId id s.downloads }.send (.downloadFile id id size)

/-- Fetches a committed file for display, unless it is there or on its way. -/
def loadFile (s : Session) (kind : Kind) (slot : Slot) : Session × Option CallError :=
  match s.entry? kind with
  | none => (s, some (.notRequested kind))
  | some e =>
    match e.files.get? slot with
    | none => (s, some (.noFile kind slot))
    | some f =>
      if f.preview.isSome || f.download.isRunning then (s, none)
      else
        let s := s.put { e with
          files := e.files.modify slot fun f => { f with download := .inProgress 0 } }
        (s.startDownload f.id f.size, none)

/-- Fetches every committed file of an entry. -/
def loadScans (s : Session) (kind : Kind) : Session :=
  match s.entry? kind with
  | none => s
  | some e =>
    (e.slots.filter fun slot => (e.files.get? slot).isSome).foldl
      (fun s slot => (s.loadFile kind slot).1) s

/-! ## Events of transfers -/

/-- Changes the draft that is uploading under a key. Its editor may have been closed meanwhile. -/
def updateUpload (s : Session) (key : UInt64) (change : Draft → Draft) : Session :=
  match s.form.findUpload? key with
  | none => s
  | some place =>
    let s := s.modify place.kind fun e =>
      { e with draftFiles := e.draftFiles.modify place.slot change }
    (s.notify (.scanUpdated place)).clearIfIdle place.kind

/-- Changes a file in one place: what is committed there, and its twin in the edit buffer. -/
def updateFile (id : UInt64) (change : StoredFile → StoredFile) (slot : Slot) (e : Entry) : Entry :=
  { e with
    files := e.files.modify slot fun f => if f.id = id then change f else f
    draftFiles := e.draftFiles.modify slot fun d =>
      if d.upload.isNone ∧ d.file.id = id then { d with file := change d.file } else d }

/-- Changes a downloaded file in every place that shows it. -/
def updateDownload (s : Session) (id : UInt64) (change : StoredFile → StoredFile) : Session :=
  (s.form.findFile id).foldl
    (fun s place =>
      (s.modify place.kind (updateFile id change place.slot)).notify (.scanUpdated place)) s

/-- A downloaded file is shown if its bytes are an image. -/
def withDownload (preview : Option Preview) (f : StoredFile) : StoredFile :=
  match preview with
  | some p => { f with preview := some p, download := .done }
  | none => { f with download := .failed }

def endDownload (s : Session) (id : UInt64) : Session :=
  { s with downloads := s.downloads.filter (· ≠ id) }

def handleFileEvent (s : Session) (event : FileEvent) : Session :=
  if s.cancelled then s
  else
    match event with
    | .uploadProgress key offset => s.updateUpload key fun d => d.progress offset
    | .uploadDone key fileId => s.updateUpload key fun d => d.finish fileId
    | .uploadFailed key => s.updateUpload key Draft.fail
    | .downloadProgress key offset =>
      s.updateDownload key fun f => { f with download := .inProgress offset }
    | .downloadDone key bytes =>
      let preview := Preview.decode? bytes
      (s.endDownload key).updateDownload key (withDownload preview)
    | .downloadFailed key =>
      (s.endDownload key).updateDownload key fun f => { f with download := .failed }

end IdentityForm.Session
