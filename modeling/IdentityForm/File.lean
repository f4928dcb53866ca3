import IdentityForm.Image.Preview

/-! # Files

A file as the server knows it, and a draft of a file in an edit buffer: either that file again,
perhaps marked for removal, or a new one on its way to the server.
-/

namespace IdentityForm

/-- How far the transfer of a file has come. -/
inductive Transfer where
  | notStarted
  | inProgress (offset : UInt64)
  | done
  | failed
  deriving DecidableEq, Repr

def Transfer.isRunning : Transfer → Bool
  | .inProgress _ => true
  | _ => false

structure StoredFile where
  id : UInt64
  size : UInt64
  accessHash : UInt64
  /-- When it was uploaded, in seconds since 1970. -/
  date : Int64
  preview : Option Preview
  download : Transfer
  error : Option String
  deriving DecidableEq, Repr

/-- A committed file in an edit buffer. -/
structure Twin where
  file : StoredFile
  deleted : Bool
  deriving DecidableEq, Repr

/-- A file on its way to the server, or there but not yet part of a saved entry. -/
structure Upload where
  key : UInt64
  /-- Held until the transfer ends. -/
  bytes : Option (List UInt8)
  transfer : Transfer
  /-- What stood in the slot before; it comes back if the transfer fails. -/
  replaced : Option Twin
  deriving DecidableEq

def Upload.started (key : UInt64) (bytes : List UInt8) : Upload :=
  ⟨key, some bytes, .inProgress 0, none⟩

/-- A file in an edit buffer: a committed one, or an upload. -/
structure Draft where
  file : StoredFile
  deleted : Bool
  upload : Option Upload
  deriving DecidableEq

namespace Draft

def ofTwin (t : Twin) : Draft := ⟨t.file, t.deleted, none⟩

def ofStored (file : StoredFile) : Draft := ⟨file, false, none⟩

/-- A new file that is added at a date. While it is uploading it goes by the key of the upload. -/
def ofBytes (key : UInt64) (date : Int64) (bytes : List UInt8) : Draft :=
  ⟨⟨key, UInt64.ofNat bytes.length, 0, date, Preview.decode? bytes, .done, none⟩, false,
    some (Upload.started key bytes)⟩

def isUploading (d : Draft) : Bool :=
  match d.upload with
  | some u => u.transfer.isRunning
  | none => false

def hasFailed (d : Draft) : Bool :=
  match d.upload with
  | some u => u.transfer = .failed
  | none => false

/-- Whether saving would make a difference: a new file is kept, or a committed one is not. -/
def isChange (d : Draft) : Bool :=
  match d.upload with
  | some _ => !d.deleted
  | none => d.deleted

/-- The id to save the file by, once the server has it. -/
def remoteId? (d : Draft) : Option UInt64 :=
  match d.upload with
  | none => some d.file.id
  | some u => if u.transfer = .done then some d.file.id else none

/-- The file committed to a slot before this one took it. -/
def twin? (d : Draft) : Option Twin :=
  match d.upload with
  | some u => u.replaced
  | none => some ⟨d.file, d.deleted⟩

/-- The server has the file under an id. -/
def finish (d : Draft) (id : UInt64) : Draft :=
  { d with
    file := { d.file with id }
    upload := d.upload.map fun u => { u with bytes := none, transfer := .done, replaced := none } }

/-- The transfer failed: the slot goes back to what it held, or shows the failure. -/
def fail (d : Draft) : Draft :=
  match d.upload with
  | none => d
  | some u =>
    match u.replaced with
    | some t => ofTwin t
    | none => { d with upload := some { u with bytes := none, transfer := .failed } }

def progress (d : Draft) (offset : UInt64) : Draft :=
  { d with upload := d.upload.map fun u => { u with transfer := .inProgress offset } }

end Draft

end IdentityForm
