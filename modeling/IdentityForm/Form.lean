import IdentityForm.Backend.Response
import IdentityForm.Entry
import IdentityForm.Notice

/-! # Forms

A requested form: its rows of alternatives, and one entry for each kind that a row mentions, in the
order of the kinds.
-/

namespace IdentityForm

structure Form where
  id : Int64
  rows : List (List Kind)
  policyUrl : Option String
  entries : List Entry
  deriving DecidableEq

/-- An entry that has to include what one more mention of its kind asks for. -/
def Entry.join (e : Entry) (r : RequiredKind) : Entry :=
  { e with
    selfieRequired := e.selfieRequired || r.selfie
    renditionRequired := e.renditionRequired || r.rendition
    nativeNames := e.nativeNames || r.nativeNames }

namespace Form

def empty : Form := ⟨0, [], none, []⟩

def entry? (f : Form) (kind : Kind) : Option Entry := f.entries.find? fun e => e.kind = kind

/-- Changes the entry of one kind. -/
def modify (f : Form) (kind : Kind) (change : Entry → Entry) : Form :=
  { f with entries := f.entries.map fun e => if e.kind = kind then change e else e }

/-! ## The form as requested -/

/-- A kind that is mentioned is required to have what any of its mentions asks for. The first of
them makes the entry, in its place in the order of the kinds. -/
def mention (r : RequiredKind) : List Entry → List Entry
  | [] => [(Entry.blank r.kind).join r]
  | e :: rest =>
    if e.kind = r.kind then e.join r :: rest
    else if Kind.all.idxOf r.kind < Kind.all.idxOf e.kind then
      (Entry.blank r.kind).join r :: e :: rest
    else e :: mention r rest

/-- One alternative of a row: its entry, and its kind at the end of the row if it is new there. -/
def takeMention (taken : List Entry × List Kind) (r : RequiredKind) : List Entry × List Kind :=
  (mention r taken.1, if r.kind ∈ taken.2 then taken.2 else taken.2 ++ [r.kind])

/-- One row. Rows without alternatives are left out. -/
def takeRow (taken : List Entry × List (List Kind)) (row : List RequiredKind) :
    List Entry × List (List Kind) :=
  let (entries, kinds) := row.foldl takeMention (taken.1, [])
  (entries, if kinds = [] then taken.2 else taken.2 ++ [kinds])

/-- The form that a request describes, row by row. -/
def ofAuthorization (a : AuthorizationForm) : Form :=
  let (entries, rows) := a.rows.foldl takeRow ([], [])
  { id := a.id, rows, policyUrl := a.policyUrl, entries }

/-! ## Looking for files -/

/-- Where a draft is uploading, or was uploaded, under a key. -/
def findUpload? (f : Form) (key : UInt64) : Option Place :=
  f.entries.findSome? fun e =>
    e.slots.findSome? fun s =>
      match (e.draftFiles.get? s).bind (·.upload) with
      | some u => if u.key = key then some ⟨e.kind, s⟩ else none
      | none => none

/-- Every place that shows the file with an id. -/
def findFile (f : Form) (id : UInt64) : List Place :=
  f.entries.flatMap fun e => (e.slots.filter (e.shows id)).map fun s => ⟨e.kind, s⟩

/-! ## Contents from the server -/

def fill (f : Form) (element : StoredElement) : Form :=
  f.modify element.kind fun e => e.fill element.contents

def applyError (f : Form) (error : ElementError) : Form :=
  f.modify error.kind fun e => e.applyError error

/-- Fills the form with what the server has, and then with the errors it has found. -/
def takeElements (f : Form) (elements : List StoredElement) (errors : List ElementError) : Form :=
  errors.foldl applyError (elements.foldl fill f)

end Form

end IdentityForm
