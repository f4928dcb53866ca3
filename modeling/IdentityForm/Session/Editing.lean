import IdentityForm.Session.Attachments

/-! # Editing

Editors are opened and closed, and what they hold is saved or the entry deleted. While a write of an
entry is under way, another one of it does nothing.
-/

namespace IdentityForm.Session

/-- Opens one more editor. The first one fills the edit buffer and fetches the files. -/
def startEdit (s : Session) (kind : Kind) : Session × Option CallError :=
  match s.entry? kind with
  | none => (s, some (.notRequested kind))
  | some e =>
    let e := { e with editors := e.editors + 1 }
    if e.editors = 1 ∧ ¬ e.isBusy then ((s.put e.snapshot).loadScans kind, none)
    else (s.put e, none)

/-- Closes an editor. What is under way goes on. -/
def stopEdit (s : Session) (kind : Kind) : Session × Option CallError :=
  match s.entry? kind with
  | none => (s, some (.notRequested kind))
  | some e =>
    if e.editors = 0 then (s, some (.notEditing kind))
    else ((s.put { e with editors := e.editors - 1 }).clearIfIdle kind, none)

/-- Sends the edit buffer of an entry. -/
def sendSave (s : Session) (kind : Kind) : Session × Option CallError :=
  match s.password with
  | none => (s, some .locked)
  | some password =>
    match s.entry? kind with
    | none => (s, some (.notRequested kind))
    | some e =>
      ((s.put { e with write := .pending s.nextId }).ask (.task .save kind) fun t =>
        .setElement t e.submission ⟨password⟩, none)

/-- Saves changes on top of the edit buffer. -/
def save (s : Session) (kind : Kind) (changes : Fields) : Session × Option CallError :=
  if !s.secretReady then (s, some .locked)
  else if s.awaited.submit.isSome then (s, none)
  else
    match s.entry? kind with
    | none => (s, some (.notRequested kind))
    | some e =>
      if e.isBusy then (s, none)
      else
        let e := if e.editors = 0 then e.snapshot else e
        match e.failedUpload? with
        | some slot =>
          let e := { e with
            draftFiles := e.draftFiles.modify slot fun d =>
              { d with file := { d.file with error := some Phrase.uploadFailed } } }
          ((s.put e).notifyAll [.scanUpdated ⟨kind, slot⟩, .errorBox Phrase.uploadFailed], none)
        | none =>
          if !e.isChangedBy changes then
            let e := { e with write := .unchanged }.clearDraft
            let e := if 0 < e.editors then e.snapshot else e
            ({ s.put e with unreported := s.unreported ++ [kind] }, none)
          else
            let fields := e.draftFields.overlay changes
            let bad := fields.badDates kind
            if bad = [] then (s.put { e with draftFields := fields }).sendSave kind
            else
              let fields := bad.foldl (fun m key => m.setError key Phrase.badDate) fields
              ((s.put { e with draftFields := fields }).notifyAll (bad.map (.fieldError kind ·)),
                none)

/-- Reports a save that had nothing to write. -/
def finishUnchanged (s : Session) (kind : Kind) : Session :=
  match s.entry? kind with
  | none => s
  | some e =>
    if e.write = .unchanged then
      ((s.put { e with write := .idle }).clearIfIdle kind).notify (.saveFinished kind)
    else s

/-- The edit has come to nothing. -/
def editFailed (s : Session) (kind : Kind) : Session :=
  (s.clearIfIdle kind).notify (.editFailed kind)

/-- Deletes the entry on the server. -/
def delete (s : Session) (kind : Kind) : Session × Option CallError :=
  if !s.secretReady then (s, some .locked)
  else if s.awaited.submit.isSome then (s, none)
  else
    match s.entry? kind with
    | none => (s, some (.notRequested kind))
    | some e =>
      if e.isBusy then (s, none)
      else
        ((s.put { e with write := .pending s.nextId }).ask (.task .delete kind) fun t =>
          .deleteElement t kind, none)

def deleteDone (s : Session) (kind : Kind) : Outcome → Session
  | .ok _ => (s.modify kind Entry.reset).notify (.saveFinished kind)
  | .failed error =>
    ((s.modify kind fun e => { e with write := .idle }).notify (.errorBox error.code)).editFailed
      kind

/-- Proposes to start over, unless that is being proposed already. -/
def suggestRestart (s : Session) : Session :=
  if s.suggestingRestart then s else { s with suggestingRestart := true }.notify .suggestRestart

def dismissRestart (s : Session) : Session := { s with suggestingRestart := false }

end IdentityForm.Session
