import IdentityForm.Proofs.Move.Basic
import IdentityForm.Session.Editing

/-! # What an edit comes to

A new file is taken where there is room, a file is marked for removal or kept after all, and a save
writes what was edited or tells what is in its way. These operations are opened here once. What they
keep, send and tell is then a matter of their cases.
-/

namespace IdentityForm.Session

variable {s : Session} {kind : Kind} {e : Entry} {role : Role}

/-! ## A new file -/

theorem upload_of_full (he : s.entry? kind = some e) (editing : e.editors ≠ 0)
    (full : e.hasRoom role (s.setup.settings.limit? role) = false) (key : UInt64)
    (date : Int64) (bytes : List UInt8) :
    s.upload kind role key date bytes =
      (s.notify (.toast (Phrase.limitReached ((s.setup.settings.limit? role).getD 0))), none) := by
  unfold upload
  simp only [he, if_neg editing, full]
  rfl

theorem upload_of_room (he : s.entry? kind = some e) (editing : e.editors ≠ 0)
    (room : e.hasRoom role (s.setup.settings.limit? role) = true) (key : UInt64)
    (date : Int64) (bytes : List UInt8) :
    s.upload kind role key date bytes =
      (((s.sendAll (.uploadFile key role bytes :: e.displaced role)).put
        { e with draftFiles := e.draftFiles.add role (e.newDraft role key date bytes) }).notify
          (.scanUpdated ⟨kind, e.draftFiles.nextSlot role⟩), none) := by
  unfold upload
  simp only [he, if_neg editing, room]
  rfl

/-- What an upload comes to: nothing, a word that there is no room, or one more file that is sent. -/
inductive Uploading (s : Session) (kind : Kind) (role : Role) (key : UInt64) (date : Int64)
    (bytes : List UInt8) : Session → Prop
  | refused : Uploading s kind role key date bytes s
  | full : Uploading s kind role key date bytes
      (s.notify (.toast (Phrase.limitReached ((s.setup.settings.limit? role).getD 0))))
  | taken {e : Entry} : s.entry? kind = some e → e.editors ≠ 0 →
      e.hasRoom role (s.setup.settings.limit? role) = true →
      Uploading s kind role key date bytes
        (((s.sendAll (.uploadFile key role bytes :: e.displaced role)).put
          { e with draftFiles := e.draftFiles.add role (e.newDraft role key date bytes) }).notify
            (.scanUpdated ⟨kind, e.draftFiles.nextSlot role⟩))

theorem uploading (s : Session) (kind : Kind) (role : Role) (key : UInt64) (date : Int64)
    (bytes : List UInt8) :
    s.Uploading kind role key date bytes (s.upload kind role key date bytes).1 := by
  cases he : s.entry? kind with
  | none =>
      unfold upload
      rw [he]
      exact .refused
  | some e =>
      by_cases editing : e.editors = 0
      · unfold upload
        simp only [he, if_pos editing]
        exact .refused
      · cases room : e.hasRoom role (s.setup.settings.limit? role) with
        | false =>
            rw [upload_of_full he editing room]
            exact .full
        | true =>
            rw [upload_of_room he editing room]
            exact .taken he editing room

/-! ## A mark for removal -/

theorem setDeleted_of_full {slot : Slot} {d : Draft} (he : s.entry? kind = some e)
    (hd : e.draftFiles.get? slot = some d) (marked : d.deleted = true)
    (full : e.hasRoom slot.role (s.setup.settings.limit? slot.role) = false) :
    s.setDeleted kind slot false =
      (s.notify (.toast (Phrase.limitReached ((s.setup.settings.limit? slot.role).getD 0))),
        none) := by
  unfold setDeleted
  simp only [he, hd, marked, full]
  rfl

/-- What a mark comes to: nothing, a word that there is no room, or a mark that is put or taken
back. -/
inductive Marking (s : Session) (kind : Kind) (slot : Slot) (deleted : Bool) : Session → Prop
  | nothing : Marking s kind slot deleted s
  | full : Marking s kind slot deleted
      (s.notify (.toast (Phrase.limitReached ((s.setup.settings.limit? slot.role).getD 0))))
  | marked {e : Entry} {d : Draft} : s.entry? kind = some e → e.draftFiles.get? slot = some d →
      d.deleted ≠ deleted →
      (deleted = false → e.hasRoom slot.role (s.setup.settings.limit? slot.role) = true) →
      Marking s kind slot deleted
        ((s.put { e with draftFiles := e.draftFiles.modify slot fun d => { d with deleted } }).notify
          (.scanUpdated ⟨kind, slot⟩))

theorem marking (s : Session) (kind : Kind) (slot : Slot) (deleted : Bool) :
    s.Marking kind slot deleted (s.setDeleted kind slot deleted).1 := by
  unfold setDeleted
  cases he : s.entry? kind with
  | none => exact .nothing
  | some e =>
      dsimp only
      cases hd : e.draftFiles.get? slot with
      | none => exact .nothing
      | some d =>
          dsimp only
          split
          · exact .nothing
          · rename_i new
            split
            · exact .full
            · rename_i room
              exact .marked he hd new (by simpa using room)

/-! ## A save -/

theorem sendSave_eq {password : String} (he : s.entry? kind = some e)
    (hp : s.password = some password) :
    s.sendSave kind =
      ((s.put { e with write := .pending s.nextId }).ask (.task .save kind) fun t =>
        .setElement t e.submission ⟨password⟩, none) := by
  unfold sendSave
  rw [hp, he]

theorem sendSave_locked (hp : s.password = none) : s.sendSave kind = (s, some .locked) := by
  unfold sendSave
  rw [hp]

/-- What a save comes to: nothing, or a change of its entry with what is sent and told of it. -/
inductive Saving (s : Session) (kind : Kind) (changes : Fields) : Session → Prop
  | nothing : Saving s kind changes s
  | blocked {e : Entry} {slot : Slot} : s.entry? kind = some e → e.isBusy = false →
      e.atSave.failedUpload? = some slot →
      Saving s kind changes ((s.put { e.atSave with
        draftFiles := e.atSave.draftFiles.modify slot fun d =>
          { d with file := { d.file with error := some Phrase.uploadFailed } } }).notifyAll
            [.scanUpdated ⟨kind, slot⟩, .errorBox Phrase.uploadFailed])
  | spared {e : Entry} : s.entry? kind = some e → s.secretReady = true → s.awaited.submit = none →
      e.isBusy = false → e.atSave.failedUpload? = none → e.atSave.isChangedBy changes = false →
      Saving s kind changes
        { s.put e.atSave.spared with unreported := s.unreported ++ [kind] }
  | misdated {e : Entry} {fields : Fields} : s.entry? kind = some e → e.isBusy = false →
      fields = e.atSave.draftFields.overlay changes → fields.badDates kind ≠ [] →
      Saving s kind changes ((s.put { e.atSave with
        draftFields := (fields.badDates kind).foldl
          (fun m key => m.setError key Phrase.badDate) fields }).notifyAll
            ((fields.badDates kind).map (.fieldError kind ·)))
  | unkeyed {e : Entry} : s.entry? kind = some e → s.secretReady = true → s.password = none →
      e.isBusy = false →
      Saving s kind changes
        (s.put { e.atSave with draftFields := e.atSave.draftFields.overlay changes })
  | sent {e draft : Entry} {password : String} : s.entry? kind = some e → s.secretReady = true →
      s.awaited.submit = none → s.password = some password → e.isBusy = false →
      e.atSave.failedUpload? = none →
      draft = { e.atSave with draftFields := e.atSave.draftFields.overlay changes } →
      draft.draftFields.badDates kind = [] →
      Saving s kind changes ((s.put { draft with write := .pending s.nextId }).ask
        (.task .save kind) fun t => .setElement t draft.submission ⟨password⟩)

theorem saving (s : Session) (kind : Kind) (changes : Fields) :
    s.Saving kind changes (s.save kind changes).1 := by
  unfold save
  split
  · exact .nothing
  · rename_i locked
    have ready : s.secretReady = true := by simpa using locked
    split
    · exact .nothing
    · rename_i submitting
      have idle : s.awaited.submit = none := by simpa using submitting
      cases he : s.entry? kind with
      | none => exact .nothing
      | some e =>
          have now_edited : (if e.editors = 0 then e.snapshot else e) = e.atSave := rfl
          simp only [now_edited]
          split
          · exact .nothing
          · rename_i busy
            have quiet : e.isBusy = false := by simpa using busy
            cases failed : e.atSave.failedUpload? with
            | some slot => exact .blocked he quiet failed
            | none =>
                simp only
                split
                · rename_i unchanged
                  exact .spared he ready idle quiet failed (by simpa using unchanged)
                · split
                  · rename_i dated
                    let draft := { e.atSave with
                      draftFields := e.atSave.draftFields.overlay changes }
                    cases hp : s.password with
                    | none =>
                        have unkeyed : (s.put draft).password = none := hp
                        rw [sendSave_locked unkeyed]
                        exact .unkeyed he ready hp quiet
                    | some password =>
                        have keyed : (s.put draft).password = some password := hp
                        have hk : draft.kind = kind := e.kind_atSave.trans (kind_of_entry he)
                        have here : entry? (s.put draft) kind = some draft := entry?_put hk he
                        let sent := { draft with write := .pending s.nextId }
                        have twice : (s.put draft).put sent = s.put sent := put_put rfl
                        have outcome : s.Saving kind changes ((s.put sent).ask (.task .save kind)
                            fun t => .setElement t draft.submission ⟨password⟩) :=
                          .sent he ready idle hp quiet failed rfl dated
                        rw [← twice] at outcome
                        rw [sendSave_eq here keyed]
                        exact outcome
                  · rename_i bad
                    exact .misdated he quiet rfl bad

/-! ## A deletion -/

theorem delete_cases (s : Session) (kind : Kind) :
    (s.delete kind).1 = s ∨
      ∃ e, s.entry? kind = some e ∧ s.secretReady = true ∧ s.awaited.submit = none ∧
        e.isBusy = false ∧
        (s.delete kind).1 = (s.put { e with write := .pending s.nextId }).ask (.task .delete kind)
          fun t => .deleteElement t kind := by
  unfold delete
  split
  · exact .inl rfl
  · rename_i locked
    split
    · exact .inl rfl
    · rename_i submitting
      cases he : s.entry? kind with
      | none => exact .inl rfl
      | some e =>
          dsimp only
          split
          · exact .inl rfl
          · rename_i busy
            exact .inr ⟨e, rfl, by simpa using locked, by simpa using submitting, by simpa using busy,
              rfl⟩

end IdentityForm.Session
