import IdentityForm.Proofs.Edits

/-! # Editing as moves

Every operation on the files and on the edit buffer of an entry is made of moves. A reply of the
transfer of files finds its entry by its key, so that the kinds of the entries have to differ, and
a save finds its password by the form being unlocked.
-/

namespace IdentityForm

/-! ## What operations count on -/

/-- What holds of a session between two actions, and what its operations count on. -/
structure Core.Sound (c : Core) : Prop where
  distinct : (c.form.entries.map Entry.kind).Nodup
  keyed : c.secretReady = c.password.isSome

namespace Form

theorem entry?_of_mem {f : Form} {e : Entry} (distinct : (f.entries.map Entry.kind).Nodup)
    (he : e ∈ f.entries) : f.entry? e.kind = some e := by
  simp only [ entry?]
  generalize f.entries = entries at distinct he
  induction entries with
  | nil => cases he
  | cons x rest ih =>
      obtain ⟨hx, hrest⟩ := List.nodup_cons.1 distinct
      rcases List.mem_cons.1 he with rfl | he
      · exact List.find?_cons_of_pos (by simp)
      · have hne : x.kind ≠ e.kind := fun h => hx (h ▸ List.mem_map_of_mem he)
        rw [List.find?_cons_of_neg (by simpa using hne)]
        exact ih hrest he

theorem findUpload?_eq_some {f : Form} {key : UInt64} {place : Place}
    (h : f.findUpload? key = some place) :
    ∃ e ∈ f.entries, e.kind = place.kind ∧ place.slot ∈ e.slots ∧
      ∃ d u, e.draftFiles.get? place.slot = some d ∧ d.upload = some u ∧ u.key = key := by
  obtain ⟨e, he, h⟩ := List.exists_of_findSome?_eq_some h
  obtain ⟨slot, hslot, h⟩ := List.exists_of_findSome?_eq_some h
  cases hu : (e.draftFiles.get? slot).bind (·.upload) with
  | none => simp [hu] at h
  | some u =>
      obtain ⟨d, hd, hu'⟩ := Option.bind_eq_some_iff.1 hu
      by_cases hkey : u.key = key
      · simp only [hu, if_pos hkey, Option.some.injEq] at h
        subst h
        exact ⟨e, he, rfl, hslot, d, u, hd, hu', hkey⟩
      · simp [hu, hkey] at h

end Form

namespace Session

variable {s : Session} {now : Nat} {a : Action}

/-! ## Files -/

theorem displaced_calm (e : Entry) (role : Role) :
    ∀ x ∈ (e.displaced role).map Effect.request, x.isCalm = true := by
  intro x hx
  simp only [Entry.displaced, List.map_map, List.mem_map] at hx
  obtain ⟨u, -, rfl⟩ := hx
  rfl

theorem uploading_cases {e : Entry} {role : Role} {key : UInt64} {bytes : List UInt8} {x : Effect}
    (hx : x ∈ (Request.uploadFile key role bytes :: e.displaced role).map Effect.request) :
    x = .request (.uploadFile key role bytes) ∨ x.isCalm = true :=
  (List.mem_cons.1 hx).imp_right (displaced_calm e role x)

/-- What an upload sends is about transfers only. -/
theorem tokensOf_uploading (e : Entry) (role : Role) (key : UInt64) (bytes : List UInt8) :
    tokensOf ((Request.uploadFile key role bytes :: e.displaced role).map .request) = [] := by
  have quiet : tokensOf ((e.displaced role).map .request) = [] :=
    tokensOf_of_calm (displaced_calm e role)
  exact quiet

theorem cancelsOf_uploading (e : Entry) (role : Role) (key : UInt64) (bytes : List UInt8) :
    cancelsOf ((Request.uploadFile key role bytes :: e.displaced role).map .request) = [] := by
  have quiet : cancelsOf ((e.displaced role).map .request) = [] :=
    cancelsOf_of_calm (displaced_calm e role)
  exact quiet

theorem upload_moves (kind : Kind) (role : Role) (key : UInt64) (date : Int64) (bytes : List UInt8)
    (ha : a = .upload kind role key date bytes) :
    Moves now a s (s.upload kind role key date bytes).1 := by
  have outcome := s.uploading kind role key date bytes
  generalize (s.upload kind role key date bytes).1 = t at outcome
  cases outcome with
  | refused => exact .refl
  | full => exact notify_moves _ rfl
  | @taken e he editing room =>
      obtain rfl := kind_of_entry he
      refine Moves.trans ?_ (notify_moves _ rfl)
      refine put_move he (.uploaded ha editing) rfl ?_ (outbox_sendAll _) (checking_sendAll _)
      rw [tokensOf_uploading e role key bytes, core_put, core_sendAll]
      rfl

theorem setDeleted_moves (kind : Kind) (slot : Slot) (deleted : Bool)
    (ha : a = if deleted then .deleteScan kind slot else .restoreScan kind slot) :
    Moves now a s (s.setDeleted kind slot deleted).1 := by
  have outcome := s.marking kind slot deleted
  generalize (s.setDeleted kind slot deleted).1 = t at outcome
  cases outcome with
  | nothing => exact .refl
  | full => exact notify_moves _ rfl
  | marked he hd new =>
      obtain rfl := kind_of_entry he
      exact put_move he (.marked ha hd new) rfl rfl rfl rfl

theorem startDownload_moves (id size : UInt64) : Moves now a s (s.startDownload id size) := by
  unfold startDownload
  split
  · exact .refl
  · have move : Move now a s
        ({ s with downloads := insertId id s.downloads }.send (.downloadFile id id size)) :=
      .rest [.request (.downloadFile id id size)] rfl rfl (by simp [Effect.isCalm]) rfl
    exact move.moves

theorem loadFile_moves (kind : Kind) (slot : Slot)
    (ha : a = .startEdit kind ∨ a = .loadFile kind slot) :
    Moves now a s (s.loadFile kind slot).1 := by
  unfold loadFile
  cases he : s.entry? kind with
  | none => exact .refl
  | some e =>
      obtain rfl := kind_of_entry he
      simp only
      cases e.files.get? slot with
      | none => exact .refl
      | some f =>
          simp only
          split
          · exact .refl
          · exact (put_moves he (.loading ha) rfl).trans (startDownload_moves f.id f.size)

theorem foldl_moves {α : Type} (f : Session → α → Session) (h : ∀ s x, Moves now a s (f s x))
    (xs : List α) : Moves now a s (xs.foldl f s) := by
  induction xs generalizing s with
  | nil => exact .refl
  | cons x rest ih => exact (h s x).trans ih

theorem loadScans_moves (kind : Kind) (ha : a = .startEdit kind) :
    Moves now a s (s.loadScans kind) := by
  unfold loadScans
  cases s.entry? kind with
  | none => exact .refl
  | some e => exact foldl_moves _ (fun s slot => loadFile_moves kind slot (.inl ha)) _

theorem updateUpload_moves {event : FileEvent} {key : UInt64} {change : Draft → Draft}
    (sound : s.core.Sound) (ha : a = .file event) (hc : event.draftChange? = some (key, change)) :
    Moves now a s (s.updateUpload key change) := by
  unfold updateUpload
  cases hp : s.form.findUpload? key with
  | none => exact .refl
  | some place =>
      obtain ⟨e, hmem, hk, -, d, u, hd, hu, rfl⟩ := Form.findUpload?_eq_some hp
      have he : s.entry? e.kind = some e := Form.entry?_of_mem sound.distinct hmem
      refine Moves.trans ?_ (clearIfIdle_moves place.kind)
      refine Moves.trans (modify_moves _ ?_) (notify_moves _ rfl)
      intro e' he'
      rw [← hk, he, Option.some.injEq] at he'
      exact he' ▸ .transferred ha hc hd hu

theorem updateDownload_moves {event : FileEvent} {id : UInt64} {change : StoredFile → StoredFile}
    (ha : a = .file event) (hc : event.fileChange? = some (id, change)) :
    Moves now a s (s.updateDownload id change) :=
  foldl_moves _ (fun _ _ =>
    (modify_moves _ fun _ _ => .shown ha hc).trans (notify_moves _ rfl)) _

theorem endDownload_moves (id : UInt64) : Moves now a s (s.endDownload id) :=
  moves_of_core_eq rfl rfl rfl

theorem handleFileEvent_moves (sound : s.core.Sound) (event : FileEvent) (ha : a = .file event) :
    Moves now a s (s.handleFileEvent event) := by
  unfold handleFileEvent
  split
  · exact .refl
  · cases event with
    | uploadProgress key offset => exact updateUpload_moves sound ha rfl
    | uploadDone key fileId => exact updateUpload_moves sound ha rfl
    | uploadFailed key => exact updateUpload_moves sound ha rfl
    | downloadProgress key offset => exact updateDownload_moves ha rfl
    | downloadDone key bytes =>
        exact (endDownload_moves key).trans (updateDownload_moves ha rfl)
    | downloadFailed key =>
        exact (endDownload_moves key).trans (updateDownload_moves ha rfl)

/-! ## The edit buffer -/

theorem startEdit_moves (kind : Kind) (ha : a = .startEdit kind) :
    Moves now a s (s.startEdit kind).1 := by
  unfold startEdit
  cases he : s.entry? kind with
  | none => exact .refl
  | some e =>
      obtain rfl := kind_of_entry he
      simp only
      split
      · rename_i first
        have none_open : e.editors = 0 := by omega
        have quiet : e.isBusy = false := eq_false_of_ne_true first.2
        have change : s.Change now a e [] { e with editors := e.editors + 1 }.snapshot := by
          rw [none_open]
          exact .openedFirst ha none_open quiet
        exact (put_moves he change rfl).trans (loadScans_moves _ ha)
      · rename_i later
        refine put_moves he (.opened ha fun first => later ?_) rfl
        exact ⟨by omega, Bool.not_eq_true _ ▸ first.2⟩

theorem stopEdit_moves (kind : Kind) (ha : a = .stopEdit kind) :
    Moves now a s (s.stopEdit kind).1 := by
  unfold stopEdit
  cases he : s.entry? kind with
  | none => exact .refl
  | some e =>
      obtain rfl := kind_of_entry he
      simp only
      split
      · exact .refl
      · rename_i hopen
        exact (put_moves he (.closed ha hopen) rfl).trans (clearIfIdle_moves _)

theorem save_moves (sound : s.core.Sound) (kind : Kind) (changes : Fields)
    (ha : a = .save kind changes) : Moves now a s (s.save kind changes).1 := by
  have outcome := s.saving kind changes
  generalize (s.save kind changes).1 = t at outcome
  cases outcome with
  | nothing => exact .refl
  | blocked he quiet failed =>
      obtain rfl := kind_of_entry he
      refine Moves.trans ?_ (notifyAll_moves _ (by simp [Effect.isCalm]))
      exact put_moves he (.blocked ha quiet failed) (Entry.kind_atSave _)
  | spared he ready idle quiet failed unchanged =>
      obtain rfl := kind_of_entry he
      exact put_move he (.spared ha ready idle quiet failed unchanged) (by simp) rfl
        (List.append_nil _).symm rfl
  | misdated he quiet hfields =>
      obtain rfl := kind_of_entry he
      refine Moves.trans ?_ (notifyAll_moves _ (by simp [Effect.isCalm]))
      exact put_moves he (.misdated ha quiet hfields) (Entry.kind_atSave _)
  | unkeyed _ ready unkeyed =>
      obtain ⟨password, keyed⟩ := Option.isSome_iff_exists.1 (sound.keyed.symm.trans ready)
      exact absurd (keyed.symm.trans unkeyed) (by simp)
  | sent he ready idle keyed quiet failed hdraft dated =>
      obtain rfl := kind_of_entry he
      subst hdraft
      exact put_move he (.saved ha ready idle keyed quiet failed rfl dated) (Entry.kind_atSave _) rfl
        rfl rfl

theorem finishUnchanged_moves (kind : Kind) (ha : a = .tick) :
    Moves now a s (s.finishUnchanged kind) := by
  unfold finishUnchanged
  cases he : s.entry? kind with
  | none => exact .refl
  | some e =>
      obtain rfl := kind_of_entry he
      simp only
      split
      · rename_i unreported
        have settled : (s.put { e with write := .idle }).clearIfIdle e.kind =
            s.put { e with write := .idle }.clearIfIdle := clearIfIdle_put _
        rw [settled]
        exact put_move he (.reported ha unreported) (Entry.kind_clearIfIdle _) rfl rfl rfl
      · exact .refl

theorem delete_moves (kind : Kind) (ha : a = .delete kind) :
    Moves now a s (s.delete kind).1 := by
  rcases s.delete_cases kind with same | ⟨e, he, ready, idle, quiet, same⟩ <;> rw [same]
  · exact .refl
  · obtain rfl := kind_of_entry he
    exact put_move he (.deleted ha ready idle quiet) rfl rfl rfl rfl

theorem suggestRestart_moves : Moves now a s s.suggestRestart := by
  unfold suggestRestart
  split
  · exact .refl
  · exact Move.moves (.rest [.notice .suggestRestart] rfl rfl (by simp [Effect.isCalm]) rfl)

end Session

end IdentityForm
