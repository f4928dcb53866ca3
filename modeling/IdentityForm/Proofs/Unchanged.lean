import IdentityForm.Proofs.Reading
import IdentityForm.Proofs.Since

/-! # Saves that see nothing to write

A save compares the changes with the committed fields and looks for drafts that are new or marked for
removal. If there are none, nothing is sent. The edit buffer may hold more than that: a text that an
earlier save put there and the server did not take, or a new file that took the place of a committed
one before it was removed. Such a save gives the committed element exactly if there is nothing of the
kind, and what there is can be traced to the turn that it came from.
-/

namespace IdentityForm

/-! ## What stands in an edit buffer -/

namespace Session.Action

def Writes (kind : Kind) (key : String) (a : Action) : Prop :=
  ∃ changes, a = .save kind changes ∧ (changes.get? key).isSome = true

/-- The action is the reply with the elements that the server has. -/
def bringsElements : Action → Bool
  | .reply ⟨_, .ok (.availableElements _ _)⟩ => true
  | _ => false

end Session.Action

namespace Entry

/-- The edit buffer has the committed text under a name. -/
def Current (key : String) (e : Entry) : Prop := e.draftFields.text key = e.fields.text key

instance (key : String) (e : Entry) : Decidable (e.Current key) := inferInstanceAs (Decidable (_ = _))

end Entry

namespace Turn

/-- The save finds nothing to write: the entry was not saving and is to be reported as saved. -/
def Spares (kind : Kind) (t : Turn) : Prop :=
  (∀ e ∈ t.before.form.entry? kind, e.write ≠ .unchanged) ∧
    ∃ e ∈ t.after.form.entry? kind, e.write = .unchanged

/-- The elements of the server arrive while an editor of the entry is open. -/
def FillsOpened (kind : Kind) (t : Turn) : Prop :=
  t.action.bringsElements = true ∧ ∃ e ∈ t.before.form.entry? kind, e.editors ≠ 0

instance (kind : Kind) (t : Turn) : Decidable (t.Spares kind) := inferInstanceAs (Decidable (_ ∧ _))

end Turn

/-- The edit buffer has another text under a name than the committed one, and that since a save put
it there or since the elements arrived while an editor was open. -/
def History.Leftover (kind : Kind) (key : String) : History → Prop
  | [] => False
  | t :: past => (∃ e ∈ t.after.form.entry? kind, ¬ e.Current key) ∧
      (t.action.Writes kind key ∨ t.FillsOpened kind ∨ Leftover kind key past)

/-! ## Twins in an edit buffer -/

namespace Draft

variable {d d' : Draft} {t : Twin}

theorem twin?_of_same (hu : d'.upload = d.upload) (id : d'.file.id = d.file.id)
    (twin : d'.twin? = some t) : ∃ t', d.twin? = some t' ∧ t'.file.id = t.file.id := by
  cases new : d.upload with
  | none =>
      simp only [twin?, hu, new, Option.some.injEq] at twin ⊢
      exact ⟨_, rfl, twin ▸ id.symm⟩
  | some u =>
      simp only [twin?, hu, new] at twin ⊢
      exact ⟨t, twin, rfl⟩

theorem twin?_of_draftChange {event : FileEvent} {key : UInt64} {change : Draft → Draft}
    {u : Upload} (h : event.draftChange? = some (key, change)) (hu : d.upload = some u)
    (twin : (change d).twin? = some t) : d.twin? = some t := by
  cases event <;> simp only [FileEvent.draftChange?, Option.some.injEq, Prod.mk.injEq,
    reduceCtorEq] at h <;> obtain ⟨-, rfl⟩ := h
  · simpa [progress, twin?, hu] using twin
  · simp [finish, twin?, hu] at twin
  · cases old : u.replaced with
    | none => simp [fail, twin?, hu, old] at twin
    | some t' => simpa [fail, ofTwin, twin?, hu, old] using twin

end Draft

namespace Entry

variable {e e' : Entry} {key : String}

theorem twinned_of_empty (h : e.draftFiles = .empty) : e.Twinned := by
  intro slot d t hd
  simp [h] at hd

theorem twinned_of_untied (h : e.Untied) : e.Twinned := by
  intro slot d t hd twin
  exact absurd ((h slot d hd).symm.trans twin) (by simp)

theorem twinned_snapshot (e : Entry) : e.snapshot.Twinned := by
  intro slot d t hd twin
  obtain ⟨f, hf, rfl⟩ := Option.map_eq_some_iff.1 ((Files.get?_map ..).symm.trans hd)
  obtain rfl : (⟨f, false⟩ : Twin) = t := Option.some.inj twin
  exact ⟨f, hf, rfl⟩

/-- Nothing but the previews and the errors of committed files is another. -/
theorem Twinned.of_ids (h : e.Twinned) (hd : e'.draftFiles = e.draftFiles)
    (ids : ∀ slot, (e'.files.get? slot).map (·.id) = (e.files.get? slot).map (·.id)) :
    e'.Twinned := by
  intro slot d t hd' twin
  obtain ⟨f, hf, id⟩ := h slot d t (hd ▸ hd') twin
  have same := ids slot
  rw [hf, Option.map_some, Option.map_eq_some_iff] at same
  obtain ⟨f', hf', id'⟩ := same
  exact ⟨f', hf', id'.trans id⟩

theorem Twinned.of_modify {place : Slot} {change : Draft → Draft} (h : e.Twinned)
    (hd : e'.draftFiles = e.draftFiles.modify place change)
    (ids : ∀ slot, (e'.files.get? slot).map (·.id) = (e.files.get? slot).map (·.id))
    (twins : ∀ d, e.draftFiles.get? place = some d → ∀ t, (change d).twin? = some t →
      ∃ t', d.twin? = some t' ∧ t'.file.id = t.file.id) : e'.Twinned := by
  intro slot d t hd' twin
  have before : ∃ t' d', e.draftFiles.get? slot = some d' ∧ d'.twin? = some t' ∧
      t'.file.id = t.file.id := by
    by_cases same : place.Same slot
    · rw [hd, Files.get?_modify_of_same same, Option.map_eq_some_iff] at hd'
      obtain ⟨d', found, rfl⟩ := hd'
      obtain ⟨t', twin', id⟩ := twins d' ((Files.get?_congr _ same).trans found) t twin
      exact ⟨t', d', found, twin', id⟩
    · rw [hd, Files.get?_modify_of_not_same same] at hd'
      exact ⟨t, d, hd', twin, rfl⟩
  obtain ⟨t', d', found, twin', id⟩ := before
  obtain ⟨f, hf, id'⟩ := h slot d' t' found twin'
  have same := ids slot
  rw [hf, Option.map_some, Option.map_eq_some_iff] at same
  obtain ⟨f', hf', id''⟩ := same
  exact ⟨f', hf', id''.trans (id'.trans id)⟩

theorem Twinned.of_add {role : Role} {new : Draft} (h : e.Twinned) (hf : e'.files = e.files)
    (hd : e'.draftFiles = e.draftFiles.add role new)
    (twins : new.twin? = (e.draftFiles.get? (e.draftFiles.nextSlot role)).bind Draft.twin?) :
    e'.Twinned := by
  intro slot d t hd' twin
  rw [hd, Files.get?_add] at hd'
  rw [hf]
  split at hd'
  · rename_i same
    obtain rfl := Option.some.inj hd'
    obtain ⟨old, found, twin⟩ := Option.bind_eq_some_iff.1 (twins.symm.trans twin)
    exact h slot old t ((Files.get?_congr _ same).symm.trans found) twin
  · exact h slot d t hd' twin

theorem Twinned.clearIfIdle (h : e.Twinned) : e.clearIfIdle.Twinned := by
  unfold Entry.clearIfIdle
  split
  · exact twinned_of_empty rfl
  · exact h

theorem Twinned.atSave (h : e.Twinned) : e.atSave.Twinned := by
  unfold Entry.atSave
  split
  · exact twinned_snapshot e
  · exact h

theorem twinned_spared (e : Entry) : e.spared.Twinned := by
  simp only [spared]
  split
  · exact twinned_snapshot _
  · exact twinned_of_empty rfl

end Entry

namespace Session

open Entry

variable {s s' : Session} {now : Nat} {a : Action} {e e' : Entry} {es : List Effect} {key : String}

/-- Every change of an entry keeps the drafts of committed files in the slots of these. -/
theorem Change.twinned (h : s.Change now a e es e') (twinned : e.Twinned) : e'.Twinned := by
  have ids := h.ids
  cases h with
  | openedFirst => exact twinned_snapshot _
  | cleared => exact twinned.clearIfIdle
  | reported =>
      have idle : { e with write := .idle }.Twinned := twinned.of_ids rfl fun _ => rfl
      exact idle.clearIfIdle
  | blocked =>
      exact twinned.atSave.of_modify rfl (fun _ => rfl) fun d _ t => Draft.twin?_of_same rfl rfl
  | spared => exact twinned_spared _
  | misdated => exact twinned.atSave.of_ids rfl fun _ => rfl
  | saved _ _ _ _ _ _ hsent =>
      subst hsent
      exact twinned.atSave.of_ids rfl fun _ => rfl
  | uploaded => exact twinned.of_add rfl rfl rfl
  | marked => exact twinned.of_modify rfl ids fun d _ t => Draft.twin?_of_same rfl rfl
  | @transferred event change slot d u _ hchange hd hu =>
      refine twinned.of_modify rfl ids fun d' hd' t twin => ?_
      obtain rfl : d = d' := Option.some.inj (hd.symm.trans hd')
      exact ⟨t, Draft.twin?_of_draftChange hchange hu twin, rfl⟩
  | shown _ hchange =>
      refine twinned.of_modify rfl ids fun d _ t twin => ?_
      split at twin
      · refine Draft.twin?_of_same ?_ ?_ twin
        · rfl
        · exact FileEvent.id_fileChange hchange d.file
      · exact ⟨t, twin, rfl⟩
  | _ => exact twinned.of_ids rfl ids

theorem Uptake.twinned {task : Task} {outcome : Outcome} (h : s.Uptake now e task outcome es e')
    (twinned : e.Twinned) : e'.Twinned := by
  cases h with
  | saved =>
      unfold commit
      dsimp only
      split
      · exact twinned_of_empty rfl
      · exact twinned_snapshot _
  | deleted =>
      unfold reset
      dsimp only
      split
      · exact twinned_snapshot _
      · exact twinned_of_empty rfl
  | _ => exact twinned.of_ids rfl fun _ => rfl

end Session

/-! ## Texts in an edit buffer -/

namespace Entry

variable {e : Entry} {key : String}

theorem Current.clearIfIdle (h : e.Current key) : e.clearIfIdle.Current key := by
  unfold Entry.clearIfIdle
  split
  · exact rfl
  · exact h

theorem Current.atSave (h : e.Current key) : e.atSave.Current key := by
  unfold Entry.atSave
  split
  · exact rfl
  · exact h

theorem keepsFiles_snapshot (e : Entry) : e.snapshot.KeepsFiles := by
  intro slot there
  obtain ⟨f, hf⟩ := Option.isSome_iff_exists.1 there
  exact ⟨Draft.ofStored f, (Files.get?_map ..).trans (congrArg _ hf), rfl⟩

theorem current_spared (e : Entry) (key : String) : e.spared.Current key := by
  simp only [spared]
  split <;> exact rfl

theorem current_commit (e : Entry) (c : Contents) (key : String) : (e.commit c).Current key := by
  simp only [commit]
  split <;> exact rfl

theorem current_reset (e : Entry) (key : String) : e.reset.Current key := by
  simp only [reset]
  split <;> exact rfl

/-- An error of the server changes no text. -/
theorem text_placeError (e : Entry) (message : String) (source : ErrorSource) (key : String) :
    (e.placeError message source).fields.text key = e.fields.text key ∧
      (e.placeError message source).draftFields = e.draftFields := by
  have setFileError_keeps (slot : Slot) (otherwise : Entry) (hf : otherwise.fields = e.fields)
      (hd : otherwise.draftFields = e.draftFields) :
      (e.setFileError slot message otherwise).fields.text key = e.fields.text key ∧
        (e.setFileError slot message otherwise).draftFields = e.draftFields := by
    unfold setFileError
    split
    · exact ⟨rfl, rfl⟩
    · exact ⟨by rw [hf], hd⟩
  cases source with
  | unspecified =>
      simp only [placeError]
      split
      · exact ⟨rfl, rfl⟩
      · exact ⟨Fields.text_setError .., rfl⟩
  | dataField field => exact ⟨Fields.text_setError .., rfl⟩
  | files => exact ⟨rfl, rfl⟩
  | renditionFiles => exact ⟨rfl, rfl⟩
  | frontSide => exact setFileError_keeps _ _ rfl rfl
  | reverseSide => exact setFileError_keeps _ _ rfl rfl
  | selfie => exact setFileError_keeps _ _ rfl rfl
  | file index => exact setFileError_keeps _ _ rfl rfl
  | renditionFile index => exact setFileError_keeps _ _ rfl rfl

theorem Current.applyError (h : e.Current key) (x : ElementError) : (e.applyError x).Current key := by
  obtain ⟨text, drafts⟩ := e.text_placeError x.message x.source key
  simp only [Entry.applyError]
  split
  · exact rfl
  · rw [Current, text, drafts]
    exact h

end Entry

namespace Session

open Entry

variable {s s' : Session} {now : Nat} {a : Action} {e e' : Entry} {es : List Effect} {key : String}

/-- Only a save puts another text than the committed one into an edit buffer. -/
theorem Change.current (h : s.Change now a e es e') (unwritten : ¬ a.Writes e.kind key)
    (current : e.Current key) : e'.Current key := by
  have unmentioned {changes : Fields} (ha : a = .save e.kind changes) : changes.get? key = none := by
    cases mentioned : changes.get? key with
    | none => rfl
    | some field => exact absurd ⟨changes, ha, by simp [mentioned]⟩ unwritten
  have before : e.atSave.draftFields.text key = e.atSave.fields.text key := current.atSave
  cases h with
  | openedFirst => exact rfl
  | cleared => exact current.clearIfIdle
  | reported =>
      have idle : { e with write := .idle }.Current key := current
      exact idle.clearIfIdle
  | blocked => exact before
  | spared => exact current_spared _ _
  | misdated ha _ hfields =>
      subst hfields
      show Fields.text (List.foldl _ _ _) key = e.atSave.fields.text key
      rw [Fields.text_setErrors, Fields.text_overlay_of_unmentioned (unmentioned ha), before]
  | saved ha _ _ _ _ _ hsent =>
      subst hsent
      show Fields.text (Fields.overlay _ _) key = e.atSave.fields.text key
      rw [Fields.text_overlay_of_unmentioned (unmentioned ha), before]
  | _ => exact current

theorem Uptake.current {task : Task} {outcome : Outcome} (h : s.Uptake now e task outcome es e')
    (current : e.Current key) : e'.Current key := by
  cases h with
  | saved => exact current_commit _ _ _
  | deleted => exact current_reset _ _
  | misfilled => exact (Fields.text_setError ..).trans current
  | _ => exact current

end Session

/-! ## The save itself -/

namespace Session

variable {s : Session} {e e' : Entry} {kind : Kind} {changes : Fields}

/-- A save finds no change and sends nothing, or its entry is not marked as unchanged. -/
theorem save_cases (he : s.form.entry? kind = some e) (before : e.write ≠ .unchanged)
    (changes : Fields) :
    (e.isBusy = false ∧ e.atSave.isChangedBy changes = false ∧
        (s.save kind changes).1.outbox = s.outbox) ∨
      ∃ x, (s.save kind changes).1.form.entry? kind = some x ∧ x.write ≠ .unchanged := by
  have put {x : Entry} {t : Session} (ht : t.core = (s.put x).core) (hk : x.kind = kind)
      (hw : x.write ≠ .unchanged) : ∃ x, t.form.entry? kind = some x ∧ x.write ≠ .unchanged := by
    have form : t.form = (s.put x).form := congrArg Core.form ht
    exact ⟨x, form ▸ entry?_put hk he, hw⟩
  have kept {x : Entry} (hx : s.entry? kind = some x) : x = e := Option.some.inj (hx.symm.trans he)
  have hk : e.atSave.kind = kind := e.kind_atSave.trans (kind_of_entry he)
  have unmarked : e.atSave.write ≠ .unchanged := by rwa [Entry.write_atSave]
  have outcome := s.saving kind changes
  generalize (s.save kind changes).1 = t at outcome
  cases outcome with
  | nothing => exact .inr ⟨e, he, before⟩
  | blocked hx =>
      obtain rfl := kept hx
      exact .inr (put (core_notifyAll _) hk unmarked)
  | spared hx _ _ quiet _ unchanged =>
      obtain rfl := kept hx
      exact .inl ⟨quiet, unchanged, rfl⟩
  | misdated hx =>
      obtain rfl := kept hx
      exact .inr (put (core_notifyAll _) hk unmarked)
  | unkeyed hx =>
      obtain rfl := kept hx
      exact .inr (put rfl hk unmarked)
  | @sent _ draft _ hx _ _ _ _ _ hdraft =>
      obtain rfl := kept hx
      have sent : entry? (s.put { draft with write := .pending s.nextId }) kind =
          some { draft with write := .pending s.nextId } :=
        entry?_put (by rw [hdraft]; exact hk) he
      exact .inr ⟨_, sent, by simp⟩

end Session

/-! ## Along a run -/

namespace Run

variable {setup : Setup} {past : History} {s : Session} {kind : Kind} {key : String}

theorem twinned (run : Run setup past s) : ∀ e ∈ s.form.entries, e.Twinned := by
  induction run with
  | start credentials => exact fun e he => absurd he List.not_mem_nil
  | @step past s now action run _ _ ih =>
      refine (run.acts now action).forall_entries run.gated (fun _ _ _ _ change => change.twinned)
        (fun _ _ _ _ _ _ _ uptake => uptake.twinned) ?_ ?_ (fun e twinned => twinned) ih
      · intro form e he
        obtain ⟨kind, rfl⟩ := Form.mem_ofAuthorization he
        exact Entry.twinned_of_empty rfl
      · intro r elements errors _ waiting _ e he
        have locked := run.gated.locked_of_awaits waiting
        exact Entry.twinned_of_untied (run.untied_takeElements locked elements errors e he)

/-- A text that is not the committed one is left over from a save, or from before the unlocking. -/
theorem leftover (run : Run setup past s) : ∀ e, s.form.entry? kind = some e → ¬ e.Current key →
    past.Leftover kind key := by
  induction run with
  | start credentials => exact fun e he => absurd he (by simp [Session.fresh, Form.empty, Form.entry?])
  | @step past s now action run _ _ ih =>
      intro e he differs
      refine ⟨⟨e, he, differs⟩, ?_⟩
      refine Classical.byContradiction fun h => ?_
      obtain ⟨unwritten, closed, settled⟩ : ¬ action.Writes kind key ∧
          ¬ Turn.FillsOpened kind ⟨s, now, action⟩ ∧ ¬ past.Leftover kind key := by
        simpa only [not_or] using h
      have start : ∀ e ∈ s.form.entries, e.kind = kind → e.Current key := by
        intro x hx hk
        have here : s.form.entry? kind = some x := hk ▸ Form.entry?_of_mem run.gated.distinct hx
        exact Classical.byContradiction fun differs => settled (ih x here differs)
      refine differs ((run.acts now action).forall_entries
        (P := fun e => e.kind = kind → e.Current key) run.gated ?_ ?_ ?_ ?_ (fun _ => id) start e
        (Form.mem_of_entry he) (Form.kind_of_entry he))
      · intro t e e' es change current hk
        have hk : e.kind = kind := change.kind_eq.symm.trans hk
        exact change.current (hk ▸ unwritten) (current hk)
      · intro r t e e' task es _ uptake current hk
        exact uptake.current (current (uptake.kind_eq.symm.trans hk))
      · intro form e he _
        obtain ⟨kind, rfl⟩ := Form.mem_ofAuthorization he
        exact rfl
      · rintro ⟨token, outcome⟩ elements errors rfl _ rfl x hx hk
        -- Without an editor the texts of the elements stand in the edit buffer too.
        refine (Form.takeElements_forall (P := fun e => e.kind = kind → e.editors = 0 ∧ e.Current key)
          ?_ ?_ ?_ x hx hk).2
        · intro e element _ before hk
          have unedited := (before hk).1
          exact ⟨unedited, by simp [Entry.Current, Entry.fill, unedited]⟩
        · intro e x before hk
          obtain ⟨unedited, current⟩ := before ((e.applyError_keeps x).1.symm.trans hk)
          refine ⟨?_, current.applyError x⟩
          obtain ⟨_, _, _, _, _, _, applied, -⟩ := e.applyError_eq x
          rw [applied]
          exact unedited
        · intro e he hk
          have here : s.form.entry? kind = some e := hk ▸ Form.entry?_of_mem run.gated.distinct he
          refine ⟨Classical.byContradiction fun editing => ?_, start e he hk⟩
          exact closed ⟨rfl, e, here, editing⟩

theorem keepsFiles_of_unreplaced (run : Run setup past s) {turns : History} {e : Entry}
    (he : s.form.entry? kind = some e) (since : past.sinceFilled kind = some turns)
    (unreplaced : ∀ role : Role, role.isSpecial = true → ¬ turns.Replaced kind role) :
    e.KeepsFiles := by
  intro slot there
  obtain ⟨f, hf⟩ := Option.isSome_iff_exists.1 there
  rcases (run.buffered e he).1 turns since slot f hf with
    ⟨d, hd, committed, -⟩ | ⟨special, replaced, -⟩
  · exact ⟨d, hd, committed⟩
  · exact absurd replaced (unreplaced slot.role special)

theorem unchanged_of_spares (run : Run setup past s) {now : Nat} {changes : Fields} {e : Entry}
    (he : s.form.entry? kind = some e)
    (spares : Turn.Spares kind ⟨s, now, .save kind changes⟩) :
    e.atSave.isChangedBy changes = false ∧ Turn.effects ⟨s, now, .save kind changes⟩ = [] := by
  obtain ⟨e', he', marked⟩ := spares.2
  have unmarked : ¬ ∃ x, (s.save kind changes).1.form.entry? kind = some x ∧
      x.write ≠ .unchanged := by
    rintro ⟨x, hx, hw⟩
    obtain rfl := Option.some.inj (hx.symm.trans he')
    exact hw marked
  obtain ⟨-, unchanged, silent⟩ :=
    (Session.save_cases he (spares.1 e he) changes).resolve_right unmarked
  exact ⟨unchanged, silent.trans run.outbox_eq_nil⟩

/-- What an unchanged save would send, compared with the committed element. -/
theorem submission_eq_iff (run : Run setup past s) {changes : Fields} {e : Entry}
    (he : s.form.entry? kind = some e) (unchanged : e.atSave.isChangedBy changes = false) :
    SubmittedElement.ofDraft (e.atSave.draftFields.overlay changes) e.atSave.draftFiles kind =
        e.snapshot.submission ↔
      (∀ key ∈ kind.elementFields, changes.get? key = none →
        kind.ReadsAlike key (e.atSave.draftFields.text key) (e.fields.text key)) ∧
      e.atSave.KeepsFiles := by
  obtain rfl := Form.kind_of_entry he
  have twinned := (run.twinned e (Form.mem_of_entry he)).atSave
  have proper := run.proper.entries e (Form.mem_of_entry he)
  have whole := twinned.submission_eq_iff (by simpa using proper.fits) unchanged
  have committed : e.atSave.snapshot.submission = e.snapshot.submission := by
    unfold Entry.atSave
    split <;> rfl
  rwa [committed, e.fields_atSave, e.kind_atSave] at whole

/-- A save that sees nothing to write sends nothing. What it would have sent is the committed element
exactly if every text that was not given with it reads as the committed one and no committed file has
lost its place; without an editor that is so. Where it is not so, an earlier save or the arrival of
the elements left a text behind, or the edit buffer was never filled, or a file of a special role was
added since. -/
theorem unchanged_save_agrees (run : Run setup past s) {now : Nat} {changes : Fields} {e : Entry}
    (he : s.form.entry? kind = some e)
    (spares : Turn.Spares kind ⟨s, now, .save kind changes⟩) :
    let sent := SubmittedElement.ofDraft (e.atSave.draftFields.overlay changes)
      e.atSave.draftFiles kind
    let kept := e.snapshot.submission
    Turn.effects ⟨s, now, .save kind changes⟩ = [] ∧
    (sent = kept ↔
      (∀ key ∈ kind.elementFields, changes.get? key = none →
        kind.ReadsAlike key (e.atSave.draftFields.text key) (e.fields.text key)) ∧
      e.atSave.KeepsFiles) ∧
    (e.editors = 0 → sent = kept) ∧
    (sent ≠ kept →
      (∃ key ∈ kind.elementFields, changes.get? key = none ∧ past.Leftover kind key) ∨
      past.sinceFilled kind = none ∨
      ∃ turns, past.sinceFilled kind = some turns ∧
        ∃ role : Role, role.isSpecial = true ∧ turns.Replaced kind role) := by
  intro sent kept
  obtain ⟨unchanged, silent⟩ := run.unchanged_of_spares he spares
  have agrees : sent = kept ↔ _ := run.submission_eq_iff he unchanged
  have unedited (h : e.editors = 0) : sent = kept := by
    refine agrees.2 ?_
    rw [Entry.atSave_of_unedited h]
    exact ⟨fun key _ _ => Kind.readsAlike_of_eq rfl, e.keepsFiles_snapshot⟩
  refine ⟨silent, agrees, unedited, fun differ => ?_⟩
  have editing : e.atSave = e := Entry.atSave_of_editing fun h => differ (unedited h)
  by_cases stray : ∃ key ∈ kind.elementFields, changes.get? key = none ∧ ¬ e.Current key
  · obtain ⟨key, among, unmentioned, differs⟩ := stray
    exact .inl ⟨key, among, unmentioned, run.leftover e he differs⟩
  · have texts : ∀ key ∈ kind.elementFields, changes.get? key = none →
        kind.ReadsAlike key (e.draftFields.text key) (e.fields.text key) := by
      intro key among unmentioned
      apply Kind.readsAlike_of_eq
      exact Classical.byContradiction fun differs => stray ⟨key, among, unmentioned, differs⟩
    refine .inr ?_
    cases since : past.sinceFilled kind with
    | none => exact .inl rfl
    | some turns =>
        refine .inr ⟨turns, rfl, Classical.byContradiction fun unreplaced => differ ?_⟩
        have files : e.KeepsFiles := run.keepsFiles_of_unreplaced he since
          fun role special replaced => unreplaced ⟨role, special, replaced⟩
        exact agrees.2 (editing.symm ▸ ⟨texts, files⟩)

/-- A rendition was uploaded and removed again in an editor. The save that follows sends nothing, and
there is nothing that it would have changed. -/
theorem unchanged_save_agrees_after_removal :
    let kind : Kind := .identity .passport
    let actions := [(6, .deleteScan kind ⟨.rendition, some 1⟩),
        (5, .file (.uploadDone 1 9)), (4, .upload kind .rendition 1 0 []), (4, .startEdit kind)] ++
      opening passportForm [scannedPassport]
    let s := (play (.fresh .plain .empty) actions).2
    let changes : Fields := .ofTexts [("document_no", "AB1")]
    ∃ e, s.form.entry? kind = some e ∧ Turn.Spares kind ⟨s, 7, .save kind changes⟩ ∧
      Turn.effects ⟨s, 7, .save kind changes⟩ = [] ∧ e.draftFiles.renditions.length = 2 ∧
      SubmittedElement.ofDraft (e.atSave.draftFields.overlay changes) e.atSave.draftFiles kind =
        e.snapshot.submission := by
  intro kind actions s changes
  have playable : Playable (.fresh .plain .empty) actions := by decide +kernel
  have spares : Turn.Spares kind ⟨s, 7, .save kind changes⟩ := by decide +kernel
  have buffer : ∃ e ∈ s.form.entry? kind, e.draftFiles.renditions.length = 2 ∧
      e.atSave.KeepsFiles ∧
      ∀ key ∈ kind.elementFields, e.atSave.draftFields.text key = e.fields.text key := by
    decide +kernel
  obtain ⟨e, he, two, files, texts⟩ := buffer
  have whole := unchanged_save_agrees (.of_playable playable) he spares
  refine ⟨e, he, spares, whole.1, two, whole.2.1.2 ⟨fun key among _ => ?_, files⟩⟩
  exact Kind.readsAlike_of_eq (texts key among)

/-- A save was not taken by the server, and the next one gives no changes. And a front side was
replaced, and its replacement removed. Neither next save sends anything, and both entries are reported
as saved, though each element that would have been sent is another than the committed one. -/
theorem unchanged_save_differs :
    let kind : Kind := .identity .passport
    let start := (4, .startEdit kind) :: opening passportForm [scannedPassport]
    let rejected := [(5, .reply ⟨⟨4, .task .save kind⟩, .failed ⟨"SOME_ERROR"⟩⟩),
      (4, .save kind (.ofTexts [("document_no", "AB2")]))] ++ start
    let replaced := [(6, .deleteScan kind ⟨.frontSide, none⟩), (5, .file (.uploadDone 1 9)),
      (4, .upload kind .frontSide 1 0 [])] ++ start
    ∀ actions ∈ [rejected, replaced],
      let s := (play (.fresh .plain .empty) actions).2
      (∃ past, Run .plain past s) ∧ s.cancelled = false ∧ s.secretReady = true ∧
      s.awaited.submit = none ∧ Turn.Spares kind ⟨s, 7, .save kind .empty⟩ ∧
      ∃ e ∈ s.form.entry? kind, e.isBusy = false ∧ e.failedUpload? = none ∧
        SubmittedElement.ofDraft (e.draftFields.overlay .empty) e.draftFiles kind ≠
          e.snapshot.submission := by
  intro kind start rejected replaced actions listed
  rcases List.mem_cons.1 listed with rfl | listed
  · have playable : Playable (.fresh .plain .empty) rejected := by decide +kernel
    refine ⟨⟨_, .of_playable playable⟩, ?_⟩
    decide +kernel
  · obtain rfl := List.mem_singleton.1 listed
    have playable : Playable (.fresh .plain .empty) replaced := by decide +kernel
    refine ⟨⟨_, .of_playable playable⟩, ?_⟩
    decide +kernel

end Run

end IdentityForm
