import IdentityForm.Proofs.Buffer
import IdentityForm.Proofs.Upkeep

/-! # What entries show of downloads

A file is shown as loading, and with a picture once it is loaded, where it is committed and again in
the edit buffer. Every change of an entry but those that are about downloads shows nothing new: what
is in the edit buffer afterwards was there or is committed.
-/

namespace IdentityForm

/-- What is seen of a file. -/
structure Sight where
  id : UInt64
  loading : Bool
  pictured : Bool

def StoredFile.sight (f : StoredFile) : Sight := ⟨f.id, f.download.isRunning, f.preview.isSome⟩

def Session.Action.handlesDownloads : Session.Action → Bool
  | .startEdit _ | .loadFile _ _ => true
  | .file event => event.fileChange?.isSome
  | _ => false

theorem Draft.twin?_of_draftChange_eq {event : FileEvent} {key : UInt64} {change : Draft → Draft}
    {d : Draft} {u : Upload} {t : Twin} (h : event.draftChange? = some (key, change))
    (hu : d.upload = some u) (ht : (change d).twin? = some t) :
    ∃ t', d.twin? = some t' ∧ t'.file = t.file := by
  cases event <;> simp only [FileEvent.draftChange?, Option.some.injEq, Prod.mk.injEq,
    reduceCtorEq] at h <;> obtain ⟨-, rfl⟩ := h
  · simp only [progress, twin?, hu, Option.map_some] at ht ⊢
    exact ⟨t, ht, rfl⟩
  · simp [finish, twin?, hu] at ht
  · cases hr : u.replaced with
    | none => simp [fail, twin?, hu, hr] at ht
    | some r =>
        simp only [fail, hu, hr, ofTwin, twin?, Option.some.injEq] at ht
        exact ⟨r, by simp [twin?, hu, hr], ht ▸ rfl⟩

namespace Entry

/-! ## Committed files and their twins -/

def HasFile (e : Entry) (x : Sight) : Prop := ∃ slot f, e.files.get? slot = some f ∧ f.sight = x

/-- A committed file is in the edit buffer, or is set aside there for an upload. -/
def HasTwin (e : Entry) (role : Role) (x : Sight) : Prop :=
  ∃ slot d t, slot.role = role ∧ e.draftFiles.get? slot = some d ∧ d.twin? = some t ∧
    t.file.sight = x

/-- Nothing new is shown. -/
structure Retains (e e' : Entry) : Prop where
  file : ∀ x, e'.HasFile x → e.HasFile x
  twin : ∀ role x, e'.HasTwin role x → e.HasTwin role x ∨ e.HasFile x

variable {e e' e'' : Entry} {role : Role} {x : Sight}

theorem HasFile.of_eq (files : e'.files = e.files) (h : e'.HasFile x) : e.HasFile x := by
  obtain ⟨slot, f, hf, seen⟩ := h
  exact ⟨slot, f, files ▸ hf, seen⟩

theorem HasTwin.of_eq (drafts : e'.draftFiles = e.draftFiles) (h : e'.HasTwin role x) :
    e.HasTwin role x := by
  obtain ⟨slot, d, t, hr, hd, ht, seen⟩ := h
  exact ⟨slot, d, t, hr, drafts ▸ hd, ht, seen⟩

theorem not_hasFile_empty (empty : e.files = .empty) : ¬ e.HasFile x := by
  rintro ⟨slot, f, hf, -⟩
  simp [empty] at hf

theorem not_hasTwin_empty (empty : e.draftFiles = .empty) : ¬ e.HasTwin role x := by
  rintro ⟨slot, d, t, -, hd, -⟩
  simp [empty] at hd

/-- The twins of a buffer that was filled are the committed files. -/
theorem HasTwin.hasFile (drafts : e'.draftFiles = e.files.map Draft.ofStored)
    (h : e'.HasTwin role x) : e.HasFile x := by
  obtain ⟨slot, d, t, -, hd, ht, seen⟩ := h
  rw [drafts, Files.get?_map, Option.map_eq_some_iff] at hd
  obtain ⟨f, hf, rfl⟩ := hd
  obtain rfl : t = ⟨f, false⟩ := (Option.some.inj ht).symm
  exact ⟨slot, f, hf, seen⟩

namespace Retains

theorem of_eq (files : e'.files = e.files) (drafts : e'.draftFiles = e.draftFiles) :
    e.Retains e' :=
  ⟨fun _ => .of_eq files, fun _ _ h => .inl (h.of_eq drafts)⟩

protected theorem refl (e : Entry) : e.Retains e := .of_eq rfl rfl

theorem trans (first : e.Retains e') (second : e'.Retains e'') : e.Retains e'' := by
  refine ⟨fun x h => first.file x (second.file x h), fun role x h => ?_⟩
  rcases second.twin role x h with h | h
  · exact first.twin role x h
  · exact .inr (first.file x h)

/-- The buffer is filled. -/
theorem of_filled (files : e'.files = e.files)
    (drafts : e'.draftFiles = e.files.map Draft.ofStored) : e.Retains e' :=
  ⟨fun _ => .of_eq files, fun _ _ h => .inr (h.hasFile drafts)⟩

/-- The buffer is emptied. -/
theorem of_emptied (files : e'.files = e.files) (drafts : e'.draftFiles = .empty) : e.Retains e' :=
  ⟨fun _ => .of_eq files, fun _ _ h => absurd h (not_hasTwin_empty drafts)⟩

theorem of_modify {slot : Slot} {change : Draft → Draft} (files : e'.files = e.files)
    (drafts : e'.draftFiles = e.draftFiles.modify slot change)
    (same : ∀ d t, e.draftFiles.get? slot = some d → (change d).twin? = some t →
      ∃ t', d.twin? = some t' ∧ t'.file.sight = t.file.sight) : e.Retains e' := by
  refine ⟨fun _ => .of_eq files, fun role x h => .inl ?_⟩
  obtain ⟨place, d, t, hr, hd, ht, seen⟩ := h
  rw [drafts, Files.get?_modify] at hd
  split at hd
  · rename_i here
    obtain ⟨d', hd', rfl⟩ := Option.map_eq_some_iff.1 hd
    obtain ⟨t', ht', sight⟩ := same d' t ((Files.get?_congr _ here).trans hd') ht
    exact ⟨place, d', t', hr, hd', ht', sight.trans seen⟩
  · exact ⟨place, d, t, hr, hd, ht, seen⟩

theorem of_add {role : Role} {new : Draft} (files : e'.files = e.files)
    (drafts : e'.draftFiles = e.draftFiles.add role new)
    (replaces : new.twin? = (e.draftFiles.get? (e.draftFiles.nextSlot role)).bind Draft.twin?) :
    e.Retains e' := by
  refine ⟨fun _ => .of_eq files, fun role' x h => .inl ?_⟩
  obtain ⟨place, d, t, hr, hd, ht, seen⟩ := h
  rw [drafts, Files.get?_add] at hd
  split at hd
  · rename_i here
    obtain rfl := Option.some.inj hd
    obtain ⟨d', hd', ht'⟩ := Option.bind_eq_some_iff.1 (replaces.symm.trans ht)
    exact ⟨_, d', t, here.1.trans hr, hd', ht', seen⟩
  · exact ⟨place, d, t, hr, hd, ht, seen⟩

theorem clearIfIdle (e : Entry) : e.Retains e.clearIfIdle := by
  unfold Entry.clearIfIdle
  split
  · exact .of_emptied rfl rfl
  · exact .refl e

theorem atSave (e : Entry) : e.Retains e.atSave := by
  unfold Entry.atSave
  split
  · exact .of_filled rfl rfl
  · exact .refl e

theorem spared (e : Entry) : e.Retains e.spared := by
  unfold Entry.spared
  dsimp only
  split
  · exact .of_filled rfl rfl
  · exact .of_emptied rfl rfl

theorem applyError (e : Entry) (error : ElementError) : e.Retains (e.applyError error) := by
  obtain ⟨_, files, _, _, _, _, applied, same⟩ := e.applyError_eq error
  rw [applied]
  refine ⟨fun x h => ?_, fun _ _ h => .inl (h.of_eq rfl)⟩
  obtain ⟨slot, f, hf, seen⟩ := h
  have held := congrArg (Files.get? · slot) same
  simp only [Files.get?_map] at held
  rw [show files.get? slot = some f from hf, Option.map_some] at held
  obtain ⟨f', hf', unmarked⟩ := Option.map_eq_some_iff.1 held.symm
  exact ⟨slot, f', hf', (congrArg StoredFile.sight unmarked).trans seen⟩

end Retains

end Entry

namespace Session

open Entry

variable {s : Session} {now : Nat} {a : Action} {e e' : Entry} {es : List Effect}

/-- A change that is not about downloads shows nothing new. -/
theorem Change.retains (h : s.Change now a e es e') (other : a.handlesDownloads = false) :
    e.Retains e' := by
  cases h with
  | opened => exact .of_eq rfl rfl
  | openedFirst => exact .of_filled rfl rfl
  | closed => exact .of_eq rfl rfl
  | cleared => exact .clearIfIdle e
  | blocked =>
      refine (Retains.atSave e).trans (.of_modify rfl rfl fun d t _ ht => ?_)
      cases hu : d.upload with
      | none =>
          simp only [Draft.twin?, hu, Option.some.injEq] at ht ⊢
          exact ⟨_, rfl, ht ▸ rfl⟩
      | some u =>
          simp only [Draft.twin?, hu] at ht ⊢
          exact ⟨t, ht, rfl⟩
  | spared => exact (Retains.atSave e).trans (.spared _)
  | misdated => exact (Retains.atSave e).trans (.of_eq rfl rfl)
  | saved _ _ _ _ _ _ hsent =>
      subst hsent
      exact (Retains.atSave e).trans (.of_eq rfl rfl)
  | deleted => exact .of_eq rfl rfl
  | reported =>
      have settled : e.Retains { e with write := .idle } := .of_eq rfl rfl
      exact settled.trans (.clearIfIdle _)
  | uploaded => exact .of_add rfl rfl rfl
  | marked =>
      refine .of_modify rfl rfl fun d t _ ht => ?_
      cases hu : d.upload with
      | none =>
          simp only [Draft.twin?, hu, Option.some.injEq] at ht ⊢
          exact ⟨_, rfl, ht ▸ rfl⟩
      | some u =>
          simp only [Draft.twin?, hu] at ht ⊢
          exact ⟨t, ht, rfl⟩
  | loading ha => rcases ha with rfl | rfl <;> cases other
  | transferred _ hc hd hu =>
      refine .of_modify rfl rfl fun d t hd' ht => ?_
      obtain rfl := Option.some.inj (hd.symm.trans hd')
      obtain ⟨t', ht', same⟩ := Draft.twin?_of_draftChange_eq hc hu ht
      exact ⟨t', ht', congrArg _ same⟩
  | shown ha hc =>
      subst ha
      simp [Action.handlesDownloads, hc] at other
  | _ => exact .of_eq rfl rfl

end Session

/-! ## Honesty -/

/-- Nothing is shown as loading without need, and mirrors have the pictures that committed files have.
The files that `flying` says are really loading, and of mirrors in a role those are excused that
`stale` says. -/
structure Entry.Honest (flying : UInt64 → Prop) (stale : Role → UInt64 → Prop) (e : Entry) :
    Prop where
  file : ∀ x, e.HasFile x → x.loading = true → flying x.id
  twin : ∀ role x, e.HasTwin role x → x.loading = true → flying x.id ∨ stale role x.id
  alike : ∀ x y, e.HasFile x → e.HasFile y → x.id = y.id → x.pictured = y.pictured
  pictured : ∀ role x y, e.HasFile x → e.HasTwin role y → x.id = y.id → x.pictured = true →
    y.pictured = true ∨ stale role y.id

/-- Nothing in the entry depends on a download. -/
def Entry.Anew (e : Entry) : Prop := e.Honest (fun _ => False) fun _ _ => False

namespace Entry

variable {e e' : Entry} {role : Role} {x : Sight} {flying flying' : UInt64 → Prop}
  {stale stale' : Role → UInt64 → Prop}

theorem Honest.mono (h : e.Honest flying stale) (hf : ∀ id, flying id → flying' id)
    (hs : ∀ role x, e.HasTwin role x → stale role x.id → stale' role x.id) :
    e.Honest flying' stale' where
  file x held loading := hf x.id (h.file x held loading)
  twin role x held loading := (h.twin role x held loading).imp (hf x.id) (hs role x held)
  alike := h.alike
  pictured role x y hx hy same seen := (h.pictured role x y hx hy same seen).imp_right (hs role y hy)

theorem Anew.honest (h : e.Anew) : e.Honest flying stale :=
  h.mono (fun _ => False.elim) fun _ _ _ => False.elim

theorem Honest.retains (h : e.Honest flying stale) (retains : e.Retains e') :
    e'.Honest flying stale where
  file x held := h.file x (retains.file x held)
  twin role x held loading := by
    rcases retains.twin role x held with twin | file
    · exact h.twin role x twin loading
    · exact .inl (h.file x file loading)
  alike x y hx hy := h.alike x y (retains.file x hx) (retains.file y hy)
  pictured role x y hx hy same seen := by
    have committed := retains.file x hx
    rcases retains.twin role y hy with twin | file
    · exact h.pictured role x y committed twin same seen
    · exact .inl ((h.alike x y committed file same).symm.trans seen)

theorem anew_of_files (idle : ∀ x, e.HasFile x → x.loading = false)
    (alike : ∀ x y, e.HasFile x → e.HasFile y → x.id = y.id → x.pictured = y.pictured)
    (twin : ∀ role x, e.HasTwin role x → e.HasFile x) : e.Anew where
  file x held loading := absurd ((idle x held).symm.trans loading) (by simp)
  twin role x held loading := absurd ((idle x (twin role x held)).symm.trans loading) (by simp)
  alike := alike
  pictured role x y hx hy same seen :=
    .inl ((alike x y hx (twin role y hy) same).symm.trans seen)

theorem anew_of_empty (files : e.files = .empty) (drafts : e.draftFiles = .empty) : e.Anew :=
  anew_of_files (fun _ h => absurd h (not_hasFile_empty files))
    (fun _ _ h => absurd h (not_hasFile_empty files))
    fun _ _ h => absurd h (not_hasTwin_empty drafts)

end Entry

/-! ## What comes from the server -/

theorem StoredElement.exists_stored (element : StoredElement) {slot : Slot} {f : StoredFile}
    (h : element.contents.files.get? slot = some f) : ∃ file : DatedFile, file.stored = f := by
  have stored : ∃ files : Files DatedFile, element.contents.files = files.map DatedFile.stored := by
    cases element with
    | identity kind d => exact ⟨⟨[], d.renditions, d.frontSide, d.reverseSide, d.selfie⟩, rfl⟩
    | residence kind d => exact ⟨⟨d.files, d.renditions, none, none, none⟩, rfl⟩
    | _ => exact ⟨.empty, rfl⟩
  obtain ⟨files, same⟩ := stored
  rw [same, Files.get?_map] at h
  obtain ⟨file, -, found⟩ := Option.map_eq_some_iff.1 h
  exact ⟨file, found⟩

/-- What comes from the server was not downloaded. -/
theorem StoredElement.untouched (element : StoredElement) {slot : Slot} {f : StoredFile}
    (h : element.contents.files.get? slot = some f) :
    f.download = .notStarted ∧ f.preview = none := by
  obtain ⟨file, rfl⟩ := element.exists_stored h
  exact ⟨rfl, rfl⟩

namespace Entry

variable {e : Entry} {flying : UInt64 → Prop} {stale : Role → UInt64 → Prop}

theorem Honest.fill (h : e.Honest flying stale) (element : StoredElement) :
    (e.fill element.contents).Honest flying stale := by
  have untouched (x : Sight) (held : (e.fill element.contents).HasFile x) :
      x.loading = false ∧ x.pictured = false := by
    obtain ⟨slot, f, hf, rfl⟩ := held
    obtain ⟨idle, blank⟩ := element.untouched hf
    simp [StoredFile.sight, idle, blank, Transfer.isRunning]
  refine ⟨fun x held loading => ?_, fun role x held loading => ?_, fun x y hx hy _ => ?_,
    fun role x y hx _ _ seen => ?_⟩
  · exact absurd ((untouched x held).1.symm.trans loading) (by simp)
  · exact h.twin role x (held.of_eq rfl) loading
  · exact (untouched x hx).2.trans (untouched y hy).2.symm
  · exact absurd ((untouched x hx).2.symm.trans seen) (by simp)

/-- Of files with one id a save gives all a picture or none. -/
theorem anew_commit (e : Entry) (element : StoredElement) : (e.commit element.contents).Anew := by
  let filled := e.fill element.contents
  let shown := { filled with files := filled.files.map (withPreview e.previews) }
  have sight (x : Sight) (held : shown.HasFile x) :
      x.loading = false ∧ x.pictured = (e.previews.lookup x.id).isSome := by
    obtain ⟨slot, f, hf, rfl⟩ := held
    rw [Files.get?_map, Option.map_eq_some_iff] at hf
    obtain ⟨f', hf', rfl⟩ := hf
    obtain ⟨idle, blank⟩ := element.untouched hf'
    unfold withPreview
    split
    · rename_i p known
      exact ⟨rfl, by simp [StoredFile.sight, known]⟩
    · rename_i unknown
      simp [StoredFile.sight, idle, blank, unknown, Transfer.isRunning]
  have committed {e' : Entry} (files : e'.files = shown.files)
      (twin : ∀ role x, e'.HasTwin role x → e'.HasFile x) : e'.Anew := by
    refine anew_of_files (fun x held => (sight x (held.of_eq files)).1)
      (fun x y hx hy same => ?_) twin
    rw [(sight x (hx.of_eq files)).2, (sight y (hy.of_eq files)).2, same]
  unfold commit
  dsimp only
  split
  · exact committed rfl fun _ _ h => absurd h (not_hasTwin_empty rfl)
  · exact committed rfl fun _ _ h => h.hasFile rfl

theorem anew_reset (e : Entry) : e.reset.Anew := by
  unfold reset
  dsimp only
  split
  · exact anew_of_empty rfl rfl
  · exact anew_of_empty rfl rfl

end Entry

namespace Session

open Entry

variable {s : Session} {now : Nat} {e e' : Entry} {es : List Effect}

/-- A save or a deletion that is through leaves nothing of the edit buffer, and no other reply shows
anything new. -/
theorem Uptake.renews {task : Task} {outcome : Outcome} (h : s.Uptake now e task outcome es e') :
    e'.Anew ∨ e.Retains e' ∧ .notice (.saveFinished e.kind) ∉ es := by
  cases h with
  | saved => exact .inl (anew_commit _ _)
  | deleted => exact .inl (anew_reset e)
  | _ => exact .inr ⟨.of_eq rfl rfl, by simp⟩

end Session

/-! ## News of a download -/

section Told

variable {id : UInt64} {change : StoredFile → StoredFile}

def StoredFile.told (id : UInt64) (change : StoredFile → StoredFile) (f : StoredFile) : StoredFile :=
  if f.id = id then change f else f

def Draft.told (id : UInt64) (change : StoredFile → StoredFile) (d : Draft) : Draft :=
  if d.upload.isNone ∧ d.file.id = id then { d with file := change d.file } else d

def Entry.download (id : UInt64) (change : StoredFile → StoredFile) (e : Entry) : Entry :=
  { e with
    files := e.files.map (StoredFile.told id change)
    draftFiles := e.draftFiles.map (Draft.told id change) }

theorem StoredFile.told_told (same : ∀ f, (change f).id = f.id)
    (twice : ∀ f, change (change f) = change f) (f : StoredFile) :
    (f.told id change).told id change = f.told id change := by
  by_cases here : f.id = id
  · simp [told, here, same, twice]
  · simp [told, here]

theorem Draft.told_told (same : ∀ f, (change f).id = f.id)
    (twice : ∀ f, change (change f) = change f) (d : Draft) :
    (d.told id change).told id change = d.told id change := by
  by_cases here : d.upload.isNone ∧ d.file.id = id
  · rw [told, told, if_pos here, if_pos ⟨here.1, (same _).trans here.2⟩, twice]
  · rw [told, told, if_neg here, if_neg here]

end Told

namespace Files

variable {α : Type} {f : Files α} {g : α → α}

theorem get?_foldl_modify (slots : List Slot) (twice : ∀ a, g (g a) = g a) (slot : Slot) :
    (slots.foldl (fun f slot => f.modify slot g) f).get? slot =
      if ∃ place ∈ slots, place.Same slot then (f.get? slot).map g else f.get? slot := by
  induction slots generalizing f with
  | nil => simp
  | cons first rest ih =>
      rw [List.foldl_cons, ih, get?_modify]
      by_cases here : first.Same slot
      · by_cases again : ∃ place ∈ rest, place.Same slot
        · simp [here, again, Option.map_map, Function.comp_def, twice]
        · simp [here, again]
      · simp [here]

theorem foldl_modify_eq_map {slots : List Slot} (twice : ∀ a, g (g a) = g a)
    (covered : ∀ slot a, f.get? slot = some a → g a = a ∨ ∃ place ∈ slots, place.Same slot) :
    slots.foldl (fun f slot => f.modify slot g) f = f.map g := by
  apply ext_get?
  intro slot
  rw [get?_foldl_modify slots twice, get?_map]
  split
  · rfl
  · rename_i uncovered
    cases hf : f.get? slot with
    | none => rfl
    | some a => exact congrArg some ((covered slot a hf).resolve_right uncovered).symm

end Files

theorem Entry.exists_of_shows {e : Entry} {id : UInt64} {slot : Slot} (h : e.shows id slot = true) :
    ∃ place ∈ e.slots, slot.Same place ∧ e.shows id place = true := by
  have filled : ∃ place ∈ e.slots, slot.Same place := by
    cases hd : e.draftFiles.get? slot with
    | some d => exact Files.mem_slots_of_get? hd
    | none =>
        cases hf : e.files.get? slot with
        | some f =>
            have filled := Files.mem_slots_of_get? (f := e.draftFiles) hf
            rwa [Files.slots_comm] at filled
        | none => simp [shows, hf, hd] at h
  obtain ⟨place, filled, same⟩ := filled
  refine ⟨place, filled, same, ?_⟩
  rw [← h]
  simp only [shows, Files.get?_congr _ same]

namespace Session

open Entry

variable {s : Session} {id : UInt64} {change : StoredFile → StoredFile} {e : Entry} {kind : Kind}

theorem foldl_updateFile_apart (slots : List Slot) (e : Entry) :
    slots.foldl (fun e slot => updateFile id change slot e) e = { e with
      files := slots.foldl (fun f slot => f.modify slot (StoredFile.told id change)) e.files
      draftFiles :=
        slots.foldl (fun f slot => f.modify slot (Draft.told id change)) e.draftFiles } := by
  induction slots generalizing e with
  | nil => rfl
  | cons slot rest ih => exact ih _

theorem foldl_updateFile (same : ∀ f, (change f).id = f.id)
    (twice : ∀ f, change (change f) = change f) {slots : List Slot}
    (covered : ∀ slot ∈ e.slots, e.shows id slot = true → slot ∈ slots) :
    slots.foldl (fun e slot => updateFile id change slot e) e = e.download id change := by
  have shown {slot : Slot} (shows : e.shows id slot = true) : ∃ place ∈ slots, place.Same slot := by
    obtain ⟨place, filled, same, shows⟩ := Entry.exists_of_shows shows
    exact ⟨place, covered place filled shows, same.symm⟩
  rw [foldl_updateFile_apart, Files.foldl_modify_eq_map (StoredFile.told_told same twice),
    Files.foldl_modify_eq_map (Draft.told_told same twice)]
  · rfl
  · intro slot d hd
    by_cases here : d.upload.isNone ∧ d.file.id = id
    · exact .inr (shown (by simp [Entry.shows, hd, here.1, here.2]))
    · exact .inl (if_neg here)
  · intro slot f hf
    by_cases here : f.id = id
    · exact .inr (shown (by simp [Entry.shows, hf, here]))
    · exact .inl (if_neg here)

theorem foldl_updateFile_notify (places : List Place) (s : Session) :
    places.foldl (fun s place =>
        (s.modify place.kind (updateFile id change place.slot)).notify (.scanUpdated place)) s =
      { s with
        form := places.foldl (fun f place =>
          f.modify place.kind fun e => updateFile id change place.slot e) s.form
        outbox := s.outbox ++ places.map fun place => .notice (.scanUpdated place) } := by
  induction places generalizing s with
  | nil => simp
  | cons place rest ih =>
      rw [List.foldl_cons, ih]
      simp [Session.modify, notify]

theorem mem_findFile {f : Form} {place : Place} : place ∈ f.findFile id ↔
    ∃ e ∈ f.entries, e.kind = place.kind ∧ place.slot ∈ e.slots ∧ e.shows id place.slot = true := by
  obtain ⟨kind, slot⟩ := place
  simp only [Form.findFile, List.mem_flatMap, List.mem_map, List.mem_filter, Place.mk.injEq]
  constructor
  · rintro ⟨e, he, _, ⟨filled, shows⟩, hk, rfl⟩
    exact ⟨e, he, hk, filled, shows⟩
  · rintro ⟨e, he, hk, filled, shows⟩
    exact ⟨e, he, slot, ⟨filled, shows⟩, hk, rfl⟩

/-- News of a download reach every slot that shows the file, and each of them is told about. -/
theorem updateDownload_eq (s : Session) (id : UInt64) (same : ∀ f, (change f).id = f.id)
    (twice : ∀ f, change (change f) = change f) :
    s.updateDownload id change = { s with
      form := { s.form with entries := s.form.entries.map (Entry.download id change) }
      outbox := s.outbox ++
        (s.form.findFile id).map fun place => .notice (.scanUpdated place) } := by
  have form := Form.foldl_modify Place.kind (fun e place => updateFile id change place.slot e)
    (fun _ _ => rfl) (s.form.findFile id) s.form
  unfold updateDownload
  rw [foldl_updateFile_notify, form]
  congr 2
  refine List.map_congr_left fun e he => ?_
  rw [← foldl_updateFile same twice fun slot filled shows => ?_, List.foldl_map]
  exact List.mem_map.2 ⟨⟨e.kind, slot⟩, List.mem_filter.2 ⟨mem_findFile.2 ⟨e, he, rfl, filled, shows⟩,
    by simp⟩, rfl⟩

end Session

namespace Entry

def Keeps (e : Entry) (role : Role) (id : UInt64) : Prop :=
  ∃ d ∈ e.draftFiles.ofRole role, ∃ t ∈ d.twin?, t.file.id = id

/-- A committed file of a role is set aside for an upload. -/
def Parks (e : Entry) (role : Role) (id : UInt64) : Prop :=
  ∃ d ∈ e.draftFiles.ofRole role, d.upload.isSome = true ∧ ∃ t ∈ d.twin?, t.file.id = id

instance (e : Entry) (role : Role) (id : UInt64) : Decidable (e.Keeps role id) :=
  inferInstanceAs (Decidable (∃ d ∈ e.draftFiles.ofRole role, ∃ t ∈ d.twin?, t.file.id = id))

instance (e : Entry) (role : Role) (id : UInt64) : Decidable (e.Parks role id) :=
  inferInstanceAs (Decidable (∃ d ∈ e.draftFiles.ofRole role, _ ∧ ∃ t ∈ d.twin?, t.file.id = id))

variable {e : Entry} {role : Role} {id : UInt64} {x : Sight} {change : StoredFile → StoredFile}
  {flying flying' : UInt64 → Prop} {stale stale' : Role → UInt64 → Prop}

theorem HasTwin.keeps (h : e.HasTwin role x) : e.Keeps role x.id := by
  obtain ⟨slot, d, t, rfl, hd, ht, rfl⟩ := h
  exact ⟨d, Files.mem_ofRole_of_get? hd, t, ht, rfl⟩

theorem HasFile.of_download (h : (e.download id change).HasFile x) :
    ∃ f, e.HasFile f.sight ∧ (f.id = id ∧ x = (change f).sight ∨ f.id ≠ id ∧ x = f.sight) := by
  obtain ⟨slot, f', hf', rfl⟩ := h
  obtain ⟨f, hf, rfl⟩ := Option.map_eq_some_iff.1 ((Files.get?_map ..).symm.trans hf')
  refine ⟨f, ⟨slot, f, hf, rfl⟩, ?_⟩
  by_cases here : f.id = id
  · exact .inl ⟨here, by rw [StoredFile.told, if_pos here]⟩
  · exact .inr ⟨here, by rw [StoredFile.told, if_neg here]⟩

theorem HasTwin.of_download (h : (e.download id change).HasTwin role x) :
    ∃ f, e.HasTwin role f.sight ∧
      (f.id = id ∧ x = (change f).sight ∧ (∃ slot ∈ e.slots, e.shows id slot = true) ∨
        (f.id = id → e.Parks role id) ∧ x = f.sight) := by
  obtain ⟨slot, d', t', rfl, hd', ht', rfl⟩ := h
  obtain ⟨d, hd, rfl⟩ := Option.map_eq_some_iff.1 ((Files.get?_map ..).symm.trans hd')
  by_cases here : d.upload.isNone ∧ d.file.id = id
  · have hu : d.upload = none := Option.isNone_iff_eq_none.1 here.1
    rw [Draft.told, if_pos here] at ht'
    simp only [Draft.twin?, hu, Option.some.injEq] at ht'
    refine ⟨d.file, ⟨slot, d, ⟨d.file, d.deleted⟩, rfl, hd, by simp [Draft.twin?, hu], rfl⟩, .inl ?_⟩
    refine ⟨here.2, by rw [← ht'], ?_⟩
    have seen : e.shows id slot = true := by simp [shows, hd, hu, here.2]
    obtain ⟨place, filled, -, shows⟩ := exists_of_shows seen
    exact ⟨place, filled, shows⟩
  · rw [Draft.told, if_neg here] at ht'
    refine ⟨t'.file, ⟨slot, d, t', rfl, hd, ht', rfl⟩, .inr ⟨fun same => ?_, rfl⟩⟩
    refine ⟨d, Files.mem_ofRole_of_get? hd, ?_, t', ht', same⟩
    cases hu : d.upload with
    | some u => rfl
    | none =>
        simp only [Draft.twin?, hu, Option.some.injEq] at ht'
        subst ht'
        exact absurd ⟨by simp [hu], same⟩ here

theorem shows_of_hasFile (h : e.HasFile x) : ∃ slot ∈ e.slots, e.shows x.id slot = true := by
  obtain ⟨slot, f, hf, rfl⟩ := h
  have here : e.shows f.sight.id slot = true := by simp [shows, hf, StoredFile.sight]
  obtain ⟨place, filled, -, shows⟩ := exists_of_shows here
  exact ⟨place, filled, shows⟩

theorem Honest.load {slot : Slot} {f : StoredFile} (h : e.Honest flying stale)
    (hf : e.files.get? slot = some f) (flies : flying f.id) :
    Honest flying stale { e with
      files := e.files.modify slot fun f => { f with download := .inProgress 0 } } := by
  have file {x : Sight} (held : HasFile { e with
      files := e.files.modify slot fun f => { f with download := .inProgress 0 } } x) :
      ∃ y, e.HasFile y ∧ y.id = x.id ∧ y.pictured = x.pictured ∧
        (y.loading = x.loading ∨ flying x.id) := by
    obtain ⟨place, f', hf', rfl⟩ := held
    rw [Files.get?_modify] at hf'
    split at hf'
    · rename_i here
      rw [← Files.get?_congr _ here, hf] at hf'
      obtain rfl := Option.some.inj hf'
      exact ⟨f.sight, ⟨slot, f, hf, rfl⟩, rfl, rfl, .inr flies⟩
    · exact ⟨f'.sight, ⟨place, f', hf', rfl⟩, rfl, rfl, .inl rfl⟩
  refine ⟨fun x held loading => ?_, fun role x held => h.twin role x (held.of_eq rfl),
    fun x y hx hy same => ?_, fun role x y hx hy same seen => ?_⟩
  · obtain ⟨y, before, hid, -, still | flies⟩ := file held
    · exact hid ▸ h.file y before (still.trans loading)
    · exact flies
  · obtain ⟨x', hx', xid, xseen, -⟩ := file hx
    obtain ⟨y', hy', yid, yseen, -⟩ := file hy
    rw [← xseen, ← yseen]
    exact h.alike x' y' hx' hy' (xid.trans (same.trans yid.symm))
  · obtain ⟨x', hx', xid, xseen, -⟩ := file hx
    exact h.pictured role x' y hx' (hy.of_eq rfl) (xid.trans same) (xseen.trans seen)

/-- A committed file has the picture that it had, or one that was downloaded. -/
theorem HasFile.before_download {picture : Bool} (same : ∀ f, (change f).id = f.id)
    (pictures : ∀ f, (change f).preview.isSome = (picture || f.preview.isSome))
    (h : (e.download id change).HasFile x) : ∃ y, e.HasFile y ∧ y.id = x.id ∧
      x.pictured = (decide (x.id = id) && picture || y.pictured) := by
  obtain ⟨f, before, ⟨here, rfl⟩ | ⟨apart, rfl⟩⟩ := h.of_download
  · have changed : (change f).sight.id = id := (same f).trans here
    have shown : (change f).sight.pictured = (picture || f.sight.pictured) := pictures f
    exact ⟨f.sight, before, (same f).symm, by simpa [changed] using shown⟩
  · have other : f.sight.id ≠ id := apart
    exact ⟨f.sight, before, rfl, by simp [other]⟩

theorem Honest.alike_download {picture : Bool} (h : e.Honest flying stale)
    (same : ∀ f, (change f).id = f.id)
    (pictures : ∀ f, (change f).preview.isSome = (picture || f.preview.isSome)) {x y : Sight}
    (hx : (e.download id change).HasFile x) (hy : (e.download id change).HasFile y)
    (hid : x.id = y.id) : x.pictured = y.pictured := by
  obtain ⟨x', hx', xid, xseen⟩ := hx.before_download same pictures
  obtain ⟨y', hy', yid, yseen⟩ := hy.before_download same pictures
  rw [xseen, yseen, hid, h.alike x' y' hx' hy' (xid.trans (hid.trans yid.symm))]

theorem Honest.goes_on (h : e.Honest flying stale) (same : ∀ f, (change f).id = f.id)
    (pictures : ∀ f, (change f).preview = f.preview) (hf : ∀ id, flying id → flying' id)
    (shown : (∃ slot ∈ e.slots, e.shows id slot = true) → flying' id)
    (hs : ∀ role x, (e.download id change).HasTwin role x → stale role x.id → stale' role x.id) :
    (e.download id change).Honest flying' stale' := by
  have pictured (f : StoredFile) : (change f).preview.isSome = (false || f.preview.isSome) :=
    (congrArg Option.isSome (pictures f)).trans (Bool.false_or _).symm
  refine ⟨fun x held loading => ?_, fun role x held loading => ?_,
    fun x y hx hy hid => h.alike_download same pictured hx hy hid, fun role x y hx hy hid seen => ?_⟩
  · obtain ⟨f, before, ⟨here, rfl⟩ | ⟨-, rfl⟩⟩ := held.of_download
    · have changed : (change f).sight.id = id := (same f).trans here
      rw [changed]
      exact shown (here ▸ shows_of_hasFile before)
    · exact hf _ (h.file _ before loading)
  · obtain ⟨f, before, ⟨here, rfl, shows⟩ | ⟨-, rfl⟩⟩ := held.of_download
    · have changed : (change f).sight.id = id := (same f).trans here
      rw [changed]
      exact .inl (shown shows)
    · exact (h.twin role _ before loading).imp (hf _) (hs role _ held)
  · obtain ⟨x', hx', xid, xseen⟩ := hx.before_download same pictured
    rw [Bool.and_false, Bool.false_or] at xseen
    have seen := xseen.symm.trans seen
    obtain ⟨f, before, ⟨-, rfl, -⟩ | ⟨-, rfl⟩⟩ := hy.of_download
    · have kept := h.pictured role x' f.sight hx' before (xid.trans (hid.trans (same f))) seen
      exact kept.imp (fun seen => (pictured f).trans seen) fun excused =>
        hs role _ hy (show stale role (change f).id from (same f).symm ▸ excused)
    · exact (h.pictured role x' f.sight hx' before (xid.trans hid) seen).imp_right (hs role _ hy)

/-- A download that has ended, with a picture or without one. -/
theorem Honest.ends {picture : Bool} (h : e.Honest flying stale)
    (same : ∀ f, (change f).id = f.id) (idle : ∀ f, (change f).download.isRunning = false)
    (pictures : ∀ f, (change f).preview.isSome = (picture || f.preview.isSome))
    (hf : ∀ other, other ≠ id → flying other → flying' other)
    (parked : ∀ role, (∃ x, (e.download id change).HasTwin role x ∧ x.id = id) → e.Parks role id →
      stale' role id)
    (hs : ∀ role x, (e.download id change).HasTwin role x → (picture = true → x.id ≠ id) →
      stale role x.id → stale' role x.id) :
    (e.download id change).Honest flying' stale' := by
  have set_aside {role : Role} {f : StoredFile} (held : (e.download id change).HasTwin role f.sight)
      (parks : f.id = id → e.Parks role id) (here : f.id = id) : stale' role f.sight.id :=
    show stale' role f.id from here.symm ▸ parked role ⟨_, held, here⟩ (parks here)
  refine ⟨fun x held loading => ?_, fun role x held loading => ?_,
    fun x y hx hy hid => h.alike_download same pictures hx hy hid, fun role x y hx hy hid seen => ?_⟩
  · obtain ⟨f, before, ⟨-, rfl⟩ | ⟨apart, rfl⟩⟩ := held.of_download
    · exact absurd ((idle f).symm.trans loading) (by simp)
    · exact hf _ apart (h.file _ before loading)
  · obtain ⟨f, before, ⟨-, rfl, -⟩ | ⟨parks, rfl⟩⟩ := held.of_download
    · exact absurd ((idle f).symm.trans loading) (by simp)
    · by_cases here : f.id = id
      · exact .inr (set_aside held parks here)
      · exact (h.twin role _ before loading).imp (hf _ here) (hs role _ held fun _ => here)
  · obtain ⟨x', hx', xid, xseen⟩ := hx.before_download same pictures
    obtain ⟨f, before, ⟨here, rfl, -⟩ | ⟨parks, rfl⟩⟩ := hy.of_download
    · have shown : (change f).sight.pictured = (picture || f.sight.pictured) := pictures f
      cases picture with
      | true => exact .inl shown
      | false =>
          rw [Bool.false_or] at shown
          rw [Bool.and_false, Bool.false_or] at xseen
          rw [shown]
          have seen := xseen.symm.trans seen
          have kept := h.pictured role x' f.sight hx' before (xid.trans (hid.trans (same f))) seen
          refine kept.imp_right fun excused => hs role _ hy nofun ?_
          exact show stale role (change f).id from (same f).symm ▸ excused
    · by_cases here : f.id = id
      · exact .inr (set_aside hy parks here)
      · have other : x.id ≠ id := fun h => here (hid.symm.trans h)
        rw [decide_eq_false other, Bool.false_and, Bool.false_or] at xseen
        have seen := xseen.symm.trans seen
        exact (h.pictured role x' f.sight hx' before (xid.trans hid) seen).imp_right
          (hs role _ hy fun _ => here)

end Entry

end IdentityForm
