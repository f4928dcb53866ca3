import IdentityForm.Proofs.Gate
import IdentityForm.Proofs.Slots

/-! # Edit buffers

What a change of an entry does to its edit buffer: it goes on with what is there, fills the buffer
with the committed files, or empties it. A buffer that was filled covers the committed files up to
what was removed or replaced in it. One that was not filled holds nothing but new files.
-/

namespace IdentityForm

/-! ## Buffers and committed files -/

/-- What decides whether and how a draft is saved: its id, whether it is marked for removal, and
whether it is new. -/
def Draft.gist (d : Draft) : UInt64 × Bool × Bool := (d.file.id, d.deleted, d.upload.isSome)

namespace Session.Action

def Removes (kind : Kind) (slot : Slot) (a : Action) : Prop :=
  ∃ place, a = .deleteScan kind place ∧ place.Same slot

def Uploads (kind : Kind) (role : Role) (a : Action) : Prop :=
  ∃ key date bytes, a = .upload kind role key date bytes

/-- The action is about drafts: it adds or marks one, or brings news of a transfer. -/
def handlesDrafts : Action → Bool
  | .upload _ _ _ _ _ | .deleteScan _ _ | .restoreScan _ _ | .file _ => true
  | _ => false

end Session.Action

namespace Entry

/-- The edit buffer holds the committed files and nothing else. -/
def Mirrors (e : Entry) : Prop :=
  e.draftFiles.map Draft.gist = e.files.map fun f => (f.id, false, false)

instance (e : Entry) : Decidable e.Mirrors := inferInstanceAs (Decidable (_ = _))

/-- Every committed file is in the edit buffer, unless it was replaced there. Only what was removed
is marked for removal. -/
def Covers (removed : Slot → Prop) (replaced : Role → Prop) (e : Entry) : Prop :=
  ∀ slot f, e.files.get? slot = some f →
    (∃ d, e.draftFiles.get? slot = some d ∧ d.upload = none ∧ d.file.id = f.id ∧
      (d.deleted = true → removed slot)) ∨
    slot.role.isSpecial = true ∧ replaced slot.role ∧ (e.draftFiles.get? slot).isSome = true

/-- The edit buffer holds no committed file, and none that would come back in the place of a new
one. -/
def Untied (e : Entry) : Prop := ∀ slot d, e.draftFiles.get? slot = some d → d.twin? = none

/-- No editor is open, and the action opens none on a busy entry. -/
structure Unopened (a : Session.Action) (e : Entry) : Prop where
  unedited : e.editors = 0
  quiet : a = .startEdit e.kind → e.isBusy = false

structure Emptied (a : Session.Action) (e : Entry) : Prop extends Unopened a e where
  empty : e.draftFiles = .empty

/-- A change that goes on with the edit buffer. -/
structure Reworks (a : Session.Action) (e e' : Entry) : Prop where
  kept : ∀ slot d, e.draftFiles.get? slot = some d → d.upload = none →
    (∃ d', e'.draftFiles.get? slot = some d' ∧ d'.upload = none ∧ d'.file.id = d.file.id ∧
      (d'.deleted = true → d.deleted = true ∨ a.Removes e.kind slot)) ∨
    slot.role.isSpecial = true ∧ a.Uploads e.kind slot.role
  held : ∀ slot, (e.draftFiles.get? slot).isSome = true → (e'.draftFiles.get? slot).isSome = true
  untied : e.Untied → e'.Untied
  mirrors : a.handlesDrafts = false → e.Mirrors → e'.Mirrors
  empty : e.Unopened a → e.draftFiles = .empty → e'.draftFiles = .empty
  unopened : e.Unopened a → e'.Unopened a

variable {e e' : Entry} {a : Session.Action} {removed : Slot → Prop} {replaced : Role → Prop}

theorem mirrors_snapshot (e : Entry) : e.snapshot.Mirrors := by
  show (e.files.map Draft.ofStored).map Draft.gist = _
  apply Files.ext_get?
  intro slot
  simp only [Files.get?_map, Option.map_map]
  rfl

theorem Mirrors.covers (h : e.Mirrors) : e.Covers removed replaced := by
  intro slot f hf
  have same := congrArg (Files.get? · slot) h
  simp only [Files.get?_map, hf, Option.map_some, Option.map_eq_some_iff] at same
  obtain ⟨d, hd, gist⟩ := same
  simp only [Draft.gist, Prod.mk.injEq, Option.isSome_eq_false_iff, Option.isNone_iff_eq_none] at gist
  obtain ⟨id, unmarked, committed⟩ := gist
  exact .inl ⟨d, hd, committed, id, fun marked => by simp [unmarked] at marked⟩

theorem Covers.mono {removed' : Slot → Prop} {replaced' : Role → Prop}
    (h : e.Covers removed replaced)
    (hr : ∀ slot d, e.draftFiles.get? slot = some d → d.deleted = true → removed slot →
      removed' slot)
    (hp : ∀ role, replaced role → replaced' role) : e.Covers removed' replaced' := by
  intro slot f hf
  refine (h slot f hf).imp ?_ (And.imp_right (And.imp_left (hp slot.role)))
  rintro ⟨d, hd, committed, id, marked⟩
  exact ⟨d, hd, committed, id, fun deleted => hr slot d hd deleted (marked deleted)⟩

theorem mirrors_of_bare (bare : e.files = .empty) (empty : e.draftFiles = .empty) :
    e.Mirrors := by
  rw [Mirrors, bare, empty]
  rfl

/-- Only an entry without committed files is covered by an empty edit buffer. -/
theorem Covers.mirrors_of_empty (h : e.Covers removed replaced) (empty : e.draftFiles = .empty) :
    e.Mirrors := by
  have bare : e.files = .empty := by
    apply Files.ext_get?
    intro slot
    rw [Files.get?_empty]
    cases hf : e.files.get? slot with
    | none => rfl
    | some f =>
        rcases h slot f hf with ⟨d, hd, -⟩ | ⟨-, -, held⟩
        · simp [empty] at hd
        · simp [empty] at held
  exact mirrors_of_bare bare empty

theorem Mirrors.modify {place : Slot} {change : Draft → Draft} (h : e.Mirrors)
    (same : ∀ d, (change d).gist = d.gist) :
    { e with draftFiles := e.draftFiles.modify place change }.Mirrors :=
  (Files.map_modify e.draftFiles place same).trans h

theorem untied_of_empty (h : e.draftFiles = .empty) : e.Untied := by
  intro slot d hd
  simp [h] at hd

theorem Unopened.of_editors (h : e.Unopened a) (he : e'.editors = e.editors)
    (ha : a ≠ .startEdit e'.kind) : e'.Unopened a :=
  ⟨he.trans h.unedited, fun opened => absurd opened ha⟩

theorem atSave_of_editing (editing : e.editors ≠ 0) : e.atSave = e := if_neg editing

theorem atSave_of_unedited (unedited : e.editors = 0) : e.atSave = e.snapshot := if_pos unedited

@[simp] theorem editors_atSave (e : Entry) : e.atSave.editors = e.editors := by
  unfold atSave
  split <;> rfl

namespace Reworks

theorem of_eq (hf : e'.files = e.files) (hd : e'.draftFiles = e.draftFiles)
    (unopened : e.Unopened a → e'.Unopened a) : Reworks a e e' where
  kept := fun slot d h committed => .inl ⟨d, hd ▸ h, committed, rfl, .inl⟩
  held := fun slot held => hd ▸ held
  untied := fun untied => by rwa [Untied, hd]
  mirrors := fun _ mirrors => by rwa [Mirrors, hd, hf]
  empty := fun _ empty => hd.trans empty
  unopened := unopened

theorem of_modify {place : Slot} {change : Draft → Draft}
    (hd : e'.draftFiles = e.draftFiles.modify place change)
    (kept : ∀ d, e.draftFiles.get? place = some d → d.upload = none →
      (change d).upload = none ∧ (change d).file.id = d.file.id ∧ ((change d).deleted = true →
        d.deleted = true ∨ ∀ slot, place.Same slot → a.Removes e.kind slot))
    (untied : ∀ d, d.twin? = none → (change d).twin? = none)
    (mirrors : a.handlesDrafts = false → e.Mirrors → e'.Mirrors)
    (unopened : e.Unopened a → e'.Unopened a) : Reworks a e e' where
  kept := by
    intro slot d h committed
    by_cases same : place.Same slot
    · obtain ⟨committed', id, marked⟩ := kept d ((Files.get?_congr _ same).trans h) committed
      refine .inl ⟨change d, ?_, committed', id, fun h => ?_⟩
      · rw [hd, Files.get?_modify_of_same same, h, Option.map_some]
      · exact (marked h).imp_right fun removes => removes slot same
    · refine .inl ⟨d, ?_, committed, rfl, .inl⟩
      rw [hd, Files.get?_modify_of_not_same same, h]
  held := by
    intro slot held
    rw [hd, Files.get?_modify]
    split
    · exact Option.isSome_map.trans held
    · exact held
  untied := by
    intro h slot d' hd'
    by_cases same : place.Same slot
    · rw [hd, Files.get?_modify_of_same same, Option.map_eq_some_iff] at hd'
      obtain ⟨d, found, rfl⟩ := hd'
      exact untied d (h slot d found)
    · rw [hd, Files.get?_modify_of_not_same same] at hd'
      exact h slot d' hd'
  mirrors := mirrors
  empty := fun _ empty => by rw [hd, empty, Files.modify_empty]
  unopened := unopened

theorem of_add {role : Role} {new : Draft} (ha : a.Uploads e.kind role)
    (hd : e'.draftFiles = e.draftFiles.add role new)
    (untied : ((e.draftFiles.get? (e.draftFiles.nextSlot role)).bind Draft.twin?) = none →
      new.twin? = none)
    (editing : e.editors ≠ 0) : Reworks a e e' where
  kept := by
    intro slot d h committed
    by_cases same : (e.draftFiles.nextSlot role).Same slot
    · have role_eq : role = slot.role := (Files.role_nextSlot _ role).symm.trans same.1
      cases special : role.isSpecial with
      | true => exact .inr ⟨role_eq ▸ special, role_eq ▸ ha⟩
      | false =>
          -- The next slot of a list holds no draft yet.
          have free := (Files.get?_congr e.draftFiles same).symm.trans (Files.get?_nextSlot special)
          exact absurd (h.symm.trans free) (by simp)
    · refine .inl ⟨d, ?_, committed, rfl, .inl⟩
      rw [hd, Files.get?_add, if_neg same, h]
  held := by
    intro slot held
    rw [hd, Files.get?_add]
    split
    · rfl
    · exact held
  untied := by
    intro h slot d' hd'
    rw [hd, Files.get?_add] at hd'
    split at hd'
    · obtain rfl := Option.some.inj hd'
      exact untied (Option.bind_eq_none_iff.2 fun old found => h _ old found)
    · exact h slot d' hd'
  mirrors := by
    obtain ⟨key, date, bytes, rfl⟩ := ha
    exact fun other => absurd other (by simp [Session.Action.handlesDrafts])
  empty := fun unopened => absurd unopened.unedited editing
  unopened := fun unopened => absurd unopened.unedited editing

end Reworks

/-- What becomes of an edit buffer: an action goes on with it, fills it or empties it. -/
inductive Fate (a : Session.Action) (e e' : Entry) : Prop
  | reworked : (∀ slot, (e'.files.get? slot).map (·.id) = (e.files.get? slot).map (·.id)) →
      Reworks a e e' → Fate a e e'
  | filled : a.handlesDrafts = false → e'.Mirrors →
      (a ≠ .startEdit e.kind → e'.editors = e.editors) → Fate a e e'
  | emptied : e'.Emptied a → Fate a e e'

namespace Fate

/-- Within one action a buffer that was filled covers the committed files or is emptied. -/
theorem covers (h : Fate a e e') (hr : ∀ slot, a.Removes e.kind slot → removed slot)
    (hp : ∀ role, a.Uploads e.kind role → replaced role)
    (before : e.Covers removed replaced ∨ e.Emptied a) :
    e'.Covers removed replaced ∨ e'.Emptied a := by
  cases h with
  | filled _ mirrors => exact .inl mirrors.covers
  | emptied emptied => exact .inr emptied
  | reworked ids reworks =>
      refine before.imp (fun covers slot f' hf' => ?_) fun emptied =>
        ⟨reworks.unopened emptied.toUnopened, reworks.empty emptied.toUnopened emptied.empty⟩
      have same := ids slot
      rw [hf', Option.map_some, eq_comm, Option.map_eq_some_iff] at same
      obtain ⟨f, hf, id⟩ := same
      rcases covers slot f hf with ⟨d, hd, committed, hid, marked⟩ | ⟨special, replaced, held⟩
      · rcases reworks.kept slot d hd committed with
          ⟨d', hd', committed', hid', marked'⟩ | ⟨special, uploads⟩
        · refine .inl ⟨d', hd', committed', hid'.trans (hid.trans id), fun h => ?_⟩
          rcases marked' h with before | removes
          · exact marked before
          · exact hr slot removes
        · exact .inr ⟨special, hp slot.role uploads, reworks.held slot (by simp [hd])⟩
      · exact .inr ⟨special, replaced, reworks.held slot held⟩

/-- Within one action a buffer without committed files stays so, unless it is filled. -/
theorem untied (h : Fate a e e') (before : e.Untied ∨ a.handlesDrafts = false ∧ e.Mirrors) :
    e'.Untied ∨ a.handlesDrafts = false ∧ e'.Mirrors := by
  cases h with
  | filled other mirrors => exact .inr ⟨other, mirrors⟩
  | emptied emptied => exact .inl (untied_of_empty emptied.empty)
  | reworked _ reworks =>
      exact before.imp reworks.untied fun ⟨other, mirrors⟩ => ⟨other, reworks.mirrors other mirrors⟩

/-- Within the opening of an editor on an entry that is not busy, the first one fills the buffer. -/
theorem opened (h : Fate a e e') (other : a.handlesDrafts = false)
    (before : e.Unopened a ∨ e.Mirrors) : e'.Unopened a ∨ e'.Mirrors := by
  cases h with
  | filled _ mirrors => exact .inr mirrors
  | emptied emptied => exact .inl emptied.toUnopened
  | reworked _ reworks => exact before.imp reworks.unopened (reworks.mirrors other)

theorem unedited (h : Fate a e e') (ha : a ≠ .startEdit e.kind) (before : e.editors = 0) :
    e'.editors = 0 := by
  cases h with
  | filled _ _ editors => exact (editors ha).trans before
  | emptied emptied => exact emptied.unedited
  | reworked _ reworks =>
      exact (reworks.unopened ⟨before, fun opened => absurd opened ha⟩).unedited

end Fate

end Entry

namespace Entry

@[simp] theorem files_clearIfIdle (e : Entry) : e.clearIfIdle.files = e.files := by
  unfold clearIfIdle
  split <;> rfl

@[simp] theorem files_atSave (e : Entry) : e.atSave.files = e.files := by
  unfold atSave
  split <;> rfl

@[simp] theorem fields_atSave (e : Entry) : e.atSave.fields = e.fields := by
  unfold atSave
  split <;> rfl

@[simp] theorem files_spared (e : Entry) : e.spared.files = e.files := by
  simp only [spared]
  split <;> rfl

end Entry

/-! ## Drafts in transfer -/

namespace Draft

variable {d : Draft}

theorem twin?_of_upload {u : Upload} (h : d.upload = some u) : d.twin? = u.replaced := by
  simp [twin?, h]

theorem twin?_of_committed (h : d.upload = none) : d.twin? = some ⟨d.file, d.deleted⟩ := by
  simp [twin?, h]

theorem twin?_eq_none : d.twin? = none ↔ ∃ u, d.upload = some u ∧ u.replaced = none := by
  cases h : d.upload with
  | none => simp [twin?, h]
  | some u => simp [twin?, h]

theorem twin?_of_upload_eq {d' : Draft} (h : d'.upload = d.upload) (untied : d.twin? = none) :
    d'.twin? = none := by
  rw [twin?_eq_none, h]
  exact twin?_eq_none.1 untied

/-- News of a transfer bring no committed file back unless one was replaced. -/
theorem twin?_draftChange {event : FileEvent} {key : UInt64} {change : Draft → Draft}
    (h : event.draftChange? = some (key, change)) (untied : d.twin? = none) :
    (change d).twin? = none := by
  obtain ⟨u, hu, unreplaced⟩ := twin?_eq_none.1 untied
  cases event <;> simp only [FileEvent.draftChange?, Option.some.injEq, Prod.mk.injEq,
    reduceCtorEq] at h <;> obtain ⟨-, rfl⟩ := h
  · simp [progress, twin?, hu, unreplaced]
  · simp [finish, twin?, hu]
  · simp [fail, twin?, hu, unreplaced]

end Draft

theorem FileEvent.id_fileChange {event : FileEvent} {id : UInt64}
    {change : StoredFile → StoredFile} (h : event.fileChange? = some (id, change))
    (f : StoredFile) : (change f).id = f.id := by
  cases event <;> simp only [fileChange?, Option.some.injEq, Prod.mk.injEq, reduceCtorEq] at h <;>
    obtain ⟨-, rfl⟩ := h
  · rfl
  · simp only [Session.withDownload]
    split <;> rfl
  · rfl

namespace Session

open Entry

variable {s : Session} {now : Nat} {a : Action} {e e' : Entry} {es : List Effect}

/-- No change of an entry other than a reply puts other files in its slots. -/
theorem Change.ids (h : s.Change now a e es e') (slot : Slot) :
    (e'.files.get? slot).map (·.id) = (e.files.get? slot).map (·.id) := by
  have modified (place : Slot) {change : StoredFile → StoredFile}
      (h : ∀ f, (change f).id = f.id) :
      ((e.files.modify place change).get? slot).map (·.id) = (e.files.get? slot).map (·.id) := by
    rw [← Files.get?_map, ← Files.get?_map, Files.map_modify _ _ h]
  cases h with
  | loading => exact modified _ fun f => rfl
  | @shown event id change place _ hchange =>
      apply modified _
      intro f
      split
      · exact FileEvent.id_fileChange hchange f
      · rfl
  | saved _ _ _ _ _ _ hsent => simp [hsent]
  | _ => simp [Entry.snapshot]

theorem fate_clearIfIdle {e₀ : Entry} (hf : e₀.files = e.files)
    (hd : e₀.draftFiles = e.draftFiles) (unopened : e.Unopened a → e₀.Unopened a) :
    Fate a e e₀.clearIfIdle := by
  by_cases idle : e₀.editors = 0 ∧ ¬ e₀.isBusy
  · have cleared : e₀.clearIfIdle = e₀.clearDraft := if_pos idle
    have quiet := quiet_iff.1 (Bool.not_eq_true _ ▸ idle.2)
    rw [cleared]
    exact .emptied ⟨⟨idle.1, fun _ => quiet_iff.2 ⟨quiet.1, quiet.2.1, quiet.2.2.1, rfl⟩⟩, rfl⟩
  · have kept : e₀.clearIfIdle = e₀ := if_neg idle
    rw [kept]
    exact .reworked (fun slot => by rw [hf]) (.of_eq hf hd unopened)

/-- A save goes on with an open buffer, and fills one that is not open. -/
theorem fate_of_atSave {e₀ : Entry} (other : a.handlesDrafts = false)
    (ids : ∀ slot, (e₀.files.get? slot).map (·.id) = (e.files.get? slot).map (·.id))
    (editors : e₀.editors = e.editors) (reworks : Reworks a e.atSave e₀) : Fate a e e₀ := by
  by_cases unedited : e.editors = 0
  · rw [atSave_of_unedited unedited] at reworks
    exact .filled other (reworks.mirrors other e.mirrors_snapshot) fun _ => editors
  · rw [atSave_of_editing unedited] at reworks
    exact .reworked ids reworks

/-- What a change of an entry makes of its edit buffer. -/
theorem Change.fate (h : s.Change now a e es e') : Fate a e e' := by
  have ids := h.ids
  have still {action : Action} {e' : Entry} (ha : a = action)
      (hne : action ≠ .startEdit e'.kind) (hf : e'.files = e.files)
      (hd : e'.draftFiles = e.draftFiles) (he : e'.editors = e.editors) : Reworks a e e' :=
    .of_eq hf hd fun unopened => unopened.of_editors he (ha ▸ hne)
  cases h with
  | opened ha busy =>
      refine .reworked ids (.of_eq rfl rfl fun unopened => ?_)
      exact absurd ⟨unopened.unedited, unopened.quiet ha⟩ busy
  | openedFirst ha =>
      subst ha
      exact .filled rfl (mirrors_snapshot _) fun ha => absurd rfl ha
  | closed ha editing =>
      exact .reworked ids (.of_eq rfl rfl fun unopened => absurd unopened.unedited editing)
  | cleared => exact fate_clearIfIdle rfl rfl id
  | blocked ha =>
      subst ha
      refine fate_of_atSave rfl ids e.editors_atSave (.of_modify rfl ?_ ?_ ?_ ?_)
      · exact fun d _ committed => ⟨committed, rfl, .inl⟩
      · exact fun d => Draft.twin?_of_upload_eq rfl
      · exact fun _ mirrors => mirrors.modify fun d => rfl
      · exact fun unopened => unopened.of_editors rfl (by simp)
  | spared ha =>
      subst ha
      by_cases unedited : e.editors = 0
      · have cleared : e.atSave.spared = { e.atSave with write := .unchanged }.clearDraft :=
          if_neg (by simp [clearDraft, unedited])
        rw [cleared]
        exact .emptied ⟨⟨by simp [clearDraft, unedited], by simp⟩, rfl⟩
      · have filled : e.atSave.spared = { e.atSave with write := .unchanged }.clearDraft.snapshot :=
          if_pos (by simp [clearDraft]; omega)
        rw [filled]
        exact .filled rfl (mirrors_snapshot _) fun _ => e.editors_atSave
  | misdated ha =>
      subst ha
      refine fate_of_atSave rfl ids e.editors_atSave (.of_eq rfl rfl fun unopened => ?_)
      exact unopened.of_editors rfl (by simp)
  | saved ha _ _ _ _ _ hsent =>
      subst ha hsent
      refine fate_of_atSave rfl ids e.editors_atSave (.of_eq rfl rfl fun unopened => ?_)
      exact unopened.of_editors rfl (by simp)
  | deleted ha => exact .reworked ids (still ha (by simp) rfl rfl rfl)
  | reported ha =>
      have unopened (h : e.Unopened a) : { e with write := .idle }.Unopened a :=
        h.of_editors rfl (by simp [ha])
      exact fate_clearIfIdle (e := e) rfl rfl unopened
  | @uploaded role key date bytes ha editing =>
      refine .reworked ids (.of_add ⟨key, date, bytes, ha⟩ rfl (fun unreplaced => ?_) editing)
      exact (Draft.twin?_of_upload rfl).trans unreplaced
  | @marked slot d deleted ha hd =>
      refine .reworked ids (.of_modify rfl ?_ ?_ ?_ ?_)
      · refine fun d _ committed => ⟨committed, rfl, fun marked => .inr fun slot' same => ?_⟩
        have marked : deleted = true := marked
        rw [marked, if_pos rfl] at ha
        exact ⟨slot, ha, same⟩
      · exact fun d => Draft.twin?_of_upload_eq rfl
      · cases deleted <;> simp [ha, Action.handlesDrafts]
      · refine fun unopened => unopened.of_editors rfl ?_
        cases deleted <;> simp [ha]
  | @loading slot =>
      have gists : (e.files.modify slot fun f => { f with download := .inProgress 0 }).map
          (fun f => (f.id, false, false)) = e.files.map fun f => (f.id, false, false) :=
        Files.map_modify _ _ fun f => rfl
      refine .reworked ids { kept := ?_, held := fun _ => id, untied := id, mirrors := ?_
                             empty := fun _ => id, unopened := ?_ }
      · exact fun slot d hd committed => .inl ⟨d, hd, committed, rfl, .inl⟩
      · exact fun _ mirrors => Eq.trans mirrors gists.symm
      · exact fun unopened => ⟨unopened.unedited, unopened.quiet⟩
  | @transferred event change slot d u ha hchange hd hu =>
      refine .reworked ids (.of_modify rfl ?_ ?_ ?_ ?_)
      · intro d' hd' committed
        obtain rfl : d = d' := Option.some.inj (hd.symm.trans hd')
        simp [hu] at committed
      · exact fun d => Draft.twin?_draftChange hchange
      · simp [ha, Action.handlesDrafts]
      · exact fun unopened => unopened.of_editors rfl (by simp [ha])
  | @shown event id change slot ha hchange =>
      refine .reworked ids (.of_modify rfl ?_ ?_ ?_ ?_)
      · intro d hd committed
        split
        · exact ⟨committed, FileEvent.id_fileChange hchange d.file, .inl⟩
        · exact ⟨committed, rfl, .inl⟩
      · intro d untied
        refine Draft.twin?_of_upload_eq ?_ untied
        split <;> rfl
      · simp [ha, Action.handlesDrafts]
      · exact fun unopened => unopened.of_editors rfl (by simp [ha])
  | miscoded ha => exact .reworked ids (still ha (by simp) rfl rfl rfl)
  | checked ha => exact .reworked ids (still ha (by simp) rfl rfl rfl)
  | givenUp ha => exact .reworked ids (still ha (by simp) rfl rfl rfl)
  | calling ha => exact .reworked ids (still ha (by simp) rfl rfl rfl)

/-- What a reply makes of the edit buffer of its entry. -/
theorem Uptake.fate {task : Task} {outcome : Outcome} {r : Reply}
    (h : s.Uptake now e task outcome es e') : Fate (.reply r) e e' := by
  have still {e' : Entry} (hf : e'.files = e.files) (hd : e'.draftFiles = e.draftFiles)
      (he : e'.editors = e.editors) : Fate (.reply r) e e' := by
    refine .reworked (fun slot => by rw [hf]) (.of_eq hf hd fun unopened => ?_)
    exact unopened.of_editors he (by simp)
  cases h with
  | @saved element =>
      unfold commit
      dsimp only
      split
      · rename_i unedited
        exact .emptied ⟨⟨unedited, by simp⟩, rfl⟩
      · exact .filled rfl (mirrors_snapshot _) fun _ => rfl
  | deleted =>
      unfold reset
      dsimp only
      split
      · exact .filled rfl (mirrors_snapshot _) fun _ => rfl
      · exact .filled rfl rfl fun _ => rfl
  | _ => exact still rfl rfl rfl

end Session

end IdentityForm
