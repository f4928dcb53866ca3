import IdentityForm.Proofs.Outstanding

/-! # Uploads

A file that is being uploaded stands in one slot of one edit buffer, under its key. It stays there
until its transfer ends or is cancelled, or until the entry is written: a buffer is rebuilt when a
save or a deletion succeeds, whatever is under way in it.
-/

namespace IdentityForm

/-! ## Uploads in a history -/

def Effect.uploads? : Effect → Option UInt64
  | .request (.uploadFile key _ _) => some key
  | _ => none

def uploadsOf (effects : List Effect) : List UInt64 := effects.filterMap Effect.uploads?

def History.uploads (past : History) : List UInt64 := uploadsOf past.log

def FileEvent.ends? : FileEvent → Option UInt64
  | .uploadDone key _ | .uploadFailed key => some key
  | _ => none

def Session.Action.ends? : Session.Action → Option UInt64
  | .file event => event.ends?
  | _ => none

/-- The entry of a kind was saved or deleted. -/
def Reply.Writes (kind : Kind) (r : Reply) : Prop :=
  r.token.pending = .task .save kind ∧
      (∃ element, r.outcome = .ok (.element element) ∧ element.kind = kind) ∨
    r.token.pending = .task .delete kind ∧ ∃ response, r.outcome = .ok response

namespace Entry

/-- A slot of the edit buffer holds an upload, be it running or not. -/
def Holds (slot : Slot) (key : UInt64) (e : Entry) : Prop :=
  ∃ d u, e.draftFiles.get? slot = some d ∧ d.upload = some u ∧ u.key = key

def Runs (slot : Slot) (key : UInt64) (e : Entry) : Prop :=
  ∃ d u, e.draftFiles.get? slot = some d ∧ d.upload = some u ∧ u.key = key ∧
    u.transfer.isRunning = true

end Entry

namespace Turn

def Reports (key : UInt64) (t : Turn) : Prop := t.action.ends? = some key

def Stops (key : UInt64) (t : Turn) : Prop := .request (.cancelUpload key) ∈ t.effects

instance (key : UInt64) (t : Turn) : Decidable (t.Reports key) :=
  inferInstanceAs (Decidable (_ = _))

instance (key : UInt64) (t : Turn) : Decidable (t.Stops key) :=
  inferInstanceAs (Decidable (_ ∈ _))

/-- The upload is running in an entry that is saved or deleted by then. -/
def Wipes (past : History) (key : UInt64) (t : Turn) : Prop :=
  ∃ e ∈ t.before.form.entries, (∃ slot, e.Runs slot key) ∧
    ∃ r, t.action = .reply r ∧ past.Outstanding r.token ∧ r.Writes e.kind

end Turn

/-- An upload that was started is over. -/
def History.Over (key : UInt64) : History → Prop
  | [] => False
  | t :: past =>
    key ∈ uploads (t :: past) ∧ (t.Reports key ∨ t.Stops key ∨ t.Wipes past key) ∨ Over key past

/-! ## Uploads in an edit buffer -/

namespace Entry

variable {e e' : Entry} {slot place : Slot} {key : UInt64} {change : Draft → Draft}

theorem mem_runningKeys : key ∈ e.runningKeys ↔ ∃ slot, e.Runs slot key := by
  simp only [runningKeys, List.mem_filterMap, Files.mem_toList_iff, Runs]
  constructor
  · rintro ⟨d, ⟨slot, hd⟩, h⟩
    split at h
    · rename_i uploading
      obtain ⟨u, hu, rfl⟩ := Option.map_eq_some_iff.1 h
      refine ⟨slot, d, u, hd, hu, rfl, ?_⟩
      simpa [Draft.isUploading, hu] using uploading
    · cases h
  · rintro ⟨slot, d, u, hd, hu, rfl, running⟩
    refine ⟨d, ⟨slot, hd⟩, ?_⟩
    rw [if_pos (by simpa [Draft.isUploading, hu] using running), hu]
    rfl

theorem Runs.holds (h : e.Runs slot key) : e.Holds slot key := by
  obtain ⟨d, u, hd, hu, hkey, -⟩ := h
  exact ⟨d, u, hd, hu, hkey⟩

theorem Holds.congr (same : slot.Same place) (h : e.Holds slot key) : e.Holds place key := by
  obtain ⟨d, u, hd, hu, hkey⟩ := h
  exact ⟨d, u, (Files.get?_congr _ same).symm.trans hd, hu, hkey⟩

theorem Holds.of_eq (h : e'.Holds slot key) (hd : e'.draftFiles = e.draftFiles) :
    e.Holds slot key := by
  rwa [Holds, ← hd]

theorem Runs.of_eq (h : e.Runs slot key) (hd : e'.draftFiles = e.draftFiles) :
    e'.Runs slot key := by
  rwa [Runs, hd]

theorem not_holds_empty (h : e.draftFiles = .empty) : ¬ e.Holds slot key := by
  rintro ⟨d, u, hd, -⟩
  simp [h] at hd

theorem not_holds_snapshot (h : e.draftFiles = e.files.map Draft.ofStored) :
    ¬ e.Holds slot key := by
  rintro ⟨d, u, hd, hu, -⟩
  rw [h, Files.get?_map, Option.map_eq_some_iff] at hd
  obtain ⟨f, -, rfl⟩ := hd
  cases hu

theorem Holds.of_modify (h : e'.Holds slot key)
    (hd : e'.draftFiles = e.draftFiles.modify place change)
    (keeps : ∀ d u', (change d).upload = some u' → ∃ u, d.upload = some u ∧ u.key = u'.key) :
    e.Holds slot key := by
  obtain ⟨d', u', hd', hu', rfl⟩ := h
  by_cases same : place.Same slot
  · rw [hd, Files.get?_modify_of_same same, Option.map_eq_some_iff] at hd'
    obtain ⟨d, found, rfl⟩ := hd'
    obtain ⟨u, hu, hkey⟩ := keeps d u' hu'
    exact ⟨d, u, found, hu, hkey⟩
  · rw [hd, Files.get?_modify_of_not_same same] at hd'
    exact ⟨d', u', hd', hu', rfl⟩

theorem Runs.of_modify (h : e.Runs slot key)
    (hd : e'.draftFiles = e.draftFiles.modify place change)
    (keeps : ∀ d u, e.draftFiles.get? place = some d → d.upload = some u → u.key = key →
      u.transfer.isRunning = true →
      ∃ u', (change d).upload = some u' ∧ u'.key = key ∧ u'.transfer.isRunning = true) :
    e'.Runs slot key := by
  obtain ⟨d, u, found, hu, hkey, running⟩ := h
  by_cases same : place.Same slot
  · have here : e.draftFiles.get? place = some d := (Files.get?_congr _ same).trans found
    obtain ⟨u', hu', hkey', running'⟩ := keeps d u here hu hkey running
    refine ⟨change d, u', ?_, hu', hkey', running'⟩
    rw [hd, Files.get?_modify_of_same same, found, Option.map_some]
  · refine ⟨d, u, ?_, hu, hkey, running⟩
    rw [hd, Files.get?_modify_of_not_same same, found]

theorem Runs.of_modify_upload (h : e.Runs slot key)
    (hd : e'.draftFiles = e.draftFiles.modify place change)
    (same : ∀ d, (change d).upload = d.upload) : e'.Runs slot key :=
  h.of_modify hd fun d u _ hu hkey running => ⟨u, (same d).trans hu, hkey, running⟩

theorem not_runs_of_quiet (quiet : e.isBusy = false) : ¬ e.Runs slot key := by
  rintro ⟨d, u, hd, hu, -, running⟩
  obtain ⟨-, -, -, idle⟩ := quiet_iff.1 quiet
  have uploading : d.isUploading = true := by simpa [Draft.isUploading, hu] using running
  have busy : e.isUploading = true :=
    List.any_eq_true.2 ⟨d, Files.mem_toList_iff.2 ⟨slot, hd⟩, uploading⟩
  exact absurd (busy.symm.trans idle) (by simp)

theorem holds_clearIfIdle (h : e.clearIfIdle.Holds slot key) : e.Holds slot key := by
  unfold clearIfIdle at h
  split at h
  · exact absurd h (not_holds_empty rfl)
  · exact h

theorem holds_atSave (h : e.atSave.Holds slot key) : e.Holds slot key := by
  unfold atSave at h
  split at h
  · exact absurd h (not_holds_snapshot rfl)
  · exact h

theorem not_holds_spared : ¬ e.spared.Holds slot key := by
  simp only [spared]
  split
  · exact not_holds_snapshot rfl
  · exact not_holds_empty rfl

theorem not_holds_commit (c : Contents) : ¬ (e.commit c).Holds slot key := by
  simp only [commit]
  split
  · exact not_holds_empty rfl
  · exact not_holds_snapshot rfl

theorem not_holds_reset : ¬ e.reset.Holds slot key := by
  simp only [reset]
  split
  · exact not_holds_snapshot rfl
  · exact not_holds_empty rfl

/-- A buffer in which a file is uploading is not cleared. -/
theorem Runs.clearIfIdle (h : e.Runs slot key) : e.clearIfIdle.Runs slot key := by
  unfold Entry.clearIfIdle
  split
  · rename_i idle
    exact absurd h (not_runs_of_quiet (eq_false_of_ne_true idle.2))
  · exact h

end Entry

theorem FileEvent.key_draftChange {event : FileEvent} {key : UInt64} {change : Draft → Draft}
    (h : event.draftChange? = some (key, change)) (d : Draft) {u' : Upload}
    (hu' : (change d).upload = some u') : ∃ u, d.upload = some u ∧ u.key = u'.key := by
  cases event <;> cases h
  · obtain ⟨u, hu, rfl⟩ := Option.map_eq_some_iff.1 hu'
    exact ⟨u, hu, rfl⟩
  · obtain ⟨u, hu, rfl⟩ := Option.map_eq_some_iff.1 hu'
    exact ⟨u, hu, rfl⟩
  · cases hu : d.upload with
    | none => simp [Draft.fail, hu] at hu'
    | some u =>
        cases hr : u.replaced with
        | none =>
            simp only [Draft.fail, hu, hr, Option.some.injEq] at hu'
            exact ⟨u, rfl, hu' ▸ rfl⟩
        | some twin => simp [Draft.fail, hu, hr, Draft.ofTwin] at hu'

theorem FileEvent.runs_draftChange {event : FileEvent} {key : UInt64} {change : Draft → Draft}
    (h : event.draftChange? = some (key, change)) (unended : event.ends? ≠ some key) {d : Draft}
    {u : Upload} (hu : d.upload = some u) :
    ∃ u', (change d).upload = some u' ∧ u'.key = u.key ∧ u'.transfer.isRunning = true := by
  cases event <;> cases h
  · exact ⟨_, congrArg (Option.map _) hu, rfl, rfl⟩
  · exact absurd rfl unended
  · exact absurd rfl unended

namespace Session

open Entry

variable {s s' : Session} {now : Nat} {a : Action} {e e' : Entry} {es : List Effect} {slot : Slot}
  {key : UInt64}

/-- What an edit buffer holds was there before, or its upload starts now. -/
theorem Change.holds (h : s.Change now a e es e') (held : e'.Holds slot key) :
    e.Holds slot key ∨ ∃ role bytes, .request (.uploadFile key role bytes) ∈ es ∧
      (e.draftFiles.nextSlot role).Same slot := by
  cases h with
  | openedFirst => exact absurd held (not_holds_snapshot rfl)
  | cleared => exact .inl (holds_clearIfIdle held)
  | blocked => exact .inl (holds_atSave (held.of_modify rfl fun d u hu => ⟨u, hu, rfl⟩))
  | spared => exact absurd held not_holds_spared
  | misdated => exact .inl (holds_atSave (held.of_eq rfl))
  | saved _ _ _ _ _ _ hsent =>
      subst hsent
      exact .inl (holds_atSave (held.of_eq rfl))
  | reported => exact .inl ((holds_clearIfIdle held).of_eq rfl)
  | @uploaded role key' date bytes =>
      obtain ⟨d, u, hd, hu, hkey⟩ := held
      rw [Files.get?_add] at hd
      split at hd
      · rename_i same
        cases hd
        cases hu
        cases hkey
        exact .inr ⟨role, bytes, List.mem_cons_self, same⟩
      · exact .inl ⟨d, u, hd, hu, hkey⟩
  | marked => exact .inl (held.of_modify rfl fun d u hu => ⟨u, hu, rfl⟩)
  | transferred _ event => exact .inl (held.of_modify rfl fun d _ => FileEvent.key_draftChange event d)
  | shown =>
      refine .inl (held.of_modify rfl fun d u hu => ?_)
      split at hu
      · exact ⟨u, hu, rfl⟩
      · exact ⟨u, hu, rfl⟩
  | _ => exact .inl (held.of_eq rfl)

/-- An upload goes on running unless it is reported to have ended or cancelled. -/
theorem Change.runs (h : s.Change now a e es e') (runs : e.Runs slot key) :
    e'.Runs slot key ∨ a.ends? = some key ∨ .request (.cancelUpload key) ∈ es := by
  cases h with
  | openedFirst _ _ quiet => exact absurd runs (not_runs_of_quiet quiet)
  | cleared => exact .inl runs.clearIfIdle
  | blocked _ quiet => exact absurd runs (not_runs_of_quiet quiet)
  | spared _ _ _ quiet => exact absurd runs (not_runs_of_quiet quiet)
  | misdated _ quiet => exact absurd runs (not_runs_of_quiet quiet)
  | saved _ _ _ _ quiet => exact absurd runs (not_runs_of_quiet quiet)
  | reported =>
      have runs : { e with write := .idle }.Runs slot key := runs
      exact .inl runs.clearIfIdle
  | @uploaded role key' date bytes =>
      obtain ⟨d, u, hd, hu, hkey, running⟩ := runs
      by_cases same : (e.draftFiles.nextSlot role).Same slot
      · refine .inr (.inr ?_)
        have old : e.draftFiles.get? (e.draftFiles.nextSlot role) = some d :=
          (Files.get?_congr _ same).trans hd
        have uploading : d.isUploading = true := by simpa [Draft.isUploading, hu] using running
        subst hkey
        simp [displaced, old, uploading, hu, Option.filter]
      · refine .inl ⟨d, u, ?_, hu, hkey, running⟩
        rw [Files.get?_add, if_neg same, hd]
  | marked => exact .inl (runs.of_modify_upload rfl fun _ => rfl)
  | @transferred event change place d u ha hevent hd hu =>
      by_cases ended : event.ends? = some key
      · exact .inr (.inl (ha ▸ ended))
      · refine .inl (runs.of_modify rfl fun d' u' hd' hu' hkey' running' => ?_)
        cases Option.some.inj (hd.symm.trans hd')
        cases Option.some.inj (hu.symm.trans hu')
        have unended : event.ends? ≠ some u.key := fun h => ended (h.trans (congrArg some hkey'))
        obtain ⟨u', hu', same, running⟩ := event.runs_draftChange hevent unended hu
        exact ⟨u', hu', same.trans hkey', running⟩
  | shown =>
      refine .inl (runs.of_modify_upload rfl fun d => ?_)
      split <;> rfl
  | _ => exact .inl (runs.of_eq rfl)

/-- A new upload runs in its slot. -/
theorem Change.starts {role : Role} {bytes : List UInt8} (h : s.Change now a e es e')
    (hx : .request (.uploadFile key role bytes) ∈ es) : ∃ slot, e'.Runs slot key := by
  cases h with
  | @uploaded role' key' date bytes' =>
      rcases List.mem_cons.1 hx with same | new
      · cases same
        refine ⟨e.draftFiles.nextSlot role, e.newDraft role key date bytes, _, ?_, rfl, rfl, rfl⟩
        rw [Files.get?_add, if_pos ⟨rfl, .inr rfl⟩]
      · cases displaced_calm e role' _ new
  | checked _ _ _ hr =>
      subst hr
      split at hx <;> simp at hx
  | givenUp => simp at hx
  | _ => simp at hx

theorem Uptake.holds {task : Task} {outcome : Outcome} (h : s.Uptake now e task outcome es e')
    (held : e'.Holds slot key) : e.Holds slot key := by
  cases h with
  | saved => exact absurd held (not_holds_commit _)
  | deleted => exact absurd held not_holds_reset
  | _ => exact held.of_eq rfl

/-- An upload goes on running unless its entry is written. -/
theorem Uptake.runs {task : Task} {r : Reply} (h : s.Uptake now e task r.outcome es e')
    (ht : r.token.pending = .task task e.kind) (runs : e.Runs slot key) :
    e'.Runs slot key ∨ r.Writes e.kind := by
  generalize ho : r.outcome = outcome at h
  cases h with
  | @saved element hk => exact .inr (.inl ⟨ht, element, ho, hk⟩)
  | @deleted response => exact .inr (.inr ⟨ht, response, ho⟩)
  | _ => exact .inl (runs.of_eq rfl)

theorem Uptake.starts_none {task : Task} {outcome : Outcome} {role : Role} {bytes : List UInt8}
    (h : s.Uptake now e task outcome es e') : .request (.uploadFile key role bytes) ∉ es := by
  intro hx
  cases h with
  | accepted => simp at hx
  | acceptedLocked => simp at hx
  | _ => simp at hx

/-- A change starts one upload at most. -/
theorem Change.role_eq {role role' : Role} {bytes bytes' : List UInt8} {key' : UInt64}
    (h : s.Change now a e es e') (hx : .request (.uploadFile key role bytes) ∈ es)
    (hx' : .request (.uploadFile key' role' bytes') ∈ es) : role = role' := by
  cases h with
  | uploaded =>
      rcases uploading_cases hx with same | calm
      · rcases uploading_cases hx' with same' | calm'
        · cases same.trans same'.symm
          rfl
        · cases calm'
      · cases calm
  | checked _ _ _ hr =>
      subst hr
      split at hx <;> simp at hx
  | givenUp => simp at hx
  | _ => simp at hx

end Session

/-! ## Uploads in a form -/

theorem mem_uploadsOf {effects : List Effect} {key : UInt64} : key ∈ uploadsOf effects ↔
    ∃ role bytes, .request (.uploadFile key role bytes) ∈ effects := by
  simp only [uploadsOf, List.mem_filterMap]
  constructor
  · rintro ⟨x, hx, hkey⟩
    cases x with
    | notice n => cases hkey
    | request r =>
        cases r <;> cases hkey
        exact ⟨_, _, hx⟩
  · rintro ⟨role, bytes, hx⟩
    exact ⟨_, hx, rfl⟩

@[simp] theorem uploadsOf_append (xs ys : List Effect) :
    uploadsOf (xs ++ ys) = uploadsOf xs ++ uploadsOf ys := List.filterMap_append

@[simp] theorem History.uploads_cons (t : Turn) (past : History) :
    uploads (t :: past) = past.uploads ++ uploadsOf t.effects := uploadsOf_append _ _

theorem History.started_of_over {past : History} {key : UInt64} (ended : past.Over key) :
    key ∈ past.uploads := by
  induction past with
  | nil => exact ended.elim
  | cons t past ih =>
      rcases ended with ⟨started, -⟩ | ended
      · exact started
      · rw [uploads_cons]
        exact List.mem_append_left _ (ih ended)

theorem uploadsOf_of_calm {es : List Effect} (calm : ∀ x ∈ es, x.isCalm = true) :
    uploadsOf es = [] := by
  apply List.eq_nil_iff_forall_not_mem.2
  intro key hkey
  obtain ⟨role, bytes, hx⟩ := mem_uploadsOf.1 hkey
  cases calm _ hx

namespace Form

def Runs (key : UInt64) (f : Form) : Prop := ∃ e ∈ f.entries, ∃ slot, e.Runs slot key

/-- Every upload that an edit buffer holds was started, and only one slot holds it. -/
structure Tracks (log : List UInt64) (f : Form) : Prop where
  started : ∀ e ∈ f.entries, ∀ slot key, e.Holds slot key → key ∈ log
  once : ∀ e ∈ f.entries, ∀ e' ∈ f.entries, ∀ slot slot' key, e.Holds slot key →
    e'.Holds slot' key → e.kind = e'.kind ∧ slot.Same slot'

variable {f f' : Form} {log new : List UInt64} {key : UInt64} {e : Entry} {g : Entry → Entry}

theorem Tracks.mono (tracks : f.Tracks log) : f.Tracks (log ++ new) where
  started := fun e he slot key held => List.mem_append_left _ (tracks.started e he slot key held)
  once := tracks.once

theorem Tracks.of_holds (tracks : f.Tracks log)
    (h : ∀ e' ∈ f'.entries, ∀ slot key, e'.Holds slot key →
      ∃ e ∈ f.entries, e.kind = e'.kind ∧ e.Holds slot key) : f'.Tracks log where
  started := by
    intro e' he' slot key held
    obtain ⟨e, he, -, held⟩ := h e' he' slot key held
    exact tracks.started e he slot key held
  once := by
    intro x' hx' y' hy' slot slot' key held held'
    obtain ⟨x, hx, hk, held⟩ := h x' hx' slot key held
    obtain ⟨y, hy, hk', held'⟩ := h y' hy' slot' key held'
    rw [← hk, ← hk']
    exact tracks.once x hx y hy slot slot' key held held'

theorem Tracks.of_nil (h : f.entries = []) : f.Tracks log where
  started := by simp [h]
  once := by simp [h]

theorem Tracks.modify (tracks : f.Tracks log) (distinct : (f.entries.map Entry.kind).Nodup)
    (he : f.entry? e.kind = some e) (hk : (g e).kind = e.kind) (place : Slot)
    (fresh : ∀ key ∈ new, key ∉ log)
    (h : ∀ slot key, (g e).Holds slot key →
      e.Holds slot key ∨ key ∈ new ∧ place.Same slot) :
    (f.modify e.kind g).Tracks (log ++ new) := by
  have origin {x : Entry} (hx : x ∈ (f.modify e.kind g).entries) {slot : Slot} {key : UInt64}
      (held : x.Holds slot key) : (∃ y ∈ f.entries, y.kind = x.kind ∧ y.Holds slot key) ∨
        x.kind = e.kind ∧ key ∈ new ∧ place.Same slot := by
    rcases mem_modify distinct he hx with rfl | ⟨hx, -⟩
    · exact (h slot key held).imp (fun held => ⟨e, mem_of_entry he, hk.symm, held⟩) (⟨hk, ·⟩)
    · exact .inl ⟨x, hx, rfl, held⟩
  constructor
  · intro x hx slot key held
    rcases origin hx held with ⟨y, hy, -, held⟩ | ⟨-, added, -⟩
    · exact List.mem_append_left _ (tracks.started y hy slot key held)
    · exact List.mem_append_right _ added
  · intro x hx x' hx' slot slot' key held held'
    rcases origin hx held with ⟨y, hy, hyk, held⟩ | ⟨hxk, added, here⟩
    · rcases origin hx' held' with ⟨y', hy', hyk', held'⟩ | ⟨-, added', -⟩
      · rw [← hyk, ← hyk']
        exact tracks.once y hy y' hy' slot slot' key held held'
      · exact absurd (tracks.started y hy slot key held) (fresh key added')
    · rcases origin hx' held' with ⟨y', hy', -, held'⟩ | ⟨hxk', -, here'⟩
      · exact absurd (tracks.started y' hy' slot' key held') (fresh key added)
      · refine ⟨hxk.trans hxk'.symm, here.1.symm.trans here'.1, ?_⟩
        rcases here.2 with special | index
        · exact .inl (here.1 ▸ special)
        · rcases here'.2 with special | index'
          · exact .inl (here.1 ▸ special)
          · exact .inr (index.symm.trans index')

theorem Runs.modify {P : Prop} (runs : f.Runs key) (distinct : (f.entries.map Entry.kind).Nodup)
    (he : f.entry? e.kind = some e)
    (h : ∀ slot, e.Runs slot key → (g e).Runs slot key ∨ P) : (f.modify e.kind g).Runs key ∨ P := by
  obtain ⟨x, hx, slot, running⟩ := runs
  have there : (if x.kind = e.kind then g x else x) ∈ (f.modify e.kind g).entries :=
    List.mem_map_of_mem (f := fun x => if x.kind = e.kind then g x else x) hx
  by_cases hk : x.kind = e.kind
  · obtain rfl := eq_of_kind_eq distinct hx (mem_of_entry he) hk
    rw [if_pos rfl] at there
    exact (h slot running).imp_left fun running => ⟨_, there, slot, running⟩
  · rw [if_neg hk] at there
    exact .inl ⟨x, there, slot, running⟩

/-- The slot that holds an upload is found by its key, and no other one holds it. -/
def HoldsOnce (key : UInt64) (f : Form) : Prop :=
  ∃ place, f.findUpload? key = some place ∧
    ∀ e ∈ f.entries, ∀ slot ∈ e.slots, e.Holds slot key → (⟨e.kind, slot⟩ : Place) = place

theorem holds_of_findUpload? {place : Place} (h : f.findUpload? key = some place) :
    ∃ e ∈ f.entries, e.kind = place.kind ∧ place.slot ∈ e.slots ∧ e.Holds place.slot key :=
  findUpload?_eq_some h

theorem findUpload?_isSome {slot : Slot} (he : e ∈ f.entries) (held : e.Holds slot key) :
    (f.findUpload? key).isSome = true := by
  obtain ⟨d, u, hd, hu, hkey⟩ := held
  obtain ⟨place, hplace, same⟩ := Files.mem_slots_of_get? (f := e.files) hd
  have here : e.draftFiles.get? place = some d := (Files.get?_congr _ same).symm.trans hd
  refine List.findSome?_isSome_iff.2 ⟨e, he, List.findSome?_isSome_iff.2 ⟨place, hplace, ?_⟩⟩
  simp [here, hu, hkey]

theorem Tracks.holdsOnce (tracks : f.Tracks log) {slot : Slot} (he : e ∈ f.entries)
    (held : e.Holds slot key) : f.HoldsOnce key := by
  obtain ⟨place, found⟩ := Option.isSome_iff_exists.1 (findUpload?_isSome he held)
  obtain ⟨x, hx, hk, hslot, holds⟩ := holds_of_findUpload? found
  refine ⟨place, found, fun y hy slot' hslot' held' => ?_⟩
  obtain ⟨kinds, same⟩ := tracks.once x hx y hy _ _ key holds held'
  obtain ⟨kind, slot⟩ := place
  rw [← Files.eq_of_same_of_mem_slots hslot hslot' same, ← kinds, hk]

theorem drafts_takeElements (f : Form) (elements : List StoredElement)
    (errors : List ElementError) :
    (f.takeElements elements errors).entries.map (fun e => (e.kind, e.draftFiles)) =
      f.entries.map fun e => (e.kind, e.draftFiles) := by
  refine takeElements_map (fun _ _ => rfl) fun e x => ?_
  obtain ⟨_, _, _, _, _, _, applied, -⟩ := e.applyError_eq x
  rw [applied]

theorem exists_of_drafts_eq
    (h : f'.entries.map (fun e => (e.kind, e.draftFiles)) =
      f.entries.map fun e => (e.kind, e.draftFiles)) {e' : Entry} (he' : e' ∈ f'.entries) :
    ∃ e ∈ f.entries, e.kind = e'.kind ∧ e.draftFiles = e'.draftFiles := by
  have there : (e'.kind, e'.draftFiles) ∈ f.entries.map fun e => (e.kind, e.draftFiles) :=
    h ▸ List.mem_map_of_mem he'
  obtain ⟨e, he, same⟩ := List.mem_map.1 there
  exact ⟨e, he, (Prod.mk.inj same).1, (Prod.mk.inj same).2⟩

end Form

end IdentityForm
