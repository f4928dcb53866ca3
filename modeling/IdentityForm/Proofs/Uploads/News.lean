import IdentityForm.Proofs.Shown.Run
import IdentityForm.Proofs.Uploads.Run

/-! # News of uploads

How far an upload has come is what the latest news of it say. Its bytes go with the first report that
it has ended, whatever is reported later; so an upload that is reported to go on after its end is under
way without any bytes, and keeps its entry busy.
-/

namespace IdentityForm

/-! ## News in a history -/

namespace FileEvent

def upload? (event : FileEvent) : Option UInt64 := event.draftChange?.map (·.1)

def transfer : FileEvent → Transfer
  | .uploadProgress _ offset => .inProgress offset
  | .uploadFailed _ => .failed
  | _ => .done

def revise (event : FileEvent) (key : UInt64) (d : Draft) : Draft :=
  match event.draftChange? with
  | some (other, change) => if other = key then change d else d
  | none => d

end FileEvent

/-- The news of an upload that an open session takes in. -/
def Turn.news? (key : UInt64) (t : Turn) : Option FileEvent :=
  match t.action with
  | .file event => if t.before.cancelled = false ∧ event.upload? = some key then some event else none
  | _ => none

namespace History

def news (key : UInt64) : History → List FileEvent
  | [] => []
  | t :: past => (if key ∈ uploads past then (t.news? key).toList else []) ++ news key past

/-- An upload was reported to have ended, and according to the latest news it goes on. -/
def Revived (key : UInt64) (past : History) : Prop :=
  ∃ event earlier, past.news key = event :: earlier ∧ event.transfer.isRunning = true ∧
    ∃ ended ∈ earlier, ended.transfer.isRunning = false

theorem news_eq_nil {key : UInt64} {past : History} (unstarted : key ∉ past.uploads) :
    past.news key = [] := by
  induction past with
  | nil => rfl
  | cons t past ih =>
      rw [uploads_cons, List.mem_append, not_or] at unstarted
      rw [news, if_neg unstarted.1, ih unstarted.1]
      rfl

theorem news_cons_of_none {key : UInt64} {t : Turn} {past : History} (silent : t.news? key = none) :
    news key (t :: past) = news key past := by
  rw [news, silent]
  split <;> rfl

end History

structure Upload.Follows (news : List FileEvent) (u : Upload) : Prop where
  transfer : u.transfer = (news.head?.map FileEvent.transfer).getD (.inProgress 0)
  bytes : u.bytes = none ↔ ∃ event ∈ news, event.transfer.isRunning = false

/-! ## Uploads in a slot -/

namespace Entry

variable {e e' : Entry} {slot place : Slot} {u : Upload} {change : Draft → Draft}

/-- A slot of the edit buffer holds just this upload. -/
def Bears (slot : Slot) (u : Upload) (e : Entry) : Prop :=
  ∃ d, e.draftFiles.get? slot = some d ∧ d.upload = some u

theorem Bears.holds (h : e.Bears slot u) : e.Holds slot u.key := by
  obtain ⟨d, hd, hu⟩ := h
  exact ⟨d, u, hd, hu, rfl⟩

theorem Bears.of_eq (h : e'.Bears slot u) (hd : e'.draftFiles = e.draftFiles) :
    e.Bears slot u := by
  rwa [Bears, ← hd]

theorem Bears.of_modify (h : e'.Bears slot u)
    (hd : e'.draftFiles = e.draftFiles.modify place change)
    (same : ∀ d, (change d).upload = d.upload) : e.Bears slot u := by
  obtain ⟨d', hd', hu⟩ := h
  by_cases here : place.Same slot
  · rw [hd, Files.get?_modify_of_same here, Option.map_eq_some_iff] at hd'
    obtain ⟨d, found, rfl⟩ := hd'
    exact ⟨d, found, (same d).symm.trans hu⟩
  · rw [hd, Files.get?_modify_of_not_same here] at hd'
    exact ⟨d', hd', hu⟩

theorem bears_clearIfIdle (h : e.clearIfIdle.Bears slot u) : e.Bears slot u := by
  unfold clearIfIdle at h
  split at h
  · exact absurd h.holds (not_holds_empty rfl)
  · exact h

/-- News reach the draft in a slot. Where no editor is open and nothing is under way any more, the
buffer has the committed fields and no files after that. -/
def hear (slot : Slot) (change : Draft → Draft) (e : Entry) : Entry :=
  let told := { e with draftFiles := e.draftFiles.modify slot change }
  if told.editors = 0 ∧ ¬ told.isBusy then
    { told with draftFields := told.fields, draftFiles := .empty }
  else told

theorem hear_eq_clearIfIdle (slot : Slot) (change : Draft → Draft) (e : Entry) :
    e.hear slot change = clearIfIdle { e with draftFiles := e.draftFiles.modify slot change } := rfl

theorem kind_hear (slot : Slot) (change : Draft → Draft) (e : Entry) :
    (e.hear slot change).kind = e.kind := kind_clearIfIdle _

theorem bears_atSave (h : e.atSave.Bears slot u) : e.Bears slot u := by
  unfold atSave at h
  split at h
  · exact absurd h.holds (not_holds_snapshot rfl)
  · exact h

theorem isBusy_clearIfIdle (e : Entry) : e.clearIfIdle.isBusy = e.isBusy := by
  unfold clearIfIdle
  split
  · rename_i idle
    obtain ⟨write, request, codeLength, -⟩ := quiet_iff.1 (eq_false_of_ne_true idle.2)
    rw [eq_false_of_ne_true idle.2]
    exact quiet_iff.2 ⟨write, request, codeLength, rfl⟩
  · rfl

theorem hear_eq (slot : Slot) (change : Draft → Draft) (e : Entry) :
    e.hear slot change = { e with draftFiles := e.draftFiles.modify slot change } ∨
      (e.hear slot change).AtRest ∧ (e.hear slot change).draftFiles = .empty := by
  rw [hear_eq_clearIfIdle]
  unfold clearIfIdle
  split
  · rename_i idle
    obtain ⟨write, request, codeLength, -⟩ := quiet_iff.1 (eq_false_of_ne_true idle.2)
    exact .inr ⟨⟨idle.1, quiet_iff.2 ⟨write, request, codeLength, rfl⟩⟩, rfl⟩
  · exact .inl rfl

end Entry

theorem FileEvent.isUploading_draftChange {event : FileEvent} {key : UInt64}
    {change : Draft → Draft} (news : event.draftChange? = some (key, change)) {d : Draft} {u : Upload}
    (hu : d.upload = some u) :
    (change d).isUploading = true ↔ ∃ offset, event = .uploadProgress key offset := by
  cases event <;> cases news
  · simp [Draft.isUploading, Draft.progress, hu, Transfer.isRunning]
  · simp [Draft.isUploading, Draft.finish, hu, Transfer.isRunning]
  · cases hr : u.replaced <;>
      simp [Draft.isUploading, Draft.fail, hu, hr, Draft.ofTwin, Transfer.isRunning]

theorem FileEvent.revise_of_key {event : FileEvent} {key : UInt64} {change : Draft → Draft}
    (news : event.draftChange? = some (key, change)) (d : Draft) : event.revise key d = change d := by
  rw [revise, news]
  exact if_pos rfl

theorem FileEvent.revise_of_other {event : FileEvent} {key other : UInt64}
    {change : Draft → Draft} (news : event.draftChange? = some (key, change)) (apart : key ≠ other)
    (d : Draft) : event.revise other d = d := by
  rw [revise, news]
  exact if_neg apart

namespace Entry

variable {e : Entry} {slot : Slot} {event : FileEvent} {key : UInt64} {change : Draft → Draft}

/-- Of all news of an upload only those that it goes on make a quiet entry busy. -/
theorem isBusy_hear (quiet : e.isBusy = false) (held : e.Holds slot key)
    (news : event.draftChange? = some (key, change)) :
    (e.hear slot change).isBusy = true ↔ ∃ offset, event = .uploadProgress key offset := by
  obtain ⟨write, request, codeLength, idle⟩ := quiet_iff.1 quiet
  have uploading : (e.hear slot change).isBusy =
      isUploading { e with draftFiles := e.draftFiles.modify slot change } := by
    rw [hear_eq_clearIfIdle, isBusy_clearIfIdle]
    simp [isBusy, write, request, codeLength]
  rw [uploading, isUploading_iff]
  constructor
  · rintro ⟨place, d', hd', uploads⟩
    by_cases here : slot.Same place
    · obtain ⟨d, u, hd, hu, -⟩ := held.congr here
      rw [Files.get?_modify_of_same here, hd] at hd'
      cases hd'
      exact (FileEvent.isUploading_draftChange news hu).1 uploads
    · rw [Files.get?_modify_of_not_same here] at hd'
      exact absurd ((isUploading_iff.2 ⟨place, d', hd', uploads⟩).symm.trans idle) (by simp)
  · intro goes_on
    obtain ⟨d, u, hd, hu, -⟩ := held
    refine ⟨slot, change d, ?_, (FileEvent.isUploading_draftChange news hu).2 goes_on⟩
    rw [Files.get?_modify_of_same ⟨rfl, .inr rfl⟩, hd, Option.map_some]

theorem bears_download {id : UInt64} {told : StoredFile → StoredFile} {d : Draft} {u : Upload}
    (hd : e.draftFiles.get? slot = some d) (hu : d.upload = some u) :
    (e.download id told).draftFiles.get? slot = some d := by
  refine (Files.get?_map _ _ _).trans ?_
  rw [hd, Option.map_some, Draft.told, if_neg (by simp [hu])]

theorem isBusy_download (id : UInt64) (told : StoredFile → StoredFile) (e : Entry) :
    (e.download id told).isBusy = e.isBusy := by
  have same : (e.download id told).isUploading = e.isUploading := by
    rw [Bool.eq_iff_iff, isUploading_iff, isUploading_iff]
    have uploading (d : Draft) : (d.told id told).isUploading = d.isUploading := by
      unfold Draft.told
      split <;> rfl
    simp only [download, Files.get?_map, Option.map_eq_some_iff]
    constructor
    · rintro ⟨slot, _, ⟨d, hd, rfl⟩, uploads⟩
      exact ⟨slot, d, hd, (uploading d).symm.trans uploads⟩
    · rintro ⟨slot, d, hd, uploads⟩
      exact ⟨slot, _, ⟨d, hd, rfl⟩, (uploading d).trans uploads⟩
  unfold isBusy
  rw [same]
  rfl

end Entry

namespace Session

open Entry

variable {s s' : Session} {now : Nat} {a : Action} {e e' : Entry} {es : List Effect} {slot : Slot}
  {u : Upload}

/-- An upload in an edit buffer stood there before, has just been started, or is what the news of it
make of the one that stood there. -/
theorem Change.bears_cases (h : s.Change now a e es e') (borne : e'.Bears slot u) :
    e.Bears slot u ∨
      (∃ role key date bytes, a = .upload e.kind role key date bytes ∧
        (e.draftFiles.nextSlot role).Same slot ∧ (e.newDraft role key date bytes).upload = some u) ∨
      ∃ event key change d, a = .file event ∧ event.draftChange? = some (key, change) ∧
        e.draftFiles.get? slot = some d ∧ (change d).upload = some u := by
  cases h with
  | openedFirst => exact absurd borne.holds (not_holds_snapshot rfl)
  | cleared => exact .inl (bears_clearIfIdle borne)
  | blocked => exact .inl (bears_atSave (borne.of_modify rfl fun _ => rfl))
  | spared => exact absurd borne.holds not_holds_spared
  | misdated => exact .inl (bears_atSave (borne.of_eq rfl))
  | saved _ _ _ _ _ _ hsent =>
      subst hsent
      exact .inl (bears_atSave (borne.of_eq rfl))
  | reported => exact .inl ((bears_clearIfIdle borne).of_eq rfl)
  | uploaded ha =>
      obtain ⟨d, hd, hu⟩ := borne
      rw [Files.get?_add] at hd
      split at hd
      · rename_i same
        cases hd
        exact .inr (.inl ⟨_, _, _, _, ha, same, hu⟩)
      · exact .inl ⟨d, hd, hu⟩
  | marked => exact .inl (borne.of_modify rfl fun _ => rfl)
  | @transferred event change place _ _ ha news =>
      obtain ⟨d', hd', hu⟩ := borne
      by_cases here : place.Same slot
      · rw [Files.get?_modify_of_same here, Option.map_eq_some_iff] at hd'
        obtain ⟨d, hd, rfl⟩ := hd'
        exact .inr (.inr ⟨event, _, change, d, ha, news, hd, hu⟩)
      · rw [Files.get?_modify_of_not_same here] at hd'
        exact .inl ⟨d', hd', hu⟩
  | shown =>
      refine .inl (borne.of_modify rfl fun d => ?_)
      split <;> rfl
  | _ => exact .inl (borne.of_eq rfl)

/-- Without news of uploads an upload stays what it is, or has just been started. -/
theorem Change.bears (h : s.Change now a e es e')
    (silent : ∀ event, a = .file event → event.draftChange? = none) (borne : e'.Bears slot u) :
    e.Bears slot u ∨ ∃ role date bytes, a = .upload e.kind role u.key date bytes ∧
      u.bytes = some bytes ∧ u.transfer = .inProgress 0 := by
  rcases h.bears_cases borne with before | ⟨role, key, date, bytes, ha, -, new⟩ |
    ⟨event, _, _, _, ha, news, -⟩
  · exact .inl before
  · obtain rfl := Option.some.inj new
    exact .inr ⟨role, date, bytes, ha, rfl, rfl⟩
  · cases (silent event ha).symm.trans news

theorem Uptake.bears {task : Task} {outcome : Outcome} (h : s.Uptake now e task outcome es e')
    (borne : e'.Bears slot u) : e.Bears slot u := by
  cases h with
  | saved => exact absurd borne.holds (not_holds_commit _)
  | deleted => exact absurd borne.holds not_holds_reset
  | _ => exact borne.of_eq rfl

theorem form_upload (s : Session) (kind : Kind) (role : Role) (key : UInt64) (date : Int64)
    (bytes : List UInt8) :
    (s.upload kind role key date bytes).1.form = s.form ∨
      key ∈ uploadsOf (s.upload kind role key date bytes).1.outbox := by
  have outcome := s.uploading kind role key date bytes
  generalize (s.upload kind role key date bytes).1 = t at outcome ⊢
  cases outcome with
  | refused | full => exact .inl rfl
  | taken => exact .inr (mem_uploadsOf.2 ⟨role, bytes, by simp⟩)

/-! ## What news do -/

variable {event : FileEvent} {key : UInt64} {change : Draft → Draft} {kind : Kind}
  {log : List UInt64}

theorem handleFileEvent_of_news (live : s.cancelled = false)
    (news : event.draftChange? = some (key, change)) :
    s.handleFileEvent event = s.updateUpload key change := by
  unfold handleFileEvent
  rw [if_neg (by simp [live])]
  cases event <;> cases news <;> rfl

theorem entry?_updateUpload (s : Session) (key : UInt64) (change : Draft → Draft) (kind : Kind) :
    Form.entry? (s.updateUpload key change).form kind = (s.form.entry? kind).map fun e =>
      match s.form.findUpload? key with
      | some place => if place.kind = kind then e.hear place.slot change else e
      | none => e := by
  unfold updateUpload
  cases s.form.findUpload? key with
  | none => simp
  | some place =>
      have keeps (e : Entry) (hk : e.kind = place.kind) :
          (e.hear place.slot change).kind = place.kind := (e.kind_hear _ _).trans hk
      have form : (((s.modify place.kind fun e =>
          { e with draftFiles := e.draftFiles.modify place.slot change }).notify
            (.scanUpdated place)).clearIfIdle place.kind).form =
          s.form.modify place.kind (Entry.hear place.slot change) := Form.modify_modify fun _ hk => hk
      dsimp only
      rw [form]
      by_cases here : place.kind = kind
      · subst here
        rw [Form.entry?_modify_self keeps]
        simp
      · rw [Form.entry?_modify_ne keeps here]
        simp [here]

/-- News of an upload change the slot that holds it, and nothing else. -/
theorem hears (live : s.cancelled = false) (gated : s.core.Gated) (tracks : s.form.Tracks log)
    (news : event.draftChange? = some (key, change)) (he : s.form.entry? kind = some e) :
    (∃ slot, e.Holds slot key ∧
        Form.entry? (s.handleFileEvent event).form kind = some (e.hear slot change)) ∨
      (∀ slot, ¬ e.Holds slot key) ∧ Form.entry? (s.handleFileEvent event).form kind = some e := by
  obtain rfl := Form.kind_of_entry he
  have there := Form.mem_of_entry he
  rw [handleFileEvent_of_news live news, entry?_updateUpload, he, Option.map_some]
  cases found : s.form.findUpload? key with
  | none =>
      refine .inr ⟨fun slot held => ?_, rfl⟩
      have isSome := Form.findUpload?_isSome there held
      simp [found] at isSome
  | some place =>
      obtain ⟨x, hx, hk, -, holds⟩ := Form.holds_of_findUpload? found
      dsimp only
      by_cases here : place.kind = e.kind
      · obtain rfl := Form.eq_of_kind_eq gated.distinct hx there (hk.trans here)
        exact .inl ⟨place.slot, holds, by rw [if_pos here]⟩
      · refine .inr ⟨fun slot held => here ?_, by rw [if_neg here]⟩
        exact hk.symm.trans (tracks.once x hx e there _ _ key holds held).1

theorem entry?_before_news (live : s.cancelled = false)
    (news : event.draftChange? = some (key, change))
    (he' : Form.entry? (s.handleFileEvent event).form kind = some e') :
    ∃ e, s.form.entry? kind = some e := by
  rw [handleFileEvent_of_news live news, entry?_updateUpload] at he'
  obtain ⟨e, he, -⟩ := Option.map_eq_some_iff.1 he'
  exact ⟨e, he⟩

end Session

theorem Upload.Follows.cons {news : List FileEvent} {event : FileEvent} {key : UInt64}
    {change : Draft → Draft} {d : Draft} {u u' : Upload} (h : u.Follows news)
    (told : event.draftChange? = some (key, change)) (hu : d.upload = some u)
    (hu' : (change d).upload = some u') : u'.Follows (event :: news) := by
  cases event <;> cases told
  · simp only [Draft.progress, hu, Option.map_some, Option.some.injEq] at hu'
    subst hu'
    exact ⟨rfl, h.bytes.trans (by simp [FileEvent.transfer, Transfer.isRunning])⟩
  · simp only [Draft.finish, hu, Option.map_some, Option.some.injEq] at hu'
    subst hu'
    exact ⟨rfl, by simp [FileEvent.transfer, Transfer.isRunning]⟩
  · cases hr : u.replaced with
    | none =>
        simp only [Draft.fail, hu, hr, Option.some.injEq] at hu'
        subst hu'
        exact ⟨rfl, by simp [FileEvent.transfer, Transfer.isRunning]⟩
    | some twin => simp [Draft.fail, hu, hr, Draft.ofTwin] at hu'

namespace Run

open Session

variable {setup : Setup} {past : History} {s : Session}

theorem follows_news (run : Run setup past s) (live : s.cancelled = false)
    (distinct : past.uploads.Nodup) {now : Nat} {event : FileEvent} {key : UInt64}
    {change : Draft → Draft} (told : event.draftChange? = some (key, change))
    (ih : ∀ e ∈ s.form.entries, ∀ slot u, e.Bears slot u → u.Follows (past.news u.key)) :
    ∀ e ∈ (s.handleFileEvent event).form.entries, ∀ slot u, e.Bears slot u →
      u.Follows (History.news u.key (⟨s, now, .file event⟩ :: past)) := by
  intro e' he' slot' u' borne
  have gated : (s.act now (.file event)).1.core.Gated := act_gated run.gated
  have gated : (s.handleFileEvent event).core.Gated := gated
  have tracks := run.tracks distinct
  have there' := Form.entry?_of_mem gated.distinct he'
  obtain ⟨e, he⟩ := entry?_before_news live told there'
  have there := Form.mem_of_entry he
  have about : event.upload? = some key := congrArg (Option.map _) told
  have elsewhere (held : e.Bears slot' u') (other : u'.key ≠ key) :
      u'.Follows (History.news u'.key (⟨s, now, .file event⟩ :: past)) := by
    have silent : Turn.news? u'.key ⟨s, now, .file event⟩ = none :=
      if_neg (by simp [about, Ne.symm other])
    rw [History.news_cons_of_none silent]
    exact ih e there slot' u' held
  rcases hears live run.gated tracks told he with ⟨slot, held, heard⟩ | ⟨unheld, same⟩
  · cases there'.symm.trans heard
    obtain ⟨d', hd', hu'⟩ := Entry.bears_clearIfIdle borne
    by_cases here : slot.Same slot'
    · rw [Files.get?_modify_of_same here, Option.map_eq_some_iff] at hd'
      obtain ⟨d, hd, rfl⟩ := hd'
      obtain ⟨u, hu, hkey⟩ := FileEvent.key_draftChange told d hu'
      obtain ⟨d₀, u₀, hd₀, hu₀, rfl⟩ := held.congr here
      cases hd.symm.trans hd₀
      cases hu.symm.trans hu₀
      have started := tracks.started e there slot u.key held
      have taken : Turn.news? u'.key ⟨s, now, .file event⟩ = some event :=
        if_pos ⟨live, hkey ▸ about⟩
      rw [History.news, if_pos (hkey ▸ started), taken]
      refine Upload.Follows.cons ?_ told hu hu'
      exact hkey ▸ ih e there slot' u ⟨d, hd, hu⟩
    · rw [Files.get?_modify_of_not_same here] at hd'
      have held' : e.Bears slot' u' := ⟨d', hd', hu'⟩
      refine elsewhere held' fun same => here ?_
      exact (tracks.once e there e there _ _ key held (same ▸ held'.holds)).2
  · cases there'.symm.trans same
    exact elsewhere borne fun same => unheld slot' (same ▸ borne.holds)

/-- Along a run with distinct keys every upload is as far as its news say. -/
theorem follows (run : Run setup past s) (distinct : past.uploads.Nodup) :
    ∀ e ∈ s.form.entries, ∀ slot u, e.Bears slot u → u.Follows (past.news u.key) := by
  induction run with
  | start credentials => exact fun e he => absurd he List.not_mem_nil
  | @step past s now action run ordered genuine ih =>
      have later := distinct
      rw [History.uploads_cons] at later
      have before := (List.nodup_append.1 later).1
      have ih := ih before
      show ∀ e ∈ (s.act now action).1.form.entries, _
      by_cases told : ∃ event key change, action = .file event ∧
          event.draftChange? = some (key, change) ∧ s.cancelled = false
      · obtain ⟨event, key, change, rfl, told, live⟩ := told
        exact run.follows_news live before told ih
      · have silent (key : UInt64) : Turn.news? key ⟨s, now, action⟩ = none := by
          unfold Turn.news?
          split
          · rename_i event ha
            refine if_neg fun heard => told ?_
            obtain ⟨⟨key, change⟩, news, -⟩ := Option.map_eq_some_iff.1 heard.2
            exact ⟨event, key, change, ha, news, heard.1⟩
          · rfl
        simp only [History.news_cons_of_none (silent _)]
        by_cases same : (s.act now action).1.form = s.form
        · rw [same]
          exact ih
        · refine (run.acts now action).forall_entries run.gated ?_ ?_ ?_ ?_
            (fun e follows slot u borne => follows slot u borne) ih
          · intro t e e' es change follows slot u borne
            have quiet (event : FileEvent) (ha : action = .file event) :
                event.draftChange? = none := by
              by_contra news
              obtain ⟨⟨key, change⟩, news⟩ := Option.ne_none_iff_exists'.1 news
              refine told ⟨event, key, change, ha, news, ?_⟩
              by_contra closed
              subst ha
              exact same (congrArg Session.form (if_pos (eq_true_of_ne_false closed)))
            rcases change.bears quiet borne with held | ⟨role, date, bytes, ha, hbytes, started⟩
            · exact follows slot u held
            · have fresh : u.key ∉ past.uploads := fun old => by
                subst ha
                refine (List.nodup_append.1 later).2.2 _ old _ ?_ rfl
                exact (form_upload s e.kind role u.key date bytes).resolve_left same
              rw [History.news_eq_nil fresh]
              exact ⟨started, by simp [hbytes]⟩
          · intro r t e e' task es _ uptake follows slot u borne
            exact follows slot u (uptake.bears borne)
          · intro form e he slot u borne
            obtain ⟨kind, rfl⟩ := Form.mem_ofAuthorization he
            exact absurd borne.holds (Entry.not_holds_empty rfl)
          · intro r elements errors _ _ _ e' he' slot u borne
            obtain ⟨e, he, -, drafts⟩ :=
              Form.exists_of_drafts_eq (s.form.drafts_takeElements elements errors) he'
            exact ih e he slot u (borne.of_eq drafts.symm)

/-- The bytes of an upload are there as long as it runs, unless it was reported to go on after its
end. -/
theorem bytes_iff {u : Upload} (h : u.Follows (past.news u.key)) :
    (u.bytes.isSome = true ↔ u.transfer.isRunning = true) ↔ ¬ past.Revived u.key := by
  have kept : u.bytes.isSome = true ↔
      ¬ ∃ event ∈ past.news u.key, event.transfer.isRunning = false := by
    rw [← h.bytes, Option.isSome_iff_ne_none]
  have latest := h.transfer
  rw [kept, History.Revived]
  cases news : past.news u.key with
  | nil => simp [latest, news, Transfer.isRunning]
  | cons event earlier =>
      have running : u.transfer = event.transfer := by simpa [news] using latest
      cases reported : event.transfer.isRunning <;> simp [running, reported]

theorem heard (run : Run setup past s) (live : s.cancelled = false) (distinct : past.uploads.Nodup)
    (event : FileEvent) {e : Entry} (he : e ∈ s.form.entries) :
    ∃ e', Form.entry? (s.handleFileEvent event).form e.kind = some e' ∧
      (e.isBusy = false → (e'.isBusy = true ↔
        ∃ key offset slot, event = .uploadProgress key offset ∧ e.Holds slot key)) ∧
      ∀ slot d u, e.draftFiles.get? slot = some d → d.upload = some u →
        e'.draftFiles.get? slot = some (event.revise u.key d) ∨
          e'.AtRest ∧ e'.draftFiles = .empty := by
  have here : s.form.entry? e.kind = some e := Form.entry?_of_mem run.gated.distinct he
  have tracks := run.tracks distinct
  cases news : event.draftChange? with
  | none =>
      obtain ⟨id, told, download⟩ : ∃ id told, event.fileChange? = some (id, told) := by
        cases event <;> first | exact ⟨_, _, rfl⟩ | cases news
      have after := entry?_handleFileEvent live download e.kind
      rw [here, Option.map_some] at after
      refine ⟨_, after, fun quiet => ?_, fun slot d u hd hu => .inl ?_⟩
      · rw [Entry.isBusy_download, quiet]
        refine ⟨fun busy => (by cases busy), ?_⟩
        rintro ⟨key, offset, slot, rfl, -⟩
        cases news
      · rw [Entry.bears_download hd hu, FileEvent.revise, news]
  | some upload =>
      obtain ⟨key, change⟩ := upload
      rcases hears live run.gated tracks news here with ⟨slot, held, after⟩ | ⟨unheld, after⟩
      · refine ⟨_, after, fun quiet => ?_, fun slot' d u hd hu => ?_⟩
        · rw [Entry.isBusy_hear quiet held news]
          constructor
          · rintro ⟨offset, rfl⟩
            exact ⟨key, offset, slot, rfl, held⟩
          · rintro ⟨key', offset, -, rfl, -⟩
            cases news
            exact ⟨offset, rfl⟩
        · refine (e.hear_eq slot change).imp_left fun modified => ?_
          rw [modified]
          by_cases same : slot.Same slot'
          · obtain ⟨d₀, u₀, hd₀, hu₀, rfl⟩ := held.congr same
            cases hd.symm.trans hd₀
            cases hu.symm.trans hu₀
            rw [Files.get?_modify_of_same same, hd, event.revise_of_key news]
            rfl
          · have apart : key ≠ u.key := fun hkey =>
              same (tracks.once e he e he _ _ key held ⟨d, u, hd, hu, hkey.symm⟩).2
            rw [Files.get?_modify_of_not_same same, hd, event.revise_of_other news apart]
      · refine ⟨e, after, fun quiet => ?_, fun slot d u hd hu => .inl ?_⟩
        · rw [quiet]
          refine ⟨fun busy => (by cases busy), ?_⟩
          rintro ⟨key', offset, slot, rfl, held⟩
          cases news
          exact absurd held (unheld slot)
        · have apart : key ≠ u.key := fun hkey => unheld slot ⟨d, u, hd, hu, hkey.symm⟩
          rw [hd, event.revise_of_other news apart]

/-- Uploads and their news. With distinct keys every upload in an edit buffer is as far as its latest
news say, and its bytes are gone as soon as one of them was that it has ended; so they are there just
as long as it runs, unless it was reported to go on after its end. An event changes an upload only if it
is about it, and then in the way that it says, whether the upload has ended or not; and what makes a
quiet entry busy is the news that an upload goes on which the entry still holds. -/
theorem uploads_follow_news (run : Run setup past s) (distinct : past.uploads.Nodup) :
    (∀ e ∈ s.form.entries, ∀ slot d u, e.draftFiles.get? slot = some d → d.upload = some u →
      u.transfer = ((past.news u.key).head?.map FileEvent.transfer).getD (.inProgress 0) ∧
      (u.bytes = none ↔ ∃ event ∈ past.news u.key, event.transfer.isRunning = false) ∧
      ((u.bytes.isSome = true ↔ u.transfer.isRunning = true) ↔ ¬ past.Revived u.key)) ∧
    (s.cancelled = false → ∀ event, ∀ e ∈ s.form.entries,
      ∃ e', Form.entry? (s.handleFileEvent event).form e.kind = some e' ∧
        (e.isBusy = false → (e'.isBusy = true ↔
          ∃ key offset slot, event = .uploadProgress key offset ∧ e.Holds slot key)) ∧
        ∀ slot d u, e.draftFiles.get? slot = some d → d.upload = some u →
          e'.draftFiles.get? slot = some (event.revise u.key d) ∨
            e'.AtRest ∧ e'.draftFiles = .empty) := by
  refine ⟨fun e he slot d u hd hu => ?_, fun live event e he => run.heard live distinct event he⟩
  have follows := run.follows distinct e he slot u ⟨d, hd, hu⟩
  exact ⟨follows.transfer, follows.bytes, bytes_iff follows⟩

/-- A rendition was uploaded, and nothing was reported after that. -/
theorem uploads_follow_news_when_done :
    let kind : Kind := .identity .passport
    let actions := [(5, .file (.uploadDone 1 9)), (4, .upload kind .rendition 1 0 [0]),
      (4, .startEdit kind)] ++ opening ⟨1, [[⟨kind, false, false, false⟩]], none⟩ []
    let past := (play (.fresh .plain .empty) actions).1
    let s := (play (.fresh .plain .empty) actions).2
    past.news 1 = [.uploadDone 1 9] ∧ ¬ past.Revived 1 ∧
      ∃ e ∈ s.form.entries, e.isBusy = false ∧ ∃ e',
        Form.entry? (s.handleFileEvent (.uploadDone 1 9)).form kind = some e' ∧
          e'.isBusy = false := by
  intro kind actions past s
  have playable : Playable (.fresh .plain .empty) actions := by decide +kernel
  have followed := uploads_follow_news (.of_playable playable) (by decide +kernel)
  have borne : ((s.form.entry? kind).bind fun e =>
      (e.draftFiles.get? ⟨.rendition, some 0⟩).bind (·.upload)) = some ⟨1, none, .done, none⟩ := by
    decide +kernel
  obtain ⟨e, he, borne⟩ := Option.bind_eq_some_iff.1 borne
  obtain ⟨d, hd, hu⟩ := Option.bind_eq_some_iff.1 borne
  have there := Form.mem_of_entry he
  have quiet : e.isBusy = false := by
    have quiet : (s.form.entry? kind).map Entry.isBusy = some false := by decide +kernel
    rw [he] at quiet
    exact Option.some.inj quiet
  obtain ⟨e', he', busy, -⟩ := followed.2 (by decide +kernel) (.uploadDone 1 9) e there
  have hk : e.kind = kind := Form.kind_of_entry he
  refine ⟨by decide +kernel, ?_, e, there, quiet, e', hk ▸ he', ?_⟩
  · exact (followed.1 e there _ d _ hd hu).2.2.1 (by decide)
  · by_contra again
    obtain ⟨_, _, _, progress, -⟩ := (busy quiet).1 (eq_true_of_ne_false again)
    cases progress

/-- A late report that the finished upload goes on keeps the entry busy without any bytes on their way,
so that a save does nothing; and a late report that it failed makes it a failed one. -/
theorem uploads_revived :
    let kind : Kind := .identity .passport
    let ended : List (Nat × Session.Action) := [(5, .file (.uploadDone 1 9)),
      (4, .upload kind .rendition 1 0 [0]), (4, .startEdit kind)] ++
        opening ⟨1, [[⟨kind, false, false, false⟩]], none⟩ []
    let upload? (s : Session) : Option Upload := (s.form.entry? kind).bind fun e =>
      (e.draftFiles.get? ⟨.rendition, some 0⟩).bind (·.upload)
    let start : Session := .fresh .plain .empty
    let revived := (6, .file (.uploadProgress 1 5)) :: ended
    let failed := (6, .file (.uploadFailed 1)) :: ended
    (Playable start revived ∧ Playable start failed) ∧
      upload? (play start ended).2 = some ⟨1, none, .done, none⟩ ∧
      (Session.entry? (play start ended).2 kind).map Entry.isBusy = some false ∧
      upload? (play start revived).2 = some ⟨1, none, .inProgress 5, none⟩ ∧
      (Session.entry? (play start revived).2 kind).map Entry.isBusy = some true ∧
      ((play start revived).2.act 7 (.save kind (.ofTexts [("document_no", "AB1")]))).1 =
        (play start revived).2 ∧
      upload? (play start failed).2 = some ⟨1, none, .failed, none⟩ := by
  refine ⟨⟨?_, ?_⟩, ?_, ?_, ?_, ?_, ?_, ?_⟩ <;> decide +kernel

end Run

end IdentityForm
