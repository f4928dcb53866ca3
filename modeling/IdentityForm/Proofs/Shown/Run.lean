import IdentityForm.Proofs.Downloads
import IdentityForm.Proofs.Shown
import IdentityForm.Proofs.Unreported

/-! # Files that are shown as loading

What is shown as loading is being downloaded, and the edit buffer has the pictures of the committed
files, up to two things. News of a download that is not on its way are shown as if it were. And a
download that ends while a committed file is set aside for an upload passes that file by; it comes
back as it was if the upload fails.
-/

namespace IdentityForm

namespace Session.Action

def advances? : Action → Option UInt64
  | .file (.downloadProgress key _) => some key
  | _ => none

def pictures? : Action → Option UInt64
  | .file (.downloadDone key bytes) => (Preview.decode? bytes).map fun _ => key
  | _ => none

end Session.Action

namespace Turn

/-- News come of a download that is not on its way, and the entry of a kind shows the file. -/
def Strays (kind : Kind) (id : UInt64) (t : Turn) : Prop :=
  t.action.advances? = some id ∧ id ∉ t.before.downloads ∧
    ∃ place ∈ t.before.form.findFile id, place.kind = kind

/-- A download ends while the file is set aside for an upload. -/
def Misses (kind : Kind) (role : Role) (id : UInt64) (t : Turn) : Prop :=
  t.action.landed? = some id ∧ ∃ e ∈ t.before.form.entry? kind, e.Parks role id

def Renews (kind : Kind) (t : Turn) : Prop :=
  t.action.answers?.isSome = true ∧ .notice (.saveFinished kind) ∈ t.effects

instance (kind : Kind) (id : UInt64) (t : Turn) : Decidable (t.Strays kind id) :=
  inferInstanceAs (Decidable (_ ∧ _ ∧ _))

instance (kind : Kind) (role : Role) (id : UInt64) (t : Turn) : Decidable (t.Misses kind role id) :=
  inferInstanceAs (Decidable (_ ∧ _))

instance (kind : Kind) (t : Turn) : Decidable (t.Renews kind) := inferInstanceAs (Decidable (_ ∧ _))

end Turn

namespace History

/-- News of a download came that was not on its way. Since then no end of it was told, the entry was
not renewed, and the session did not start over. -/
def Stray (kind : Kind) (id : UInt64) : History → Prop
  | [] => False
  | t :: past => t.Strays kind id ∨
    Stray kind id past ∧ t.action.landed? ≠ some id ∧ ¬ t.Renews kind ∧ t.startsOver = false

/-- A download ended while the file was set aside for an upload. Since then the edit buffer has kept
it, no download of it brought a picture, and the entry was not renewed. -/
def Missed (kind : Kind) (role : Role) (id : UInt64) : History → Prop
  | [] => False
  | t :: past => (∃ e ∈ t.after.form.entry? kind, e.Keeps role id) ∧
    (t.Misses kind role id ∨
      Missed kind role id past ∧ t.action.pictures? ≠ some id ∧ ¬ t.Renews kind)

instance decidableStray (kind : Kind) (id : UInt64) :
    (past : History) → Decidable (past.Stray kind id)
  | [] => inferInstanceAs (Decidable False)
  | _ :: past =>
    have := decidableStray kind id past
    inferInstanceAs (Decidable (_ ∨ _ ∧ _))

instance decidableMissed (kind : Kind) (role : Role) (id : UInt64) :
    (past : History) → Decidable (past.Missed kind role id)
  | [] => inferInstanceAs (Decidable False)
  | _ :: past =>
    have := decidableMissed kind role id past
    inferInstanceAs (Decidable (_ ∧ (_ ∨ _ ∧ _)))

end History

namespace Session

variable {s s' : Session} {now : Nat} {a : Action} {r : Reply} {kind : Kind} {e : Entry}
  {flying : UInt64 → Prop} {stale : Role → UInt64 → Prop}
  {stray : Kind → UInt64 → Prop} {missed : Kind → Role → UInt64 → Prop}

/-- Every entry is honest, up to what the news of downloads excuse. -/
def Honest (stray : Kind → UInt64 → Prop) (missed : Kind → Role → UInt64 → Prop) (s : Session) :
    Prop :=
  ∀ kind e, s.form.entry? kind = some e →
    e.Honest (fun id => id ∈ s.downloads ∨ stray kind id) (missed kind)

/-! ## Loading -/

theorem mem_downloads_startDownload {id size other : UInt64} :
    other ∈ (s.startDownload id size).downloads ↔ other = id ∨ other ∈ s.downloads := by
  unfold startDownload
  split
  · rename_i flying
    exact ⟨.inr, fun h => h.elim (fun same => same ▸ flying) (fun h => h)⟩
  · rename_i free
    exact (insertId_perm free).mem_iff.trans List.mem_cons

theorem form_startDownload (s : Session) (id size : UInt64) :
    (s.startDownload id size).form = s.form := by
  unfold startDownload
  split <;> rfl

theorem startDownload_put (s : Session) (e : Entry) (id size : UInt64) :
    (s.put e).startDownload id size = (s.startDownload id size).put e := by
  by_cases flying : id ∈ s.downloads
  · have flying' : id ∈ (s.put e).downloads := flying
    rw [startDownload, startDownload, if_pos flying, if_pos flying']
  · have free : id ∉ (s.put e).downloads := flying
    rw [startDownload, startDownload, if_neg flying, if_neg free]
    rfl

theorem Honest.startDownload (h : s.Honest stray missed) (id size : UInt64) :
    (s.startDownload id size).Honest stray missed := by
  intro kind e he
  rw [form_startDownload] at he
  refine (h kind e he).mono (fun other flies => flies.imp_left fun flying => ?_) fun _ _ _ h => h
  exact mem_downloads_startDownload.2 (.inr flying)

theorem Honest.put {x : Entry} (h : s.Honest stray missed) (he : s.entry? e.kind = some e)
    (hk : x.kind = e.kind) (hx : x.Honest (fun id => id ∈ s.downloads ∨ stray e.kind id)
      (missed e.kind)) : (s.put x).Honest stray missed := by
  intro other y hy
  rw [show (s.put x).form = s.form.modify e.kind fun _ => x from hk ▸ rfl] at hy
  by_cases here : e.kind = other
  · subst here
    rw [Form.entry?_modify he hk] at hy
    exact Option.some.inj hy ▸ hx
  · rw [Form.entry?_modify_ne (fun _ _ => hk) here] at hy
    exact h other y hy

/-- What is shown as loading is being downloaded. -/
theorem loadFile_honest (kind : Kind) (slot : Slot) (h : s.Honest stray missed) :
    (s.loadFile kind slot).1.Honest stray missed := by
  unfold loadFile
  cases he : s.entry? kind with
  | none => exact h
  | some e =>
      obtain rfl := kind_of_entry he
      dsimp only
      cases hf : e.files.get? slot with
      | none => exact h
      | some f =>
          dsimp only
          split
          · exact h
          · have started := h.startDownload f.id f.size
            have there : Session.entry? (s.startDownload f.id f.size) e.kind = some e :=
              (congrArg (Form.entry? · e.kind) (form_startDownload s f.id f.size)).trans he
            have flies : f.id ∈ (s.startDownload f.id f.size).downloads :=
              mem_downloads_startDownload.2 (.inl rfl)
            rw [startDownload_put]
            exact started.put there rfl ((started e.kind e there).load hf (.inl flies))

theorem loadScans_honest (kind : Kind) (h : s.Honest stray missed) :
    (s.loadScans kind).Honest stray missed := by
  unfold loadScans
  cases s.entry? kind with
  | none => exact h
  | some e =>
      dsimp only
      induction e.slots.filter fun slot => (e.files.get? slot).isSome generalizing s with
      | nil => exact h
      | cons slot rest ih => exact ih (loadFile_honest kind slot h)

theorem startEdit_honest (kind : Kind) (h : s.Honest stray missed) :
    (s.startEdit kind).1.Honest stray missed := by
  unfold startEdit
  cases he : s.entry? kind with
  | none => exact h
  | some e =>
      obtain rfl := kind_of_entry he
      have before := h e.kind e he
      dsimp only
      split
      · exact loadScans_honest e.kind (h.put he rfl (before.retains (.of_filled rfl rfl)))
      · exact h.put he rfl (before.retains (.of_eq rfl rfl))

/-! ## Actions that are not about downloads -/

theorem downloads_act (live : s.cancelled = false) (live' : (s.act now a).1.cancelled = false)
    (other : a.handlesDownloads = false) (stays : a ≠ .restart) :
    (s.act now a).1.downloads = s.downloads := by
  cases act_drives live live' with
  | rearms gear =>
      have rearmed : (s.gear.rearm (s.alarm? now a)).downloads = s.downloads := by
        cases s.alarm? now a <;> rfl
      exact (congrArg Gear.downloads gear).trans rearmed
  | dropped same => rw [same]
  | loads kind ha => rcases ha with rfl | ⟨slot, rfl⟩ <;> cases other
  | lands event id ha landed =>
      subst ha
      cases event <;>
        simp [FileEvent.landed?, Action.handlesDownloads, FileEvent.fileChange?] at landed other
  | restarts ha => exact absurd ha stays
  | ticks timers _ gear => exact congrArg Gear.downloads gear

/-- A change that is not about downloads keeps an entry honest, and nothing but a tick reports a
save. -/
theorem hushes_honest (other : a.handlesDownloads = false) (time : a ≠ .tick) :
    Hushes now a kind (Entry.Honest flying stale) (· = .notice (.saveFinished kind)) where
  about x quiet := by
    refine decide_eq_false ?_
    rintro rfl
    simp [Effect.isAbout] at quiet
  change t e e' es change here honest := by
    refine ⟨honest.retains (change.retains other), fun x hx => decide_eq_false ?_⟩
    rintro rfl
    cases change with
    | reported ha => exact absurd ha time
    | uploaded => simp at hx
    | givenUp => simp at hx
    | checked _ _ _ hr => simp at hx
    | _ => simp at hx

theorem Moves.honest (h : Moves now a s s') (gated : s.core.Gated)
    (other : a.handlesDownloads = false)
    (honest : ∀ e, s.form.entry? kind = some e → e.Honest flying stale) :
    ∀ e, s'.form.entry? kind = some e → e.Honest flying stale := by
  have hush : Hushes now a kind (Entry.Honest flying stale) fun _ => false :=
    ⟨fun _ _ => rfl, fun _ _ _ _ change _ honest =>
      ⟨honest.retains (change.retains other), fun _ _ => rfl⟩⟩
  exact (h.silent hush gated honest).1

/-- A reply leaves an entry honest, and if it reports the entry as saved, nothing in it depends on a
download. -/
theorem Settle.honest (h : Settle now r s s') (gated : s.core.Gated) (silent : s.outbox = [])
    (honest : ∀ e, s.form.entry? kind = some e → e.Honest flying stale) :
    (∀ e, s'.form.entry? kind = some e → e.Honest flying stale) ∧
      (.notice (.saveFinished kind) ∈ s'.outbox → ∀ e, s'.form.entry? kind = some e → e.Anew) := by
  have unreported {es : List Effect} (outbox : s'.outbox = s.outbox ++ es)
      (quiet : .notice (.saveFinished kind) ∉ es) : .notice (.saveFinished kind) ∉ s'.outbox := by
    rwa [outbox, silent, List.nil_append]
  have of_calm {es : List Effect} (outbox : s'.outbox = s.outbox ++ es)
      (calm : ∀ x ∈ es, x.isCalm = true) : .notice (.saveFinished kind) ∉ s'.outbox :=
    unreported outbox fun told => by simpa [Effect.isCalm] using calm _ told
  cases h with
  | errand errand es _ _ core outbox calm =>
      have form : s'.form = s.form := congrArg Core.form core
      rw [form]
      exact ⟨honest, fun told => absurd told (of_calm outbox calm)⟩
  | form received es _ _ _ core outbox calm =>
      have form : s'.form = .ofAuthorization received := congrArg Core.form core
      have anew (e : Entry) (he : s'.form.entry? kind = some e) : e.Anew := by
        rw [form] at he
        obtain ⟨kind, rfl⟩ := Form.mem_ofAuthorization (Form.mem_of_entry he)
        exact Entry.anew_of_empty rfl rfl
      exact ⟨fun e he => (anew e he).honest, fun _ => anew⟩
  | unlock password elements errors es _ _ _ core outbox calm =>
      have form : s'.form = s.form.takeElements elements errors := congrArg Core.form core
      refine ⟨?_, fun told => absurd told (of_calm outbox calm)⟩
      rw [form]
      have modified {f : Form} {g : Entry → Entry} {other : Kind} (hk : ∀ e, (g e).kind = e.kind)
          (hg : ∀ e : Entry, e.Honest flying stale → (g e).Honest flying stale)
          (honest : ∀ e, f.entry? kind = some e → e.Honest flying stale) :
          ∀ e, Form.entry? (f.modify other g) kind = some e → e.Honest flying stale := by
        intro e he
        by_cases here : other = kind
        · subst here
          rw [Form.entry?_modify_self fun e he => (hk e).trans he] at he
          obtain ⟨e', he', rfl⟩ := Option.map_eq_some_iff.1 he
          exact hg e' (honest e' he')
        · rw [Form.entry?_modify_ne (fun e he => (hk e).trans he) here] at he
          exact honest e he
      exact Form.takeElements_induction
        (Q := fun f => ∀ e, f.entry? kind = some e → e.Honest flying stale)
        (fun f element => modified (fun _ => rfl) fun e honest => honest.fill element)
        (fun f x => modified (fun e => (e.applyError_keeps x).1) fun e honest =>
          honest.retains (.applyError e x)) honest
  | task task x g es _ hx _ uptake core outbox =>
      have form : s'.form = s.form.modify x.kind g := congrArg Core.form core
      rw [form]
      by_cases here : x.kind = kind
      · subst here
        rw [Form.entry?_modify hx uptake.kind_eq]
        rcases uptake.renews with anew | ⟨retains, quiet⟩
        · refine ⟨fun e he => ?_, fun _ e he => Option.some.inj he ▸ anew⟩
          exact Option.some.inj he ▸ anew.honest
        · refine ⟨fun e he => ?_, fun told => absurd told (unreported outbox quiet)⟩
          exact Option.some.inj he ▸ (honest x hx).retains retains
      · have same : Form.entry? (s.form.modify x.kind g) kind = s.form.entry? kind :=
          Form.entry?_modify_other gated.distinct hx uptake.kind_eq here
        rw [same]
        refine ⟨honest, fun told => absurd told (unreported outbox fun told => here ?_)⟩
        exact (uptake.concerns _ told kind rfl).symm

end Session

/-! ## News of downloads -/

namespace FileEvent

variable {event : FileEvent} {id : UInt64} {change : StoredFile → StoredFile}

/-- Telling the same twice makes no difference. -/
theorem twice_fileChange (h : event.fileChange? = some (id, change)) (f : StoredFile) :
    change (change f) = change f := by
  cases event <;> simp only [fileChange?, Option.some.injEq, Prod.mk.injEq, reduceCtorEq] at h <;>
    obtain ⟨-, rfl⟩ := h
  · rfl
  · simp only [Session.withDownload]
    split <;> rfl
  · rfl

theorem fileChange_of_landed (h : event.fileChange? = some (id, change))
    (landed : event.landed? = some id) (f : StoredFile) :
    (change f).download.isRunning = false ∧ (change f).preview.isSome =
      ((Session.Action.file event).pictures?.isSome || f.preview.isSome) := by
  cases event <;> simp only [fileChange?, Option.some.injEq, Prod.mk.injEq, reduceCtorEq] at h <;>
    obtain ⟨rfl, rfl⟩ := h
  · cases landed
  · rename_i bytes
    simp only [Session.withDownload, Session.Action.pictures?, Option.isSome_map]
    cases Preview.decode? bytes <;> exact ⟨rfl, rfl⟩
  · exact ⟨rfl, rfl⟩

end FileEvent

namespace Session

variable {s : Session} {event : FileEvent} {id : UInt64} {change : StoredFile → StoredFile}

/-- News of a download reach every file that they are about, and nothing else. -/
theorem handleFileEvent_of_download (live : s.cancelled = false)
    (download : event.fileChange? = some (id, change)) :
    s.handleFileEvent event = { s with
      form := { s.form with entries := s.form.entries.map (Entry.download id change) }
      downloads := s.downloads.filter fun key => event.landed? ≠ some key
      outbox := s.outbox ++
        (s.form.findFile id).map fun place => .notice (.scanUpdated place) } := by
  have told (s : Session) := updateDownload_eq s id (FileEvent.id_fileChange download)
    (FileEvent.twice_fileChange download)
  unfold handleFileEvent
  rw [if_neg (by simp [live])]
  cases event <;> simp only [FileEvent.fileChange?, Option.some.injEq, Prod.mk.injEq,
    reduceCtorEq] at download <;> obtain ⟨rfl, rfl⟩ := download
  case downloadProgress => simp [told, FileEvent.landed?]
  all_goals simp [told, endDownload, FileEvent.landed?, eq_comm]

theorem entry?_handleFileEvent (live : s.cancelled = false)
    (download : event.fileChange? = some (id, change)) (kind : Kind) :
    Form.entry? (s.handleFileEvent event).form kind =
      (s.form.entry? kind).map (Entry.download id change) := by
  rw [handleFileEvent_of_download live download]
  exact Form.entry?_map (Entry.download id change) (fun _ => rfl) s.form kind

theorem downloads_handleFileEvent (live : s.cancelled = false) (event : FileEvent) :
    (s.handleFileEvent event).downloads = s.downloads.filter fun key => event.landed? ≠ some key := by
  have ended := background_handleFileEvent live event
  cases landed : event.landed? with
  | none =>
      rw [landed] at ended
      have same : (s.handleFileEvent event).downloads = s.downloads :=
        congrArg Gear.downloads (gear_of_background ended)
      simp [same]
  | some id =>
      rw [landed] at ended
      have same : (s.handleFileEvent event).downloads = s.downloads.filter (· ≠ id) :=
        congrArg Gear.downloads (gear_of_background ended)
      rw [same]
      exact List.filter_congr fun key _ => by simp [eq_comm]

namespace Action

variable {a : Action}

theorem handlesDownloads_of_landed (h : a.landed? = some id) : a.handlesDownloads = true := by
  cases a with
  | file event => cases event <;> simp [landed?, FileEvent.landed?] at h <;> rfl
  | _ => cases h

theorem landed?_of_pictures (h : a.pictures? = some id) : a.landed? = some id := by
  cases a with
  | file event =>
      cases event with
      | downloadDone key bytes =>
          obtain ⟨p, -, same⟩ := Option.map_eq_some_iff.1 h
          exact congrArg some same
      | _ => cases h
  | _ => cases h

end Action

end Session

/-! ## Runs -/

/-- What an entry shows is true, up to what the history excuses. -/
def History.Vouches (past : History) (s : Session) (kind : Kind) (e : Entry) : Prop :=
  e.Honest (fun id => id ∈ s.downloads ∨ past.Stray kind id) fun role id => past.Missed kind role id

namespace Run

variable {setup : Setup} {past : History} {s : Session} {now : Nat} {action : Session.Action}
  {event : FileEvent} {change : StoredFile → StoredFile} {kind : Kind} {e : Entry} {id : UInt64}
  {role : Role}

theorem stray_of_cons (stray : past.Stray kind id) (landed : action.landed? ≠ some id)
    (renews : ¬ Turn.Renews kind ⟨s, now, action⟩) (stays : action ≠ .restart) :
    History.Stray kind id (⟨s, now, action⟩ :: past) := by
  refine .inr ⟨stray, landed, renews, Bool.eq_false_iff.2 fun starts => ?_⟩
  exact stays (Turn.startsOver_iff.1 starts).1

theorem missed_of_cons (missed : past.Missed kind role id)
    (he : (s.act now action).1.form.entry? kind = some e) (keeps : e.Keeps role id)
    (pictures : action.pictures? ≠ some id) (renews : ¬ Turn.Renews kind ⟨s, now, action⟩) :
    History.Missed kind role id (⟨s, now, action⟩ :: past) :=
  ⟨⟨e, he, keeps⟩, .inr ⟨missed, pictures, renews⟩⟩

theorem vouches_later (landed : action.landed? = none)
    (renews : ¬ Turn.Renews kind ⟨s, now, action⟩) (stays : action ≠ .restart)
    (he : (s.act now action).1.form.entry? kind = some e)
    (vouches : past.Vouches (s.act now action).1 kind e) :
    History.Vouches (⟨s, now, action⟩ :: past) (s.act now action).1 kind e := by
  refine vouches.mono (fun id flies => flies.imp_right fun stray => ?_) fun role x held missed => ?_
  · exact stray_of_cons stray (by simp [landed]) renews stays
  · refine missed_of_cons missed he held.keeps (fun pictures => ?_) renews
    exact absurd (landed.symm.trans (Session.Action.landed?_of_pictures pictures)) (by simp)

/-- News of a download that goes on are excused if it is not on its way. -/
theorem vouches_advance {offset : UInt64} (live : s.cancelled = false)
    (vouches : ∀ e, s.form.entry? kind = some e → past.Vouches s kind e)
    (he : (s.act now (.file (.downloadProgress id offset))).1.form.entry? kind = some e) :
    History.Vouches (⟨s, now, .file (.downloadProgress id offset)⟩ :: past)
      (s.act now (.file (.downloadProgress id offset))).1 kind e := by
  have download : FileEvent.fileChange? (.downloadProgress id offset) = some (id, _) := rfl
  have news := Session.entry?_handleFileEvent live download kind
  obtain ⟨e₀, there, rfl⟩ := Option.map_eq_some_iff.1 (news.symm.trans he)
  have kept : (s.handleFileEvent (.downloadProgress id offset)).downloads = s.downloads := by
    rw [Session.downloads_handleFileEvent live]
    simp [FileEvent.landed?]
  have renews : ¬ Turn.Renews kind ⟨s, now, .file (.downloadProgress id offset)⟩ :=
    fun h => by cases h.1
  rw [History.Vouches, show (s.act now (.file (.downloadProgress id offset))).1.downloads =
    s.downloads from kept]
  refine (vouches e₀ there).goes_on (fun _ => rfl) (fun _ => rfl) (fun other flies => ?_)
    (fun shows => ?_) fun role x held missed => ?_
  · exact flies.imp_right fun stray => stray_of_cons stray nofun renews nofun
  · by_cases flies : id ∈ s.downloads
    · exact .inl flies
    · obtain ⟨slot, filled, shows⟩ := shows
      have listed : ⟨kind, slot⟩ ∈ s.form.findFile id := Session.mem_findFile.2
        ⟨e₀, Form.mem_of_entry there, Form.kind_of_entry there, filled, shows⟩
      exact .inr (.inl ⟨rfl, flies, _, listed, rfl⟩)
  · exact missed_of_cons missed he held.keeps nofun renews

/-- A download that ends is shown as ended wherever its file is not set aside. -/
theorem vouches_landing (live : s.cancelled = false)
    (download : event.fileChange? = some (id, change)) (landed : event.landed? = some id)
    (vouches : ∀ e, s.form.entry? kind = some e → past.Vouches s kind e)
    (he : (s.act now (.file event)).1.form.entry? kind = some e) :
    History.Vouches (⟨s, now, .file event⟩ :: past) (s.act now (.file event)).1 kind e := by
  have news := Session.entry?_handleFileEvent live download kind
  obtain ⟨e₀, there, rfl⟩ := Option.map_eq_some_iff.1 (news.symm.trans he)
  have renews : ¬ Turn.Renews kind ⟨s, now, .file event⟩ := fun h => by cases h.1
  have left : (s.act now (.file event)).1.downloads = s.downloads.filter (· ≠ id) := by
    refine (Session.downloads_handleFileEvent live event).trans (List.filter_congr fun key _ => ?_)
    simp [landed, eq_comm]
  have changed := FileEvent.fileChange_of_landed download landed
  rw [History.Vouches, left]
  refine (vouches e₀ there).ends (FileEvent.id_fileChange download) (fun f => (changed f).1)
    (fun f => (changed f).2) (fun other apart flies => ?_) (fun role held parks => ?_)
    fun role x held spared missed => ?_
  · refine flies.imp (fun flying => List.mem_filter.2 ⟨flying, by simpa using apart⟩) fun stray => ?_
    refine stray_of_cons stray (fun here => apart ?_) renews nofun
    exact Option.some.inj (here.symm.trans landed)
  · obtain ⟨x, held, rfl⟩ := held
    exact ⟨⟨_, he, held.keeps⟩, .inl ⟨landed, e₀, there, parks⟩⟩
  · refine missed_of_cons missed he held.keeps (fun brought => ?_) renews
    have here : some x.id = some id :=
      (Session.Action.landed?_of_pictures brought).symm.trans landed
    exact spared (by simp [brought]) (Option.some.inj here)

/-- A reply depends on no download, and an entry that it reports as saved shows nothing that does. -/
theorem vouches_reply {r : Reply} {mid : Session} (run : Run setup past s)
    (settle : Session.Settle now r s mid)
    (moves : Session.Moves now (.reply r) mid (s.act now (.reply r)).1)
    (kept : (s.act now (.reply r)).1.downloads = s.downloads)
    (vouches : ∀ e, s.form.entry? kind = some e → past.Vouches s kind e)
    (he : (s.act now (.reply r)).1.form.entry? kind = some e) :
    History.Vouches (⟨s, now, .reply r⟩ :: past) (s.act now (.reply r)).1 kind e := by
  obtain ⟨settled, anew⟩ := settle.honest run.gated run.outbox_eq_nil vouches
  have gated := settle.gated run.gated
  by_cases renews : Turn.Renews kind ⟨s, now, .reply r⟩
  · have silent := (moves.silent (Session.hushes_honest rfl nofun) gated settled).2
    have told : .notice (.saveFinished kind) ∈ mid.outbox := by
      have late := List.mem_filter (p := (· = .notice (.saveFinished kind))).2
        ⟨renews.2, decide_eq_true rfl⟩
      exact (List.mem_filter.1 (silent ▸ late)).1
    exact Entry.Anew.honest (moves.honest gated rfl (anew told) e he)
  · refine vouches_later rfl renews nofun he ?_
    rw [History.Vouches, kept]
    exact moves.honest gated rfl settled e he

theorem vouches_act (run : Run setup past s) (live : s.cancelled = false)
    (live' : (s.act now action).1.cancelled = false)
    (vouches : ∀ kind e, s.form.entry? kind = some e → past.Vouches s kind e)
    (he : (s.act now action).1.form.entry? kind = some e) :
    History.Vouches (⟨s, now, action⟩ :: past) (s.act now action).1 kind e := by
  have unanswered (h : action.answers? = none) : ¬ Turn.Renews kind ⟨s, now, action⟩ :=
    fun renews => by simpa [h] using renews.1
  by_cases restarts : action = .restart
  · subst restarts
    have form : (s.act now .restart).1.form = .empty := congrArg Prod.fst (Session.desk_restart live)
    rw [form] at he
    cases he
  cases download : action.handlesDownloads with
  | true =>
      cases action with
      | startEdit edited =>
          refine vouches_later rfl (unanswered rfl) nofun he ?_
          exact Session.startEdit_honest edited vouches kind e he
      | loadFile loaded slot =>
          refine vouches_later rfl (unanswered rfl) nofun he ?_
          exact Session.loadFile_honest loaded slot vouches kind e he
      | file event =>
          cases event with
          | downloadProgress key offset => exact vouches_advance live (vouches kind) he
          | downloadDone key bytes => exact vouches_landing live rfl rfl (vouches kind) he
          | downloadFailed key => exact vouches_landing live rfl rfl (vouches kind) he
          | _ => cases download
      | _ => cases download
  | false =>
      have kept := Session.downloads_act live live' download restarts
      have flying : action.landed? = none := by
        refine Option.eq_none_iff_forall_ne_some.2 fun id landed => ?_
        have handled := Session.Action.handlesDownloads_of_landed landed
        exact absurd (download.symm.trans handled) (by simp)
      cases run.acts now action with
      | moves plain moves =>
          have answers : action.answers? = none := by
            cases action with
            | reply r => exact absurd rfl (plain r)
            | _ => rfl
          refine vouches_later flying (unanswered answers) restarts he ?_
          rw [History.Vouches, kept]
          exact moves.honest run.gated download (vouches kind) e he
      | close _ _ close =>
          have closed := congrArg Core.cancelled close.core
          exact absurd (live'.symm.trans closed) (by simp)
      | dropped ha _ same =>
          subst ha
          have renews : ¬ Turn.Renews kind ⟨s, now, .reply _⟩ := fun renews => by
            have told := renews.2
            rw [Turn.effects, same, run.outbox_eq_nil] at told
            cases told
          refine vouches_later rfl renews nofun he ?_
          rw [same] at he ⊢
          exact vouches kind e he
      | reply ha _ _ settles =>
          subst ha
          obtain ⟨mid, settle, moves⟩ := settles
          exact vouches_reply run settle moves kept (vouches kind) he

/-- What entries show in an open session is true, up to what the history excuses. -/
theorem vouches (run : Run setup past s) (live : s.cancelled = false)
    (he : s.form.entry? kind = some e) : past.Vouches s kind e := by
  induction run generalizing kind e with
  | start => cases he
  | @step past s now action run _ _ ih =>
      have before := (run.acts now action).live live
      exact run.vouches_act before live (fun _ _ he => ih before he) he

/-- What is shown of downloads. In an open session a committed file that is shown as loading is
being downloaded, or news came of a download of it that was not on its way. The same holds of the
committed files in an edit buffer, which have pictures whenever the committed ones do, unless a
download ended while the file was set aside for an upload. A call for a file without a picture
leaves it with a download under way, but for such news. -/
theorem downloads_shown (run : Run setup past s) (live : s.cancelled = false)
    (he : s.form.entry? kind = some e) :
    (∀ slot f, e.files.get? slot = some f → f.download.isRunning = true →
      f.id ∈ s.downloads ∨ past.Stray kind f.id) ∧
    (∀ slot d, e.draftFiles.get? slot = some d → d.upload = none →
      (d.file.download.isRunning = true → d.file.id ∈ s.downloads ∨ past.Stray kind d.file.id ∨
        past.Missed kind slot.role d.file.id) ∧
      ((∃ place f, e.files.get? place = some f ∧ f.id = d.file.id ∧ f.preview.isSome = true) →
        d.file.preview.isSome = true ∨ past.Missed kind slot.role d.file.id)) ∧
    ∀ now slot f, e.files.get? slot = some f → f.preview = none →
      f.id ∈ (Turn.after ⟨s, now, .loadFile kind slot⟩).downloads ∨ past.Stray kind f.id := by
  have honest := run.vouches live he
  have loading (slot : Slot) (f : StoredFile) (hf : e.files.get? slot = some f) :
      f.download.isRunning = true → f.id ∈ s.downloads ∨ past.Stray kind f.id :=
    honest.file f.sight ⟨slot, f, hf, rfl⟩
  refine ⟨loading, fun slot d hd hu => ?_, fun now slot f hf blank => ?_⟩
  · have twin : e.HasTwin slot.role d.file.sight :=
      ⟨slot, d, ⟨d.file, d.deleted⟩, rfl, hd, by simp [Draft.twin?, hu], rfl⟩
    constructor
    · exact fun running => or_assoc.1 (honest.twin slot.role _ twin running)
    · rintro ⟨place, f, hf, same, seen⟩
      exact honest.pictured slot.role f.sight _ ⟨place, f, hf, rfl⟩ twin same seen
  · show f.id ∈ (s.loadFile kind slot).1.downloads ∨ _
    rw [Session.loadFile, show s.entry? kind = some e from he]
    dsimp only
    rw [hf]
    dsimp only
    cases running : f.download.isRunning with
    | true =>
        rw [if_pos (by simp)]
        exact loading slot f hf running
    | false =>
        rw [if_neg (by simp [blank]), Session.startDownload_put]
        exact .inl (Session.mem_downloads_startDownload.2 (.inl rfl))

def pixel : List UInt8 :=
  [0x89, 0x50, 0x4e, 0x47, 0x0d, 0x0a, 0x1a, 0x0a, 0x00, 0x00, 0x00, 0x0d, 0x49, 0x48, 0x44,
    0x52, 0x00, 0x00, 0x00, 0x01, 0x00, 0x00, 0x00, 0x01, 0x08, 0x06, 0x00, 0x00, 0x00, 0x1f,
    0x15, 0xc4, 0x89, 0x00, 0x00, 0x00, 0x0b, 0x49, 0x44, 0x41, 0x54, 0x78, 0xda, 0x63, 0xe0,
    0x02, 0x02, 0x00, 0x00, 0x69, 0x00, 0x29, 0x59, 0x26, 0xd2, 0x95, 0x00, 0x00, 0x00, 0x00,
    0x49, 0x45, 0x4e, 0x44, 0xae, 0x42, 0x60, 0x82]

/-- Both files of a passport are downloaded when its editor opens. The rendition has come, and the
editor shows its picture; the front side is shown as loading, and its download is under way. -/
theorem downloads_shown_in_editor :
    let kind : Kind := .identity .passport
    let actions := [(7, .file (.downloadDone 8 pixel)), (6, .file (.downloadProgress 7 5)),
      (5, .startEdit kind)] ++ opening passportForm [scannedPassport]
    let s := (play (.fresh .plain .empty) actions).2
    ∃ e ∈ s.form.entry? kind,
      (∃ d ∈ e.draftFiles.get? ⟨.frontSide, none⟩, d.upload = none ∧
        d.file.download.isRunning = true ∧ d.file.id ∈ s.downloads) ∧
      ∃ d ∈ e.draftFiles.get? ⟨.rendition, some 0⟩, d.upload = none ∧
        d.file.preview.isSome = true := by
  intro kind actions s
  let past := (play (.fresh .plain .empty) actions).1
  have playable : Playable (.fresh .plain .empty) actions := by decide +kernel
  have shown : ∃ e ∈ s.form.entry? kind,
      (∃ d ∈ e.draftFiles.get? ⟨.frontSide, none⟩, d.upload = none ∧
        d.file.download.isRunning = true ∧ ¬ past.Stray kind d.file.id ∧
        ¬ past.Missed kind .frontSide d.file.id) ∧
      ∃ d ∈ e.draftFiles.get? ⟨.rendition, some 0⟩, d.upload = none ∧
        ¬ past.Missed kind .rendition d.file.id ∧
        ∃ f ∈ e.files.get? ⟨.rendition, some 0⟩, f.id = d.file.id ∧ f.preview.isSome = true := by
    decide +kernel
  obtain ⟨e, he, ⟨front, hfront, free, running, expected, kept⟩, rendition, hrendition, free', kept',
    f, hf, same, seen⟩ := shown
  obtain ⟨-, mirrors, -⟩ := downloads_shown (.of_playable playable) (s := s) (by decide +kernel) he
  refine ⟨e, he, ⟨front, hfront, free, running, ?_⟩, rendition, hrendition, free', ?_⟩
  · have loading := (mirrors _ front hfront free).1 running
    exact loading.resolve_right (not_or.2 ⟨expected, kept⟩)
  · exact ((mirrors _ rendition hrendition free').2 ⟨_, f, hf, same, seen⟩).resolve_right kept'

/-- News that come late of a download that failed are shown as if it went on: the file is shown as
loading, and calls for it do nothing. And a front side that an upload replaces passes by the end of
its download: when the upload fails, the editor has it back as loading and without the picture that
is committed. -/
theorem downloads_stalled :
    let kind : Kind := .identity .passport
    let front : Slot := ⟨.frontSide, none⟩
    let edited := (5, .startEdit kind) :: opening passportForm [scannedPassport]
    let late := [(8, .loadFile kind front), (7, .file (.downloadProgress 7 5)),
      (6, .file (.downloadFailed 7))] ++ edited
    let parked := [(9, .file (.uploadFailed 1)), (8, .file (.downloadDone 7 pixel)),
      (7, .upload kind .frontSide 1 0 [0]), (6, .file (.downloadProgress 7 5))] ++ edited
    let stalled := (play (.fresh .plain .empty) late).2
    let restored := (play (.fresh .plain .empty) parked).2
    Run .plain (play (.fresh .plain .empty) late).1 stalled ∧
      stalled.cancelled = false ∧ stalled.downloads = [8] ∧
      (∃ e ∈ stalled.form.entry? kind, ∃ f ∈ e.files.get? front,
        f.id = 7 ∧ f.download.isRunning = true) ∧
    Run .plain (play (.fresh .plain .empty) parked).1 restored ∧
      restored.cancelled = false ∧ restored.downloads = [8] ∧
      ∃ e ∈ restored.form.entry? kind,
        (∃ d ∈ e.draftFiles.get? front, d.upload = none ∧ d.file.id = 7 ∧
          d.file.download.isRunning = true ∧ d.file.preview = none) ∧
        ∃ f ∈ e.files.get? front, f.id = 7 ∧ f.preview.isSome = true := by
  intro kind front edited late parked stalled restored
  have playable : Playable (.fresh .plain .empty) late := by decide +kernel
  have playable' : Playable (.fresh .plain .empty) parked := by decide +kernel
  refine ⟨.of_playable playable, ?_, ?_, ?_, .of_playable playable', ?_⟩ <;> decide +kernel

end Run

end IdentityForm
