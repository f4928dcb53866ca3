import IdentityForm.Proofs.Committed
import IdentityForm.Proofs.Drafts
import IdentityForm.Proofs.Reading
import IdentityForm.Proofs.Standing.Advance

/-! # Room for files

A list of files in an edit buffer has no more drafts that are to stay than its limit allows, or than
there are committed files. Adding a draft and taking a mark back ask for room first; nothing else adds
to the drafts that stay, but for the edit buffer being filled with what is committed.
-/

namespace IdentityForm

/-! ## The files of a role -/

section Counting

variable {α : Type} {p : α → Bool} {f : α → α}

theorem countP_modify_le (xs : List α) (i : Nat)
    (h : ∀ x, xs[i]? = some x → p (f x) = true → p x = true) :
    (xs.modify i f).countP p ≤ xs.countP p := by
  induction xs generalizing i with
  | nil => simp
  | cons x xs ih =>
      cases i with
      | zero =>
          have kept := h x rfl
          rw [List.modify_zero_cons, List.countP_cons, List.countP_cons]
          split <;> split <;> simp_all
      | succ i =>
          rw [List.modify_succ_cons, List.countP_cons, List.countP_cons]
          exact Nat.add_le_add_right (ih i fun x hx => h x hx) _

theorem countP_modify_le_succ (xs : List α) (i : Nat) :
    (xs.modify i f).countP p ≤ xs.countP p + 1 := by
  induction xs generalizing i with
  | nil => simp
  | cons x xs ih =>
      cases i with
      | zero =>
          rw [List.modify_zero_cons, List.countP_cons, List.countP_cons]
          split <;> split <;> omega
      | succ i =>
          rw [List.modify_succ_cons, List.countP_cons, List.countP_cons]
          have rest := ih i
          omega

end Counting

namespace Files

variable {α : Type}

/-- A change in a slot changes one file of its role at most, and none of another role. -/
theorem ofRole_modify (f : Files α) (slot : Slot) (change : α → α) (role : Role) :
    (f.modify slot change).ofRole role = f.ofRole role ∨
      slot.role = role ∧ ∃ i : Nat, (f.ofRole role)[i]? = f.get? slot ∧
        (f.modify slot change).ofRole role = (f.ofRole role).modify i change := by
  obtain ⟨role', index⟩ := slot
  have single (a : Option α) : (a.map change).toList = a.toList.modify 0 change := by
    cases a <;> rfl
  have first (a : Option α) : a.toList[0]? = a := by cases a <;> rfl
  cases role' <;> cases role <;> cases index <;> first
    | exact .inl rfl
    | exact .inr ⟨rfl, _, rfl, rfl⟩
    | exact .inr ⟨rfl, 0, first _, single _⟩

theorem length_ofRole_modify (f : Files α) (slot : Slot) (change : α → α) (role : Role) :
    ((f.modify slot change).ofRole role).length = (f.ofRole role).length := by
  rcases f.ofRole_modify slot change role with same | ⟨-, i, -, same⟩
  · rw [same]
  · rw [same, List.length_modify]

/-- A new file joins a list, or stands alone in a special role. -/
theorem ofRole_add (f : Files α) (role : Role) (a : α) :
    (f.add role a).ofRole role = if role.isSpecial then [a] else f.ofRole role ++ [a] := by
  cases role <;> rfl

theorem ofRole_add_of_ne (f : Files α) {role role' : Role} (a : α) (other : role ≠ role') :
    (f.add role a).ofRole role' = f.ofRole role' := by
  cases role <;> cases role' <;> first | rfl | exact absurd rfl other

end Files

/-! ## Drafts that stay -/

theorem Settings.isSpecial_of_limit {settings : Settings} {role : Role} {n : Nat}
    (limited : settings.limit? role = some n) : role.isSpecial = false := by
  cases role <;> first | rfl | cases limited

theorem FileEvent.deleted_draftChange {event : FileEvent} {key : UInt64} {change : Draft → Draft}
    (news : event.draftChange? = some (key, change)) {d : Draft} {u : Upload}
    (hu : d.upload = some u) (unkept : u.replaced = none) : (change d).deleted = d.deleted := by
  cases event <;> cases news
  · rfl
  · rfl
  · simp [Draft.fail, hu, unkept]

namespace Entry

variable {settings : Settings} {e e' : Entry} {slot : Slot} {change : Draft → Draft} {role : Role}

/-- No more drafts stay than the limits allow, or than files are committed. -/
def Within (settings : Settings) (e : Entry) : Prop :=
  ∀ role n, settings.limit? role = some n → e.activeDrafts role ≤ max n (e.files.ofRole role).length

theorem activeDrafts_le_of_modify (hd : e'.draftFiles = e.draftFiles.modify slot change)
    (kept : slot.role = role → ∀ d, e.draftFiles.get? slot = some d → (change d).deleted = false →
      d.deleted = false) : e'.activeDrafts role ≤ e.activeDrafts role := by
  rw [activeDrafts, activeDrafts, hd]
  rcases e.draftFiles.ofRole_modify slot change role with same | ⟨here, i, found, same⟩
  · exact Nat.le_of_eq (congrArg _ same)
  · rw [same]
    refine countP_modify_le _ i fun d hd stays => ?_
    simpa using kept here d (found.symm.trans hd) (by simpa using stays)

theorem activeDrafts_le_succ_of_modify (hd : e'.draftFiles = e.draftFiles.modify slot change) :
    e'.activeDrafts slot.role ≤ e.activeDrafts slot.role + 1 := by
  rw [activeDrafts, activeDrafts, hd]
  rcases e.draftFiles.ofRole_modify slot change slot.role with same | ⟨-, i, -, same⟩
  · rw [same]
    exact Nat.le_succ _
  · rw [same]
    exact countP_modify_le_succ _ i

theorem within_of_empty (h : e.draftFiles = .empty) : e.Within settings := by
  intro role n _
  rw [activeDrafts, h]
  cases role <;> exact Nat.zero_le _

theorem within_of_snapshot (h : e.draftFiles = e.files.map Draft.ofStored) : e.Within settings := by
  intro role n _
  have most : e.activeDrafts role ≤ (e.draftFiles.ofRole role).length := List.countP_le_length
  rw [h, Files.ofRole_map, List.length_map] at most
  omega

theorem Within.of_eq (h : e.Within settings) (hd : e'.draftFiles = e.draftFiles)
    (hf : e'.files = e.files) : e'.Within settings := by
  intro role n limited
  rw [activeDrafts, hd, hf]
  exact h role n limited

theorem Within.of_modify (h : e.Within settings)
    (hd : e'.draftFiles = e.draftFiles.modify slot change) (hf : ∀ role,
      (e'.files.ofRole role).length = (e.files.ofRole role).length)
    (kept : slot.role.isSpecial = false → ∀ d, e.draftFiles.get? slot = some d →
      (change d).deleted = false → d.deleted = false) : e'.Within settings := by
  intro role n limited
  rw [hf]
  have list := Settings.isSpecial_of_limit limited
  exact Nat.le_trans (activeDrafts_le_of_modify hd fun here => kept (here ▸ list))
    (h role n limited)

theorem Within.atSave (h : e.Within settings) : e.atSave.Within settings := by
  unfold Entry.atSave
  split
  · exact within_of_snapshot rfl
  · exact h

theorem Within.clearIfIdle (h : e.Within settings) : e.clearIfIdle.Within settings := by
  unfold Entry.clearIfIdle
  split
  · exact within_of_empty rfl
  · exact h

theorem within_spared : e.spared.Within settings := by
  simp only [spared]
  split
  · exact within_of_snapshot rfl
  · exact within_of_empty rfl

theorem within_commit (c : Contents) : (e.commit c).Within settings := by
  simp only [commit]
  split
  · exact within_of_empty rfl
  · exact within_of_snapshot rfl

theorem within_reset : e.reset.Within settings := by
  simp only [reset]
  split
  · exact within_of_snapshot rfl
  · exact within_of_empty rfl

theorem Within.of_room (h : e.Within settings) (hf : e'.files = e.files)
    (room : e.hasRoom role (settings.limit? role) = true)
    (here : e'.activeDrafts role ≤ e.activeDrafts role + 1)
    (others : ∀ other, other ≠ role → e'.activeDrafts other ≤ e.activeDrafts other) :
    e'.Within settings := by
  intro other n limited
  rw [hf]
  by_cases same : other = role
  · subst same
    have below : e.activeDrafts other < n := by simpa [hasRoom, limited] using room
    omega
  · exact Nat.le_trans (others other same) (h other n limited)

theorem Within.add (h : e.Within settings) (d : Draft)
    (room : e.hasRoom role (settings.limit? role) = true) :
    Within settings { e with draftFiles := e.draftFiles.add role d } := by
  refine h.of_room rfl room ?_ fun other apart => ?_
  · rw [activeDrafts, activeDrafts, Files.ofRole_add]
    split
    · exact Nat.le_trans List.countP_le_length (Nat.le_add_left ..)
    · rw [List.countP_append]
      exact Nat.add_le_add_left List.countP_le_length _
  · exact Nat.le_of_eq (congrArg _ (Files.ofRole_add_of_ne _ _ (Ne.symm apart)))

/-- A mark may be put on a draft, and taken back where there is room. -/
theorem Within.mark (h : e.Within settings) (slot : Slot) (deleted : Bool)
    (room : deleted = false → e.hasRoom slot.role (settings.limit? slot.role) = true) :
    Within settings
      { e with draftFiles := e.draftFiles.modify slot fun d => { d with deleted } } := by
  cases deleted with
  | true => exact h.of_modify rfl (fun _ => rfl) fun _ d _ stays => by cases stays
  | false =>
      refine h.of_room rfl (room rfl) (activeDrafts_le_succ_of_modify rfl) fun other apart => ?_
      exact activeDrafts_le_of_modify rfl fun here => absurd here.symm apart

end Entry

/-- What the server has comes to entries without committed files, whose drafts all find room. -/
theorem Form.within_takeElements {settings : Settings} {f : Form} {elements : List StoredElement}
    {errors : List ElementError} (bare : ∀ e ∈ f.entries, e.files = .empty)
    (h : ∀ e ∈ f.entries, e.Within settings) :
    ∀ e ∈ (f.takeElements elements errors).entries, e.Within settings := by
  intro e he role n limited
  obtain ⟨x, hx, -, drafts⟩ := exists_of_drafts_eq (f.drafts_takeElements elements errors) he
  have before := h x hx role n limited
  have nothing : ((Files.empty : Files StoredFile).ofRole role).length = 0 := by
    cases role <;> rfl
  rw [bare x hx, nothing, Entry.activeDrafts, drafts] at before
  exact Nat.le_trans before (by omega)

/-! ## What keeps the limits -/

namespace Session

variable {s : Session} {now : Nat} {a : Action} {e e' : Entry} {es : List Effect}
  {settings : Settings}

open Entry

/-- Besides new files and marks that are taken back no change needs room. -/
theorem Change.within (h : s.Change now a e es e')
    (adds : ∀ role key date bytes, a ≠ .upload e.kind role key date bytes)
    (restores : ∀ slot, a ≠ .restoreScan e.kind slot)
    (regular : e.Regular) (within : e.Within settings) : e'.Within settings := by
  cases h with
  | openedFirst => exact within_of_snapshot rfl
  | cleared => exact within.clearIfIdle
  | blocked => exact within.atSave.of_modify rfl (fun _ => rfl) fun _ _ _ stays => stays
  | spared => exact within_spared
  | misdated => exact within.atSave.of_eq rfl rfl
  | saved _ _ _ _ _ _ hsent =>
      subst hsent
      exact within.atSave.of_eq rfl rfl
  | reported => exact Within.clearIfIdle (within.of_eq rfl rfl)
  | uploaded ha => exact absurd ha (adds _ _ _ _)
  | @marked slot d deleted ha =>
      cases deleted with
      | true => exact within.mark slot true (by simp)
      | false => exact absurd ha (restores slot)
  | loading =>
      intro role n limited
      rw [Files.length_ofRole_modify]
      exact within role n limited
  | @transferred event change slot d u _ news hd hu =>
      refine within.of_modify rfl (fun _ => rfl) fun list d' hd' stays => ?_
      cases hd.symm.trans hd'
      have unkept := (regular slot u ⟨d, hd, hu⟩).listed list
      rwa [FileEvent.deleted_draftChange news hu unkept] at stays
  | shown =>
      refine within.of_modify rfl (fun _ => Files.length_ofRole_modify ..) fun _ d _ stays => ?_
      split at stays <;> exact stays
  | _ => exact within.of_eq rfl rfl

theorem Uptake.within {task : Task} {outcome : Outcome} (h : s.Uptake now e task outcome es e')
    (within : e.Within settings) : e'.Within settings := by
  cases h with
  | saved => exact within_commit _
  | deleted => exact within_reset
  | _ => exact within.of_eq rfl rfl

theorem form_upload_cases (s : Session) (kind : Kind) (role : Role) (key : UInt64)
    (date : Int64) (bytes : List UInt8) :
    (s.upload kind role key date bytes).1.form = s.form ∨
      ∃ e d, s.form.entry? e.kind = some e ∧
        e.hasRoom role (s.setup.settings.limit? role) = true ∧
        (s.upload kind role key date bytes).1.form =
          s.form.modify e.kind fun _ => { e with draftFiles := e.draftFiles.add role d } := by
  have outcome := s.uploading kind role key date bytes
  generalize result : (s.upload kind role key date bytes).1 = t at outcome
  cases outcome with
  | refused | full => exact .inl rfl
  | taken he editing room =>
      obtain rfl := kind_of_entry he
      exact .inr ⟨_, _, he, room, result ▸ form_upload_of_room he editing room key date bytes⟩

theorem form_setDeleted_cases (s : Session) (kind : Kind) (slot : Slot) :
    (s.setDeleted kind slot false).1.form = s.form ∨
      ∃ e, s.form.entry? e.kind = some e ∧
        e.hasRoom slot.role (s.setup.settings.limit? slot.role) = true ∧
        (s.setDeleted kind slot false).1.form = s.form.modify e.kind fun _ =>
          { e with draftFiles := e.draftFiles.modify slot fun d => { d with deleted := false } } := by
  have outcome := s.marking kind slot false
  generalize (s.setDeleted kind slot false).1 = t at outcome ⊢
  cases outcome with
  | nothing | full => exact .inl rfl
  | marked he hd new room =>
      obtain rfl := kind_of_entry he
      exact .inr ⟨_, he, room rfl, rfl⟩

end Session

/-- An action that has one more draft of a role stay in the edit buffer of an entry. -/
def Session.Action.AddsTo (e : Entry) (role : Role) (a : Session.Action) : Prop :=
  a.Uploads e.kind role ∨ ∃ slot d, slot.role = role ∧ e.draftFiles.get? slot = some d ∧
    d.deleted = true ∧ a = .restoreScan e.kind slot

/-! ## Along a run -/

namespace Run

variable {setup : Setup} {past : History} {s : Session}

/-- An action that neither adds a file nor takes back a mark. What it does to a draft in a list depends
on the upload of the draft being regular. -/
theorem within_act (run : Run setup past s) (now : Nat) {action : Session.Action}
    (adds : ∀ kind role key date bytes, action ≠ .upload kind role key date bytes)
    (restores : ∀ kind slot, action ≠ .restoreScan kind slot)
    (within : ∀ e ∈ s.form.entries, e.Within setup.settings) :
    ∀ e ∈ (s.act now action).1.form.entries, e.Within setup.settings := by
  have both : ∀ e ∈ (s.act now action).1.form.entries, e.Regular ∧ e.Within setup.settings := by
    refine (run.acts now action).forall_entries run.gated
      (fun _ _ _ _ change before => ⟨change.regular before.1, change.within
        (fun role key date bytes => adds _ role key date bytes) (fun slot => restores _ slot)
          before.1 before.2⟩)
      (fun _ _ _ _ _ _ _ uptake before => ⟨uptake.regular before.1, uptake.within before.2⟩)
      ?_ ?_ (fun _ before => before) fun e he => ⟨run.regular e he, within e he⟩
    · intro form e he
      obtain ⟨kind, rfl⟩ := Form.mem_ofAuthorization he
      exact ⟨Entry.regular_of_empty rfl, Entry.within_of_empty rfl⟩
    · intro r elements errors _ waiting _ e he
      have locked := run.gated.locked_of_awaits waiting
      have bare (x : Entry) (hx : x ∈ s.form.entries) : x.files = .empty :=
        ((run.proper.entries x hx).bare locked).1
      exact ⟨Form.regular_takeElements run.regular e he, Form.within_takeElements bare within e he⟩
  exact fun e he => (both e he).2

theorem within (run : Run setup past s) : ∀ e ∈ s.form.entries, e.Within setup.settings := by
  induction run with
  | start credentials => exact fun e he => absurd he List.not_mem_nil
  | @step past s now action run _ _ ih =>
      have settings : s.setup.settings = setup.settings := congrArg Setup.settings run.setup_eq
      have changed {f : Form} (h : f = s.form ∨ ∃ e e', s.form.entry? e.kind = some e ∧
          (e.Within setup.settings → e'.Within setup.settings) ∧
          f = s.form.modify e.kind fun _ => e') : ∀ e ∈ f.entries, e.Within setup.settings := by
        rcases h with rfl | ⟨e, e', he, within, rfl⟩
        · exact ih
        · intro x hx
          rcases Form.mem_modify run.gated.distinct he hx with rfl | ⟨hx, -⟩
          · exact within (ih e (Form.mem_of_entry he))
          · exact ih x hx
      by_cases adds : ∃ kind role key date bytes, action = .upload kind role key date bytes
      · obtain ⟨kind, role, key, date, bytes, rfl⟩ := adds
        refine changed ((s.form_upload_cases kind role key date bytes).imp_right ?_)
        rintro ⟨e, d, he, room, form⟩
        exact ⟨e, _, he, fun within => within.add d (settings ▸ room), form⟩
      · by_cases restores : ∃ kind slot, action = .restoreScan kind slot
        · obtain ⟨kind, slot, rfl⟩ := restores
          refine changed ((s.form_setDeleted_cases kind slot).imp_right ?_)
          rintro ⟨e, he, room, form⟩
          exact ⟨e, _, he, fun within => within.mark slot false fun _ => settings ▸ room, form⟩
        · exact run.within_act now (fun kind role key date bytes ha =>
            adds ⟨kind, role, key, date, bytes, ha⟩)
            (fun kind slot ha => restores ⟨kind, slot, ha⟩) ih

theorem refused_of_full (run : Run setup past s) {e : Entry} (he : e ∈ s.form.entries)
    (editing : e.editors ≠ 0) {role : Role} {n : Nat} (limited : setup.settings.limit? role = some n)
    (full : n ≤ e.activeDrafts role) {action : Session.Action} (adds : action.AddsTo e role)
    (now : Nat) :
    s.act now action = (s.notify (.toast (Phrase.limitReached n)), .done) := by
  have settings : s.setup.settings = setup.settings := congrArg Setup.settings run.setup_eq
  have here : s.entry? e.kind = some e := Form.entry?_of_mem run.gated.distinct he
  have limit : s.setup.settings.limit? role = some n := settings ▸ limited
  have no_room : e.hasRoom role (s.setup.settings.limit? role) = false := by
    simpa [limit, Entry.hasRoom] using full
  have checked {r : Session × Option CallError}
      (h : r = (s.notify (.toast (Phrase.limitReached ((s.setup.settings.limit? role).getD 0))),
        none)) : (r.1, Session.Answer.ofError r.2) =
          (s.notify (.toast (Phrase.limitReached n)), .done) := by
    rw [h, limit]
    rfl
  rcases adds with ⟨key, date, bytes, rfl⟩ | ⟨slot, d, rfl, hd, marked, rfl⟩
  · exact checked (Session.upload_of_full here editing no_room key date bytes)
  · exact checked (Session.setDeleted_of_full here hd marked no_room)

theorem special_upload (run : Run setup past s) {e : Entry} (he : e ∈ s.form.entries)
    (editing : e.editors ≠ 0) {role : Role} (special : role.isSpecial = true) (now : Nat)
    (key : UInt64) (date : Int64) (bytes : List UInt8) :
    let t : Turn := ⟨s, now, .upload e.kind role key date bytes⟩
    (s.act now t.action).2 = .done ∧ .request (.uploadFile key role bytes) ∈ t.effects ∧
      (∀ text, .notice (.toast text) ∉ t.effects) ∧
      ∃ e' d, t.after.form.entry? e.kind = some e' ∧ e'.draftFiles.ofRole role = [d] ∧
        d.upload.map (·.key) = some key := by
  intro t
  have here : s.entry? e.kind = some e := Form.entry?_of_mem run.gated.distinct he
  have room := e.hasRoom_of_special special s.setup.settings
  have result := Session.upload_of_room here editing room key date bytes
  have effects : t.effects =
      (Request.uploadFile key role bytes :: e.displaced role).map .request ++
        [.notice (.scanUpdated ⟨e.kind, e.draftFiles.nextSlot role⟩)] := by
    show (s.upload e.kind role key date bytes).1.outbox = _
    rw [result, Session.outbox_notify, Session.outbox_put, Session.outbox_sendAll,
      run.outbox_eq_nil, List.nil_append]
  have form : t.after.form = _ := Session.form_upload_of_room here editing room key date bytes
  refine ⟨?_, by simp [effects], by simp [effects], ?_⟩
  · show Session.Answer.ofError (s.upload e.kind role key date bytes).2 = _
    rw [result]
    rfl
  · refine ⟨_, e.newDraft role key date bytes, form ▸ Form.entry?_modify here rfl, ?_, rfl⟩
    rw [Files.ofRole_add, if_pos special]

/-- The limits of lists of files. No more drafts stay in an edit buffer than the limit, or than files
are committed. In an editor in which the limit is reached, neither an upload nor taking back a mark
does anything but tell so. There is no limit to uploads of a special role, and each leaves one file in
the slot. -/
theorem files_within_limits (run : Run setup past s) :
    (∀ e ∈ s.form.entries, ∀ role n, setup.settings.limit? role = some n →
      e.activeDrafts role ≤ max n (e.files.ofRole role).length) ∧
    (∀ e ∈ s.form.entries, e.editors ≠ 0 → ∀ role n, setup.settings.limit? role = some n →
      n ≤ e.activeDrafts role → ∀ action : Session.Action, action.AddsTo e role → ∀ now,
        let t : Turn := ⟨s, now, action⟩
        t.after = s ∧ t.effects = [.notice (.toast (Phrase.limitReached n))] ∧
          (s.act now action).2 = .done) ∧
    ∀ e ∈ s.form.entries, e.editors ≠ 0 → ∀ role : Role, role.isSpecial = true →
      ∀ now key date bytes,
        let t : Turn := ⟨s, now, .upload e.kind role key date bytes⟩
        (s.act now t.action).2 = .done ∧ .request (.uploadFile key role bytes) ∈ t.effects ∧
          (∀ text, .notice (.toast text) ∉ t.effects) ∧
          ∃ e' d, t.after.form.entry? e.kind = some e' ∧ e'.draftFiles.ofRole role = [d] ∧
            d.upload.map (·.key) = some key := by
  refine ⟨run.within, fun e he editing role n limited full action adds now => ?_,
    fun e he editing role special => run.special_upload he editing special⟩
  have result := run.refused_of_full he editing limited full adds now
  refine ⟨?_, ?_, congrArg Prod.snd result⟩
  · show (s.act now action).1.drain.2 = s
    rw [result]
    show { s with outbox := [] } = s
    rw [← run.outbox_eq_nil]
  · show (s.act now action).1.outbox = _
    rw [result, Session.outbox_notify, run.outbox_eq_nil, List.nil_append]

/-- A passport has one rendition, which is as many as there may be. Another one is refused in the
editor, while the front side can be replaced. -/
theorem files_within_limits_of_one :
    let setup : Setup := { Setup.plain with settings := { Settings.standard with renditionLimit := 1 } }
    let s := (play (.fresh setup .empty)
      ((4, .startEdit (.identity .passport)) :: opening passportForm [scannedPassport])).2
    ∃ e ∈ s.form.entries, e.activeDrafts .rendition = 1 ∧ e.activeDrafts .rendition ≤ 1 ∧
      Turn.effects ⟨s, 5, .upload (.identity .passport) .rendition 50 0 []⟩ =
        [.notice (.toast (Phrase.limitReached 1))] ∧
      .request (.uploadFile 51 .frontSide []) ∈
        Turn.effects ⟨s, 5, .upload (.identity .passport) .frontSide 51 0 []⟩ := by
  intro setup s
  have playable : Playable (.fresh setup .empty)
      ((4, .startEdit (.identity .passport)) :: opening passportForm [scannedPassport]) := by
    decide +kernel
  have run : Run setup _ s := .of_playable playable
  obtain ⟨bounded, refused, special⟩ := files_within_limits run
  have held : ∃ e ∈ s.form.entries, e.kind = .identity .passport ∧ e.editors ≠ 0 ∧
      e.activeDrafts .rendition = 1 ∧ (e.files.ofRole .rendition).length = 1 := by decide +kernel
  obtain ⟨e, he, hk, editing, full, committed⟩ := held
  have most := bounded e he .rendition 1 rfl
  rw [committed] at most
  refine ⟨e, he, full, most, ?_, ?_⟩
  · have adds : Session.Action.AddsTo e .rendition
        (.upload (.identity .passport) .rendition 50 0 []) :=
      .inl ⟨50, 0, [], hk ▸ rfl⟩
    exact (refused e he editing .rendition 1 rfl (Nat.le_of_eq full.symm) _ adds 5).2.1
  · rw [← hk]
    exact (special e he editing .frontSide rfl 5 51 0 []).2.1

end Run

end IdentityForm
