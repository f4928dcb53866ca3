import IdentityForm.Proofs.Edits

/-! # Elsewhere

What concerns the entry of one kind leaves the rest of a session alone: the other entries, their timers
and their saves, what was asked for on behalf of the whole session, and all that is sent and told about
the password.
-/

namespace IdentityForm

/-- An effect that is about the password of the session. -/
@[reducible] def Effect.isPrompt : Effect → Bool
  | .notice .askPassword | .notice (.passwordError _) => true
  | .request (.getAvailableElements _ _ _) => true
  | _ => false

def Pending.kind? : Pending → Option Kind
  | .task _ kind => some kind
  | .errand _ => none

def Form.without (f : Form) (kind : Kind) : Form :=
  { f with entries := f.entries.filter fun e => e.kind ≠ kind }

namespace Form

variable {f : Form} {kind : Kind} {g : Entry → Entry}

theorem without_modify (hk : ∀ e, e.kind = kind → (g e).kind = kind) :
    (f.modify kind g).without kind = f.without kind := by
  simp only [modify, without]
  congr 1
  induction f.entries with
  | nil => rfl
  | cons e rest ih =>
      by_cases he : e.kind = kind
      · rw [List.map_cons, if_pos he, List.filter_cons_of_neg (by simp [hk e he]),
          List.filter_cons_of_neg (by simp [he]), ih]
      · rw [List.map_cons, if_neg he, List.filter_cons_of_pos (by simp [he]),
          List.filter_cons_of_pos (by simp [he]), ih]

theorem entry?_without {other : Kind} (apart : kind ≠ other) :
    entry? (f.without kind) other = f.entry? other := by
  simp only [without, entry?]
  induction f.entries with
  | nil => rfl
  | cons e rest ih =>
      by_cases he : e.kind = kind
      · have here : e.kind ≠ other := fun same => apart (he.symm.trans same)
        simpa [he, apart, here] using ih
      · by_cases here : e.kind = other
        · simp [here, apart.symm]
        · simpa [he, here] using ih

end Form

namespace Session

/-- A session apart from one kind, the transfers, and what it sends and tells of other things than the
password. -/
def elsewhere (s : Session) (kind : Kind) : Session :=
  { s with
    form := s.form.without kind
    issued := 0
    suggestingRestart := false
    downloads := []
    unreported := s.unreported.filter (· ≠ kind)
    timers := s.timers.filter fun t => t.2 ≠ .callTick kind
    outbox := s.outbox.filter Effect.isPrompt }

variable {s : Session} {now : Nat} {kind : Kind} {e : Entry} {g : Entry → Entry}

/-! ## Small operations -/

@[simp] theorem elsewhere_modify (hk : ∀ e, e.kind = kind → (g e).kind = kind) :
    (s.modify kind g).elsewhere kind = s.elsewhere kind := by
  simp only [elsewhere, modify, Form.without_modify hk]

@[simp] theorem elsewhere_put (hk : e.kind = kind) :
    (s.put e).elsewhere kind = s.elsewhere kind := by
  subst hk
  exact elsewhere_modify fun _ _ => rfl

@[simp] theorem elsewhere_clearIfIdle : (s.clearIfIdle kind).elsewhere kind = s.elsewhere kind :=
  elsewhere_modify fun e hk => e.kind_clearIfIdle.trans hk

@[simp] theorem elsewhere_send {r : Request} (calm : Effect.isPrompt (.request r) = false) :
    (s.send r).elsewhere kind = s.elsewhere kind := by
  simp only [elsewhere, send, List.filter_append, List.filter_cons, calm, List.filter_nil,
    Bool.false_eq_true, if_false, List.append_nil]

@[simp] theorem elsewhere_notify {n : Notice} (calm : Effect.isPrompt (.notice n) = false) :
    (s.notify n).elsewhere kind = s.elsewhere kind := by
  simp only [elsewhere, notify, List.filter_append, List.filter_cons, calm, List.filter_nil,
    Bool.false_eq_true, if_false, List.append_nil]

@[simp] theorem elsewhere_ask {p : Pending} {make : Token → Request}
    (calm : Effect.isPrompt (.request (make ⟨s.nextId, p⟩)) = false) :
    (s.ask p make).elsewhere kind = s.elsewhere kind :=
  elsewhere_send (s := { s with issued := s.nextId }) calm

@[simp] theorem elsewhere_sendAll {rs : List Request}
    (calm : ∀ r ∈ rs, Effect.isPrompt (.request r) = false) :
    (s.sendAll rs).elsewhere kind = s.elsewhere kind :=
  foldl_keeps (·.elsewhere kind) fun _ r hr => elsewhere_send (calm r hr)

@[simp] theorem elsewhere_notifyAll {ns : List Notice}
    (calm : ∀ n ∈ ns, Effect.isPrompt (.notice n) = false) :
    (s.notifyAll ns).elsewhere kind = s.elsewhere kind :=
  foldl_keeps (·.elsewhere kind) fun _ n hn => elsewhere_notify (calm n hn)

@[simp] theorem elsewhere_disarm : (s.disarm (.callTick kind)).elsewhere kind = s.elsewhere kind := by
  simp [elsewhere, disarm, List.filter_filter]

@[simp] theorem elsewhere_schedule (due : Nat) :
    (s.schedule due (.callTick kind)).elsewhere kind = s.elsewhere kind := by
  simp [elsewhere, schedule, disarm, List.filter_filter]

@[simp] theorem elsewhere_defer :
    elsewhere { s with unreported := s.unreported ++ [kind] } kind = s.elsewhere kind := by
  simp [elsewhere]

/-! ## Files -/

theorem elsewhere_upload (kind : Kind) (role : Role) (key : UInt64) (date : Int64)
    (bytes : List UInt8) :
    (s.upload kind role key date bytes).1.elsewhere kind = s.elsewhere kind := by
  have outcome := s.uploading kind role key date bytes
  generalize (s.upload kind role key date bytes).1 = t at outcome
  cases outcome with
  | refused => rfl
  | full => simp
  | taken he => simp [kind_of_entry he, Entry.displaced]

theorem elsewhere_setDeleted (kind : Kind) (slot : Slot) (deleted : Bool) :
    (s.setDeleted kind slot deleted).1.elsewhere kind = s.elsewhere kind := by
  have outcome := s.marking kind slot deleted
  generalize (s.setDeleted kind slot deleted).1 = t at outcome
  cases outcome with
  | nothing => rfl
  | full => simp
  | marked he => simp [kind_of_entry he]

@[simp] theorem elsewhere_startDownload (id size : UInt64) :
    (s.startDownload id size).elsewhere kind = s.elsewhere kind := by
  unfold startDownload
  split
  · rfl
  · exact elsewhere_send rfl

theorem elsewhere_loadFile (kind : Kind) (slot : Slot) :
    (s.loadFile kind slot).1.elsewhere kind = s.elsewhere kind := by
  unfold loadFile
  cases he : s.entry? kind with
  | none => rfl
  | some e =>
      have hk : e.kind = kind := kind_of_entry he
      dsimp only
      repeat' split
      all_goals simp [hk]

@[simp] theorem elsewhere_loadScans (kind : Kind) :
    (s.loadScans kind).elsewhere kind = s.elsewhere kind := by
  unfold loadScans
  split
  · rfl
  · exact foldl_keeps (·.elsewhere kind) fun _ slot _ => elsewhere_loadFile kind slot

/-- An event of an upload concerns the kind whose buffer holds it. -/
theorem elsewhere_updateUpload {key : UInt64} {place : Place} (change : Draft → Draft)
    (found : s.form.findUpload? key = some place) :
    (s.updateUpload key change).elsewhere place.kind = s.elsewhere place.kind := by
  unfold updateUpload
  rw [found]
  simp

/-! ## Editing -/

theorem elsewhere_startEdit (kind : Kind) :
    (s.startEdit kind).1.elsewhere kind = s.elsewhere kind := by
  unfold startEdit
  cases he : s.entry? kind with
  | none => rfl
  | some e =>
      have hk : e.kind = kind := kind_of_entry he
      dsimp only
      split
      · exact (elsewhere_loadScans kind).trans (elsewhere_put (by exact hk))
      · simp [hk]

theorem elsewhere_stopEdit (kind : Kind) :
    (s.stopEdit kind).1.elsewhere kind = s.elsewhere kind := by
  unfold stopEdit
  cases he : s.entry? kind with
  | none => rfl
  | some e =>
      have hk : e.kind = kind := kind_of_entry he
      dsimp only
      split <;> simp [hk]

@[simp] theorem elsewhere_sendSave (kind : Kind) :
    (s.sendSave kind).1.elsewhere kind = s.elsewhere kind := by
  unfold sendSave
  cases s.password with
  | none => rfl
  | some password =>
      cases he : s.entry? kind with
      | none => rfl
      | some e => simp [kind_of_entry he]

theorem elsewhere_save (kind : Kind) (changes : Fields) :
    (s.save kind changes).1.elsewhere kind = s.elsewhere kind := by
  have outcome := s.saving kind changes
  generalize (s.save kind changes).1 = t at outcome
  cases outcome with
  | nothing => rfl
  | blocked he | misdated he | unkeyed he => simp [kind_of_entry he]
  | spared he =>
      exact (elsewhere_defer (s := s.put _)).trans (elsewhere_put (by simp [kind_of_entry he]))
  | sent he _ _ _ _ _ hdraft => simp [hdraft, kind_of_entry he]

theorem elsewhere_finishUnchanged (kind : Kind) :
    (s.finishUnchanged kind).elsewhere kind = s.elsewhere kind := by
  unfold finishUnchanged
  cases he : s.entry? kind with
  | none => rfl
  | some e =>
      have hk : e.kind = kind := kind_of_entry he
      dsimp only
      split <;> simp [hk]

@[simp] theorem elsewhere_editFailed (kind : Kind) :
    (s.editFailed kind).elsewhere kind = s.elsewhere kind :=
  (elsewhere_notify rfl).trans elsewhere_clearIfIdle

theorem elsewhere_delete (kind : Kind) : (s.delete kind).1.elsewhere kind = s.elsewhere kind := by
  rcases s.delete_cases kind with same | ⟨e, he, -, -, -, same⟩ <;> rw [same]
  simp [kind_of_entry he]

theorem elsewhere_deleteDone (kind : Kind) (outcome : Outcome) :
    (s.deleteDone kind outcome).elsewhere kind = s.elsewhere kind := by
  cases outcome <;> simp [deleteDone]

@[simp] theorem elsewhere_suggestRestart : s.suggestRestart.elsewhere kind = s.elsewhere kind := by
  unfold suggestRestart
  split
  · rfl
  · exact elsewhere_notify (s := { s with suggestingRestart := true }) rfl

/-! ## Verification -/

@[simp] theorem elsewhere_sendCode (kind : Kind) {make : Token → String → Request}
    (calm : ∀ token target, Effect.isPrompt (.request (make token target)) = false) :
    (s.sendCode kind make).elsewhere kind = s.elsewhere kind := by
  unfold sendCode
  cases he : s.entry? kind with
  | none => rfl
  | some e => simp [kind_of_entry he, calm]

@[simp] theorem elsewhere_sendCodeFailed (kind : Kind) (error : ServerError) :
    (s.sendCodeFailed kind error).elsewhere kind = s.elsewhere kind := by
  simp [sendCodeFailed]

theorem elsewhere_sendCodeDone (kind : Kind) (outcome : Outcome) :
    (s.sendCodeDone now kind outcome).elsewhere kind = s.elsewhere kind := by
  unfold sendCodeDone
  repeat' split
  all_goals simp

theorem elsewhere_verify (kind : Kind) (code : String) :
    (s.verify kind code).1.elsewhere kind = s.elsewhere kind := by
  unfold verify
  cases he : s.entry? kind with
  | none => rfl
  | some e =>
      have hk : e.kind = kind := kind_of_entry he
      dsimp only
      repeat' split
      all_goals simp [hk]

theorem elsewhere_checkCodeDone (kind : Kind) (outcome : Outcome) :
    (s.checkCodeDone kind outcome).elsewhere kind = s.elsewhere kind := by
  unfold checkCodeDone
  cases he : s.entry? kind with
  | none => rfl
  | some e =>
      have hk : e.kind = kind := kind_of_entry he
      cases outcome with
      | failed error => simp [hk]
      | ok response =>
          dsimp only
          generalize hq : (((s.sendAll (e.verification.callRequest?.toList.map .cancel)).put
            { e with verification := .none }).disarm (.callTick kind)).notify
              (.verificationUpdate kind) = quiet
          have calm : quiet.elsewhere kind = s.elsewhere kind := by
            rw [← hq]
            simp [hk]
          have sent := elsewhere_sendSave (s := quiet) kind
          split
          · rename_i s' saved
            rw [saved] at sent
            exact sent.trans calm
          · rename_i s' _ saved
            rw [saved] at sent
            exact (elsewhere_editFailed kind).trans (sent.trans calm)

theorem elsewhere_cancelVerification (kind : Kind) :
    (s.cancelVerification kind).1.elsewhere kind = s.elsewhere kind := by
  unfold cancelVerification
  cases he : s.entry? kind with
  | none => rfl
  | some e =>
      have hk : e.kind = kind := kind_of_entry he
      dsimp only
      repeat' split
      all_goals simp [hk, or_imp, forall_and]

theorem elsewhere_callTick (now : Nat) (kind : Kind) :
    (s.callTick now kind).elsewhere kind = s.elsewhere kind := by
  unfold callTick
  cases he : s.entry? kind with
  | none => rfl
  | some e =>
      have hk : e.kind = kind := kind_of_entry he
      dsimp only
      repeat' split
      all_goals simp [hk]

@[simp] theorem elsewhere_saveFailed (kind : Kind) (error : ServerError) :
    (s.saveFailed kind error).elsewhere kind = s.elsewhere kind := by
  unfold saveFailed
  dsimp only
  split <;> simp

theorem elsewhere_saveDone (kind : Kind) (outcome : Outcome) :
    (s.saveDone kind outcome).elsewhere kind = s.elsewhere kind := by
  unfold saveDone
  repeat' split
  all_goals simp

theorem elsewhere_resendCallDone (kind : Kind) (outcome : Outcome) :
    (s.resendCallDone kind outcome).elsewhere kind = s.elsewhere kind := by
  cases outcome <;> simp [resendCallDone]

theorem elsewhere_taskDone (task : Task) (kind : Kind) (outcome : Outcome) :
    (s.taskDone now task kind outcome).elsewhere kind = s.elsewhere kind := by
  cases task with
  | save => exact elsewhere_saveDone kind outcome
  | delete => exact elsewhere_deleteDone kind outcome
  | sendCode => exact elsewhere_sendCodeDone kind outcome
  | checkCode => exact elsewhere_checkCodeDone kind outcome
  | resendCall => exact elsewhere_resendCallDone kind outcome

/-! ## Actions -/

def Action.kind? : Action → Option Kind
  | .startEdit kind | .stopEdit kind | .save kind _ | .delete kind => some kind
  | .upload kind _ _ _ _ | .deleteScan kind _ | .restoreScan kind _ | .loadFile kind _ => some kind
  | .verify kind _ | .cancelVerification kind => some kind
  | .reply r => r.token.pending.kind?
  | _ => none

theorem elsewhere_handleReply {r : Reply} (about : r.token.pending.kind? = some kind) :
    (s.handleReply now r).elsewhere kind = s.elsewhere kind := by
  unfold handleReply
  cases ht : r.token.pending with
  | errand errand =>
      rw [ht] at about
      cases about
  | task task _ =>
      rw [ht] at about
      cases about
      dsimp only
      repeat' split
      · rfl
      · rfl
      · exact elsewhere_taskDone task kind r.outcome
      · rfl

theorem elsewhere_act {a : Action} (about : a.kind? = some kind) :
    (s.act now a).1.elsewhere kind = s.elsewhere kind := by
  cases a with
  | reply r => exact elsewhere_handleReply about
  | startEdit kind => cases about; exact elsewhere_startEdit _
  | stopEdit kind => cases about; exact elsewhere_stopEdit _
  | save kind changes => cases about; exact elsewhere_save _ _
  | delete kind => cases about; exact elsewhere_delete _
  | upload kind role key date bytes => cases about; exact elsewhere_upload _ _ _ _ _
  | deleteScan kind slot => cases about; exact elsewhere_setDeleted _ _ _
  | restoreScan kind slot => cases about; exact elsewhere_setDeleted _ _ _
  | loadFile kind slot => cases about; exact elsewhere_loadFile _ _
  | verify kind code => cases about; exact elsewhere_verify _ _
  | cancelVerification kind => cases about; exact elsewhere_cancelVerification _
  | _ => cases about

end Session

end IdentityForm
