import IdentityForm.Proofs.Move.Step
import IdentityForm.Proofs.Upkeep

/-! # Operations that keep an entry tidy

Every operation on files, editors and verifications leaves the list of unreported saves alone and
clears the buffer of what it brings to rest. The reply to a save does so too, unless it is a failure
that puts an error on a field.
-/

namespace IdentityForm.Session

variable {s s' : Session} {now : Nat} {kind : Kind} {e e' : Entry} {g : Entry → Entry}

/-! ## Files -/

theorem startDownload_upkeeps (id size : UInt64) : s.Upkeeps (s.startDownload id size) := by
  unfold startDownload
  split
  · exact .refl
  · exact .of_desk rfl

theorem loadFile_upkeeps (kind : Kind) (slot : Slot) : s.Upkeeps (s.loadFile kind slot).1 := by
  unfold loadFile
  cases he : s.entry? kind with
  | none => exact .refl
  | some e =>
      obtain rfl := kind_of_entry he
      dsimp only
      cases e.files.get? slot with
      | none => exact .refl
      | some f =>
          dsimp only
          split
          · exact .refl
          · have marked : s.Upkeeps (s.put { e with
                files := e.files.modify slot fun f => { f with download := .inProgress 0 } }) :=
              .of_put _ rfl he fun tidy => tidy
            exact marked.trans (startDownload_upkeeps f.id f.size)

theorem loadScans_upkeeps (kind : Kind) : s.Upkeeps (s.loadScans kind) := by
  unfold loadScans
  cases s.entry? kind with
  | none => exact .refl
  | some e => exact .foldl (fun s slot => loadFile_upkeeps kind slot) _

theorem upload_upkeeps (kind : Kind) (role : Role) (key : UInt64) (date : Int64)
    (bytes : List UInt8) :
    s.Upkeeps (s.upload kind role key date bytes).1 := by
  unfold upload
  cases he : s.entry? kind with
  | none => exact .refl
  | some e =>
      obtain rfl := kind_of_entry he
      dsimp only
      split
      · exact .refl
      · rename_i editing
        split
        · exact .of_desk rfl
        · let draft := e.newDraft role key date bytes
          let added := { e with draftFiles := e.draftFiles.add role draft }
          have same (rs : List Request) : ((s.sendAll rs).put added).desk = (s.put added).desk :=
            congrArg (fun d : Form × List Kind => (d.1.modify e.kind fun _ => added, d.2))
              (desk_sendAll rs)
          have adds : s.Upkeeps (s.put added) := .of_put _ rfl he fun _ => Entry.tidy_of_editing editing
          exact adds.trans (.of_desk (same _))

theorem setDeleted_upkeeps (kind : Kind) (slot : Slot) (deleted : Bool) :
    s.Upkeeps (s.setDeleted kind slot deleted).1 := by
  unfold setDeleted
  cases he : s.entry? kind with
  | none => exact .refl
  | some e =>
      obtain rfl := kind_of_entry he
      dsimp only
      cases e.draftFiles.get? slot with
      | none => exact .refl
      | some d =>
          dsimp only
          split
          · exact .refl
          · split
            · exact .of_desk rfl
            · refine .of_put _ rfl he fun tidy =>
                tidy.of_modify (fun d => { d with deleted }) (fun _ => rfl) ?_ rfl rfl rfl
              intro resting
              obtain ⟨idle, request, length, -⟩ := Entry.quiet_iff.1 resting.2
              exact ⟨resting.1, idle, request, length⟩

theorem updateUpload_upkeeps (key : UInt64) (change : Draft → Draft) :
    s.Upkeeps (s.updateUpload key change) := by
  unfold updateUpload
  cases s.form.findUpload? key with
  | none => exact .refl
  | some place =>
      let g := fun e : Entry => { e with draftFiles := e.draftFiles.modify place.slot change }
      exact .of_cleared place.kind (g := g) rfl fun _ hk => hk

theorem updateDownload_upkeeps (id : UInt64) (change : StoredFile → StoredFile) :
    s.Upkeeps (s.updateDownload id change) := by
  refine .foldl (fun s place => ?_) _
  refine .of_modify place.kind (g := updateFile id change place.slot) rfl (fun _ hk => hk)
    fun e _ tidy => ?_
  refine tidy.of_modify _ (fun d => ?_) ?_ rfl rfl rfl
  · split
    · rfl
    · rfl
  · intro resting
    obtain ⟨idle, request, length, -⟩ := Entry.quiet_iff.1 resting.2
    exact ⟨resting.1, idle, request, length⟩

theorem handleFileEvent_upkeeps (event : FileEvent) : s.Upkeeps (s.handleFileEvent event) := by
  unfold handleFileEvent
  split
  · exact .refl
  · have ended (id : UInt64) : s.Upkeeps (s.endDownload id) := .of_desk rfl
    cases event with
    | uploadProgress key offset => exact updateUpload_upkeeps key _
    | uploadDone key fileId => exact updateUpload_upkeeps key _
    | uploadFailed key => exact updateUpload_upkeeps key _
    | downloadProgress key offset => exact updateDownload_upkeeps key _
    | downloadDone key bytes => exact (ended key).trans (updateDownload_upkeeps key _)
    | downloadFailed key => exact (ended key).trans (updateDownload_upkeeps key _)

/-! ## The edit buffer -/

theorem startEdit_upkeeps (kind : Kind) : s.Upkeeps (s.startEdit kind).1 := by
  unfold startEdit
  cases he : s.entry? kind with
  | none => exact .refl
  | some e =>
      obtain rfl := kind_of_entry he
      dsimp only
      split
      · have opened : s.Upkeeps (s.put { e with editors := e.editors + 1 }.snapshot) :=
          .of_put _ rfl he fun _ => Entry.tidy_of_editing (Nat.succ_ne_zero _)
        exact opened.trans (loadScans_upkeeps _)
      · exact .of_put _ rfl he fun _ => Entry.tidy_of_editing (Nat.succ_ne_zero _)

theorem stopEdit_upkeeps (kind : Kind) : s.Upkeeps (s.stopEdit kind).1 := by
  unfold stopEdit
  cases he : s.entry? kind with
  | none => exact .refl
  | some e =>
      obtain rfl := kind_of_entry he
      dsimp only
      split
      · exact .refl
      · exact .of_cleared e.kind (g := fun _ => { e with editors := e.editors - 1 }) rfl
          fun _ _ => rfl

theorem delete_upkeeps (kind : Kind) : s.Upkeeps (s.delete kind).1 := by
  rcases s.delete_cases kind with same | ⟨e, he, -, -, -, same⟩ <;> rw [same]
  · exact .refl
  · obtain rfl := kind_of_entry he
    exact .of_put _ rfl he fun _ => Entry.tidy_of_writing (by simp)

theorem modify_editFailed_upkeeps (n : Notice) (hk : ∀ e, e.kind = kind → (g e).kind = kind) :
    s.Upkeeps (((s.modify kind g).notify n).editFailed kind) := .of_cleared kind rfl hk

theorem deleteDone_upkeeps (kind : Kind) (outcome : Outcome) :
    s.Upkeeps (s.deleteDone kind outcome) := by
  cases outcome with
  | ok response =>
      exact .of_modify kind rfl (fun e hk => e.kind_reset.trans hk) fun e _ _ => e.tidy_reset
  | failed error => exact modify_editFailed_upkeeps _ fun _ hk => hk

/-! ## Verification -/

theorem verify_upkeeps (kind : Kind) (code : String) : s.Upkeeps (s.verify kind code).1 := by
  unfold verify
  cases he : s.entry? kind with
  | none => exact .refl
  | some e =>
      obtain rfl := kind_of_entry he
      dsimp only
      cases e.verification.codeLength with
      | none => exact .refl
      | some length =>
          dsimp only
          split
          · exact .refl
          · split
            · exact .of_put _ rfl he fun _ => Entry.tidy_of_coded (Option.some_ne_none length)
            · exact .of_put _ rfl he fun _ => Entry.tidy_of_coded (Option.some_ne_none length)

theorem cancelVerification_upkeeps (kind : Kind) :
    s.Upkeeps (s.cancelVerification kind).1 := by
  unfold cancelVerification
  cases he : s.entry? kind with
  | none => exact .refl
  | some e =>
      obtain rfl := kind_of_entry he
      let quiet := { e with verification := .none }
      dsimp only
      generalize (e.verification.request.toList ++ e.verification.callRequest?.toList).map
        Request.cancel = rs
      have same : ((s.sendAll rs).put quiet).desk = (s.put quiet).desk :=
        congrArg (fun d : Form × List Kind => (d.1.modify e.kind fun _ => quiet, d.2))
          (desk_sendAll rs)
      have cleared : (((s.sendAll rs).put quiet).clearIfIdle e.kind).desk =
          ((s.put quiet).clearIfIdle e.kind).desk :=
        congrArg (fun d : Form × List Kind => (d.1.modify e.kind Entry.clearIfIdle, d.2)) same
      by_cases busy : quiet.isBusy = true
      · rw [if_pos busy]
        refine .of_put quiet ?_ he fun _ => Entry.tidy_of_busy busy
        split <;> exact same
      · rw [if_neg busy]
        refine .of_cleared e.kind (g := fun _ => quiet) ?_ fun _ _ => rfl
        split <;> exact cleared

theorem sendCode_upkeeps (make : Token → String → Request)
    (hk : ∀ e, e.kind = kind → (g e).kind = kind) :
    s.Upkeeps ((s.modify kind g).sendCode kind make) := by
  unfold sendCode
  cases he : entry? (s.modify kind g) kind with
  | none =>
      have absent : s.form.entry? kind = none :=
        Option.map_eq_none_iff.1 ((Form.entry?_modify_self hk).symm.trans he)
      refine .of_desk ?_
      simp only [desk, modify, Form.modify_of_entry?_eq_none absent]
  | some e =>
      obtain rfl := kind_of_entry he
      let asked := { e with verification := { Verification.none with request := some s.nextId } }
      have twice : (s.modify e.kind g).put asked = s.modify e.kind ((fun _ => asked) ∘ g) :=
        modify_modify hk
      have same := congrArg desk twice
      exact .of_modify _ same (fun _ _ => rfl) fun _ _ _ => Entry.tidy_of_request (e := asked) rfl

theorem sendCodeDone_upkeeps (kind : Kind) (outcome : Outcome) :
    s.Upkeeps (s.sendCodeDone now kind outcome) := by
  have failed (error : ServerError) : s.Upkeeps (s.sendCodeFailed kind error) :=
    modify_editFailed_upkeeps _ fun _ hk => hk
  cases outcome with
  | failed error => exact failed error
  | ok response =>
      unfold sendCodeDone
      dsimp only
      split
      · exact failed _
      · rename_i length timeout _
        refine .of_modify kind (g := fun e => { e with
          verification := { e.verification with
            request := none
            codeLength := some length
            call := (timeout.map fun t => VoiceCall.waiting (now + 1000 * t)).or
              e.verification.call } }) ?_ (fun _ hk => hk) fun e _ _ =>
                Entry.tidy_of_coded (Option.some_ne_none length)
        split <;> rfl

theorem checkCodeDone_upkeeps (kind : Kind) (outcome : Outcome)
    (coded : ∀ e, s.entry? kind = some e → e.verification.codeLength ≠ none) :
    s.Upkeeps (s.checkCodeDone kind outcome) := by
  unfold checkCodeDone
  cases he : s.entry? kind with
  | none => exact .refl
  | some e =>
      obtain rfl := kind_of_entry he
      cases outcome with
      | failed error =>
          exact .of_put _ rfl he fun _ => Entry.tidy_of_coded (coded e he)
      | ok response =>
          let quiet := { e with verification := .none }
          dsimp only
          generalize e.verification.callRequest?.toList.map Request.cancel = rs
          have same : ((s.sendAll rs).put quiet).desk = (s.put quiet).desk :=
            congrArg (fun d : Form × List Kind => (d.1.modify e.kind fun _ => quiet, d.2))
              (desk_sendAll rs)
          generalize ht : (((s.sendAll rs).put quiet).disarm (.callTick e.kind)).notify
            (.verificationUpdate e.kind) = t
          have desk_t : t.desk = (s.put quiet).desk := ht ▸ same
          have found : t.entry? e.kind = some quiet :=
            (congrArg (fun d : Form × List Kind => Form.entry? d.1 e.kind) desk_t).trans
              (entry?_put rfl he)
          cases hp : t.password with
          | none =>
              rw [sendSave_locked hp]
              exact .of_cleared e.kind (g := fun _ => quiet)
                (congrArg (fun d : Form × List Kind => (d.1.modify e.kind Entry.clearIfIdle, d.2))
                  desk_t) fun _ _ => rfl
          | some password =>
              rw [sendSave_eq found hp]
              let sent := { quiet with write := .pending t.nextId }
              have twice : (s.put quiet).put sent = s.put sent := put_put rfl
              refine .of_put sent ?_ he fun _ => Entry.tidy_of_writing (by simp [sent])
              rw [← twice]
              exact congrArg (fun d : Form × List Kind => (d.1.modify e.kind fun _ => sent, d.2)) desk_t

theorem resendCallDone_upkeeps (kind : Kind) (outcome : Outcome) :
    s.Upkeeps (s.resendCallDone kind outcome) := by
  cases outcome with
  | ok response => exact .of_modify kind rfl (fun _ hk => hk) fun e _ tidy => tidy
  | failed error => exact .of_modify kind rfl (fun _ hk => hk) fun e _ tidy => tidy

theorem callTick_upkeeps (kind : Kind) : s.Upkeeps (s.callTick now kind) := by
  unfold callTick
  cases he : s.entry? kind with
  | none => exact .refl
  | some e =>
      obtain rfl := kind_of_entry he
      dsimp only
      split
      · split
        · exact .of_put _ rfl he fun tidy => tidy
        · exact .of_desk rfl
      · exact .refl

/-! ## Replies -/

/-- The list of unreported saves is the same, and a tidy entry is still tidy, unless it is one that may
be refused and one of its fields has got an error. -/
structure Tends (refusable : Kind → Prop) (s s' : Session) : Prop where
  unreported : s'.unreported = s.unreported
  tidy : ∀ kind, s.form.Tidy kind →
    s'.form.Tidy kind ∨ refusable kind ∧ ∃ field, .notice (.fieldError kind field) ∈ s'.outbox

theorem Upkeeps.tends {refusable : Kind → Prop} (h : s.Upkeeps s') : s.Tends refusable s' :=
  ⟨h.unreported, fun kind tidy => .inl (h.tidy kind tidy)⟩

theorem Tends.mono {refusable refusable' : Kind → Prop} (h : s.Tends refusable s')
    (weaker : ∀ kind, refusable kind → refusable' kind) : s.Tends refusable' s' :=
  ⟨h.unreported, fun kind tidy => (h.tidy kind tidy).imp_right (And.imp_left (weaker kind))⟩

/-- Of all failures of a save only a refused field leaves the buffer as it is. -/
theorem saveFailed_tends (kind : Kind) (error : ServerError) :
    s.Tends (· = kind) (s.saveFailed kind error) := by
  let idle := fun e : Entry => { e with write := .idle }
  have kept : ∀ e, e.kind = kind → (idle e).kind = kind := fun _ hk => hk
  unfold saveFailed
  dsimp only
  split
  · exact (modify_editFailed_upkeeps (g := idle) _ kept).tends
  · exact (sendCode_upkeeps (g := idle) _ kept).tends
  · exact (sendCode_upkeeps (g := idle) _ kept).tends
  · rename_i field message _
    refine ⟨rfl, fun other tidy => ?_⟩
    by_cases same : kind = other
    · subst same
      exact .inr ⟨rfl, field, by simp⟩
    · exact .inl ((tidy.modify_ne kept same).modify_ne (fun _ hk => hk) same)
  · have cleared : s.Upkeeps ((s.modify kind idle).clearIfIdle kind) := .of_cleared kind rfl kept
    exact (cleared.trans (.of_desk desk_suggestRestart)).tends
  · exact (modify_editFailed_upkeeps (g := idle) _ kept).tends

theorem saveDone_tends (kind : Kind) (outcome : Outcome) :
    s.Tends (· = kind) (s.saveDone kind outcome) := by
  unfold saveDone
  split
  · split
    · rename_i element _
      refine Upkeeps.tends (.of_modify kind
        (g := fun e => { e with write := .idle }.commit element.contents) rfl ?_ ?_)
      · exact fun e hk => (Entry.kind_commit _ _).trans hk
      · exact fun e _ _ => Entry.tidy_commit _ _
    · exact saveFailed_tends kind _
  · exact saveFailed_tends kind _
  · exact saveFailed_tends kind _

theorem handleReply_tends (r : Reply) (coded : ∀ kind, r.token.pending = .task .checkCode kind →
      ∀ e, s.entry? kind = some e → e.verification.request = some r.token.id →
        e.verification.codeLength ≠ none) :
    s.Tends (fun kind => r.token.pending = .task .save kind) (s.handleReply now r) := by
  rcases s.handleReply_cases now r with
    same | ⟨-, ⟨errand, -, -, taken⟩ | ⟨task, kind, e, ht, he, awaits, taken⟩⟩
  · rw [same]
    exact Upkeeps.refl.tends
  · rw [taken]
    have freed : s.Upkeeps { s with awaited := s.awaited.set errand none } := .of_desk rfl
    exact (freed.trans (errandDone_upkeeps errand r.outcome)).tends
  · rw [taken]
    cases task with
    | save =>
        refine (saveDone_tends kind r.outcome).mono fun other same => ?_
        exact same ▸ ht
    | delete => exact (deleteDone_upkeeps kind r.outcome).tends
    | sendCode => exact (sendCodeDone_upkeeps kind r.outcome).tends
    | resendCall => exact (resendCallDone_upkeeps kind r.outcome).tends
    | checkCode =>
        refine (checkCodeDone_upkeeps kind r.outcome fun e' he' => ?_).tends
        obtain rfl := Option.some.inj (he.symm.trans he')
        exact coded kind ht e he awaits

/-! ## Time -/

theorem cancelled_cancelSurely (s : Session) : s.cancelSurely.cancelled = true := by
  cases closed : s.cancelled with
  | true =>
      have same : s.cancelSurely = s := if_pos closed
      rw [same, closed]
  | false => exact congrArg Core.cancelled (cancelSurely_close closed).core

theorem fire_upkeeps (timer : Timer) (live : (s.fire now timer).cancelled = false) :
    s.Upkeeps (s.fire now timer) := by
  cases timer with
  | closeAfterSubmit => exact absurd (s.cancelled_cancelSurely.symm.trans live) (by simp)
  | shortPoll => exact .of_desk desk_requestPasswordState
  | forgetPassword => exact .of_desk rfl
  | callTick kind => exact callTick_upkeeps kind

/-- As long as no timer closes the session, timers are upkeep. -/
theorem fires_upkeeps (due : List (Nat × Timer))
    (live : (s.fires now due).cancelled = false) : s.Upkeeps (s.fires now due) := by
  refine (fires_induction now (P := fun _ u => u.cancelled = true ∨ s.Upkeeps u) ?_ ?_
    (.inr .refl)).resolve_left (by simp [live])
  · rintro t rest u going (closed | kept)
    · exact absurd (closed.symm.trans going) (by simp)
    · by_cases fired : (u.fire now t.2).cancelled = true
      · exact .inl fired
      · exact .inr (kept.trans (fire_upkeeps t.2 (eq_false_of_ne_true fired)))
  · exact fun t rest u _ kept => kept

/-! ## Actions -/

theorem desk_restart (live : s.cancelled = false) : s.restart.desk = (.empty, []) := by
  unfold restart
  rw [if_neg (by simp [live])]
  exact desk_display

/-- What holds of every action that does not close the session, saving, starting over and the passing of
time apart. -/
theorem act_tends {a : Action} (live : (s.act now a).1.cancelled = false)
    (coded : ∀ r kind, a = .reply r → r.token.pending = .task .checkCode kind →
      ∀ e, s.entry? kind = some e → e.verification.request = some r.token.id →
        e.verification.codeLength ≠ none)
    (saves : ∀ kind changes, a ≠ .save kind changes) (ticks : a ≠ .tick) (restarts : a ≠ .restart) :
    s.Tends (fun kind => ∃ r, a = .reply r ∧ r.token.pending = .task .save kind)
      (s.act now a).1 := by
  cases a with
  | display => exact (Upkeeps.of_desk desk_display).tends
  | submitPassword password => exact (Upkeeps.of_desk (desk_submitPassword password)).tends
  | reloadPassword => exact (Upkeeps.of_desk desk_reloadPassword).tends
  | clearUnconfirmedPassword => exact (Upkeeps.of_desk desk_clearUnconfirmedPassword).tends
  | recoverPassword => exact (Upkeeps.of_desk desk_recoverPassword).tends
  | startEdit kind => exact (startEdit_upkeeps kind).tends
  | stopEdit kind => exact (stopEdit_upkeeps kind).tends
  | save kind changes => exact absurd rfl (saves kind changes)
  | delete kind => exact (delete_upkeeps kind).tends
  | upload kind role key date bytes => exact (upload_upkeeps kind role key date bytes).tends
  | deleteScan kind slot => exact (setDeleted_upkeeps kind slot true).tends
  | restoreScan kind slot => exact (setDeleted_upkeeps kind slot false).tends
  | loadFile kind slot => exact (loadFile_upkeeps kind slot).tends
  | verify kind code => exact (verify_upkeeps kind code).tends
  | cancelVerification kind => exact (cancelVerification_upkeeps kind).tends
  | submit => exact (Upkeeps.of_desk desk_submit).tends
  | cancel =>
      have live : s.cancel.cancelled = false := live
      refine Upkeeps.tends (show s.Upkeeps s.cancel from ?_)
      unfold cancel at live ⊢
      split at live
      · rw [if_pos ‹_›]
        exact .refl
      · rw [if_neg ‹_›]
        split at live
        · exact absurd (s.cancelled_cancelSurely.symm.trans live) (by simp)
        · rw [if_neg ‹_›]
          exact .of_desk rfl
  | cancelSurely => exact absurd (s.cancelled_cancelSurely.symm.trans live) (by simp)
  | suggestRestart => exact (Upkeeps.of_desk desk_suggestRestart).tends
  | dismissRestart => exact Upkeeps.tends (.of_desk rfl)
  | restart => exact absurd rfl restarts
  | reply r =>
      exact (handleReply_tends r fun kind => coded r kind rfl).mono fun _ ht => ⟨r, rfl, ht⟩
  | file event => exact (handleFileEvent_upkeeps event).tends
  | tick => exact absurd rfl ticks
  | remember password expires => exact Upkeeps.tends (.of_desk rfl)
  | forget => exact Upkeeps.tends (.of_desk rfl)

end IdentityForm.Session
