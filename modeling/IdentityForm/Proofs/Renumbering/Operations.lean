import IdentityForm.Proofs.Renumbering
import IdentityForm.Proofs.Replies

/-! # Operations on renumbered sessions

Every operation of a session does the same when all ids are shifted, and so does every action.
-/

namespace IdentityForm.Session

variable {n : Nat} {s : Session}

/-! ## Opening and unlocking -/

theorem shift_requestPasswordState (s : Session) :
    s.requestPasswordState.shift n = (s.shift n).requestPasswordState := by
  have waiting : (s.shift n).awaited.passwordState.isSome = s.awaited.passwordState.isSome :=
    Option.isSome_map
  unfold requestPasswordState
  rw [waiting]
  split
  · rfl
  · exact s.shift_run .passwordState fun _ => rfl

theorem shift_display (s : Session) : s.display.shift n = (s.shift n).display := by
  have waiting : (s.shift n).awaited.form.isSome = s.awaited.form.isSome := Option.isSome_map
  unfold display
  dsimp only
  rw [waiting]
  show _ = if s.cancelled then _ else
    requestPasswordState (if s.formReceived || s.awaited.form.isSome then _ else _)
  split
  · rfl
  · rw [shift_requestPasswordState]
    congr 1
    split
    · rfl
    · exact s.shift_run .form fun _ => rfl

theorem shift_reloadPassword (s : Session) :
    s.reloadPassword.shift n = (s.shift n).reloadPassword := shift_requestPasswordState _

theorem shift_checkPassword (s : Session) (password : String) :
    (s.checkPassword password).shift n = (s.shift n).checkPassword password :=
  shift_run _ .availableElements fun _ => rfl

theorem shift_showForm (s : Session) (now : Nat) :
    (s.showForm now).shift n = (s.shift n).showForm now := by
  have waiting : (s.shift n).awaited.availableElements.isSome =
      s.awaited.availableElements.isSome := Option.isSome_map
  have settings : (s.shift n).passwordSettings = s.passwordSettings := rfl
  have credentials : (s.shift n).credentials = s.credentials := rfl
  unfold showForm
  rw [waiting, settings, credentials]
  show _ = if !s.formReceived || s.secretReady || s.serviceError.isSome then _ else _
  split
  · rfl
  · split
    · rfl
    · split
      · exact shift_notify _ _
      · split
        · exact shift_notify _ _
        · split
          · exact shift_notify _ _
          · split
            · rfl
            · split
              · exact shift_checkPassword _ _
              · exact shift_notify _ _

theorem shift_failForm (s : Session) (error : ServerError) :
    (s.failForm error).shift n = (s.shift n).failForm error := by
  unfold failForm
  dsimp only
  split
  · exact shift_notify _ _
  · exact shift_notify _ _

theorem shift_formDone (s : Session) (now : Nat) (outcome : Outcome) :
    (s.formDone now outcome).shift n = (s.shift n).formDone now outcome := by
  unfold formDone
  split
  · rename_i form
    refine (shift_showForm _ now).trans (congrArg (showForm · now) ?_)
    show { s.shift n with form := (Form.ofAuthorization form).shift n, formReceived := true } = _
    rw [Form.shift_ofAuthorization]
  · exact shift_failForm _ _
  · exact shift_failForm _ _

theorem shift_failPasswordState (s : Session) (error : ServerError) :
    (s.failPasswordState error).shift n = (s.shift n).failPasswordState error := by
  unfold failPasswordState
  show _ = if s.passwordSettings.isNone then _ else _
  split
  · exact shift_failForm _ _
  · rfl

theorem shift_passwordStateDone (s : Session) (now : Nat) (outcome : Outcome) :
    (s.passwordStateDone now outcome).shift n = (s.shift n).passwordStateDone now outcome := by
  cases fault : outcome.settingsFault? with
  | some error =>
      rw [passwordStateDone_of_fault fault, passwordStateDone_of_fault fault]
      exact shift_failPasswordState _ _
  | none =>
      obtain ⟨settings, rfl⟩ := exists_of_no_settingsFault fault
      rw [passwordStateDone_ok, passwordStateDone_ok]
      show _ = if s.passwordSettings ≠ some settings ∨ s.forceShow = true then
        ((s.learn now settings).shift n).showForm now else (s.learn now settings).shift n
      split
      · exact shift_showForm _ _
      · rfl

theorem shift_submitPassword (s : Session) (password : String) :
    (s.submitPassword password).shift n = (s.shift n).submitPassword password := by
  have waiting : (s.shift n).awaited.availableElements.isSome =
      s.awaited.availableElements.isSome := Option.isSome_map
  unfold submitPassword
  rw [waiting]
  show _ = if s.awaited.availableElements.isSome || s.secretReady || s.cancelled then _ else _
  split
  · rfl
  · split
    · exact shift_notify _ _
    · exact shift_checkPassword _ _

theorem shift_passwordCheckFailed (s : Session) (error : ServerError) :
    (s.passwordCheckFailed error).shift n = (s.shift n).passwordCheckFailed error := by
  have prompted : (s.shift n).promptShown = s.promptShown := rfl
  unfold passwordCheckFailed
  dsimp only
  rw [prompted]
  split
  · split
    · exact shift_notify _ _
    · exact shift_notify _ _
  · exact shift_requestPasswordState _
  · exact shift_notify _ _
  · exact shift_notify _ _
  · exact shift_notify _ _

theorem shift_unlock (s : Session) (now : Nat) (password : String) (elements : List StoredElement)
    (errors : List ElementError) :
    (s.unlock now password elements errors).shift n =
      (s.shift n).unlock now password elements errors := by
  unfold unlock
  refine (shift_notifyAll _ _).trans (congrArg (notifyAll · _) ?_)
  exact congrArg (fun form => { shift n { s.schedule (now + s.setup.settings.rememberFor)
    .forgetPassword with
      checking := none
      credentials := s.credentials.remember password (now + s.setup.settings.rememberFor)
      password := some password
      secretReady := true } with form }) (s.form.shift_takeElements elements errors)

theorem shift_availableElementsDone (s : Session) (now : Nat) (outcome : Outcome) :
    (s.availableElementsDone now outcome).shift n =
      (s.shift n).availableElementsDone now outcome := by
  have checking : (s.shift n).checking = s.checking := rfl
  unfold availableElementsDone
  rw [checking]
  split
  · split
    · rfl
    · exact shift_unlock _ _ _ _ _
  · exact shift_passwordCheckFailed _ _
  · exact shift_passwordCheckFailed _ _

theorem shift_clearUnconfirmedPassword (s : Session) :
    s.clearUnconfirmedPassword.shift n = (s.shift n).clearUnconfirmedPassword := by
  have waiting : (s.shift n).awaited.clearPassword.isSome = s.awaited.clearPassword.isSome :=
    Option.isSome_map
  unfold clearUnconfirmedPassword
  rw [waiting]
  split
  · rfl
  · exact s.shift_run .clearPassword fun _ => rfl

theorem shift_clearPasswordDone (s : Session) (outcome : Outcome) :
    (s.clearPasswordDone outcome).shift n = (s.shift n).clearPasswordDone outcome := by
  cases outcome with
  | ok response => exact shift_reloadPassword s
  | failed error => exact shift_notify _ _

theorem shift_recoverPassword (s : Session) :
    s.recoverPassword.shift n = (s.shift n).recoverPassword := by
  have waiting : (s.shift n).awaited.recovery.isSome = s.awaited.recovery.isSome :=
    Option.isSome_map
  unfold recoverPassword
  rw [waiting]
  split
  · rfl
  · exact s.shift_run .recovery fun _ => rfl

theorem shift_recoveryDone (s : Session) (outcome : Outcome) :
    (s.recoveryDone outcome).shift n = (s.shift n).recoveryDone outcome := by
  unfold recoveryDone
  split <;> exact shift_notify _ _

/-! ## An entry that is changed and told of -/

theorem shift_modify_notify {g g' : Entry → Entry} (s : Session) (kind : Kind) (x : Notice)
    (h : ∀ e, (g e).shift n = g' (e.shift n)) :
    ((s.modify kind g).notify x).shift n = ((s.shift n).modify kind g').notify x :=
  (shift_notify _ x).trans (congrArg (notify · x) (shift_modify s kind h))

theorem shift_put_notify (s : Session) (e : Entry) (x : Notice) :
    ((s.put e).notify x).shift n = ((s.shift n).put (e.shift n)).notify x :=
  shift_modify_notify s e.kind x fun _ => rfl

theorem shift_put_ask {make make' : Token → Request} (s : Session) (e : Entry) (p : Pending)
    (h : ∀ t, (make t).shift n = make' (t.shift n)) :
    ((s.put e).ask p make).shift n = ((s.shift n).put (e.shift n)).ask p make' :=
  (shift_ask _ p h).trans (congrArg (ask · p make') (shift_put s e))

theorem shift_unverified (s : Session) (e : Entry) (kind : Kind) :
    ((s.put { e with verification := .none }).disarm (.callTick kind)).shift n =
      ((s.shift n).put { e.shift n with verification := .none }).disarm (.callTick kind) :=
  congrArg (disarm · (.callTick kind)) (shift_put s { e with verification := .none })

/-! ## Attached files -/

theorem shift_startDownload (s : Session) (id size : UInt64) :
    (s.startDownload id size).shift n = (s.shift n).startDownload id size := by
  unfold startDownload
  show _ = if id ∈ s.downloads then _ else _
  split
  · rfl
  · exact shift_send _ _

theorem shift_loadFile (s : Session) (kind : Kind) (slot : Slot) :
    (s.loadFile kind slot).map (shift n) id = (s.shift n).loadFile kind slot := by
  unfold loadFile
  rw [entry?_shift]
  cases s.entry? kind with
  | none => rfl
  | some e =>
      have files : (e.shift n).files = e.files := rfl
      dsimp only [Option.map_some]
      rw [files]
      cases e.files.get? slot with
      | none => rfl
      | some f =>
          dsimp only
          split
          · rfl
          · refine congrArg (·, none) ((shift_startDownload _ _ _).trans ?_)
            exact congrArg (startDownload · f.id f.size) (shift_put _ _)

theorem shift_loadScans (s : Session) (kind : Kind) :
    (s.loadScans kind).shift n = (s.shift n).loadScans kind := by
  unfold loadScans
  rw [entry?_shift]
  cases s.entry? kind with
  | none => rfl
  | some e =>
      show shift n (List.foldl _ s _) = List.foldl _ (s.shift n)
        (e.slots.filter fun slot => (e.files.get? slot).isSome)
      refine (List.foldl_hom (shift n) fun s slot => ?_).symm
      rw [← shift_loadFile]
      rfl

theorem shift_upload (s : Session) (kind : Kind) (role : Role) (key : UInt64)
    (date : Int64) (bytes : List UInt8) :
    (s.upload kind role key date bytes).map (shift n) id =
      (s.shift n).upload kind role key date bytes := by
  unfold upload
  rw [entry?_shift]
  cases s.entry? kind with
  | none => rfl
  | some e =>
      show _ = if e.editors = 0 then _ else
        if !e.hasRoom role (s.setup.settings.limit? role) then _ else _
      dsimp only
      split
      · rfl
      · split
        · exact congrArg (·, none) (shift_notify _ _)
        · refine congrArg (·, none) ?_
          rw [shift_notify, shift_put, shift_sendAll, List.map_cons, List.map_map]
          rfl

theorem shift_setDeleted (s : Session) (kind : Kind) (slot : Slot) (deleted : Bool) :
    (s.setDeleted kind slot deleted).map (shift n) id = (s.shift n).setDeleted kind slot deleted := by
  unfold setDeleted
  rw [entry?_shift]
  cases s.entry? kind with
  | none => rfl
  | some e =>
      have drafts : (e.shift n).draftFiles = e.draftFiles := rfl
      dsimp only [Option.map_some]
      rw [drafts]
      cases e.draftFiles.get? slot with
      | none => rfl
      | some d =>
          show _ = if d.deleted = deleted then _ else
            if !deleted && !e.hasRoom slot.role (s.setup.settings.limit? slot.role) then _ else _
          dsimp only
          split
          · rfl
          · split
            · exact congrArg (·, none) (shift_notify _ _)
            · refine congrArg (·, none) ?_
              rw [shift_notify, shift_put]
              rfl

theorem shift_updateUpload (s : Session) (key : UInt64) (change : Draft → Draft) :
    (s.updateUpload key change).shift n = (s.shift n).updateUpload key change := by
  have found : (s.shift n).form.findUpload? key = s.form.findUpload? key :=
    s.form.findUpload?_shift key
  unfold updateUpload
  rw [found]
  split
  · rfl
  · rw [shift_clearIfIdle, shift_notify]
    rename_i place _
    refine congrArg (fun s => clearIfIdle (notify s (.scanUpdated place)) place.kind) ?_
    exact shift_modify _ _ fun _ => rfl

theorem shift_updateDownload (s : Session) (id : UInt64) (change : StoredFile → StoredFile) :
    (s.updateDownload id change).shift n = (s.shift n).updateDownload id change := by
  have found : (s.shift n).form.findFile id = s.form.findFile id := s.form.findFile_shift id
  unfold updateDownload
  rw [found]
  refine (List.foldl_hom (shift n) fun s place => ?_).symm
  refine (shift_modify_notify s place.kind (.scanUpdated place) fun _ => ?_).symm
  rfl

theorem shift_handleFileEvent (s : Session) (event : FileEvent) :
    (s.handleFileEvent event).shift n = (s.shift n).handleFileEvent event := by
  unfold handleFileEvent
  show _ = if s.cancelled then _ else _
  split
  · rfl
  · cases event with
    | uploadProgress key offset => exact shift_updateUpload _ _ _
    | uploadDone key fileId => exact shift_updateUpload _ _ _
    | uploadFailed key => exact shift_updateUpload _ _ _
    | downloadProgress key offset => exact shift_updateDownload _ _ _
    | downloadDone key bytes => exact shift_updateDownload _ _ _
    | downloadFailed key => exact shift_updateDownload _ _ _

/-! ## Editing -/

theorem shift_startEdit (s : Session) (kind : Kind) :
    (s.startEdit kind).map (shift n) id = (s.shift n).startEdit kind := by
  unfold startEdit
  rw [entry?_shift]
  cases s.entry? kind with
  | none => rfl
  | some e =>
      have quiet : Entry.isBusy { e.shift n with editors := e.editors + 1 } =
          Entry.isBusy { e with editors := e.editors + 1 } :=
        Entry.isBusy_shift { e with editors := e.editors + 1 }
      show _ = if e.editors + 1 = 1 ∧ ¬ Entry.isBusy { e.shift n with editors := e.editors + 1 }
        then _ else _
      rw [quiet]
      dsimp only
      split
      · refine congrArg (·, none) ((shift_loadScans _ _).trans ?_)
        exact congrArg (loadScans · kind) (shift_put _ _)
      · exact congrArg (·, none) (shift_put _ _)

theorem shift_stopEdit (s : Session) (kind : Kind) :
    (s.stopEdit kind).map (shift n) id = (s.shift n).stopEdit kind := by
  unfold stopEdit
  rw [entry?_shift]
  cases s.entry? kind with
  | none => rfl
  | some e =>
      show _ = if e.editors = 0 then _ else _
      dsimp only
      split
      · rfl
      · refine congrArg (·, none) ((shift_clearIfIdle _ _).trans ?_)
        exact congrArg (clearIfIdle · kind) (shift_put _ _)

theorem shift_sendSave (s : Session) (kind : Kind) :
    (s.sendSave kind).map (shift n) id = (s.shift n).sendSave kind := by
  have password : (s.shift n).password = s.password := rfl
  unfold sendSave
  rw [entry?_shift, password]
  cases s.password with
  | none => rfl
  | some password =>
      cases s.entry? kind with
      | none => rfl
      | some e => exact congrArg (·, none) (shift_put_ask _ _ _ fun _ => rfl)

theorem shift_save (s : Session) (kind : Kind) (changes : Fields) :
    (s.save kind changes).map (shift n) id = (s.shift n).save kind changes := by
  have waiting : (s.shift n).awaited.submit.isSome = s.awaited.submit.isSome := Option.isSome_map
  unfold save
  rw [waiting, entry?_shift]
  show _ = if !s.secretReady then _ else _
  split
  · rfl
  · split
    · rfl
    · cases s.entry? kind with
      | none => rfl
      | some e =>
          have filled : (if (e.shift n).editors = 0 then (e.shift n).snapshot else e.shift n) =
              (if e.editors = 0 then e.snapshot else e).shift n := by
            show (if e.editors = 0 then _ else _) = _
            split <;> rfl
          dsimp only [Option.map_some]
          rw [Entry.isBusy_shift, filled]
          split
          · rfl
          · generalize (if e.editors = 0 then e.snapshot else e) = e
            have failed : (e.shift n).failedUpload? = e.failedUpload? := rfl
            rw [failed]
            cases e.failedUpload? with
            | some slot =>
                refine congrArg (·, none) ((shift_notifyAll _ _).trans ?_)
                exact congrArg (notifyAll · _) (shift_put _ _)
            | none =>
                show _ = if !e.isChangedBy changes then _ else
                  if (e.draftFields.overlay changes).badDates kind = [] then _ else _
                dsimp only
                split
                · refine congrArg (·, none) ?_
                  show shift n { s.put (if 0 < e.editors then _ else _) with
                      unreported := s.unreported ++ [kind] } =
                    { (s.shift n).put (if 0 < e.editors then _ else _) with
                      unreported := s.unreported ++ [kind] }
                  split
                  · exact congrArg (fun s' : Session =>
                      { s' with unreported := s.unreported ++ [kind] }) (shift_put _ _)
                  · exact congrArg (fun s' : Session =>
                      { s' with unreported := s.unreported ++ [kind] }) (shift_put _ _)
                · split
                  · refine (shift_sendSave _ _).trans ?_
                    exact congrArg (sendSave · kind) (shift_put _ _)
                  · refine congrArg (·, none) ((shift_notifyAll _ _).trans ?_)
                    exact congrArg (notifyAll · _) (shift_put _ _)

theorem shift_finishUnchanged (s : Session) (kind : Kind) :
    (s.finishUnchanged kind).shift n = (s.shift n).finishUnchanged kind := by
  unfold finishUnchanged
  rw [entry?_shift]
  cases s.entry? kind with
  | none => rfl
  | some e =>
      have unchanged : (e.shift n).write = .unchanged ↔ e.write = .unchanged :=
        WriteState.shift_unchanged
      simp only [Option.map_some, unchanged]
      split
      · rw [shift_notify, shift_clearIfIdle, shift_put]
        rfl
      · rfl

theorem shift_editFailed (s : Session) (kind : Kind) :
    (s.editFailed kind).shift n = (s.shift n).editFailed kind := by
  unfold editFailed
  rw [shift_notify, shift_clearIfIdle]

theorem shift_delete (s : Session) (kind : Kind) :
    (s.delete kind).map (shift n) id = (s.shift n).delete kind := by
  have waiting : (s.shift n).awaited.submit.isSome = s.awaited.submit.isSome := Option.isSome_map
  unfold delete
  rw [waiting, entry?_shift]
  show _ = if !s.secretReady then _ else _
  split
  · rfl
  · split
    · rfl
    · cases s.entry? kind with
      | none => rfl
      | some e =>
          dsimp only [Option.map_some]
          rw [Entry.isBusy_shift]
          split
          · rfl
          · exact congrArg (·, none) (shift_put_ask _ _ _ fun _ => rfl)

theorem shift_deleteDone (s : Session) (kind : Kind) (outcome : Outcome) :
    (s.deleteDone kind outcome).shift n = (s.shift n).deleteDone kind outcome := by
  cases outcome with
  | ok response => exact shift_modify_notify _ _ _ Entry.shift_reset
  | failed error =>
      refine (shift_editFailed _ _).trans (congrArg (editFailed · kind) ?_)
      exact shift_modify_notify _ _ _ fun _ => rfl

theorem shift_suggestRestart (s : Session) :
    s.suggestRestart.shift n = (s.shift n).suggestRestart := by
  unfold suggestRestart
  show _ = if s.suggestingRestart then _ else _
  split
  · rfl
  · exact shift_notify _ _

/-! ## Verification -/

theorem shift_sendCode {make : Token → String → Request} (s : Session) (kind : Kind)
    (h : ∀ t target, (make t target).shift n = make (t.shift n) target) :
    (s.sendCode kind make).shift n = (s.shift n).sendCode kind make := by
  unfold sendCode
  rw [entry?_shift]
  cases s.entry? kind with
  | none => rfl
  | some e => exact shift_put_ask _ _ _ fun t => h t e.target

theorem shift_sendCodeFailed (s : Session) (kind : Kind) (error : ServerError) :
    (s.sendCodeFailed kind error).shift n = (s.shift n).sendCodeFailed kind error := by
  unfold sendCodeFailed
  refine (shift_editFailed _ _).trans (congrArg (editFailed · kind) ?_)
  exact shift_modify_notify _ _ _ fun _ => rfl

theorem shift_sendCodeDone (s : Session) (now : Nat) (kind : Kind) (outcome : Outcome) :
    (s.sendCodeDone now kind outcome).shift n = (s.shift n).sendCodeDone now kind outcome := by
  cases outcome with
  | failed error => exact shift_sendCodeFailed _ _ _
  | ok response =>
      unfold sendCodeDone
      dsimp only
      split
      · exact shift_sendCodeFailed _ _ _
      · rename_i length timeout _
        have noted (e : Entry) : Entry.shift n { e with
            verification := { e.verification with
              request := none
              codeLength := some length
              call := (timeout.map fun t => VoiceCall.waiting (now + 1000 * t)).or
                e.verification.call } } =
            { e.shift n with
              verification := { (e.shift n).verification with
                request := none
                codeLength := some length
                call := (timeout.map fun t => VoiceCall.waiting (now + 1000 * t)).or
                  (e.shift n).verification.call } } := by
          cases timeout with
          | none => rfl
          | some t => rfl
        refine (shift_notify _ _).trans (congrArg (notify · _) ?_)
        split
        · exact congrArg (schedule · _ _) (shift_modify s kind noted)
        · exact shift_modify s kind noted

theorem shift_verify (s : Session) (kind : Kind) (code : String) :
    (s.verify kind code).map (shift n) id = (s.shift n).verify kind code := by
  unfold verify
  rw [entry?_shift]
  cases s.entry? kind with
  | none => rfl
  | some e =>
      have length : (e.shift n).verification.codeLength = e.verification.codeLength := rfl
      have waiting : (e.shift n).verification.request.isSome = e.verification.request.isSome :=
        Option.isSome_map
      dsimp only [Option.map_some]
      rw [length, waiting]
      split
      · rfl
      · split
        · rfl
        · split
          · exact congrArg (·, none) (shift_put_notify _ _ _)
          · refine congrArg (·, none) (shift_put_ask _ _ _ fun t => ?_)
            split <;> rfl

theorem shift_checkCodeDone (s : Session) (kind : Kind) (outcome : Outcome) :
    (s.checkCodeDone kind outcome).shift n = (s.shift n).checkCodeDone kind outcome := by
  unfold checkCodeDone
  rw [entry?_shift]
  cases s.entry? kind with
  | none => rfl
  | some e =>
      cases outcome with
      | failed error => exact shift_put_notify _ _ _
      | ok response =>
          have cancelled : (e.shift n).verification.callRequest?.toList.map Request.cancel =
              (e.verification.callRequest?.toList.map Request.cancel).map (Request.shift n) := by
            show (e.verification.shift n).callRequest?.toList.map Request.cancel = _
            rw [Verification.callRequest?_shift]
            cases e.verification.callRequest? <;> rfl
          dsimp only [Option.map_some]
          rw [cancelled, ← shift_sendAll]
          rw [← shift_unverified, ← shift_notify, ← shift_sendSave]
          generalize sendSave _ kind = sent
          obtain ⟨s, refusal⟩ := sent
          cases refusal with
          | none => rfl
          | some error => exact shift_editFailed _ _

theorem shift_cancelVerification (s : Session) (kind : Kind) :
    (s.cancelVerification kind).map (shift n) id = (s.shift n).cancelVerification kind := by
  unfold cancelVerification
  rw [entry?_shift]
  cases s.entry? kind with
  | none => rfl
  | some e =>
      have cancelled : ((e.shift n).verification.request.toList ++
          (e.shift n).verification.callRequest?.toList).map Request.cancel =
          ((e.verification.request.toList ++
            e.verification.callRequest?.toList).map Request.cancel).map (Request.shift n) := by
        show ((e.verification.request.map (n + ·)).toList ++
          (e.verification.shift n).callRequest?.toList).map Request.cancel = _
        rw [Verification.callRequest?_shift]
        cases e.verification.request <;> cases e.verification.callRequest? <;> rfl
      have busy : Entry.isBusy { e.shift n with verification := .none } =
          Entry.isBusy { e with verification := .none } :=
        Entry.isBusy_shift { e with verification := .none }
      have length : (e.shift n).verification.codeLength = e.verification.codeLength := rfl
      dsimp only [Option.map_some]
      rw [cancelled, ← shift_sendAll, busy, length]
      rw [← shift_unverified]
      generalize disarm _ (.callTick kind) = s
      have told : (if e.verification.codeLength.isSome then
          (s.shift n).notify (.verificationUpdate kind) else s.shift n) =
          shift n (if e.verification.codeLength.isSome then
            s.notify (.verificationUpdate kind) else s) := by
        split
        · exact (shift_notify _ _).symm
        · rfl
      rw [told]
      refine congrArg (·, none) ?_
      split
      · rfl
      · exact shift_editFailed _ _

theorem shift_callTick (s : Session) (now : Nat) (kind : Kind) :
    (s.callTick now kind).shift n = (s.shift n).callTick now kind := by
  unfold callTick
  rw [entry?_shift]
  cases s.entry? kind with
  | none => rfl
  | some e =>
      have call : (e.shift n).verification.call =
          e.verification.call.map (VoiceCall.shift n) := rfl
      dsimp only [Option.map_some]
      rw [call]
      cases e.verification.call with
      | none => rfl
      | some call =>
          cases call with
          | waiting due =>
              show _ = if due ≤ now then _ else _
              dsimp only
              split
              · refine (shift_notify _ _).trans (congrArg (notify · _) ?_)
                exact shift_put_ask _ _ _ fun _ => rfl
              · exact shift_notify _ _
          | calling id => rfl
          | called => rfl

theorem shift_resendCallDone (s : Session) (kind : Kind) (outcome : Outcome) :
    (s.resendCallDone kind outcome).shift n = (s.shift n).resendCallDone kind outcome := by
  unfold resendCallDone
  refine shift_modify_notify _ _ _ fun e => ?_
  cases outcome <;> rfl

theorem shift_saveFailed (s : Session) (kind : Kind) (error : ServerError) :
    (s.saveFailed kind error).shift n = (s.shift n).saveFailed kind error := by
  have idle : shift n (s.modify kind fun e => { e with write := .idle }) =
      (s.shift n).modify kind fun e => { e with write := .idle } :=
    shift_modify _ _ fun _ => rfl
  unfold saveFailed
  dsimp only
  rw [← idle]
  split
  · rw [shift_editFailed, shift_notify]
  · exact shift_sendCode _ _ fun _ _ => rfl
  · exact shift_sendCode _ _ fun _ _ => rfl
  · exact shift_modify_notify _ _ _ fun _ => rfl
  · rw [shift_suggestRestart, shift_clearIfIdle]
  · rw [shift_editFailed, shift_notify]

theorem shift_saveDone (s : Session) (kind : Kind) (outcome : Outcome) :
    (s.saveDone kind outcome).shift n = (s.shift n).saveDone kind outcome := by
  unfold saveDone
  split
  · split
    · exact shift_modify_notify _ _ _ fun e => Entry.shift_commit _ _
    · exact shift_saveFailed _ _ _
  · exact shift_saveFailed _ _ _
  · exact shift_saveFailed _ _ _

/-! ## Submitting and closing -/

theorem shift_submit (s : Session) : s.submit.map (shift n) id = (s.shift n).submit := by
  have waiting : (s.shift n).awaited.submit.isSome = s.awaited.submit.isSome := Option.isSome_map
  have checked : (s.shift n).form.checkScopes = s.form.checkScopes := s.form.checkScopes_shift
  unfold submit
  rw [waiting, checked]
  show _ = if s.awaited.submit.isSome || s.submitted || s.cancelled || !s.formReceived ||
    !s.secretReady then _ else _
  split
  · rfl
  · obtain ⟨toFix, kinds⟩ := s.form.checkScopes
    dsimp only
    split
    · exact congrArg (·, []) (shift_run s .submit fun _ => rfl)
    · rfl

theorem shift_submitDone (s : Session) (now : Nat) (outcome : Outcome) :
    (s.submitDone now outcome).shift n = (s.shift n).submitDone now outcome := by
  cases outcome with
  | ok response => exact congrArg (schedule · _ _) (shift_notify { s with submitted := true } _)
  | failed error =>
      unfold submitDone
      dsimp only
      split
      · exact shift_notify _ _
      · exact shift_suggestRestart _
      · exact shift_notify _ _

theorem shift_abort (s : Session) : s.abort.shift n = (s.shift n).abort := by
  have stopped : (s.form.entries.map Entry.stopped).map (Entry.shift n) =
      (s.form.entries.map (Entry.shift n)).map Entry.stopped := by
    rw [List.map_map, List.map_map]
    rfl
  have entries : (s.form.entries.map (Entry.shift n)).flatMap Entry.cancellations =
      (s.form.entries.flatMap Entry.cancellations).map (Request.shift n) := by
    simp only [List.flatMap_map, List.map_flatMap, Entry.cancellations_shift]
  have cancelled : (s.shift n).awaited.ids.map Request.cancel ++
      ((s.form.entries.map (Entry.shift n)).flatMap Entry.cancellations ++
        s.downloads.map Request.cancelDownload) =
      (s.awaited.ids.map Request.cancel ++ (s.form.entries.flatMap Entry.cancellations ++
        s.downloads.map Request.cancelDownload)).map (Request.shift n) := by
    have ids : (s.shift n).awaited.ids = s.awaited.ids.map (n + ·) := s.awaited.ids_shift
    rw [ids, entries]
    simp only [List.map_append, List.map_map]
    rfl
  have sent := shift_sendAll (n := n) s (s.awaited.ids.map Request.cancel ++
    (s.form.entries.flatMap Entry.cancellations ++ s.downloads.map Request.cancelDownload))
  rw [← cancelled] at sent
  calc s.abort.shift n = { shift n (s.sendAll _) with
        awaited := .none
        form := { s.form with entries := (s.form.entries.map Entry.stopped).map (Entry.shift n) }
        downloads := []
        timers := []
        unreported := [] } := rfl
    _ = (s.shift n).abort := by
        rw [sent, stopped]
        rfl

theorem shift_cancelSurely (s : Session) : s.cancelSurely.shift n = (s.shift n).cancelSurely := by
  unfold cancelSurely
  show _ = if s.cancelled then _ else _
  split
  · rfl
  · have stopped := shift_abort (n := n) { s with cancelled := true }
    exact (shift_notify _ _).trans
      (congrArg (fun s : Session => s.notify (.close s.callbackUrl?)) stopped)

theorem shift_cancel (s : Session) : s.cancel.shift n = (s.shift n).cancel := by
  unfold cancel
  show _ = if s.cancelled then _ else if s.submitted || s.serviceError.isSome then _ else _
  split
  · rfl
  · split
    · exact shift_cancelSurely _
    · exact shift_notify _ _

theorem shift_restart (s : Session) : s.restart.shift n = (s.shift n).restart := by
  unfold restart
  show _ = if s.cancelled then _ else _
  split
  · rfl
  · dsimp only
    rw [shift_display, ← shift_abort]
    rfl

/-! ## Replies and time -/

theorem shift_errandDone (s : Session) (now : Nat) (errand : Errand) (outcome : Outcome) :
    (s.errandDone now errand outcome).shift n = (s.shift n).errandDone now errand outcome := by
  cases errand with
  | form => exact shift_formDone _ _ _
  | passwordState => exact shift_passwordStateDone _ _ _
  | availableElements => exact shift_availableElementsDone _ _ _
  | submit => exact shift_submitDone _ _ _
  | clearPassword => exact shift_clearPasswordDone _ _
  | recovery => exact shift_recoveryDone _ _

theorem shift_taskDone (s : Session) (now : Nat) (task : Task) (kind : Kind) (outcome : Outcome) :
    (s.taskDone now task kind outcome).shift n = (s.shift n).taskDone now task kind outcome := by
  cases task with
  | save => exact shift_saveDone _ _ _
  | delete => exact shift_deleteDone _ _ _
  | sendCode => exact shift_sendCodeDone _ _ _ _
  | checkCode => exact shift_checkCodeDone _ _ _
  | resendCall => exact shift_resendCallDone _ _ _

theorem map_add_eq_some_iff {id : Nat} {awaited : Option Nat} :
    awaited.map (n + ·) = some (n + id) ↔ awaited = some id := by
  cases awaited <;> simp

theorem shift_handleReply (s : Session) (now : Nat) (r : Reply) :
    (s.handleReply now r).shift n = (s.shift n).handleReply now (r.shift n) := by
  obtain ⟨⟨id, pending⟩, outcome⟩ := r
  unfold handleReply
  show _ = if s.cancelled then _ else _
  split
  · rfl
  · cases pending with
    | errand errand =>
        have waited : (s.shift n).awaited.get errand = some (n + id) ↔
            s.awaited.get errand = some id := by
          show (s.awaited.shift n).get errand = some (n + id) ↔ _
          rw [Awaited.get_shift, map_add_eq_some_iff]
        show _ = if (s.shift n).awaited.get errand = some (n + id) then _ else _
        simp only [waited]
        split
        · refine (shift_errandDone _ _ _ _).trans (congrArg (errandDone · now errand outcome) ?_)
          exact congrArg (fun awaited => { s.shift n with awaited }) (Awaited.shift_set _ _ _)
        · rfl
    | task task kind =>
        dsimp only [Reply.shift, Token.shift]
        rw [entry?_shift]
        cases s.entry? kind with
        | none => rfl
        | some e =>
            have waited : (e.shift n).awaits? task = some (n + id) ↔ e.awaits? task = some id := by
              rw [Entry.awaits?_shift, map_add_eq_some_iff]
            show _ = if (e.shift n).awaits? task = some (n + id) then _ else _
            simp only [waited]
            split
            · exact shift_taskDone _ _ _ _ _
            · rfl

theorem shift_reportUnchanged (s : Session) :
    s.reportUnchanged.shift n = (s.shift n).reportUnchanged := by
  unfold reportUnchanged
  show _ = if s.cancelled then _ else s.unreported.foldl finishUnchanged _
  split
  · rfl
  · exact (List.foldl_hom (shift n) fun s kind => (shift_finishUnchanged s kind).symm).symm

theorem shift_fire (s : Session) (now : Nat) (timer : Timer) :
    (s.fire now timer).shift n = (s.shift n).fire now timer := by
  cases timer with
  | closeAfterSubmit => exact shift_cancelSurely _
  | shortPoll => exact shift_requestPasswordState _
  | forgetPassword => rfl
  | callTick kind => exact shift_callTick _ _ _

theorem shift_tick (s : Session) (now : Nat) : (s.tick now).shift n = (s.shift n).tick now := by
  unfold tick
  rw [← shift_reportUnchanged]
  refine (List.foldl_hom (shift n) fun s t => ?_).symm
  show (if s.cancelled then _ else _) = _
  split
  · rfl
  · exact (shift_fire s now t.2).symm

/-! ## Actions -/

/-- A shifted session does what the session does, shifted. -/
theorem act_shift (s : Session) (now : Nat) (action : Action) :
    (s.shift n).act now (action.shift n) = (s.act now action).map (shift n) id := by
  have quiet {t t' : Session} (h : t.shift n = t') :
      (t', Answer.done) = (t, Answer.done).map (shift n) id := by
    rw [← h]
    rfl
  have checked {r r' : Session × Option CallError} (h : r.map (shift n) id = r') :
      (r'.1, Answer.ofError r'.2) = (r.1, Answer.ofError r.2).map (shift n) id := by
    rw [← h]
    rfl
  cases action with
  | display => exact quiet (shift_display s)
  | submitPassword password => exact quiet (shift_submitPassword s password)
  | reloadPassword => exact quiet (shift_reloadPassword s)
  | clearUnconfirmedPassword => exact quiet (shift_clearUnconfirmedPassword s)
  | recoverPassword => exact quiet (shift_recoverPassword s)
  | startEdit kind => exact checked (shift_startEdit s kind)
  | stopEdit kind => exact checked (shift_stopEdit s kind)
  | save kind changes => exact checked (shift_save s kind changes)
  | delete kind => exact checked (shift_delete s kind)
  | upload kind role key date bytes => exact checked (shift_upload s kind role key date bytes)
  | deleteScan kind slot => exact checked (shift_setDeleted s kind slot true)
  | restoreScan kind slot => exact checked (shift_setDeleted s kind slot false)
  | loadFile kind slot => exact checked (shift_loadFile s kind slot)
  | verify kind code => exact checked (shift_verify s kind code)
  | cancelVerification kind => exact checked (shift_cancelVerification s kind)
  | submit => exact congrArg (Prod.map id Answer.toFix) (shift_submit s).symm
  | cancel => exact quiet (shift_cancel s)
  | cancelSurely => exact quiet (shift_cancelSurely s)
  | suggestRestart => exact quiet (shift_suggestRestart s)
  | dismissRestart => rfl
  | restart => exact quiet (shift_restart s)
  | reply reply => exact quiet (shift_handleReply s now reply)
  | file event => exact quiet (shift_handleFileEvent s event)
  | tick => exact quiet (shift_tick s now)
  | remember password expires => rfl
  | forget => rfl

end IdentityForm.Session
