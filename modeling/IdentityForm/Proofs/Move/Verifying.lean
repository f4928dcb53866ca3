import IdentityForm.Proofs.Move.Editing
import IdentityForm.Session.Step

/-! # Verification and replies as moves

Verification is made of moves as well. The reply to a task of an entry is first taken in by the entry
that waits for it; what follows are moves again.
-/

namespace IdentityForm.Session

variable {s s' : Session} {now : Nat} {a : Action} {kind : Kind} {e e' : Entry}

/-! ## Codes -/

theorem verify_moves (kind : Kind) (code : String) (ha : a = .verify kind code) :
    Moves now a s (s.verify kind code).1 := by
  unfold verify
  cases he : s.entry? kind with
  | none => exact .refl
  | some e =>
      obtain rfl := kind_of_entry he
      simp only
      split
      · exact .refl
      · rename_i length hlength
        split
        · exact .refl
        · rename_i waiting
          have free : e.verification.request = none := by simpa using waiting
          split
          · refine Moves.trans ?_ (notify_moves _ rfl)
            exact put_moves he (.miscoded ha hlength) rfl
          · refine put_move he (.checked ha hlength free rfl) rfl ?_ rfl rfl
            by_cases email : e.kind = .email
            · rw [if_pos email]
              rfl
            · rw [if_neg email]
              rfl

theorem cancelVerification_moves (kind : Kind) (ha : a = .cancelVerification kind) :
    Moves now a s (s.cancelVerification kind).1 := by
  unfold cancelVerification
  cases he : s.entry? kind with
  | none => exact .refl
  | some e =>
      obtain rfl := kind_of_entry he
      simp only
      let ids := e.verification.request.toList ++ e.verification.callRequest?.toList
      let given := ((s.sendAll (ids.map .cancel)).put { e with verification := .none }).disarm
        (.callTick e.kind)
      have give : Moves now a s given := by
        apply put_move he (.givenUp ha) rfl
        · rw [tokensOf_cancels, core_disarm, core_put, core_sendAll]
          rfl
        · rw [outbox_disarm, outbox_put, outbox_sendAll, List.map_map]
          rfl
        · exact checking_sendAll _
      have tell : Moves now a given (given.notify (.verificationUpdate e.kind)) :=
        notify_moves _ rfl
      apply give.trans
      split
      · split
        · exact tell
        · exact .refl
      · split
        · exact tell.trans (editFailed_moves e.kind)
        · exact editFailed_moves e.kind

theorem callTick_moves (kind : Kind) (ha : a = .tick) : Moves now a s (s.callTick now kind) := by
  unfold callTick
  cases he : s.entry? kind with
  | none => exact .refl
  | some e =>
      obtain rfl := kind_of_entry he
      simp only
      split
      · rename_i due waiting
        split
        · rename_i late
          refine Moves.trans ?_ (notify_moves _ rfl)
          exact put_move he (.calling ha waiting late) rfl rfl rfl rfl
        · exact Move.moves (.rest [.notice (.verificationUpdate e.kind)] rfl rfl
            (by simp [Effect.isCalm]) rfl)
      · exact .refl

/-! ## Replies to a task -/

variable {r : Reply} {task : Task}

theorem put_settle (ht : r.token.pending = .task task e.kind) (he : s.entry? e.kind = some e)
    (hw : e.awaits? task = some r.token.id) (h : s.Uptake now e task r.outcome [] e')
    (hk : e'.kind = e.kind) : Settle now r s (s.put e') :=
  .task task e (fun _ => e') [] ht he hw h (by rw [core_put, hk]; rfl) (List.append_nil _).symm rfl

theorem modify_settle (g : Entry → Entry) {es : List Effect}
    (ht : r.token.pending = .task task e.kind) (he : s.entry? e.kind = some e)
    (hw : e.awaits? task = some r.token.id) (h : s.Uptake now e task r.outcome es (g e))
    (core : s'.core = { (s.modify e.kind g).core with issued := s.issued + (tokensOf es).length })
    (outbox : s'.outbox = s.outbox ++ es) (checking : s'.checking = s.checking) :
    Settle now r s s' :=
  .task task e g es ht he hw h core outbox checking

theorem deleteDone_settles (ht : r.token.pending = .task .delete e.kind)
    (he : s.entry? e.kind = some e) (hw : e.awaits? .delete = some r.token.id) :
    Settles now a r s (s.deleteDone e.kind r.outcome) := by
  cases ho : r.outcome with
  | ok response =>
      refine ⟨_, ?_, .refl⟩
      exact modify_settle Entry.reset ht he hw (ho ▸ .deleted) rfl rfl rfl
  | failed error =>
      refine ⟨s.modify e.kind fun e => { e with write := .idle }, ?_, ?_⟩
      · exact modify_settle _ ht he hw (ho ▸ .undeleted) rfl (List.append_nil _).symm rfl
      · exact (notify_moves _ rfl).trans (editFailed_moves e.kind)

theorem resendCallDone_settles (ht : r.token.pending = .task .resendCall e.kind)
    (he : s.entry? e.kind = some e) (hw : e.awaits? .resendCall = some r.token.id) :
    Settles now a r s (s.resendCallDone e.kind r.outcome) := by
  unfold resendCallDone
  refine ⟨_, ?_, notify_moves _ rfl⟩
  refine modify_settle _ ht he hw ?_ rfl (List.append_nil _).symm rfl
  cases r.outcome with
  | ok response => exact .called
  | failed error => exact .notCalled

theorem sendCodeFailed_settles {error : ServerError} (ht : r.token.pending = .task .sendCode e.kind)
    (he : s.entry? e.kind = some e) (hw : e.awaits? .sendCode = some r.token.id)
    (ho : ∀ response, r.outcome = .ok response → codeSent? e.kind response = none) :
    Settles now a r s (s.sendCodeFailed e.kind error) := by
  refine ⟨s.modify e.kind fun e => { e with verification := .none }, ?_, ?_⟩
  · exact modify_settle _ ht he hw (.codeNotSent ho) rfl (List.append_nil _).symm rfl
  · exact (notify_moves _ rfl).trans (editFailed_moves e.kind)

theorem sendCodeDone_settles (ht : r.token.pending = .task .sendCode e.kind)
    (he : s.entry? e.kind = some e) (hw : e.awaits? .sendCode = some r.token.id) :
    Settles now a r s (s.sendCodeDone now e.kind r.outcome) := by
  unfold sendCodeDone
  cases ho : r.outcome with
  | failed error => exact sendCodeFailed_settles ht he hw (by simp [ho])
  | ok response =>
      simp only
      split
      · rename_i unsent
        apply sendCodeFailed_settles ht he hw
        intro response' h
        rw [ho, Outcome.ok.injEq] at h
        exact h ▸ unsent
      · rename_i length timeout sent
        let taken := s.modify e.kind fun e => { e with
          verification := { e.verification with
            request := none
            codeLength := some length
            call := (timeout.map fun t => VoiceCall.waiting (now + 1000 * t)).or
              e.verification.call } }
        refine ⟨taken, ?_, Moves.trans ?_ (notify_moves _ rfl)⟩
        · exact modify_settle _ ht he hw (by rw [ho]; exact .codeSent sent) rfl
            (List.append_nil _).symm rfl
        · split
          · exact moves_of_core_eq rfl rfl rfl
          · exact .refl

theorem checkCodeDone_settles (ht : r.token.pending = .task .checkCode e.kind)
    (he : s.entry? e.kind = some e) (hw : e.awaits? .checkCode = some r.token.id) :
    Settles now a r s (s.checkCodeDone e.kind r.outcome) := by
  unfold checkCodeDone
  rw [he]
  cases ho : r.outcome with
  | failed error =>
      refine ⟨_, ?_, notify_moves _ rfl⟩
      exact put_settle ht he hw (ho ▸ .refused) rfl
  | ok response =>
      simp only
      let calls := e.verification.callRequest?.toList
      let quiet := { e with verification := .none }
      let accepted := ((s.sendAll (calls.map .cancel)).put quiet).disarm (.callTick e.kind)
      let told := accepted.notify (.verificationUpdate e.kind)
      have core_accepted : accepted.core = (s.put quiet).core := core_put_congr (core_sendAll _)
      have outbox_accepted :
          accepted.outbox = s.outbox ++ calls.map fun id => .request (.cancel id) := by
        rw [outbox_disarm, outbox_put, outbox_sendAll, List.map_map]
        rfl
      cases hp : s.password with
      | none =>
          have locked : told.password = none := (congrArg Core.password core_accepted).trans hp
          rw [sendSave_locked locked]
          refine ⟨accepted, ?_, (notify_moves _ rfl).trans (editFailed_moves _)⟩
          refine .task .checkCode e (fun _ => quiet) _ ht he hw (ho ▸ .acceptedLocked hp) ?_
            outbox_accepted (checking_sendAll _)
          rw [core_accepted, tokensOf_cancels]
          rfl
      | some password =>
          have unlocked : told.password = some password :=
            (congrArg Core.password core_accepted).trans hp
          have here : entry? told e.kind = some quiet :=
            (congrArg (fun c : Core => c.form.entry? e.kind) core_accepted).trans
              (entry?_put rfl he)
          rw [sendSave_eq here unlocked]
          have count : told.nextId = s.nextId :=
            congrArg (fun c : Core => c.issued + 1) core_accepted
          let sent := { quiet with write := .pending s.nextId }
          have core_sent : (told.put sent).core = (s.put sent).core :=
            (core_put_congr core_accepted).trans (congrArg core (put_put rfl))
          have uptake : s.Uptake now e .checkCode r.outcome
              (calls.map (fun id => .request (.cancel id)) ++
                [.notice (.verificationUpdate e.kind),
                  .request (.setElement ⟨s.nextId, .task .save e.kind⟩ e.submission ⟨password⟩)])
              sent := ho ▸ .accepted hp
          rw [count]
          refine ⟨_, .task .checkCode e (fun _ => sent) _ ht he hw uptake ?_ ?_ ?_, .refl⟩
          · rw [core_ask, core_sent, tokensOf_append, tokensOf_cancels]
            exact congrArg (fun n => { (s.put sent).core with issued := n }) count
          · rw [outbox_ask, outbox_put, outbox_notify, outbox_accepted, List.append_assoc,
              List.append_assoc]
            have same_id : (told.put sent).nextId = s.nextId := count
            rw [same_id]
            rfl
          · exact checking_sendAll _

/-! ## Replies to a save -/

theorem sendCode_eq (he : s.entry? kind = some e) (make : Token → String → Request) :
    s.sendCode kind make =
      (s.put { e with verification := { Verification.none with request := some s.nextId } }).ask
        (.task .sendCode kind) fun t => make t e.target := by
  unfold sendCode
  rw [he]

/-- Only a phone or an email is verified, and only for its own error. -/
theorem ofCode_of_other {kind : Kind} {code : String} (phone : code ≠ "PHONE_VERIFICATION_NEEDED")
    (email : code ≠ "EMAIL_VERIFICATION_NEEDED") :
    SaveFailure.ofCode kind code ≠ .verifyPhone ∧ SaveFailure.ofCode kind code ≠ .verifyEmail := by
  unfold SaveFailure.ofCode
  constructor <;> (repeat' split) <;> simp_all

/-- A failed save begins the verification of what it was about. -/
theorem sendCode_settles {make : Token → String → Request}
    (ht : r.token.pending = .task .save e.kind)
    (he : s.entry? e.kind = some e) (hw : e.awaits? .save = some r.token.id)
    (issues : ∀ t text, (make t text).token? = some t)
    (h : s.Uptake now e .save r.outcome
      [.request (make ⟨s.nextId, .task .sendCode e.kind⟩ e.target)]
      { e with write := .idle, verification := { Verification.none with request := some s.nextId } }) :
    Settles now a r s
      ((s.modify e.kind fun e => { e with write := .idle }).sendCode e.kind make) := by
  let idle := s.modify e.kind fun e => { e with write := .idle }
  have here : entry? idle e.kind = some { e with write := .idle } := Form.entry?_modify he rfl
  rw [sendCode_eq here]
  let sent := { e with
    write := .idle
    verification := { Verification.none with request := some s.nextId } }
  have once : (s.form.modify e.kind fun e => { e with write := .idle }).modify e.kind
      (fun _ => sent) = s.form.modify e.kind fun _ => sent := Form.modify_modify fun _ h => h
  refine ⟨_, .task .save e (fun _ => sent) _ ht he hw h ?_ rfl ?_, .refl⟩
  · have one : tokensOf [.request (make ⟨s.nextId, .task .sendCode e.kind⟩ e.target)] =
        [⟨s.nextId, .task .sendCode e.kind⟩] := by
      simp [tokensOf, Effect.token?, issues]
    rw [one, ← once]
    rfl
  · rfl

/-- A save has failed, with the error of the reply or with one that asks for no verification. -/
theorem saveFailed_settles {error : ServerError} (ht : r.token.pending = .task .save e.kind)
    (he : s.entry? e.kind = some e) (hw : e.awaits? .save = some r.token.id)
    (ho : ∀ error', r.outcome = .failed error' → error' = error)
    (other : r.outcome = .failed error ∨
      SaveFailure.ofCode e.kind error.code ≠ .verifyPhone ∧
        SaveFailure.ofCode e.kind error.code ≠ .verifyEmail) :
    Settles now a r s (s.saveFailed e.kind error) := by
  unfold saveFailed
  let idle := s.modify e.kind fun e => { e with write := .idle }
  have settled (free : SaveFailure.ofCode e.kind error.code ≠ .verifyPhone ∧
      SaveFailure.ofCode e.kind error.code ≠ .verifyEmail) : Settle now r s idle := by
    refine modify_settle _ ht he hw (.unsaved ?_) rfl (List.append_nil _).symm rfl
    intro error' failed
    exact ho error' failed ▸ free
  cases hf : SaveFailure.ofCode e.kind error.code with
  | updateApp =>
      refine ⟨idle, settled (by simp [hf]), ?_⟩
      exact (notify_moves _ rfl).trans (editFailed_moves e.kind)
  | verifyPhone =>
      have failed : r.outcome = .failed error := other.resolve_right fun h => h.1 hf
      exact sendCode_settles ht he hw (fun _ _ => rfl) (failed ▸ .unverifiedPhone hf)
  | verifyEmail =>
      have failed : r.outcome = .failed error := other.resolve_right fun h => h.2 hf
      exact sendCode_settles ht he hw (fun _ _ => rfl) (failed ▸ .unverifiedEmail hf)
  | badField field message =>
      simp only
      have once : idle.modify e.kind
          (fun e => { e with draftFields := e.draftFields.setError field message }) =
            s.modify e.kind fun e => { e with
              write := .idle, draftFields := e.draftFields.setError field message } :=
        modify_modify fun _ h => h
      rw [once]
      refine ⟨_, ?_, notify_moves _ rfl⟩
      exact modify_settle _ ht he hw (.misfilled hf ho) rfl (List.append_nil _).symm rfl
  | restart =>
      refine ⟨idle, settled (by simp [hf]), ?_⟩
      exact (clearIfIdle_moves e.kind).trans suggestRestart_moves
  | other code =>
      refine ⟨idle, settled (by simp [hf]), ?_⟩
      exact (notify_moves _ rfl).trans (editFailed_moves e.kind)

theorem saveDone_settles (ht : r.token.pending = .task .save e.kind)
    (he : s.entry? e.kind = some e) (hw : e.awaits? .save = some r.token.id) :
    Settles now a r s (s.saveDone e.kind r.outcome) := by
  unfold saveDone
  split
  · rename_i element ho
    split
    · rename_i same
      refine ⟨_, ?_, .refl⟩
      exact modify_settle _ ht he hw (ho ▸ .saved same) rfl rfl rfl
    · exact saveFailed_settles ht he hw (by simp [ho])
        (.inr (ofCode_of_other (by decide) (by decide)))
  · rename_i response _ ho
    exact saveFailed_settles ht he hw (by simp [ho])
      (.inr (ofCode_of_other (by simp [Response.unexpected]) (by simp [Response.unexpected])))
  · rename_i error ho
    exact saveFailed_settles ht he hw (by simp [ho]) (.inl ho)

/-! ## Replies to an entry -/

theorem taskDone_settles (ht : r.token.pending = .task task e.kind)
    (he : s.entry? e.kind = some e) (hw : e.awaits? task = some r.token.id) :
    Settles now a r s (s.taskDone now task e.kind r.outcome) := by
  cases task with
  | save => exact saveDone_settles ht he hw
  | delete => exact deleteDone_settles ht he hw
  | sendCode => exact sendCodeDone_settles ht he hw
  | checkCode => exact checkCodeDone_settles ht he hw
  | resendCall => exact resendCallDone_settles ht he hw

end IdentityForm.Session
