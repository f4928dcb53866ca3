import IdentityForm.Proofs.Move.Editing
import IdentityForm.Proofs.Replies

/-! # Unlocking as moves

What is asked for on behalf of the whole session is asked for once at a time, the form only until it
is there, and the available elements only until it is unlocked.
-/

namespace IdentityForm.Session

variable {s s' : Session} {now : Nat} {a : Action}

/-! ## Opening and unlocking -/

theorem requestPasswordState_moves : Moves now a s s.requestPasswordState := by
  unfold requestPasswordState
  split
  · exact .refl
  · rename_i waiting
    have idle : s.awaited.passwordState = none := by simpa using waiting
    exact run_moves .passwordState _ idle rfl rfl (by simp) (by simp) (by simp) rfl (by simp)

theorem display_moves : Moves now a s s.display := by
  unfold display
  split
  · exact .refl
  · refine Moves.trans ?_ requestPasswordState_moves
    split
    · exact .refl
    · rename_i waiting
      have idle : s.formReceived = false ∧ s.awaited.form = none := by simpa using waiting
      exact run_moves .form _ idle.2 rfl rfl (fun _ => idle.1) (by simp) (by simp) rfl (by simp)

theorem reloadPassword_moves : Moves now a s s.reloadPassword := by
  have shown : Moves now a s { s with forceShow := true } := moves_of_core_eq rfl rfl rfl
  exact shown.trans requestPasswordState_moves

theorem checkPassword_moves (password : String) (idle : s.awaited.availableElements = none)
    (locked : s.secretReady = false) : Moves now a s (s.checkPassword password) := by
  let r := Request.getAvailableElements ⟨s.nextId, .errand .availableElements⟩ s.form.id ⟨password⟩
  have move : Move now a s (s.checkPassword password) :=
    .ask .availableElements r idle rfl rfl (by simp) (fun _ => locked) (by simp) rfl rfl rfl
      (by simp)
  exact move.moves

theorem showForm_moves : Moves now a s (s.showForm now) := by
  rcases s.showForm_cases now with same | ⟨-, locked, opposed | ⟨credentials, asked⟩ | checked⟩
  · rw [same]
    exact .refl
  · obtain ⟨settings, n, opposed, told⟩ := opposed
    rw [told]
    refine notify_moves n ?_
    rcases PasswordSettings.objection_cases opposed with ⟨code, rfl⟩ | rfl | rfl <;> rfl
  · rw [asked]
    exact Move.moves (.rest [.notice .askPassword] rfl rfl (by simp [Effect.isCalm]) rfl)
  · obtain ⟨idle, credentials, password, -, checked⟩ := checked
    have used : Moves now a s { s with credentials } := moves_of_core_eq rfl rfl rfl
    rw [checked]
    exact used.trans (checkPassword_moves password idle locked)

theorem failForm_moves (error : ServerError) : Moves now a s (s.failForm error) := by
  have failed : Moves now a s { s with serviceError := some error.code } :=
    moves_of_core_eq rfl rfl rfl
  unfold failForm
  apply failed.trans
  split
  · exact notify_moves _ rfl
  · exact notify_moves _ rfl

theorem failPasswordState_moves (error : ServerError) :
    Moves now a s (s.failPasswordState error) := by
  unfold failPasswordState
  split
  · exact failForm_moves error
  · exact .refl

theorem passwordStateDone_moves (outcome : Outcome) :
    Moves now a s (s.passwordStateDone now outcome) := by
  rcases s.passwordStateDone_cases now outcome with ⟨settings, -, learned⟩ | ⟨error, -, failed⟩
  · have learns : Moves now a s (s.learn now settings) := moves_of_core_eq rfl rfl rfl
    rcases learned with same | same
    · rw [same]
      exact learns
    · rw [same]
      exact learns.trans showForm_moves
  · rw [failed]
    exact failPasswordState_moves error

theorem submitPassword_moves (password : String) : Moves now a s (s.submitPassword password) := by
  unfold submitPassword
  split
  · exact .refl
  · rename_i waiting
    simp only [Bool.or_eq_true, not_or] at waiting
    split
    · exact notify_moves _ rfl
    · exact checkPassword_moves password (by simpa using waiting.1.1) (by simpa using waiting.1.2)

/-- Once the password is checked no longer, the failure of its check is made of moves. -/
theorem passwordCheckFailed_moves (error : ServerError) :
    Moves now a { s with checking := none } (s.passwordCheckFailed error) := by
  unfold passwordCheckFailed
  simp only
  split
  · split
    · exact Move.moves (.rest [.notice (.passwordError Phrase.wrongPassword)] rfl rfl
        (by simp [Effect.isCalm]) rfl)
    · exact Move.moves (.rest [.notice .askPassword] rfl rfl (by simp [Effect.isCalm]) rfl)
  · have forgotten : Moves now a { s with checking := none }
        { s with checking := none, credentials := s.credentials.forget, forceShow := true } :=
      moves_of_core_eq rfl rfl rfl
    exact forgotten.trans requestPasswordState_moves
  all_goals exact Move.moves (.rest [.notice _] rfl rfl (by simp [Effect.isCalm]) rfl)

theorem clearUnconfirmedPassword_moves : Moves now a s s.clearUnconfirmedPassword := by
  unfold clearUnconfirmedPassword
  split
  · exact .refl
  · rename_i waiting
    have idle : s.awaited.clearPassword = none := by simpa using waiting
    exact run_moves .clearPassword _ idle rfl rfl (by simp) (by simp) (by simp) rfl (by simp)

theorem clearPasswordDone_moves (outcome : Outcome) :
    Moves now a s (s.clearPasswordDone outcome) := by
  cases outcome with
  | ok response => exact reloadPassword_moves
  | failed error => exact notify_moves _ rfl

theorem recoverPassword_moves : Moves now a s s.recoverPassword := by
  unfold recoverPassword
  split
  · exact .refl
  · rename_i waiting
    have idle : s.awaited.recovery = none := by simpa using waiting
    exact run_moves .recovery _ idle rfl rfl (by simp) (by simp) (by simp) rfl (by simp)

theorem recoveryDone_moves (outcome : Outcome) : Moves now a s (s.recoveryDone outcome) := by
  unfold recoveryDone
  split
  · exact notify_moves _ rfl
  · exact notify_moves _ rfl
  · exact notify_moves _ rfl

/-! ## Submission -/

theorem submit_moves (ha : a = .submit) : Moves now a s s.submit.1 := by
  unfold submit
  split
  · exact .refl
  · rename_i waiting
    simp only [Bool.or_eq_true, not_or] at waiting
    obtain ⟨⟨⟨⟨idle, -⟩, -⟩, -⟩, ready⟩ := waiting
    simp only
    split
    · have free : s.awaited.submit = none := by simpa using idle
      exact run_moves .submit (fun t => .sendForm t s.form.id (Kind.inOrder s.form.checkScopes.2))
        free rfl rfl (by simp) (by simp) (fun _ => by simpa using ready) rfl (fun _ => ha)
    · exact .refl

theorem submitDone_moves (outcome : Outcome) : Moves now a s (s.submitDone now outcome) := by
  cases outcome with
  | ok response =>
      exact Move.moves (.rest [.notice (.toast Phrase.submitted)] rfl rfl (by simp [Effect.isCalm])
        rfl)
  | failed error =>
      simp only [submitDone]
      split
      · exact notify_moves _ rfl
      · exact suggestRestart_moves
      · exact notify_moves _ rfl

/-! ## Errands -/

variable {r : Reply}

theorem errandDone_settles {errand : Errand} (ht : r.token.pending = .errand errand)
    (hw : s.awaited.get errand = some r.token.id) :
    Settles now a r s
      ({ s with awaited := s.awaited.set errand none }.errandDone now errand r.outcome) := by
  let free := { s with awaited := s.awaited.set errand none }
  have settled (other : errand ≠ .availableElements) : Settle now r s free :=
    .errand errand [] ht hw rfl (List.append_nil _).symm (by simp) (by rw [if_neg other])
      fun check => absurd check other
  cases errand with
  | form =>
      show Settles now a r s (free.formDone now r.outcome)
      unfold formDone
      split
      · rename_i form ho
        let opened := { free with form := .ofAuthorization form, formReceived := true }
        have taken : Settle now r s opened :=
          .form form [] ht hw ho rfl (List.append_nil _).symm (by simp) rfl
        exact ⟨opened, taken, showForm_moves⟩
      · exact ⟨free, settled (by simp), failForm_moves _⟩
      · exact ⟨free, settled (by simp), failForm_moves _⟩
  | passwordState => exact ⟨free, settled (by simp), passwordStateDone_moves _⟩
  | availableElements =>
      show Settles now a r s (free.availableElementsDone now r.outcome)
      have spent (unread : ∀ elements errors, r.outcome = .ok (.availableElements elements errors) →
          s.checking = none) : Settle now r s { free with checking := none } :=
        .errand .availableElements [] ht hw rfl (List.append_nil _).symm (by simp) rfl
          fun _ => unread
      unfold availableElementsDone
      split
      · rename_i elements errors ho
        split
        · rename_i unchecked
          have same : { free with checking := none } = free := by
            rw [← show free.checking = none from unchecked]
          exact ⟨free, same ▸ spent fun _ _ _ => unchecked, .refl⟩
        · rename_i password checked
          refine ⟨_, ?_, .refl⟩
          exact .unlock password elements errors [.notice .secretReady, .notice .showForm]
            ht hw ho (core_notifyAll _) (outbox_notifyAll _) (by simp [Effect.isCalm]) checked
            (checking_notifyAll _)
      · rename_i response unread ho
        refine ⟨_, spent fun elements errors sent => ?_, passwordCheckFailed_moves _⟩
        exact absurd (Outcome.ok.inj (ho.symm.trans sent)) (unread elements errors)
      · rename_i error ho
        exact ⟨_, spent (by simp [ho]), passwordCheckFailed_moves _⟩
  | submit => exact ⟨free, settled (by simp), submitDone_moves _⟩
  | clearPassword => exact ⟨free, settled (by simp), clearPasswordDone_moves _⟩
  | recovery => exact ⟨free, settled (by simp), recoveryDone_moves _⟩

end IdentityForm.Session
