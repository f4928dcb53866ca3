import IdentityForm.Proofs.Showing
import IdentityForm.Session.Step

/-! # What a reply comes to

A reply that nothing waits for is dropped. Any other one is taken in where it is waited for: by a request
of the session as a whole, or by a task of an entry. The answers to an opening bring what they should, or
they count as a failure.
-/

namespace IdentityForm

/-! ## Outcomes -/

namespace Outcome

/-- What a reply to the request for a form counts as, if it brings no form. -/
def formFault? : Outcome → Option ServerError
  | .ok (.authorizationForm _) => none
  | .ok other => some other.unexpected
  | .failed error => some error

def settingsFault? : Outcome → Option ServerError
  | .ok (.passwordState _) => none
  | .ok other => some other.unexpected
  | .failed error => some error

def elementsFault? : Outcome → Option ServerError
  | .ok (.availableElements _ _) => none
  | .ok other => some other.unexpected
  | .failed error => some error

end Outcome

def ServerError.formNotice (error : ServerError) : Notice :=
  match FormFailure.ofCode error.code with
  | .updateApp => .updateAppRequired
  | .critical code => .criticalError code

namespace Session

variable {s : Session} {now : Nat} {outcome : Outcome}

/-! ## The answers to an opening -/

theorem failForm_eq (s : Session) (error : ServerError) :
    s.failForm error = { s with serviceError := some error.code }.notify error.formNotice := by
  unfold failForm ServerError.formNotice
  cases FormFailure.ofCode error.code <;> rfl

theorem formDone_of_fault {error : ServerError} (fault : outcome.formFault? = some error) :
    s.formDone now outcome = s.failForm error := by
  unfold Outcome.formFault? at fault
  unfold formDone
  split at fault <;> cases fault <;> simp_all

theorem exists_of_no_formFault (fault : outcome.formFault? = none) :
    ∃ form, outcome = .ok (.authorizationForm form) := by
  unfold Outcome.formFault? at fault
  split at fault
  · exact ⟨_, rfl⟩
  · cases fault
  · cases fault

theorem passwordStateDone_of_fault {error : ServerError}
    (fault : outcome.settingsFault? = some error) :
    s.passwordStateDone now outcome = s.failPasswordState error := by
  unfold Outcome.settingsFault? at fault
  unfold passwordStateDone
  split at fault <;> cases fault <;> simp_all

theorem exists_of_no_settingsFault (fault : outcome.settingsFault? = none) :
    ∃ settings, outcome = .ok (.passwordState settings) := by
  unfold Outcome.settingsFault? at fault
  split at fault
  · exact ⟨_, rfl⟩
  · cases fault
  · cases fault

theorem availableElementsDone_of_fault {error : ServerError}
    (fault : outcome.elementsFault? = some error) :
    s.availableElementsDone now outcome = s.passwordCheckFailed error := by
  unfold Outcome.elementsFault? at fault
  unfold availableElementsDone
  split at fault <;> cases fault <;> simp_all

theorem exists_of_no_elementsFault (fault : outcome.elementsFault? = none) :
    ∃ elements errors, outcome = .ok (.availableElements elements errors) := by
  unfold Outcome.elementsFault? at fault
  split at fault
  · exact ⟨_, _, rfl⟩
  · cases fault
  · cases fault

theorem failPasswordState_cases (s : Session) (error : ServerError) : s.failPasswordState error = s ∨
    s.failPasswordState error =
      { s with serviceError := some error.code }.notify error.formNotice := by
  unfold failPasswordState
  split
  · exact .inr (failForm_eq s error)
  · exact .inl rfl

theorem passwordStateDone_cases (s : Session) (now : Nat) (outcome : Outcome) :
    (∃ settings, outcome = .ok (.passwordState settings) ∧
      (s.passwordStateDone now outcome = s.learn now settings ∨
        s.passwordStateDone now outcome = (s.learn now settings).showForm now)) ∨
    ∃ error, outcome.settingsFault? = some error ∧
      s.passwordStateDone now outcome = s.failPasswordState error := by
  cases fault : outcome.settingsFault? with
  | some error => exact .inr ⟨error, rfl, passwordStateDone_of_fault fault⟩
  | none =>
      obtain ⟨settings, rfl⟩ := exists_of_no_settingsFault fault
      refine .inl ⟨settings, rfl, ?_⟩
      rw [passwordStateDone_ok]
      split
      · exact .inr rfl
      · exact .inl rfl

/-! ## Replies -/

theorem handleReply_of_errand {errand : Errand} {id : Nat} (live : s.cancelled = false)
    (waiting : s.awaited.get errand = some id) (outcome : Outcome) :
    s.handleReply now ⟨⟨id, .errand errand⟩, outcome⟩ =
      { s with awaited := s.awaited.set errand none }.errandDone now errand outcome := by
  unfold handleReply
  rw [if_neg (by simp [live])]
  exact if_pos waiting

theorem handleReply_of_task {task : Task} {kind : Kind} {e : Entry} {id : Nat}
    (live : s.cancelled = false) (he : s.entry? kind = some e) (waiting : e.awaits? task = some id)
    (outcome : Outcome) :
    s.handleReply now ⟨⟨id, .task task kind⟩, outcome⟩ = s.taskDone now task kind outcome := by
  unfold handleReply
  rw [if_neg (by simp [live])]
  simp only [he, waiting, if_true]

theorem handleReply_cases (s : Session) (now : Nat) (r : Reply) : s.handleReply now r = s ∨
    s.cancelled = false ∧
      ((∃ errand, r.token.pending = .errand errand ∧ s.awaited.get errand = some r.token.id ∧
          s.handleReply now r =
            { s with awaited := s.awaited.set errand none }.errandDone now errand r.outcome) ∨
        ∃ task kind e, r.token.pending = .task task kind ∧ s.entry? kind = some e ∧
          e.awaits? task = some r.token.id ∧
          s.handleReply now r = s.taskDone now task kind r.outcome) := by
  unfold handleReply
  cases live : s.cancelled with
  | true => exact .inl rfl
  | false =>
      rw [if_neg (by simp)]
      cases ht : r.token.pending with
      | errand errand =>
          dsimp only
          split
          · rename_i waiting
            exact .inr ⟨rfl, .inl ⟨errand, rfl, waiting, rfl⟩⟩
          · exact .inl rfl
      | task task kind =>
          dsimp only
          cases he : s.entry? kind with
          | none => exact .inl rfl
          | some e =>
              dsimp only
              split
              · rename_i waiting
                exact .inr ⟨rfl, .inr ⟨task, kind, e, rfl, he, waiting, rfl⟩⟩
              · exact .inl rfl

end Session

end IdentityForm
