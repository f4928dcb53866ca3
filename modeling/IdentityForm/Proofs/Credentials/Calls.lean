import IdentityForm.Proofs.Credentials
import IdentityForm.Proofs.Rejections

/-! # What a session calls

Whatever a session does amounts to a few calls of the register: a form that is shown asks for the
password, an accepted password is written, and one that was not accepted is forgotten. So it is on
starting over, and when its time has come.
-/

namespace IdentityForm

open Credentials (Call)

namespace Session

variable {s s' : Session} {now : Nat} {a : Action} {kind : Kind} {outcome : Outcome}

/-! ## The calls of a session -/

def Wondering (s : Session) : Prop :=
  s.Showable ∧ s.awaited.availableElements = none ∧
    ∃ settings ∈ s.passwordSettings, settings.objection? = none

instance (s : Session) : Decidable s.Wondering := inferInstanceAs (Decidable (_ ∧ _ ∧ _))

def callsToShow (s : Session) : List Call := if s.Wondering then [.get] else []

def callsOnFault (error : ServerError) : List Call :=
  match PasswordFailure.ofCode error.code with
  | .wrong | .stale => [.forget]
  | _ => []

def callsOn (s : Session) (now : Nat) (errand : Errand) (outcome : Outcome) : List Call :=
  match errand with
  | .form =>
    match outcome.formFault? with
    | some _ => []
    | none => callsToShow { s with formReceived := true }
  | .passwordState =>
    match outcome with
    | .ok (.passwordState settings) =>
      if s.passwordSettings ≠ some settings ∨ s.forceShow = true then
        callsToShow { s with passwordSettings := some settings }
      else []
    | _ => []
  | .availableElements =>
    match outcome.elementsFault? with
    | some error => callsOnFault error
    | none => s.checking.toList.map (.remember · (now + s.setup.settings.rememberFor))
  | .submit | .clearPassword | .recovery => []

/-- The calls of the timers that are due: nothing is done any more once the session is closed. -/
def callsOfTimers (due : List (Nat × Timer)) : List Call :=
  ((due.takeWhile fun t => t.2 ≠ .closeAfterSubmit).filter fun t => t.2 = .forgetPassword).map
    fun _ => .forgetIfExpired

/-- The calls that an action makes of the register. -/
def calls (s : Session) (now : Nat) (a : Action) : List Call :=
  match a with
  | .remember password expires => [.remember password expires]
  | .forget => [.forget]
  | .restart => if s.cancelled then [] else [.forget]
  | .tick => if s.cancelled then [] else callsOfTimers (s.timers.filter fun t => t.1 ≤ now)
  | .reply _ =>
    if s.cancelled then []
    else
      match s.heard? a with
      | some (errand, outcome) =>
        callsOn { s with awaited := s.awaited.set errand none } now errand outcome
      | none => []
  | _ => []

/-! ## What becomes of the register -/

theorem credentials_of_apart (same : s'.apart = s.apart) : s'.credentials = s.credentials := by
  have credentials : s'.apart.credentials = s.apart.credentials := by rw [same]
  exact credentials

theorem credentials_of_elsewhere (same : s'.elsewhere kind = s.elsewhere kind) :
    s'.credentials = s.credentials := credentials_of_apart (apart_of_elsewhere same)

theorem credentials_requestPasswordState : s.requestPasswordState.credentials = s.credentials := by
  unfold requestPasswordState
  split <;> rfl

theorem credentials_display : s.display.credentials = s.credentials := by
  unfold display
  split
  · rfl
  · refine credentials_requestPasswordState.trans ?_
    split <;> rfl

theorem credentials_abort : s.abort.credentials = s.credentials := by
  have stopped : (s.sendAll s.stops).credentials = s.credentials :=
    credentials_of_apart (apart_sendAll _)
  exact stopped

theorem credentials_cancelSurely : s.cancelSurely.credentials = s.credentials := by
  unfold cancelSurely
  split
  · rfl
  · exact credentials_abort (s := { s with cancelled := true })

theorem credentials_failForm (error : ServerError) :
    (s.failForm error).credentials = s.credentials := by
  rw [failForm_eq]
  rfl

theorem credentials_prompt (s : Session) (now : Nat) : (s.prompt now).credentials =
    s.credentials.performAll now (if s.awaited.availableElements = none then [.get] else []) := by
  unfold prompt
  cases s.awaited.availableElements with
  | some id => rfl
  | none =>
      show _ = (s.credentials.get now).2
      cases s.credentials.get now with
      | mk password credentials => cases password <;> rfl

/-- A showing asks for the password, unless something stands in the way. -/
theorem credentials_showForm (s : Session) (now : Nat) :
    (s.showForm now).credentials = s.credentials.performAll now s.callsToShow := by
  unfold callsToShow
  by_cases showable : s.Showable
  · by_cases unknown : s.passwordSettings = none
    · rw [showForm_of_unknown unknown, if_neg (by simp [Wondering, unknown])]
      rfl
    · obtain ⟨settings, known⟩ := Option.ne_none_iff_exists'.1 unknown
      rw [showForm_of_showable showable known, present]
      cases opposed : settings.objection? with
      | some n =>
          rw [if_neg (by simp [Wondering, known, opposed])]
          rfl
      | none =>
          have wondering : s.Wondering ↔ s.awaited.availableElements = none := by
            simp [Wondering, showable, known, opposed]
          simp only [wondering]
          exact credentials_prompt s now
  · rw [showForm_of_not_showable showable, if_neg fun wondering => showable wondering.1]
    rfl

theorem credentials_passwordCheckFailed (error : ServerError) :
    (s.passwordCheckFailed error).credentials =
      s.credentials.performAll now (callsOnFault error) := by
  unfold passwordCheckFailed callsOnFault
  cases PasswordFailure.ofCode error.code with
  | wrong => cases s.promptShown <;> rfl
  | stale => exact credentials_requestPasswordState.trans rfl
  | _ => rfl

theorem credentials_availableElementsDone (outcome : Outcome) :
    (s.availableElementsDone now outcome).credentials =
      s.credentials.performAll now (s.callsOn now .availableElements outcome) := by
  unfold callsOn
  cases fault : outcome.elementsFault? with
  | some error =>
      rw [availableElementsDone_of_fault fault]
      exact credentials_passwordCheckFailed error
  | none =>
      obtain ⟨elements, errors, rfl⟩ := exists_of_no_elementsFault fault
      unfold availableElementsDone
      cases s.checking <;> rfl

theorem credentials_formDone (outcome : Outcome) : (s.formDone now outcome).credentials =
    s.credentials.performAll now (s.callsOn now .form outcome) := by
  unfold callsOn
  cases fault : outcome.formFault? with
  | some error =>
      rw [formDone_of_fault fault]
      exact credentials_failForm error
  | none =>
      obtain ⟨a, rfl⟩ := exists_of_no_formFault fault
      exact credentials_showForm { s with form := .ofAuthorization a, formReceived := true } now

theorem credentials_passwordStateDone (outcome : Outcome) :
    (s.passwordStateDone now outcome).credentials =
      s.credentials.performAll now (s.callsOn now .passwordState outcome) := by
  cases fault : outcome.settingsFault? with
  | some error =>
      have silent : s.callsOn now .passwordState outcome = [] := by
        unfold callsOn
        dsimp only
        split
        · cases fault
        · rfl
      rw [passwordStateDone_of_fault fault, silent]
      rcases s.failPasswordState_cases error with same | same <;> rw [same] <;> rfl
  | none =>
      obtain ⟨settings, rfl⟩ := exists_of_no_settingsFault fault
      rw [passwordStateDone_ok]
      unfold callsOn
      dsimp only
      split
      · exact credentials_showForm (s.learn now settings) now
      · rfl

theorem credentials_errandDone (errand : Errand) (outcome : Outcome) :
    (s.errandDone now errand outcome).credentials =
      s.credentials.performAll now (s.callsOn now errand outcome) := by
  cases errand with
  | form => exact credentials_formDone outcome
  | passwordState => exact credentials_passwordStateDone outcome
  | availableElements => exact credentials_availableElementsDone outcome
  | submit =>
      cases outcome with
      | ok response => rfl
      | failed error =>
          show (s.submitDone now (.failed error)).credentials = _
          unfold submitDone
          dsimp only
          split
          · rfl
          · exact credentials_of_apart apart_suggestRestart
          · rfl
  | clearPassword =>
      cases outcome with
      | ok response => exact credentials_requestPasswordState
      | failed error => rfl
  | recovery =>
      show (s.recoveryDone outcome).credentials = _
      unfold recoveryDone
      split <;> rfl

theorem credentials_handleReply (r : Reply) : (s.handleReply now r).credentials =
    s.credentials.performAll now (s.calls now (.reply r)) := by
  unfold calls
  cases closed : s.cancelled with
  | true =>
      rw [handleReply, if_pos closed]
      rfl
  | false =>
      dsimp only
      rw [if_neg (by simp)]
      cases heard : s.heard? (.reply r) with
      | some answer =>
          obtain ⟨errand, outcome⟩ := answer
          obtain ⟨id, same, waiting⟩ := heard?_eq_some.1 heard
          obtain rfl := Action.reply.inj same
          rw [handleReply_of_errand closed waiting]
          exact credentials_errandDone (s := { s with awaited := s.awaited.set errand none })
            errand outcome
      | none =>
          rcases s.handleReply_cases now r with
            same | ⟨-, ⟨errand, ht, waiting, -⟩ | ⟨task, kind, e, -, -, -, taken⟩⟩
          · rw [same]
            rfl
          · exact absurd ((heard?_of_awaits ht waiting).symm.trans heard) nofun
          · rw [taken]
            exact credentials_of_elsewhere (elsewhere_taskDone task kind r.outcome)

theorem credentials_fires (due : List (Nat × Timer)) (live : s.cancelled = false) :
    (s.fires now due).credentials = s.credentials.performAll now (callsOfTimers due) := by
  induction due generalizing s with
  | nil => rfl
  | cons t rest ih =>
      obtain ⟨time, timer⟩ := t
      rw [fires_cons _ rest live]
      cases timer with
      | closeAfterSubmit =>
          have closed : s.cancelSurely.cancelled = true :=
            congrArg Core.cancelled (cancelSurely_close live).core
          have ended : s.cancelSurely.fires now rest = s.cancelSurely :=
            fires_of_cancelled rest closed
          simpa [callsOfTimers, fire, ended] using credentials_cancelSurely
      | shortPoll =>
          have live' : s.requestPasswordState.cancelled = false := by
            unfold requestPasswordState
            split <;> exact live
          have polled := ih live'
          rw [credentials_requestPasswordState] at polled
          simpa [callsOfTimers, fire] using polled
      | forgetPassword =>
          exact ih (s := s.fire now .forgetPassword) live
      | callTick kind =>
          have calm := elsewhere_callTick (s := s) now kind
          have live' : ((s.callTick now kind).elsewhere kind).cancelled = false := by
            rw [calm]
            exact live
          have ticked := ih (s := s.callTick now kind) live'
          rw [credentials_of_elsewhere calm] at ticked
          simpa [callsOfTimers, fire] using ticked

theorem credentials_tick : (s.tick now).credentials =
    s.credentials.performAll now (s.calls now .tick) := by
  have unchanged : s.reportUnchanged.credentials = s.credentials :=
    credentials_of_apart apart_reportUnchanged
  have reported : (s.later now).credentials = s.credentials := unchanged
  rw [tick_eq_fires, calls]
  cases closed : s.cancelled with
  | true =>
      have closed' : (s.later now).cancelled = true :=
        (congrArg Gear.cancelled (gear_later s now)).trans closed
      rw [fires_of_cancelled _ closed', reported]
      rfl
  | false =>
      have live' : (s.later now).cancelled = false :=
        (congrArg Gear.cancelled (gear_later s now)).trans closed
      rw [credentials_fires _ live', reported]
      rfl

/-- What becomes of the register is told by the calls. -/
theorem credentials_act (s : Session) (now : Nat) (a : Action) :
    (s.act now a).1.credentials = s.credentials.performAll now (s.calls now a) := by
  cases a with
  | reply r => exact credentials_handleReply r
  | tick => exact credentials_tick
  | remember | forget => rfl
  | restart =>
      show s.restart.credentials = _
      unfold restart calls
      cases s.cancelled with
      | true => rfl
      | false => exact credentials_display
  | display => exact credentials_display
  | submitPassword password =>
      show (s.submitPassword password).credentials = _
      unfold submitPassword
      split
      · rfl
      · split <;> rfl
  | reloadPassword => exact credentials_requestPasswordState
  | clearUnconfirmedPassword =>
      show s.clearUnconfirmedPassword.credentials = _
      unfold clearUnconfirmedPassword
      split <;> rfl
  | recoverPassword =>
      show s.recoverPassword.credentials = _
      unfold recoverPassword
      split <;> rfl
  | startEdit | stopEdit | save | delete | upload | deleteScan | restoreScan | loadFile | verify
  | cancelVerification => exact credentials_of_elsewhere (elsewhere_act rfl)
  | submit =>
      show s.submit.1.credentials = _
      unfold submit
      dsimp only
      repeat' split
      all_goals rfl
  | cancel =>
      show s.cancel.credentials = _
      unfold cancel
      repeat' split
      · rfl
      · exact credentials_cancelSurely
      · rfl
  | cancelSurely => exact credentials_cancelSurely
  | suggestRestart => exact credentials_of_apart apart_suggestRestart
  | dismissRestart => rfl
  | file event => exact credentials_of_apart (apart_handleFileEvent event)

end Session

end IdentityForm
