import IdentityForm.Proofs.Apart
import IdentityForm.Proofs.Inquiry
import IdentityForm.Proofs.Password

/-! # Rejected passwords

A password comes from the user, who has been asked for it, or it was remembered and is checked without a
word. Whether the user was asked is kept in a flag, and a remembered password that turns out to be wrong
makes the session ask. Here is said once what an action sends or tells about the password.
-/

namespace IdentityForm

/-- What the user is told about a password that was not accepted. One that is wrong is asked for, unless
that has been done already. -/
def ServerError.rejection? (prompted : Bool) (error : ServerError) : Option Notice :=
  match PasswordFailure.ofCode error.code with
  | .wrong => some (if prompted then .passwordError Phrase.wrongPassword else .askPassword)
  | .stale | .updateApp => none
  | .flood => some (.passwordError Phrase.tooManyTries)
  | .other code => some (.passwordError code)

namespace ServerError

variable {prompted : Bool} {error : ServerError}

theorem rejection?_eq_askPassword : error.rejection? prompted = some .askPassword ↔
    prompted = false ∧ PasswordFailure.ofCode error.code = .wrong := by
  unfold rejection?
  cases PasswordFailure.ofCode error.code <;> cases prompted <;> simp

theorem rejection?_eq_passwordError {message : String}
    (told : error.rejection? prompted = some (.passwordError message)) : prompted = true ∨
      PasswordFailure.ofCode error.code = .flood ∨
      ∃ code, PasswordFailure.ofCode error.code = .other code := by
  unfold rejection? at told
  cases failure : PasswordFailure.ofCode error.code with
  | wrong =>
      refine .inl ?_
      cases prompted with
      | true => rfl
      | false => rw [failure] at told; cases told
  | stale | updateApp => rw [failure] at told; cases told
  | flood => exact .inr (.inl rfl)
  | other code => exact .inr (.inr ⟨code, rfl⟩)

end ServerError

theorem mem_filter_isPrompt {x : Effect} {es : List Effect} (about : x.isPrompt = true) :
    x ∈ es ↔ x ∈ es.filter Effect.isPrompt := by
  rw [List.mem_filter, about, eq_self, and_true]

/-- Whether the user was asked for the password, and all that was sent and told about it. -/
structure Prompts where
  asked : Bool
  effects : List Effect

def Prompts.tell (p : Prompts) (x : Option Effect) : Prompts :=
  ⟨p.asked || x = some (.notice .askPassword), p.effects ++ x.toList⟩

@[simp] theorem Prompts.tell_none (p : Prompts) : p.tell none = p := by simp [tell]

namespace Session

variable {s s' : Session} {now : Nat} {a : Action} {r : Reply} {kind : Kind} {outcome : Outcome}

def prompts (s : Session) : Prompts := ⟨s.promptShown, s.outbox.filter Effect.isPrompt⟩

/-! ## What does not touch on the password -/

theorem prompts_of_elsewhere (same : s'.elsewhere kind = s.elsewhere kind) :
    s'.prompts = s.prompts :=
  congrArg (fun u : Session => Prompts.mk u.promptShown u.outbox) same

theorem prompts_send {r : Request} (calm : Effect.isPrompt (.request r) = false) :
    (s.send r).prompts = s.prompts := by
  simp only [prompts, send, List.filter_append, List.filter_cons, calm, List.filter_nil,
    Bool.false_eq_true, if_false, List.append_nil]

theorem prompts_notify {n : Notice} (calm : Effect.isPrompt (.notice n) = false) :
    (s.notify n).prompts = s.prompts := by
  simp only [prompts, notify, List.filter_append, List.filter_cons, calm, List.filter_nil,
    Bool.false_eq_true, if_false, List.append_nil]

theorem prompts_run {errand : Errand} {make : Token → Request}
    (calm : Effect.isPrompt (.request (make ⟨s.nextId, .errand errand⟩)) = false) :
    (s.run errand make).prompts = s.prompts := (prompts_send calm).trans rfl

theorem prompts_requestPasswordState : s.requestPasswordState.prompts = s.prompts := by
  unfold requestPasswordState
  split
  · rfl
  · exact prompts_run rfl

theorem prompts_display : s.display.prompts = s.prompts := by
  unfold display
  split
  · rfl
  · refine prompts_requestPasswordState.trans ?_
    split
    · rfl
    · exact prompts_run rfl

theorem prompts_submit : s.submit.1.prompts = s.prompts := by
  unfold submit
  dsimp only
  repeat' split
  · rfl
  · exact prompts_run rfl
  · rfl

theorem prompts_suggestRestart : s.suggestRestart.prompts = s.prompts := by
  unfold suggestRestart
  split
  · rfl
  · exact prompts_notify (s := { s with suggestingRestart := true }) rfl

theorem prompts_submitDone : (s.submitDone now outcome).prompts = s.prompts := by
  cases outcome with
  | ok response =>
      exact prompts_notify (s := { s with submitted := true }) (n := .toast Phrase.submitted) rfl
  | failed error =>
      unfold submitDone
      dsimp only
      split
      · exact prompts_notify rfl
      · exact prompts_suggestRestart
      · exact prompts_notify rfl

theorem prompts_clearPasswordDone : (s.clearPasswordDone outcome).prompts = s.prompts := by
  cases outcome with
  | ok response => exact prompts_requestPasswordState
  | failed error => exact prompts_notify rfl

theorem prompts_recoveryDone : (s.recoveryDone outcome).prompts = s.prompts := by
  unfold recoveryDone
  split
  · exact prompts_notify rfl
  · exact prompts_notify rfl
  · exact prompts_notify rfl

theorem prompts_failForm (error : ServerError) : (s.failForm error).prompts = s.prompts := by
  rw [failForm_eq]
  refine prompts_notify ?_
  unfold ServerError.formNotice
  split <;> rfl

theorem prompts_failPasswordState (error : ServerError) :
    (s.failPasswordState error).prompts = s.prompts := by
  unfold failPasswordState
  split
  · exact prompts_failForm error
  · rfl

theorem prompts_unlock (password : String) (elements : List StoredElement)
    (errors : List ElementError) : (s.unlock now password elements errors).prompts = s.prompts :=
  (prompts_notify rfl).trans (prompts_notify rfl)

/-! ## Closing, transfers and the passing of time -/

theorem isPrompt_of_unissued {r : Request} (unissued : r.token? = none) :
    Effect.isPrompt (.request r) = false := by
  cases r <;> first | rfl | cases unissued

theorem prompts_abort : s.abort.prompts = s.prompts := by
  have stopped : (s.sendAll s.stops).prompts = s.prompts :=
    foldl_keeps prompts fun _ r hr => prompts_send (isPrompt_of_unissued (token_of_mem_stops hr))
  exact stopped

theorem prompts_cancelSurely : s.cancelSurely.prompts = s.prompts := by
  unfold cancelSurely
  split
  · rfl
  · exact (prompts_notify rfl).trans (prompts_abort.trans rfl)

theorem prompts_cancel : s.cancel.prompts = s.prompts := by
  unfold cancel
  repeat' split
  · rfl
  · exact prompts_cancelSurely
  · exact prompts_notify rfl

theorem prompts_restart (live : s.cancelled = false) :
    s.restart.prompts = ⟨false, s.prompts.effects⟩ := by
  unfold restart
  rw [if_neg (by simp [live])]
  refine prompts_display.trans ?_
  exact congrArg (Prompts.mk false) (congrArg Prompts.effects prompts_abort)

theorem prompts_handleFileEvent (event : FileEvent) :
    (s.handleFileEvent event).prompts = s.prompts := by
  have upload (u : Session) (key : UInt64) (change : Draft → Draft) :
      (u.updateUpload key change).prompts = u.prompts := by
    cases found : u.form.findUpload? key with
    | none =>
        unfold updateUpload
        rw [found]
    | some place => exact prompts_of_elsewhere (elsewhere_updateUpload change found)
  have download (u : Session) (id : UInt64) (change : StoredFile → StoredFile) :
      (u.updateDownload id change).prompts = u.prompts :=
    foldl_keeps prompts fun u place _ => (prompts_notify (n := .scanUpdated place) rfl).trans rfl
  unfold handleFileEvent
  split
  · rfl
  · cases event with
    | uploadProgress | uploadDone | uploadFailed => exact upload _ _ _
    | downloadProgress => exact download _ _ _
    | downloadDone | downloadFailed => exact (download _ _ _).trans rfl

theorem prompts_fire (timer : Timer) : (s.fire now timer).prompts = s.prompts := by
  cases timer with
  | closeAfterSubmit => exact prompts_cancelSurely
  | shortPoll => exact prompts_requestPasswordState
  | forgetPassword => rfl
  | callTick kind => exact prompts_of_elsewhere (elsewhere_callTick now kind)

theorem prompts_tick : (s.tick now).prompts = s.prompts := by
  have reported : s.reportUnchanged.prompts = s.prompts := by
    unfold reportUnchanged
    split
    · rfl
    · exact foldl_keeps prompts (s := { s with unreported := [] })
        fun _ kind _ => prompts_of_elsewhere (elsewhere_finishUnchanged kind)
  rw [tick_eq_fires]
  exact fires_induction now (P := fun _ u => u.prompts = s.prompts)
    (fun t _ _ _ same => (prompts_fire t.2).trans same) (fun _ _ _ _ same => same) reported

/-! ## What touches on the password -/

/-- What an action sends or tells about the password, and why: the user is asked, a password that was
typed in or remembered is checked, nothing was typed in, or a check has failed. -/
inductive Brings (s : Session) (now : Nat) (a : Action) : Option Effect → Prop
  | nothing : Brings s now a none
  | asks (r : Reply) : a = .reply r → Brings s now a (some (.notice .askPassword))
  | checks (token : Token) (form : Int64) (password : String) :
      (a = .submitPassword password ∨
        (∃ r, a = .reply r) ∧ (s.credentials.get now).1 = some password) →
      Brings s now a (some (.request (.getAvailableElements token form ⟨password⟩)))
  | blank : a = .submitPassword "" → Brings s now a (some (.notice (.passwordError "")))
  | rejects (outcome : Outcome) (error : ServerError) : s.cancelled = false →
      s.heard? a = some (.availableElements, outcome) → outcome.elementsFault? = some error →
      Brings s now a ((error.rejection? s.promptShown).map .notice)

theorem prompts_checkPassword (s : Session) (password : String) :
    (s.checkPassword password).prompts = s.prompts.tell (some (.request
      (.getAvailableElements ⟨s.nextId, .errand .availableElements⟩ s.form.id ⟨password⟩))) := by
  simp [prompts, checkPassword, run, ask, send, Prompts.tell]
  rfl

/-- Nothing but a check of the remembered password comes of a showing, or the user is asked. -/
theorem showForm_brings (s : Session) (now : Nat) : (s.showForm now).prompts = s.prompts ∨
    (s.showForm now).prompts = s.prompts.tell (some (.notice .askPassword)) ∨
    ∃ token form password, (s.credentials.get now).1 = some password ∧ (s.showForm now).prompts =
      s.prompts.tell (some (.request (.getAvailableElements token form ⟨password⟩))) := by
  rcases s.showForm_cases now with
    same | ⟨-, -, ⟨_, n, opposed, told⟩ | ⟨_, asked⟩ | ⟨-, _, password, remembered, checked⟩⟩
  · rw [same]
    exact .inl rfl
  · rw [told]
    refine .inl (prompts_notify ?_)
    rcases PasswordSettings.objection_cases opposed with ⟨code, rfl⟩ | rfl | rfl <;> rfl
  · rw [asked]
    exact .inr (.inl (by simp [prompts, notify, Prompts.tell]))
  · rw [checked]
    exact .inr (.inr ⟨_, _, password, remembered, (prompts_checkPassword _ password).trans rfl⟩)

theorem passwordCheckFailed_brings (s : Session) (error : ServerError) :
    (s.passwordCheckFailed error).prompts =
      s.prompts.tell ((error.rejection? s.promptShown).map .notice) := by
  unfold passwordCheckFailed ServerError.rejection?
  cases PasswordFailure.ofCode error.code with
  | wrong => cases shown : s.promptShown <;> simp [prompts, notify, Prompts.tell, shown]
  | stale =>
      rw [Option.map_none, Prompts.tell_none]
      exact prompts_requestPasswordState.trans rfl
  | flood => simp [prompts, notify, Prompts.tell]
  | updateApp =>
      rw [Option.map_none, Prompts.tell_none]
      exact (prompts_notify rfl).trans rfl
  | other code => simp [prompts, notify, Prompts.tell]

/-- One thing at most is sent or told about the password. -/
def Adds (now : Nat) (a : Action) (s s' : Session) : Prop :=
  ∃ x, Brings s now a x ∧ s'.prompts = s.prompts.tell x

theorem Adds.of_eq (same : s'.prompts = s.prompts) : Adds now a s s' :=
  ⟨none, .nothing, same.trans (Prompts.tell_none _).symm⟩

theorem Adds.of_showForm {u : Session} (same : u.prompts = s.prompts)
    (credentials : u.credentials = s.credentials) (ha : a = .reply r) :
    Adds now a s (u.showForm now) := by
  rw [Adds, ← same]
  rcases u.showForm_brings now with quiet | asked | ⟨token, form, password, remembered, checked⟩
  · exact ⟨none, .nothing, quiet.trans (Prompts.tell_none _).symm⟩
  · exact ⟨_, .asks r ha, asked⟩
  · exact ⟨_, .checks token form password (.inr ⟨⟨r, ha⟩, credentials ▸ remembered⟩), checked⟩

theorem errandDone_adds {errand : Errand} (live : s.cancelled = false)
    (ht : r.token.pending = .errand errand)
    (waiting : s.awaited.get errand = some r.token.id) : Adds now (.reply r) s
      ({ s with awaited := s.awaited.set errand none }.errandDone now errand r.outcome) := by
  let freed := { s with awaited := s.awaited.set errand none }
  cases errand with
  | form =>
      show Adds now (.reply r) s (freed.formDone now r.outcome)
      cases fault : r.outcome.formFault? with
      | some error =>
          rw [formDone_of_fault fault]
          exact .of_eq (prompts_failForm error)
      | none =>
          obtain ⟨form, ok⟩ := exists_of_no_formFault fault
          rw [ok]
          exact .of_showForm rfl rfl rfl
  | passwordState =>
      show Adds now (.reply r) s (freed.passwordStateDone now r.outcome)
      rcases freed.passwordStateDone_cases now r.outcome with
        ⟨settings, -, same | same⟩ | ⟨error, -, failed⟩
      · rw [same]
        exact .of_eq rfl
      · rw [same]
        exact .of_showForm rfl rfl rfl
      · rw [failed]
        exact .of_eq (prompts_failPasswordState error)
  | availableElements =>
      show Adds now (.reply r) s (freed.availableElementsDone now r.outcome)
      cases fault : r.outcome.elementsFault? with
      | some error =>
          rw [availableElementsDone_of_fault fault]
          exact ⟨_, .rejects r.outcome error live (heard?_of_awaits ht waiting) fault,
            passwordCheckFailed_brings freed error⟩
      | none =>
          obtain ⟨elements, errors, ok⟩ := exists_of_no_elementsFault fault
          rw [ok]
          refine .of_eq ?_
          unfold availableElementsDone
          dsimp only
          split
          · rfl
          · exact prompts_unlock _ _ _
  | submit => exact .of_eq prompts_submitDone
  | clearPassword => exact .of_eq prompts_clearPasswordDone
  | recovery => exact .of_eq prompts_recoveryDone

theorem handleReply_adds (s : Session) (now : Nat) (r : Reply) :
    Adds now (.reply r) s (s.handleReply now r) := by
  rcases s.handleReply_cases now r with
    same | ⟨live, ⟨errand, ht, waiting, taken⟩ | ⟨task, kind, e, -, -, -, taken⟩⟩
  · exact .of_eq (congrArg prompts same)
  · rw [taken]
    exact errandDone_adds live ht waiting
  · rw [taken]
    exact .of_eq (prompts_of_elsewhere (elsewhere_taskDone task kind r.outcome))

/-- Every action starts the session over or adds to what is known of the password. -/
theorem act_adds (s : Session) (now : Nat) (a : Action) :
    a = .restart ∧ s.cancelled = false ∧ (s.act now a).1.prompts = ⟨false, s.prompts.effects⟩ ∨
      Adds now a s (s.act now a).1 := by
  cases a with
  | restart =>
      cases closed : s.cancelled with
      | true => exact .inr (.of_eq (congrArg prompts (if_pos closed)))
      | false => exact .inl ⟨rfl, rfl, prompts_restart closed⟩
  | submitPassword password =>
      refine .inr ?_
      show Adds now (.submitPassword password) s (s.submitPassword password)
      unfold submitPassword
      split
      · exact .of_eq rfl
      · split
        · rename_i empty
          exact ⟨_, .blank (empty ▸ rfl), by simp [prompts, notify, Prompts.tell]⟩
        · exact ⟨_, .checks _ _ password (.inl rfl), prompts_checkPassword s password⟩
  | reply r => exact .inr (handleReply_adds s now r)
  | display => exact .inr (.of_eq prompts_display)
  | reloadPassword => exact .inr (.of_eq (prompts_requestPasswordState.trans rfl))
  | clearUnconfirmedPassword =>
      refine .inr (.of_eq ?_)
      show s.clearUnconfirmedPassword.prompts = s.prompts
      unfold clearUnconfirmedPassword
      split
      · rfl
      · exact prompts_run rfl
  | recoverPassword =>
      refine .inr (.of_eq ?_)
      show s.recoverPassword.prompts = s.prompts
      unfold recoverPassword
      split
      · rfl
      · exact prompts_run rfl
  | startEdit | stopEdit | save | delete | upload | deleteScan | restoreScan | loadFile | verify
  | cancelVerification => exact .inr (.of_eq (prompts_of_elsewhere (elsewhere_act rfl)))
  | submit => exact .inr (.of_eq prompts_submit)
  | cancel => exact .inr (.of_eq prompts_cancel)
  | cancelSurely => exact .inr (.of_eq prompts_cancelSurely)
  | suggestRestart => exact .inr (.of_eq prompts_suggestRestart)
  | file event => exact .inr (.of_eq (prompts_handleFileEvent event))
  | tick => exact .inr (.of_eq prompts_tick)
  | dismissRestart | remember | forget => exact .inr (.of_eq rfl)

def Action.isAttempt : Action → Bool
  | .submitPassword _ => true
  | _ => false

end Session

/-! ## In a history -/

namespace History

variable {past : History} {t : Turn}

/-- The user was asked for the password in the current session. -/
def Prompted (past : History) : Prop := .notice .askPassword ∈ past.current.log

instance (past : History) : Decidable past.Prompted := inferInstanceAs (Decidable (_ ∈ _))

/-- The user typed passwords in only after having been asked for one. -/
def Polite : History → Prop
  | [] => True
  | t :: past => Polite past ∧ (t.action.isAttempt = true → Prompted past)

instance decidablePolite : (past : History) → Decidable past.Polite
  | [] => inferInstanceAs (Decidable True)
  | _ :: past =>
    have := decidablePolite past
    inferInstanceAs (Decidable (_ ∧ (_ → _)))

/-- A check of the current session was sent without the user, of the password that was remembered. -/
def Remembers (check : Nat) (past : History) : Prop :=
  ∃ t ∈ past.current, (∃ r, t.action = .reply r) ∧
    ∃ password, (t.before.credentials.get t.now).1 = some password ∧ Checks t.effects check password

theorem current_of_startsOver (anew : t.startsOver = true) : current (t :: past) = [] := if_pos anew

theorem current_of_goes_on (goes_on : t.startsOver = false) :
    current (t :: past) = t :: past.current := if_neg (by simp [goes_on])

theorem prompted_iff (goes_on : t.startsOver = false) :
    Prompted (t :: past) ↔ Prompted past ∨ .notice .askPassword ∈ t.effects := by
  rw [Prompted, current_of_goes_on goes_on, log, List.mem_append]
  rfl

theorem not_prompted (anew : t.startsOver = true) : ¬ Prompted (t :: past) := by
  rw [Prompted, current_of_startsOver anew]
  exact List.not_mem_nil

theorem not_startsOver_of_current (ht : t ∈ past.current) : t.startsOver = false := by
  induction past with
  | nil => cases ht
  | cons t' past ih =>
      cases anew : t'.startsOver with
      | true =>
          rw [current_of_startsOver anew] at ht
          cases ht
      | false =>
          rw [current_of_goes_on anew] at ht
          rcases List.mem_cons.1 ht with rfl | ht
          · exact anew
          · exact ih ht

/-- Who was polite was asked in the session in which the password was typed in. -/
theorem Polite.prompted (polite : past.Polite) (ht : t ∈ past.current)
    (attempt : t.action.isAttempt = true) : past.Prompted := by
  induction past with
  | nil => cases ht
  | cons t' past ih =>
      cases anew : t'.startsOver with
      | true =>
          rw [current_of_startsOver anew] at ht
          cases ht
      | false =>
          rw [current_of_goes_on anew] at ht
          refine (prompted_iff anew).2 (.inl ?_)
          rcases List.mem_cons.1 ht with rfl | ht
          · exact polite.2 attempt
          · exact ih polite.1 ht

end History

/-- A check that is waited for has failed. -/
def Turn.FailsCheck (past : History) (check : Nat) (error : ServerError) (t : Turn) : Prop :=
  t.before.cancelled = false ∧ past.Outstanding ⟨check, .errand .availableElements⟩ ∧
    ∃ outcome, t.action = .reply ⟨⟨check, .errand .availableElements⟩, outcome⟩ ∧
      outcome.elementsFault? = some error

/-! ## In a run -/

namespace Run

open Session

variable {setup : Setup} {past : History} {s : Session} {now : Nat} {a : Session.Action}

theorem brings (run : Run setup past s) (now : Nat) (a : Session.Action) :
    let t : Turn := ⟨s, now, a⟩
    t.startsOver = true ∧ t.effects.filter Effect.isPrompt = [] ∧ t.after.promptShown = false ∨
      t.startsOver = false ∧ ∃ x, Brings s now a x ∧ t.effects.filter Effect.isPrompt = x.toList ∧
        t.after.promptShown = (s.promptShown || x = some (.notice .askPassword)) := by
  intro t
  have silent : s.prompts.effects = [] := by rw [prompts, run.outbox_eq_nil]; rfl
  cases anew : t.startsOver with
  | true =>
      obtain ⟨restart, live⟩ := Turn.startsOver_iff.1 anew
      have restart : a = .restart := restart
      subst restart
      have prompts : (s.act now .restart).1.prompts = ⟨false, s.prompts.effects⟩ :=
        prompts_restart live
      exact .inl ⟨rfl, (congrArg Prompts.effects prompts).trans silent,
        congrArg Prompts.asked prompts⟩
  | false =>
      rcases s.act_adds now a with ⟨restart, live, -⟩ | ⟨x, brings, prompts⟩
      · rw [Turn.startsOver_iff.2 ⟨restart, live⟩] at anew
        cases anew
      · refine .inr ⟨rfl, x, brings, ?_, congrArg Prompts.asked prompts⟩
        have effects : t.effects.filter Effect.isPrompt = s.prompts.effects ++ x.toList :=
          congrArg Prompts.effects prompts
        rw [effects, silent, List.nil_append]

theorem promptShown_iff (run : Run setup past s) : s.promptShown = true ↔ past.Prompted := by
  induction run with
  | start => simp [Session.fresh, History.Prompted, History.current, History.log]
  | @step past s now a run _ _ ih =>
      let t : Turn := ⟨s, now, a⟩
      show t.after.promptShown = true ↔ History.Prompted (t :: past)
      rcases run.brings now a with ⟨anew, -, unasked⟩ | ⟨goes_on, x, -, effects, asked⟩
      · simp only [t, unasked, History.not_prompted anew, Bool.false_eq_true]
      · have told : .notice .askPassword ∈ t.effects ↔ x = some (.notice .askPassword) := by
          rw [mem_filter_isPrompt rfl, effects, Option.mem_toList]
        rw [History.prompted_iff goes_on, told, ← ih, asked, Bool.or_eq_true, decide_eq_true_iff]

/-- A check that a polite user did not ask for is one of the remembered password. -/
theorem remembers (run : Run setup past s) (live : s.cancelled = false) (polite : past.Polite)
    {check : Nat} (waiting : past.Outstanding ⟨check, .errand .availableElements⟩) :
    past.Prompted ∨ past.Remembers check := by
  have awaited : s.awaited.availableElements = some check :=
    run.awaits_of_outstanding live waiting
  have checking : s.checking.isSome = true := by
    rw [← (run.checked live).paired, awaited]
    rfl
  obtain ⟨password, checking⟩ := Option.isSome_iff_exists.1 checking
  obtain ⟨form, sent⟩ := run.checks_of_waiting live awaited checking
  obtain ⟨t, ht, sent⟩ := History.mem_log.1 sent
  obtain ⟨later, earlier, split⟩ := List.append_of_mem (past.current_subset ht)
  have before : Run setup earlier t.before := Run.before (split ▸ run)
  rcases before.brings t.now t.action with ⟨anew, -⟩ | ⟨-, x, brings, effects, -⟩
  · exact absurd (History.not_startsOver_of_current ht) (by rw [anew]; simp)
  · have among := (mem_filter_isPrompt rfl).1 sent
    rw [effects, Option.mem_toList] at among
    cases brings with
    | nothing | asks | blank => cases among
    | checks _ _ _ source =>
        cases among
        rcases source with attempt | ⟨reply, remembered⟩
        · exact .inl (polite.prompted ht (by rw [attempt]; rfl))
        · exact .inr ⟨t, ht, reply, password, remembered, form, sent⟩
    | rejects outcome error =>
        obtain ⟨n, -, told⟩ := Option.map_eq_some_iff.1 among
        cases told

theorem failsCheck_of_passwordError (run : Run setup past s) (genuine : past.Genuine a)
    (untyped : a.isAttempt = false) {message : String}
    (told : .notice (.passwordError message) ∈ Turn.effects ⟨s, now, a⟩) :
    ∃ check error, Turn.FailsCheck past check error ⟨s, now, a⟩ ∧
      error.rejection? s.promptShown = some (.passwordError message) := by
  let t : Turn := ⟨s, now, a⟩
  have told : .notice (.passwordError message) ∈ t.effects.filter Effect.isPrompt :=
    (mem_filter_isPrompt rfl).1 told
  rcases run.brings now a with ⟨-, effects, -⟩ | ⟨-, x, brings, effects, -⟩
  · rw [effects] at told
    cases told
  · rw [effects, Option.mem_toList] at told
    cases brings with
    | nothing | asks | checks => cases told
    | blank attempt => rw [attempt] at untyped; cases untyped
    | rejects outcome error live heard fault =>
        obtain ⟨n, rejection, same⟩ := Option.map_eq_some_iff.1 told
        cases same
        obtain ⟨check, reply, waiting⟩ := heard?_eq_some.1 heard
        have issued : ⟨check, .errand .availableElements⟩ ∈ past.tokens :=
          genuine _ (by rw [reply]; rfl)
        exact ⟨check, error,
          ⟨live, run.outstanding_of_awaits live issued waiting, outcome, reply, fault⟩, rejection⟩

/-- What a check that failed tells, and whether the user counts as asked afterwards. -/
theorem rejected (run : Run setup past s) {check : Nat} {error : ServerError}
    (rejects : Turn.FailsCheck past check error ⟨s, now, a⟩) :
    let t : Turn := ⟨s, now, a⟩
    t.effects.filter Effect.isPrompt =
        ((error.rejection? s.promptShown).map Effect.notice).toList ∧
      (History.Prompted (t :: past) ↔
        past.Prompted ∨ PasswordFailure.ofCode error.code = .wrong) := by
  intro t
  obtain ⟨live, outstanding, outcome, reply, fault⟩ := rejects
  have reply : a = .reply ⟨⟨check, .errand .availableElements⟩, outcome⟩ := reply
  subst reply
  have waiting : s.awaited.get .availableElements = some check :=
    run.awaits_of_outstanding live outstanding
  let freed := { s with awaited := s.awaited.set .availableElements none }
  have failed : s.handleReply now ⟨⟨check, .errand .availableElements⟩, outcome⟩ =
      freed.passwordCheckFailed error :=
    (handleReply_of_errand live waiting outcome).trans (availableElementsDone_of_fault fault)
  have silent : freed.prompts.effects = [] := by
    show s.outbox.filter Effect.isPrompt = []
    rw [run.outbox_eq_nil, List.filter_nil]
  have effects : t.effects.filter Effect.isPrompt =
      ((error.rejection? s.promptShown).map Effect.notice).toList := by
    have told : t.effects.filter Effect.isPrompt =
        (freed.passwordCheckFailed error).prompts.effects :=
      congrArg (fun u : Session => u.prompts.effects) failed
    rw [told, passwordCheckFailed_brings, Prompts.tell, silent, List.nil_append]
  refine ⟨effects, ?_⟩
  have asks : .notice .askPassword ∈ t.effects ↔
      s.promptShown = false ∧ PasswordFailure.ofCode error.code = .wrong := by
    rw [mem_filter_isPrompt rfl, effects, Option.mem_toList, ← ServerError.rejection?_eq_askPassword]
    simp
  rw [History.prompted_iff rfl, asks, ← run.promptShown_iff]
  cases s.promptShown <;> simp

/-- Errors of a password. As long as the user types passwords in only when asked, an error that an answer
of the server brings belongs to a check of the current session that failed: after the user was asked in
it, or for the remembered password and not because that is wrong. A failed check tells one thing about
the password at most, and the user counts as asked afterwards if that was so before or if the password
is wrong. -/
theorem password_errors_of_rejections (run : Run setup past s) (polite : past.Polite)
    (genuine : past.Genuine a) (now : Nat) :
    let t : Turn := ⟨s, now, a⟩
    (∀ message, .notice (.passwordError message) ∈ t.effects → a.isAttempt = false →
      ∃ check error, t.FailsCheck past check error ∧ (past.Prompted ∨ past.Remembers check ∧
        (PasswordFailure.ofCode error.code = .flood ∨
          ∃ code, PasswordFailure.ofCode error.code = .other code))) ∧
    ∀ check error, t.FailsCheck past check error →
      t.effects.filter Effect.isPrompt =
        ((error.rejection? past.Prompted).map Effect.notice).toList ∧
      (past.Prompted ∨ past.Remembers check) ∧
      (History.Prompted (t :: past) ↔
        past.Prompted ∨ PasswordFailure.ofCode error.code = .wrong) := by
  intro t
  refine ⟨fun message told untyped => ?_, fun check error rejects => ?_⟩
  · obtain ⟨check, error, rejects, rejection⟩ := run.failsCheck_of_passwordError genuine untyped told
    refine ⟨check, error, rejects, ?_⟩
    rcases ServerError.rejection?_eq_passwordError rejection with asked | overlooked
    · exact .inl (run.promptShown_iff.1 asked)
    · exact (run.remembers rejects.1 polite rejects.2.1).imp_right fun remembered =>
        ⟨remembered, overlooked⟩
  · have shown : s.promptShown = decide past.Prompted := by
      rw [Bool.eq_iff_iff, decide_eq_true_iff, run.promptShown_iff]
    obtain ⟨effects, prompted⟩ := run.rejected rejects
    exact ⟨shown ▸ effects, run.remembers rejects.1 polite rejects.2.1, prompted⟩

/-- The form is opened while a password is remembered, which is checked as request 3. -/
def recalling : List (Nat × Session.Action) :=
  [(1, .reply ⟨⟨2, .errand .passwordState⟩,
      .ok (.passwordState ⟨true, true, "hint", none, none, false, none⟩)⟩),
    (1, .reply ⟨⟨1, .errand .form⟩, .ok (.authorizationForm ⟨1, [], none⟩)⟩),
    (0, .display), (0, .remember "secret" 100)]

/-- A remembered password is wrong, the user is asked and types in another one, which the server does not
look at any more. -/
theorem password_errors_of_rejections_retyped :
    let check (id : Nat) : Token := ⟨id, .errand .availableElements⟩
    let retyped := (3, .submitPassword "other") ::
      (2, .reply ⟨check 3, .failed ⟨"PASSWORD_HASH_INVALID"⟩⟩) :: recalling
    let t : Turn := ⟨(play (.fresh .plain .empty) retyped).2, 4,
      .reply ⟨check 4, .failed ⟨"FLOOD_WAIT_30"⟩⟩⟩
    Turn.effects ⟨(play (.fresh .plain .empty) recalling).2, 2,
        .reply ⟨check 3, .failed ⟨"PASSWORD_HASH_INVALID"⟩⟩⟩ = [.notice .askPassword] ∧
      t.effects.filter Effect.isPrompt = [.notice (.passwordError Phrase.tooManyTries)] ∧
      History.Prompted (t :: (play (.fresh .plain .empty) retyped).1) := by
  intro check retyped t
  have playable : Playable (.fresh .plain .empty) ((t.now, t.action) :: retyped) := by
    decide +kernel
  have run := Run.of_playable playable.1
  have polite : (play (.fresh .plain .empty) retyped).1.Polite := by decide +kernel
  have prompted : (play (.fresh .plain .empty) retyped).1.Prompted := by decide +kernel
  have rejects : t.FailsCheck (play (.fresh .plain .empty) retyped).1 4 ⟨"FLOOD_WAIT_30"⟩ :=
    ⟨by decide +kernel, by decide +kernel, _, rfl, rfl⟩
  have found := (password_errors_of_rejections run polite playable.2.2 4).2 4 _ rejects
  refine ⟨by decide +kernel, ?_, found.2.2.2 (.inl prompted)⟩
  exact found.1.trans (by simp only [prompted, decide_true]; decide +kernel)

/-- A remembered password that the server does not look at is an error without anybody asked for one. -/
theorem password_error_unprompted :
    let past := (play (.fresh .plain .empty) recalling).1
    let t : Turn := ⟨(play (.fresh .plain .empty) recalling).2, 2,
      .reply ⟨⟨3, .errand .availableElements⟩, .failed ⟨"FLOOD_WAIT_30"⟩⟩⟩
    Playable (.fresh .plain .empty) ((t.now, t.action) :: recalling) ∧ past.Polite ∧
      .notice (.passwordError Phrase.tooManyTries) ∈ t.effects ∧
      ¬ History.Prompted (t :: past) := by
  decide +kernel

end Run

end IdentityForm
