import IdentityForm.Proofs.Background.Drive
import IdentityForm.Proofs.Standing

/-! # Advances

What an action does to how far a session has got: nothing, or one of the few things listed here with
the conditions under which they happen. And a tick closes the session exactly if the time for that has
come.
-/

namespace IdentityForm

def Setup.successUrl? (setup : Setup) : Option String := do
  let base ← setup.link.callbackUrl
  return base ++ (if base.toList.contains '?' then "&" else "?") ++ "tg_passport=success"

namespace Session

variable {s s' s'' : Session} {now : Nat} {a : Action} {r : Reply}

/-! ## Unlocking -/

theorem standing_checkPassword (password : String) : ∃ token,
    (s.checkPassword password).standing =
      s.standing.reach (.request (.getAvailableElements token s.form.id ⟨password⟩)) :=
  ⟨⟨s.nextId, .errand .availableElements⟩, (standing_send_of_stage rfl).trans rfl⟩

/-- At most a password is checked, for the form that is there. -/
def Shows (s s' : Session) : Prop :=
  s'.standing = s.standing ∨ s'.formReceived = true ∧ ∃ token password, s'.standing =
    s.standing.reach (.request (.getAvailableElements token s'.form.id ⟨password⟩))

theorem Shows.of_standing (h : s'.Shows s'') (same : s'.standing = s.standing) : s.Shows s'' := by
  unfold Shows at h ⊢
  rw [← same]
  exact h

theorem showForm_shows (s : Session) (now : Nat) : s.Shows (s.showForm now) := by
  rcases s.showForm_cases now with
    same | ⟨received, -, ⟨_, n, opposed, told⟩ | ⟨_, asked⟩ |
      ⟨-, credentials, password, -, checked⟩⟩
  · rw [same]
    exact .inl rfl
  · rw [told]
    refine .inl (standing_notify ?_)
    rcases PasswordSettings.objection_cases opposed with ⟨code, rfl⟩ | rfl | rfl <;> rfl
  · rw [asked]
    exact .inl (standing_notify rfl)
  · rw [checked]
    obtain ⟨token, asked⟩ := standing_checkPassword (s := { s with credentials }) password
    exact .inr ⟨received, token, password, asked⟩

theorem standing_learn (s : Session) (settings : PasswordSettings) :
    (s.learn now settings).standing = s.standing := by
  have armed : (s.learn now settings).closings = (s.disarm .shortPoll).closings := by
    cases pattern : settings.unconfirmedPattern <;> simp [closings, learn, disarm, pattern]
  have kept : (s.disarm .shortPoll).closings = s.closings := closings_disarm (by simp)
  exact congrArg (Standing.mk _ _ _ · _) (armed.trans kept)

theorem passwordStateDone_shows (s : Session) (now : Nat) (outcome : Outcome) :
    s.Shows (s.passwordStateDone now outcome) := by
  rcases s.passwordStateDone_cases now outcome with ⟨settings, -, learned⟩ | ⟨error, -, failed⟩
  · rcases learned with same | same
    · rw [same]
      exact .inl (standing_learn s settings)
    · rw [same]
      exact (showForm_shows _ now).of_standing (standing_learn s settings)
  · rw [failed]
    exact .inl (standing_of_background (background_failPasswordState error))

theorem formDone_shows (s : Session) (now : Nat) (outcome : Outcome) :
    s.Shows (s.formDone now outcome) := by
  cases fault : outcome.formFault? with
  | some error =>
      rw [formDone_of_fault fault]
      exact .inl (standing_of_background (background_failForm error))
  | none =>
      obtain ⟨form, rfl⟩ := exists_of_no_formFault fault
      let opened := { s with form := .ofAuthorization form, formReceived := true }
      exact (showForm_shows opened now).of_standing rfl

theorem standing_unlock (password : String) (elements : List StoredElement)
    (errors : List ElementError) : (s.unlock now password elements errors).standing =
      s.standing.reach (.notice .secretReady) := by
  have armed : (s.schedule (now + s.setup.settings.rememberFor) .forgetPassword).standing =
      s.standing := standing_schedule nofun
  have told (u : Session) : (u.notifyAll [.secretReady, .showForm]).standing =
      u.standing.reach (.notice .secretReady) :=
    (standing_notify rfl).trans (standing_notify_of_stage rfl)
  exact (told _).trans (congrArg (Standing.reach · _) armed)

/-! ## Submitting -/

theorem standing_submit (s : Session) : s.submit.1.standing = s.standing ∨
    s.cancelled = false ∧ s.submitted = false ∧ ∃ kinds, s.submit.1.standing =
      s.standing.reach (.request (.sendForm ⟨s.nextId, .errand .submit⟩ s.form.id kinds)) := by
  unfold submit
  split
  · exact .inl rfl
  · rename_i can
    simp only [Bool.or_eq_true, Bool.not_eq_true', not_or, Bool.not_eq_true] at can
    obtain ⟨⟨⟨⟨-, unsubmitted⟩, live⟩, -⟩, -⟩ := can
    dsimp only
    split
    · exact .inr ⟨live, unsubmitted, _, (standing_send_of_stage rfl).trans rfl⟩
    · exact .inl rfl

theorem standing_submitDone (s : Session) (now : Nat) (response : Response) :
    (s.submitDone now (.ok response)).standing = { s.standing with
      submitted := true, closing := [now + s.setup.settings.closeDelay] } := by
  have told : (notify { s with submitted := true } (.toast Phrase.submitted)).standing =
      { s.standing with submitted := true } := (standing_notify rfl).trans rfl
  have armed (u : Session) (due : Nat) : (u.schedule due .closeAfterSubmit).standing =
      { u.standing with closing := [due] } := by
    refine congrArg (Standing.mk _ _ _ · _) ?_
    simp [closings, schedule, disarm, List.filterMap_filter]
  refine (armed _ _).trans ?_
  exact congrArg (fun d : Standing =>
    { d with closing := [now + s.setup.settings.closeDelay] }) told

/-! ## Closing and starting over -/

theorem standing_abort (s : Session) : s.abort.standing = { s.standing with closing := [] } := by
  have stopped : (s.sendAll s.stops).standing = s.standing := by
    refine standing_sendAll fun r hr => ?_
    have unissued := token_of_mem_stops hr
    cases r <;> first | rfl | cases unissued
  exact congrArg (fun d : Standing => { d with closing := [] }) stopped

theorem standing_restart (live : s.cancelled = false) :
    s.restart.standing = { s.standing with closing := [] } := by
  unfold restart
  rw [if_neg (by simp [live])]
  exact (standing_of_background background_display).trans s.standing_abort

/-- An open session is closed, and if the form was submitted that is told. -/
structure Closes (s s' : Session) : Prop where
  live : s.cancelled = false
  standing : s'.standing = { s.standing with cancelled := true, closing := [] }
  told : s.submitted = true → .notice (.close s.setup.successUrl?) ∈ s'.outbox

theorem Closes.of_standing (h : s'.Closes s'')
    (same : s'.standing = { s.standing with closing := s'.closings }) : s.Closes s'' where
  live := (congrArg Standing.cancelled same).symm.trans h.live
  standing := by
    rw [h.standing, same]
  told submitted := by
    have setup : s'.setup = s.setup := congrArg Standing.setup same
    exact setup ▸ h.told ((congrArg Standing.submitted same).trans submitted)

theorem callbackUrl?_of_submitted (submitted : s.submitted = true) :
    s.callbackUrl? = s.setup.successUrl? := by
  unfold callbackUrl? Setup.successUrl?
  rw [submitted]
  rfl

theorem cancelSurely_closes (live : s.cancelled = false) : s.Closes s.cancelSurely := by
  have stopped := standing_abort { s with cancelled := true }
  unfold cancelSurely
  rw [if_neg (by simp [live])]
  refine { live, standing := (standing_notify rfl).trans stopped, told := fun submitted => ?_ }
  have setup : (abort { s with cancelled := true }).setup = s.setup :=
    congrArg Standing.setup stopped
  have url := callbackUrl?_of_submitted ((congrArg Standing.submitted stopped).trans submitted)
  rw [setup] at url
  exact List.mem_append_right _ (List.mem_singleton.2 (by rw [url]))

/-! ## Transfers -/

theorem standing_handleFileEvent (event : FileEvent) :
    (s.handleFileEvent event).standing = s.standing := by
  cases closed : s.cancelled with
  | true => exact congrArg standing (if_pos closed)
  | false =>
      have ended := background_handleFileEvent closed event
      split at ended
      · exact (standing_of_background ended).trans rfl
      · exact standing_of_background ended

/-! ## Time -/

theorem mem_closings {due : Nat} : due ∈ s.closings ↔ (due, .closeAfterSubmit) ∈ s.timers := by
  simp only [closings, List.mem_filterMap, Option.ite_none_right_eq_some, Option.some.injEq]
  constructor
  · rintro ⟨⟨_, _⟩, ht, rfl, rfl⟩
    exact ht
  · exact fun ht => ⟨_, ht, rfl, rfl⟩

theorem standing_fire (now : Nat) {timer : Timer} (h : timer ≠ .closeAfterSubmit) :
    (s.fire now timer).standing = s.standing := by
  cases timer with
  | closeAfterSubmit => exact absurd rfl h
  | shortPoll => exact standing_of_background background_requestPasswordState
  | forgetPassword => rfl
  | callTick kind => exact standing_callTick kind

/-- No timer but one ends a session. -/
theorem standing_fires {due : List (Nat × Timer)} (h : ∀ t ∈ due, t.2 ≠ .closeAfterSubmit) :
    (s.fires now due).standing = s.standing := by
  refine foldl_keeps standing fun s t ht => ?_
  split
  · rfl
  · exact standing_fire now (h t ht)

/-- That one closes it, whatever else is due. -/
theorem fires_closes (now : Nat) {due : List (Nat × Timer)} (live : s.cancelled = false)
    (h : ∃ t ∈ due, t.2 = .closeAfterSubmit) :
    s.Closes (s.fires now due) := by
  induction due generalizing s with
  | nil =>
      obtain ⟨t, ht, -⟩ := h
      cases ht
  | cons t rest ih =>
      rw [fires_cons t rest live]
      by_cases closing : t.2 = .closeAfterSubmit
      · have closes : s.Closes (s.fire now t.2) := by
          rw [closing]
          exact cancelSurely_closes live
        rw [fires_of_cancelled rest (congrArg Standing.cancelled closes.standing)]
        exact closes
      · have fired := standing_fire (s := s) now closing
        have later : ∃ t ∈ rest, t.2 = .closeAfterSubmit := by
          obtain ⟨t', ht', closing'⟩ := h
          rcases List.mem_cons.1 ht' with rfl | ht'
          · exact absurd closing' closing
          · exact ⟨t', ht', closing'⟩
        refine (ih ((congrArg Standing.cancelled fired).trans live) later).of_standing ?_
        rw [fired]
        exact congrArg (fun closing => { s.standing with closing })
          (congrArg Standing.closing fired).symm

theorem closings_filter (s : Session) (now : Nat) :
    closings { s with timers := s.timers.filter fun t => ¬ t.1 ≤ now } =
      s.closings.filter fun due => ¬ due ≤ now := by
  simp only [closings, List.filterMap_filter, List.filter_filterMap]
  congr
  funext t
  by_cases closing : t.2 = .closeAfterSubmit <;> by_cases due : t.1 ≤ now <;>
    simp [closing, due, Option.filter]

theorem mem_closing_due {due now : Nat} :
    (due, .closeAfterSubmit) ∈ (s.timers.filter fun t => t.1 ≤ now) ↔ due ∈ s.closings ∧ due ≤ now := by
  rw [mem_closings, List.mem_filter]
  simp

theorem standing_later (s : Session) (now : Nat) : (s.later now).standing =
    { s.standing with closing := s.closings.filter fun due => ¬ due ≤ now } := by
  have reported : s.reportUnchanged.standing = s.standing :=
    standing_of_background background_reportUnchanged
  rw [← closings_filter, ← reported]
  rfl

/-- Before the time has come a tick leaves the session as it stands. -/
theorem standing_tick (early : ∀ due ∈ s.closings, now < due) :
    (s.tick now).standing = s.standing := by
  have waiting : s.closings.filter (fun due => ¬ due ≤ now) = s.closings :=
    List.filter_eq_self.2 fun time h => by simpa using early time h
  have others : ∀ t ∈ s.timers.filter fun t => t.1 ≤ now, t.2 ≠ .closeAfterSubmit := by
    rintro ⟨time, timer⟩ ht rfl
    obtain ⟨armed, come⟩ := mem_closing_due.1 ht
    exact absurd (early time armed) (Nat.not_lt.2 come)
  rw [tick_eq_fires, standing_fires others, standing_later, waiting]
  rfl

theorem tick_closes (live : s.cancelled = false) (late : ∃ due ∈ s.closings, due ≤ now) :
    s.Closes (s.tick now) := by
  obtain ⟨time, armed, come⟩ := late
  have standing := standing_later s now
  have live_later : (s.later now).cancelled = false :=
    (congrArg Standing.cancelled standing).trans live
  have closes := fires_closes now live_later ⟨_, mem_closing_due.2 ⟨armed, come⟩, rfl⟩
  rw [tick_eq_fires]
  refine closes.of_standing (standing.trans ?_)
  exact congrArg (fun closing => { s.standing with closing }) (congrArg Standing.closing standing).symm

theorem standing_tick_of_cancelled (closed : s.cancelled = true) : (s.tick now).standing =
    { s.standing with closing := s.closings.filter fun due => ¬ due ≤ now } := by
  have standing := standing_later s now
  have closed_later : (s.later now).cancelled = true :=
    (congrArg Standing.cancelled standing).trans closed
  rw [tick_eq_fires, fires_of_cancelled _ closed_later, standing]

/-! ## Actions -/

/-- What an action does to how far a session has got. -/
inductive Advance (now : Nat) (a : Action) (s s' : Session) : Prop
  | stays : s'.standing = s.standing → Advance now a s s'
  | asks (token : Token) (password : String) :
      (s'.formReceived = true ∨ a = .submitPassword password ∧ s'.formReceived = s.formReceived) →
      s'.standing =
        s.standing.reach (.request (.getAvailableElements token s'.form.id ⟨password⟩)) →
      Advance now a s s'
  | unlocks (r : Reply) (elements : List StoredElement) (errors : List ElementError) :
      a = .reply r → s.cancelled = false → s.core.Awaits r.token →
      r.token.pending = .errand .availableElements →
      r.outcome = .ok (.availableElements elements errors) →
      s'.form = s.form.takeElements elements errors →
      s'.standing = s.standing.reach (.notice .secretReady) → Advance now a s s'
  | submits (kinds : List Kind) : a = .submit → s.cancelled = false → s.submitted = false →
      s'.standing =
        s.standing.reach (.request (.sendForm ⟨s.nextId, .errand .submit⟩ s.form.id kinds)) →
      Advance now a s s'
  | accepts (r : Reply) (response : Response) : a = .reply r → s.cancelled = false →
      s.core.Awaits r.token → r.token.pending = .errand .submit → r.outcome = .ok response →
      s'.standing = { s.standing with
        submitted := true, closing := [now + s.setup.settings.closeDelay] } →
      Advance now a s s'
  | restarts : a = .restart → s'.standing = { s.standing with closing := [] } → Advance now a s s'
  | closes : (a = .tick → ∃ due ∈ s.closings, due ≤ now) → s.Closes s' → Advance now a s s'
  | expires : s.cancelled = true →
      s'.standing = { s.standing with closing := s.closings.filter fun due => ¬ due ≤ now } →
      Advance now a s s'

theorem Advance.of_background (same : s'.background = s.background) : Advance now a s s' :=
  .stays (standing_of_background same)

theorem Shows.advance (h : s.Shows s') : Advance now a s s' := by
  rcases h with same | ⟨received, token, password, asked⟩
  · exact .stays same
  · exact .asks token password (.inl received) asked

theorem errandDone_advance {errand : Errand} (live : s.cancelled = false)
    (ht : r.token.pending = .errand errand) (awaits : s.core.Awaits r.token) :
    Advance now (.reply r) s
      ({ s with awaited := s.awaited.set errand none }.errandDone now errand r.outcome) := by
  let freed := { s with awaited := s.awaited.set errand none }
  cases errand with
  | form =>
      have shows : s.Shows (freed.formDone now r.outcome) := (freed.formDone_shows now _).of_standing rfl
      exact shows.advance
  | passwordState =>
      have shows : s.Shows (freed.passwordStateDone now r.outcome) :=
        (freed.passwordStateDone_shows now _).of_standing rfl
      exact shows.advance
  | availableElements =>
      show Advance now (.reply r) s (freed.availableElementsDone now r.outcome)
      unfold availableElementsDone
      split
      · rename_i elements errors outcome
        split
        · exact .stays rfl
        · exact .unlocks r elements errors rfl live awaits ht outcome rfl (standing_unlock _ _ _)
      · exact .of_background (background_passwordCheckFailed _)
      · exact .of_background (background_passwordCheckFailed _)
  | submit =>
      show Advance now (.reply r) s (freed.submitDone now r.outcome)
      cases outcome : r.outcome with
      | ok response =>
          exact .accepts r response rfl live awaits ht outcome
            (freed.standing_submitDone now response)
      | failed error => exact .of_background (background_submitDone_failed now error)
  | clearPassword => exact .of_background (background_clearPasswordDone _)
  | recovery => exact .of_background (background_recoveryDone _)

theorem handleReply_advance (s : Session) (now : Nat) (r : Reply) :
    Advance now (.reply r) s (s.handleReply now r) := by
  rcases s.handleReply_cases now r with
    same | ⟨live, ⟨errand, ht, waiting, taken⟩ | ⟨task, kind, e, -, -, -, taken⟩⟩
  · rw [same]
    exact .stays rfl
  · have awaits : s.core.Awaits r.token := by
      unfold Core.Awaits
      rw [ht]
      exact waiting
    rw [taken]
    exact errandDone_advance live ht awaits
  · rw [taken]
    exact .stays (standing_taskDone task kind _)

theorem act_advance (s : Session) (now : Nat) (a : Action) : Advance now a s (s.act now a).1 := by
  cases a with
  | display => exact .of_background background_display
  | submitPassword password =>
      show Advance now (.submitPassword password) s (s.submitPassword password)
      unfold submitPassword
      split
      · exact .stays rfl
      · split
        · exact .stays (standing_notify rfl)
        · obtain ⟨token, asked⟩ := s.standing_checkPassword password
          exact .asks token password (.inr ⟨rfl, rfl⟩) asked
  | reloadPassword => exact .of_background background_requestPasswordState
  | clearUnconfirmedPassword => exact .of_background background_clearUnconfirmedPassword
  | recoverPassword => exact .of_background background_recoverPassword
  | startEdit kind => exact .stays (standing_of_loads (background_startEdit kind))
  | stopEdit kind => exact .of_background (background_stopEdit kind)
  | save kind changes => exact .of_background (background_save kind changes)
  | delete kind => exact .of_background (background_delete kind)
  | upload kind role key date bytes =>
      exact .of_background (background_upload kind role key date bytes)
  | deleteScan kind slot => exact .of_background (background_setDeleted kind slot true)
  | restoreScan kind slot => exact .of_background (background_setDeleted kind slot false)
  | loadFile kind slot => exact .stays (standing_of_loads (background_loadFile kind slot))
  | verify kind code => exact .of_background (background_verify kind code)
  | cancelVerification kind => exact .stays (standing_cancelVerification kind)
  | submit =>
      rcases s.standing_submit with same | ⟨live, unsubmitted, kinds, sent⟩
      · exact .stays same
      · exact .submits kinds rfl live unsubmitted sent
  | cancel =>
      show Advance now .cancel s s.cancel
      unfold cancel
      split
      · exact .stays rfl
      · rename_i live
        split
        · exact .closes nofun (cancelSurely_closes (eq_false_of_ne_true live))
        · exact .stays (standing_notify rfl)
  | cancelSurely =>
      cases closed : s.cancelled with
      | true => exact .stays (congrArg standing (if_pos closed))
      | false => exact .closes nofun (cancelSurely_closes closed)
  | suggestRestart => exact .of_background background_suggestRestart
  | dismissRestart => exact .stays rfl
  | restart =>
      cases closed : s.cancelled with
      | true => exact .stays (congrArg standing (if_pos closed))
      | false => exact .restarts rfl (standing_restart closed)
  | reply r => exact handleReply_advance s now r
  | file event => exact .stays (standing_handleFileEvent event)
  | tick =>
      cases closed : s.cancelled with
      | true => exact .expires closed (standing_tick_of_cancelled closed)
      | false =>
          by_cases late : ∃ due ∈ s.closings, due ≤ now
          · exact .closes (fun _ => late) (tick_closes closed late)
          · refine .stays (standing_tick fun due armed => ?_)
            exact Nat.not_le.1 fun come => late ⟨due, armed, come⟩
  | remember password expires => exact .stays rfl
  | forget => exact .stays rfl

/-! ## Stages -/

/-- When an action leads to a stage, and how. -/
inductive Reaches (a : Action) (s s' : Session) : Effect → Prop
  | asks (token : Token) (password : String) :
      (s'.formReceived = true ∨ a = .submitPassword password ∧ s'.formReceived = s.formReceived) →
      Reaches a s s' (.request (.getAvailableElements token s'.form.id ⟨password⟩))
  | unlocks (r : Reply) (elements : List StoredElement) (errors : List ElementError) :
      a = .reply r → s.cancelled = false → s.core.Awaits r.token →
      r.token.pending = .errand .availableElements →
      r.outcome = .ok (.availableElements elements errors) →
      s'.form = s.form.takeElements elements errors → Reaches a s s' (.notice .secretReady)
  | submits (kinds : List Kind) : a = .submit → s.cancelled = false → s.submitted = false →
      Reaches a s s' (.request (.sendForm ⟨s.nextId, .errand .submit⟩ s.form.id kinds))

theorem Advance.reaches (h : Advance now a s s') (empty : s.outbox = []) {x : Effect}
    (stage : x.isStage = true) (sent : x ∈ s'.outbox) : Reaches a s s' x := by
  have among : x ∈ s'.standing.stages := List.mem_filter.2 ⟨sent, stage⟩
  have silent : s.standing.stages = [] := congrArg (List.filter Effect.isStage) empty
  have nowhere {d : Standing} (same : s'.standing = d) (still : d.stages = s.standing.stages) :
      False := by
    rw [same, still, silent] at among
    exact List.not_mem_nil among
  have only {y : Effect} (same : s'.standing = s.standing.reach y) : x = y := by
    rw [same, Standing.reach, silent] at among
    exact List.mem_singleton.1 among
  cases h with
  | stays same => exact (nowhere same rfl).elim
  | asks token password order same =>
      rw [only same]
      exact .asks token password order
  | unlocks r elements errors ha live awaits pending ok form same =>
      rw [only same]
      exact .unlocks r elements errors ha live awaits pending ok form
  | submits kinds ha live unsubmitted same =>
      rw [only same]
      exact .submits kinds ha live unsubmitted
  | accepts _ _ _ _ _ _ _ same => exact (nowhere same rfl).elim
  | restarts _ same => exact (nowhere same rfl).elim
  | closes _ closes => exact (nowhere closes.standing rfl).elim
  | expires _ same => exact (nowhere same rfl).elim

/-! ## What lasts -/

/-- The setup never changes, and a form counts as submitted once the server has accepted it. -/
theorem Advance.lasting (h : Advance now a s s') : s'.setup = s.setup ∧
    (s'.submitted = s.submitted ∨ s'.submitted = true ∧ s.cancelled = false ∧ ∃ r response,
      a = .reply r ∧ s.core.Awaits r.token ∧ r.token.pending = .errand .submit ∧
      r.outcome = .ok response) := by
  have kept {d : Standing} (same : s'.standing = d) (setup : d.setup = s.setup)
      (submitted : d.submitted = s.submitted) :
      s'.setup = s.setup ∧ s'.submitted = s.submitted :=
    ⟨(congrArg Standing.setup same).trans setup,
      (congrArg Standing.submitted same).trans submitted⟩
  cases h with
  | accepts r response ha live awaits pending ok same =>
      exact ⟨congrArg Standing.setup same, .inr ⟨congrArg Standing.submitted same, live, r, response,
        ha, awaits, pending, ok⟩⟩
  | stays same => exact (kept same rfl rfl).imp_right .inl
  | asks _ _ _ same => exact (kept same rfl rfl).imp_right .inl
  | unlocks _ _ _ _ _ _ _ _ _ same => exact (kept same rfl rfl).imp_right .inl
  | submits _ _ _ _ same => exact (kept same rfl rfl).imp_right .inl
  | restarts _ same => exact (kept same rfl rfl).imp_right .inl
  | closes _ closes => exact (kept closes.standing rfl rfl).imp_right .inl
  | expires _ same => exact (kept same rfl rfl).imp_right .inl

end Session

namespace Run

variable {setup : Setup} {past : History} {s : Session}

theorem setup_eq (run : Run setup past s) : s.setup = setup := by
  induction run with
  | start => rfl
  | @step past s now action _ _ _ ih => exact (s.act_advance now action).lasting.1.trans ih

end Run

end IdentityForm
