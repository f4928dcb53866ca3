import IdentityForm.Proofs.Apart
import IdentityForm.Proofs.Opening

/-! # Reading the settings again

The password settings are asked for by the opening, by the user, by a check that was overtaken and by
a timer. Four things are kept for that: the settings that are known, whether the next ones are to be
shown in any case, the request that is under way and the timer. Here is said once what an action does
to them.
-/

namespace IdentityForm

def Asks (errand : Errand) (effects : List Effect) : Prop :=
  ∃ token ∈ tokensOf effects, token.pending = .errand errand

instance (errand : Errand) (effects : List Effect) : Decidable (Asks errand effects) :=
  inferInstanceAs (Decidable (∃ token ∈ tokensOf effects, _))

namespace Asks

variable {errand : Errand} {es es' : List Effect}

@[simp] theorem append_iff : Asks errand (es ++ es') ↔ Asks errand es ∨ Asks errand es' := by
  simp only [Asks, tokensOf_append, List.mem_append, or_and_right, exists_or]

theorem not_of_silent (silent : tokensOf es = []) : ¬ Asks errand es := by
  rintro ⟨token, issued, -⟩
  exact List.not_mem_nil (silent ▸ issued)

theorem request_iff {r : Request} {id : Nat} {other : Errand}
    (ht : r.token? = some ⟨id, .errand other⟩) : Asks errand [.request r] ↔ other = errand := by
  simp [Asks, tokensOf, Effect.token?, ht]

end Asks

namespace Session

variable {s s' : Session} {now : Nat} {a : Action} {r : Reply} {errand : Errand} {outcome : Outcome}
  {settings : PasswordSettings}

/-! ## What is heard -/

/-- The answer to a request of the session as a whole, if the request is waited for. -/
def heard? (s : Session) : Action → Option (Errand × Outcome)
  | .reply r =>
    match r.token.pending with
    | .errand errand =>
      if s.awaited.get errand = some r.token.id then some (errand, r.outcome) else none
    | .task _ _ => none
  | _ => none

/-- The next settings are to be shown even if they are the old ones: the user wants them read again, an
email that waited for confirmation was cleared, or a check of the password was overtaken. -/
def Action.insists (heard : Option (Errand × Outcome)) (a : Action) : Bool :=
  match heard with
  | some (.clearPassword, .ok _) => true
  | some (.availableElements, .failed error) => PasswordFailure.ofCode error.code = .stale
  | _ => a matches .reloadPassword

theorem heard?_of_awaits (ht : r.token.pending = .errand errand)
    (waiting : s.awaited.get errand = some r.token.id) :
    s.heard? (.reply r) = some (errand, r.outcome) := by
  simp only [heard?, ht, if_pos waiting]

theorem heard?_eq_some : s.heard? a = some (errand, outcome) ↔
    ∃ id, a = .reply ⟨⟨id, .errand errand⟩, outcome⟩ ∧ s.awaited.get errand = some id := by
  constructor
  · intro heard
    unfold heard? at heard
    split at heard
    · rename_i r
      obtain ⟨⟨id, pending⟩, outcome'⟩ := r
      dsimp only at heard
      split at heard
      · split at heard
        · rename_i waiting
          obtain ⟨rfl, rfl⟩ := Prod.mk.inj (Option.some.inj heard)
          exact ⟨id, rfl, waiting⟩
        · cases heard
      · cases heard
    · cases heard
  · rintro ⟨id, rfl, waiting⟩
    exact heard?_of_awaits rfl waiting

/-! ## The request -/

theorem Change.not_asks {e e' : Entry} {es : List Effect} (h : s.Change now a e es e') :
    ¬ Asks errand es := by
  rintro ⟨token, issued, pending⟩
  have progress := h.progress
  generalize tokensOf es = tokens at progress issued
  generalize cancelsOf es = cancels at progress
  cases progress with
  | written | checked | calling =>
      rw [List.mem_singleton.1 issued] at pending
      cases pending
  | _ => cases issued

theorem Uptake.not_asks {e e' : Entry} {es : List Effect} {task : Task}
    (h : s.Uptake now e task outcome es e') : ¬ Asks errand es := by
  cases h with
  | accepted =>
      rw [Asks.append_iff]
      rintro (asks | asks)
      · exact Asks.not_of_silent (tokensOf_cancels _) asks
      · simp [Asks, tokensOf, Effect.token?, Request.token?] at asks
  | acceptedLocked => exact Asks.not_of_silent (tokensOf_cancels _)
  | unverifiedPhone | unverifiedEmail =>
      simp [Asks, tokensOf, Effect.token?, Request.token?]
  | _ => exact Asks.not_of_silent rfl

/-- A request is under way if it was before or was sent just now, as long as it is not answered. -/
theorem Acts.asks_iff (h : Acts now a s s') (live : s'.cancelled = false) (stays : a ≠ .restart)
    (unheard : ∀ outcome, s.heard? a ≠ some (errand, outcome)) (silent : s.outbox = []) :
    s'.awaited.get errand ≠ none ↔ s.awaited.get errand ≠ none ∨ Asks errand s'.outbox := by
  have pushed {u u' : Session} {es : List Effect}
      (awaited : u'.awaited.get errand = u.awaited.get errand)
      (outbox : u'.outbox = u.outbox ++ es) (quiet : ¬ Asks errand es)
      (before : u.awaited.get errand ≠ none ↔
        s.awaited.get errand ≠ none ∨ Asks errand u.outbox) :
      u'.awaited.get errand ≠ none ↔ s.awaited.get errand ≠ none ∨ Asks errand u'.outbox := by
    rw [awaited, outbox, Asks.append_iff, or_iff_left quiet]
    exact before
  have start : s.awaited.get errand ≠ none ↔
      s.awaited.get errand ≠ none ∨ Asks errand s.outbox := by
    rw [silent, or_iff_left (Asks.not_of_silent rfl)]
  refine h.induction (P := fun u => u.cancelled = false →
    (u.awaited.get errand ≠ none ↔ s.awaited.get errand ≠ none ∨ Asks errand u.outbox))
    ?_ ?_ ?_ (fun _ => start) live
  · intro u u' move before live
    have before := before (move.cancelled_eq ▸ live)
    cases move with
    | rest es core outbox calm =>
        have awaited : u'.awaited = u.awaited := congrArg Core.awaited core
        exact pushed (by rw [awaited]) outbox (Asks.not_of_silent (tokensOf_of_calm calm)) before
    | ask other r _ _ ht _ _ _ core outbox =>
        have awaited : u'.awaited = u.awaited.set other (some u.nextId) := congrArg Core.awaited core
        by_cases same : errand = other
        · subst same
          rw [awaited, outbox, Asks.append_iff]
          simp [(Asks.request_iff ht).2 rfl]
        · exact pushed (by rw [awaited, Awaited.get_set_of_ne _ _ same]) outbox
            (fun asks => same ((Asks.request_iff ht).1 asks).symm) before
    | entry e g es _ change core outbox =>
        have awaited : u'.awaited = u.awaited := congrArg Core.awaited core
        exact pushed (by rw [awaited]) outbox change.not_asks before
    | abandon es restarts => exact absurd restarts stays
  · rintro r u rfl - - settle -
    have freed {other : Errand} {es : List Effect} (ht : r.token.pending = .errand other)
        (waiting : s.awaited.get other = some r.token.id)
        (awaited : u.awaited = s.awaited.set other none) (outbox : u.outbox = s.outbox ++ es)
        (calm : ∀ x ∈ es, x.isCalm = true) :
        u.awaited.get errand ≠ none ↔ s.awaited.get errand ≠ none ∨ Asks errand u.outbox := by
      have apart : errand ≠ other := fun same =>
        unheard r.outcome (same ▸ heard?_of_awaits ht waiting)
      exact pushed (by rw [awaited, Awaited.get_set_of_ne _ _ apart]) outbox
        (Asks.not_of_silent (tokensOf_of_calm calm)) start
    cases settle with
    | errand other es ht waiting core outbox calm =>
        exact freed ht waiting (congrArg Core.awaited core) outbox calm
    | form form es ht waiting _ core outbox calm =>
        exact freed ht waiting (congrArg Core.awaited core) outbox calm
    | unlock password elements errors es ht waiting _ core outbox calm =>
        exact freed ht waiting (congrArg Core.awaited core) outbox calm
    | task task e g es _ _ _ uptake core outbox =>
        have awaited : u.awaited = s.awaited := congrArg Core.awaited core
        exact pushed (by rw [awaited]) outbox uptake.not_asks start
  · intro u u' close _ live
    exact absurd (live.symm.trans (congrArg Core.cancelled close.core)) (by simp)

/-! ## What is known -/

/-- What is known of the settings, and whether the next ones are to be shown in any case. -/
def known (s : Session) : Option PasswordSettings × Bool := (s.passwordSettings, s.forceShow)

theorem known_of_apart (same : s'.apart = s.apart) : s'.known = s.known := by
  show s'.apart.known = s.apart.known
  rw [same]

theorem known_requestPasswordState : s.requestPasswordState.known = s.known := by
  unfold requestPasswordState
  split <;> rfl

theorem known_display : s.display.known = s.known := by
  unfold display
  split
  · rfl
  · refine known_requestPasswordState.trans ?_
    split <;> rfl

theorem known_showForm : (s.showForm now).known = s.known := by
  obtain ⟨_, _, _, _, _, _, same⟩ := s.showForm_eq now
  rw [same]
  rfl

theorem known_failForm (error : ServerError) : (s.failForm error).known = s.known := by
  rw [failForm_eq]
  rfl

theorem known_formDone : (s.formDone now outcome).known = s.known := by
  cases fault : outcome.formFault? with
  | some error =>
      rw [formDone_of_fault fault]
      exact known_failForm error
  | none =>
      obtain ⟨form, rfl⟩ := exists_of_no_formFault fault
      exact known_showForm.trans rfl

theorem known_passwordCheckFailed (error : ServerError) : (s.passwordCheckFailed error).known =
    (s.passwordSettings, s.forceShow || PasswordFailure.ofCode error.code = .stale) := by
  unfold passwordCheckFailed
  dsimp only
  split
  · rename_i wrong
    split <;> simp [wrong, known, notify]
  · rename_i stale
    rw [known_requestPasswordState]
    simp [stale, known]
  all_goals
    rename_i other
    simp [other, known, notify]

theorem known_submitPassword (password : String) : (s.submitPassword password).known = s.known := by
  unfold submitPassword
  repeat' split
  all_goals rfl

theorem known_submit : s.submit.1.known = s.known := by
  unfold submit
  dsimp only
  repeat' split
  all_goals rfl

theorem known_submitDone : (s.submitDone now outcome).known = s.known := by
  cases outcome with
  | ok => rfl
  | failed error =>
      unfold submitDone
      dsimp only
      split
      · rfl
      · exact known_of_apart apart_suggestRestart
      · rfl

theorem known_cancelSurely : s.cancelSurely.known = s.known := by
  unfold cancelSurely
  split
  · rfl
  · let closed := { s with cancelled := true }
    have same : (closed.sendAll closed.stops).known = closed.known := known_of_apart (apart_sendAll _)
    exact same

theorem known_cancel : s.cancel.known = s.known := by
  unfold cancel
  repeat' split
  · rfl
  · exact known_cancelSurely
  · rfl

theorem known_fire (timer : Timer) : (s.fire now timer).known = s.known := by
  cases timer with
  | closeAfterSubmit => exact known_cancelSurely
  | shortPoll => exact known_requestPasswordState
  | forgetPassword => rfl
  | callTick kind => exact known_of_apart (apart_of_elsewhere (elsewhere_callTick now kind))

theorem known_later : (s.later now).known = s.known := by
  have same : s.reportUnchanged.known = s.known := known_of_apart apart_reportUnchanged
  exact same

theorem known_tick : (s.tick now).known = s.known := by
  rw [tick_eq_fires]
  exact fires_induction now (P := fun _ u => u.known = s.known)
    (fun t _ _ _ same => (known_fire t.2).trans same) (fun _ _ _ _ same => same) known_later

theorem known_errandDone (other : errand ≠ .passwordState) :
    (s.errandDone now errand outcome).known =
      (s.passwordSettings, s.forceShow || Action.insists (some (errand, outcome)) (.reply r)) := by
  have kept {t : Session} (same : t.known = s.known) :
      t.known = (s.passwordSettings, s.forceShow || false) := by
    rw [Bool.or_false]
    exact same
  cases errand with
  | form => exact kept known_formDone
  | passwordState => exact absurd rfl other
  | submit => exact kept known_submitDone
  | recovery =>
      refine kept ?_
      show (s.recoveryDone outcome).known = s.known
      unfold recoveryDone
      split <;> rfl
  | clearPassword =>
      cases outcome with
      | ok response =>
          refine known_requestPasswordState.trans ?_
          simp [known, Action.insists]
      | failed error => exact kept rfl
  | availableElements =>
      show (s.availableElementsDone now outcome).known = _
      unfold availableElementsDone
      split
      · refine kept ?_
        split <;> rfl
      · rename_i response _
        have unlike : PasswordFailure.ofCode "UNEXPECTED_RESPONSE" ≠ .stale := by decide +kernel
        exact (known_passwordCheckFailed response.unexpected).trans (by
          rw [decide_eq_false (by exact unlike)]
          rfl)
      · exact known_passwordCheckFailed _

theorem known_handleReply (live : s.cancelled = false)
    (unheard : ∀ outcome, s.heard? (.reply r) ≠ some (.passwordState, outcome)) :
    (s.handleReply now r).known =
      (s.passwordSettings, s.forceShow || Action.insists (s.heard? (.reply r)) (.reply r)) := by
  have kept {t : Session} (same : t.known = s.known) (unheard : s.heard? (.reply r) = none) :
      t.known =
        (s.passwordSettings, s.forceShow || Action.insists (s.heard? (.reply r)) (.reply r)) := by
    rw [unheard]
    exact same.trans (by simp [known, Action.insists])
  unfold handleReply
  rw [if_neg (by simp [live])]
  cases ht : r.token.pending with
  | errand errand =>
      dsimp only
      split
      · rename_i waiting
        have heard := heard?_of_awaits ht waiting
        have other : errand ≠ .passwordState := fun same => unheard _ (same ▸ heard)
        rw [heard]
        exact known_errandDone other
      · rename_i idle
        exact kept rfl (by simp [heard?, ht, idle])
  | task task kind =>
      refine kept ?_ (by simp [heard?, ht])
      dsimp only
      split
      · rfl
      · split
        · exact known_of_apart (apart_of_elsewhere (elsewhere_taskDone task kind r.outcome))
        · rfl

/-- Nothing but an answer with settings, and starting over, changes what is known. -/
theorem known_act (live : s.cancelled = false) (stays : a ≠ .restart)
    (unheard : ∀ outcome, s.heard? a ≠ some (.passwordState, outcome)) :
    (s.act now a).1.known =
      (s.passwordSettings, s.forceShow || Action.insists (s.heard? a) a) := by
  have kept {b : Bool} {t : Session} (same : t.known = s.known) (calm : b = false) :
      t.known = (s.passwordSettings, s.forceShow || b) := by
    rw [calm, Bool.or_false]
    exact same
  cases a with
  | display => exact kept known_display rfl
  | submitPassword password => exact kept (known_submitPassword password) rfl
  | reloadPassword =>
      refine known_requestPasswordState.trans ?_
      simp [known, Action.insists, heard?]
  | clearUnconfirmedPassword =>
      refine kept ?_ rfl
      show s.clearUnconfirmedPassword.known = s.known
      unfold clearUnconfirmedPassword
      split <;> rfl
  | recoverPassword =>
      refine kept ?_ rfl
      show s.recoverPassword.known = s.known
      unfold recoverPassword
      split <;> rfl
  | startEdit | stopEdit | save | delete | upload | deleteScan | restoreScan | loadFile | verify
  | cancelVerification => exact kept (known_of_apart (apart_of_elsewhere (elsewhere_act rfl))) rfl
  | submit => exact kept known_submit rfl
  | cancel => exact kept known_cancel rfl
  | cancelSurely => exact kept known_cancelSurely rfl
  | suggestRestart => exact kept (known_of_apart apart_suggestRestart) rfl
  | dismissRestart => exact kept rfl rfl
  | restart => exact absurd rfl stays
  | reply r => exact known_handleReply live unheard
  | file event => exact kept (known_of_apart (apart_handleFileEvent event)) rfl
  | tick => exact kept known_tick rfl
  | remember password expires => exact kept rfl rfl
  | forget => exact kept rfl rfl

/-! ## The timer -/

/-- The settings are to be read again after a while. -/
def Polls (s : Session) : Prop := ∃ t ∈ s.timers, t.2 = .shortPoll

instance (s : Session) : Decidable s.Polls := inferInstanceAs (Decidable (∃ t ∈ s.timers, _))

theorem polls_iff : s.Polls ↔ s.timers.filter (fun t => t.2 = .shortPoll) ≠ [] := by
  simp [Polls, List.filter_eq_nil_iff]

theorem polls_of_filter (same : s'.timers.filter (fun t => t.2 = .shortPoll) =
    s.timers.filter fun t => t.2 = .shortPoll) : s'.Polls ↔ s.Polls := by
  rw [polls_iff, polls_iff, same]

theorem passwordState_of_alarm {due? : Option Nat}
    (alarm : s.alarm? now a = some (.shortPoll, due?)) :
    ∃ r, a = .reply r ∧ r.token.pending = .errand .passwordState := by
  cases a with
  | reply r =>
      refine ⟨r, rfl, ?_⟩
      cases ht : r.token.pending with
      | errand errand =>
          rw [alarm?_errand ht] at alarm
          unfold errandAlarm? at alarm
          split at alarm
          · rfl
          all_goals simp at alarm
      | task task kind =>
          rw [alarm?_task ht] at alarm
          unfold taskAlarm? at alarm
          split at alarm <;> simp at alarm
  | _ => cases alarm

theorem handleReply_of_unheard (ht : r.token.pending = .errand errand)
    (unheard : ∀ outcome, s.heard? (.reply r) ≠ some (errand, outcome)) : s.handleReply now r = s :=
  handleReply_of_not_awaits fun awaits => by
    unfold Core.Awaits at awaits
    rw [ht] at awaits
    exact unheard _ (heard?_of_awaits ht awaits)

/-- Nothing but an answer with settings, starting over and the time arms or disarms the timer. -/
theorem polls_act (live : s.cancelled = false) (live' : (s.act now a).1.cancelled = false)
    (stays : a ≠ .restart) (time : a ≠ .tick)
    (unheard : ∀ outcome, s.heard? a ≠ some (.passwordState, outcome)) :
    (s.act now a).1.Polls ↔ s.Polls := by
  by_cases alarm : ∃ due?, s.alarm? now a = some (.shortPoll, due?)
  · obtain ⟨due?, alarm⟩ := alarm
    obtain ⟨r, rfl, ht⟩ := passwordState_of_alarm alarm
    rw [show (s.act now (.reply r)).1 = s from handleReply_of_unheard ht unheard]
  · refine polls_of_filter ((act_drives live live').filter_timers stays time fun due? h => ?_)
    exact alarm ⟨due?, h⟩

theorem requestPasswordState_awaits : s.requestPasswordState.awaited.passwordState ≠ none := by
  unfold requestPasswordState
  split
  · rename_i waiting
    exact Option.isSome_iff_ne_none.1 waiting
  · exact Option.some_ne_none _

theorem polls_fire (live : s.cancelled = false) (timer : Timer) :
    (s.fire now timer).cancelled = true ∨ ((s.fire now timer).Polls ↔ s.Polls) ∧
      (s.awaited.passwordState ≠ none ∨ timer = .shortPoll →
        (s.fire now timer).awaited.passwordState ≠ none) := by
  cases timer with
  | closeAfterSubmit => exact .inl (congrArg Gear.cancelled (gear_cancelSurely live))
  | shortPoll =>
      have same : s.requestPasswordState.timers = s.timers :=
        congrArg Gear.timers (gear_of_background background_requestPasswordState)
      exact .inr ⟨polls_of_filter (by rw [← same]; rfl), fun _ => requestPasswordState_awaits⟩
  | forgetPassword => exact .inr ⟨Iff.rfl, fun waiting => waiting.resolve_right nofun⟩
  | callTick kind =>
      refine .inr ⟨polls_of_filter ?_, fun waiting => ?_⟩
      · rcases gear_fire now live (.callTick kind) with same | ⟨closes, -⟩ | ⟨kind', armed⟩
        · rw [show (s.fire now (.callTick kind)).timers = s.timers from congrArg Gear.timers same]
        · cases closes
        · rw [show (s.fire now (.callTick kind)).timers = _ from congrArg Gear.timers armed]
          exact Gear.filter_rearm fun _ => by simp
      · have same : (s.callTick now kind).apart.awaited = s.apart.awaited :=
          congrArg Session.awaited (apart_of_elsewhere (elsewhere_callTick now kind))
        show (s.callTick now kind).apart.awaited.passwordState ≠ none
        rw [same]
        exact waiting.resolve_right nofun

/-- When its time has come, the settings are asked for. -/
theorem polls_tick (live : (s.tick now).cancelled = false) : ((s.tick now).Polls → s.Polls) ∧
    (s.Polls → (s.tick now).Polls ∨ (s.tick now).awaited.passwordState ≠ none) := by
  have left : (s.later now).timers = s.timers.filter fun t => ¬ t.1 ≤ now :=
    congrArg Gear.timers (gear_later s now)
  let fired := s.timers.filter fun t => t.1 ≤ now
  have start : s.Polls → (s.later now).Polls ∨ (s.later now).awaited.passwordState ≠ none ∨
      ∃ t ∈ fired, t.2 = .shortPoll := by
    rintro ⟨t, ht, here⟩
    by_cases come : t.1 ≤ now
    · exact .inr (.inr ⟨t, List.mem_filter.2 ⟨ht, by simpa using come⟩, here⟩)
    · refine .inl ⟨t, ?_, here⟩
      rw [left]
      exact List.mem_filter.2 ⟨ht, by simpa using come⟩
  rw [tick_eq_fires] at live ⊢
  have finish := fires_induction now
    (P := fun rest u => u.cancelled = true ∨ (u.Polls ↔ (s.later now).Polls) ∧
      (s.Polls → (s.later now).Polls ∨ u.awaited.passwordState ≠ none ∨
        ∃ t ∈ rest, t.2 = .shortPoll))
    ?_ (fun _ _ _ closed _ => .inl closed) (.inr ⟨Iff.rfl, start⟩)
  · rcases finish with closed | ⟨same, awaits⟩
    · exact absurd (closed.symm.trans live) (by simp)
    · rw [same]
      constructor
      · rintro ⟨t, ht, here⟩
        rw [left] at ht
        exact ⟨t, List.mem_of_mem_filter ht, here⟩
      · intro polls
        refine (awaits polls).imp_right fun awaits => awaits.resolve_right ?_
        rintro ⟨t, ht, -⟩
        cases ht
  · rintro t rest u live (closed | ⟨same, awaits⟩)
    · exact absurd (closed.symm.trans live) (by simp)
    · rcases polls_fire live t.2 with closed | ⟨same', goes_on⟩
      · exact .inl closed
      · refine .inr ⟨same'.trans same, fun polls => ?_⟩
        rcases awaits polls with still | waiting | ⟨t', ht', here⟩
        · exact .inl still
        · exact .inr (.inl (goes_on (.inl waiting)))
        · rcases List.mem_cons.1 ht' with rfl | ht'
          · exact .inr (.inl (goes_on (.inr here)))
          · exact .inr (.inr ⟨t', ht', here⟩)

/-! ## What an action does about the settings -/

/-- What an action does about the settings of a session that stays open: they are forgotten and asked
for, an answer brings them, an answer does not, or anything else happens. -/
inductive Inquires (a : Action) (s s' : Session) : Prop
  | restarts : a = .restart → s'.known = (none, false) → ¬ s'.Polls →
      Asks .passwordState s'.outbox → Inquires a s s'
  | learns (settings : PasswordSettings) :
      s.heard? a = some (.passwordState, .ok (.passwordState settings)) →
      s'.known = (some settings, s.forceShow && s.passwordSettings ≠ some settings) →
      (s'.Polls ↔ settings.unconfirmedPattern.isSome = true) → Inquires a s s'
  | fails (outcome : Outcome) (error : ServerError) :
      s.heard? a = some (.passwordState, outcome) → outcome.settingsFault? = some error →
      s'.known = s.known → (s'.Polls ↔ s.Polls) → s'.awaited.passwordState = none →
      ¬ Asks .passwordState s'.outbox → Inquires a s s'
  | goes_on : a ≠ .restart → (∀ outcome, s.heard? a ≠ some (.passwordState, outcome)) →
      s'.known = (s.passwordSettings, s.forceShow || Action.insists (s.heard? a) a) →
      (s'.Polls → s.Polls) → (s.Polls → s'.Polls ∨ s'.awaited.passwordState ≠ none) →
      (s'.awaited.passwordState ≠ none ↔
        s.awaited.passwordState ≠ none ∨ Asks .passwordState s'.outbox) → Inquires a s s'

theorem requestPasswordState_asks (idle : s.awaited.passwordState = none) :
    Asks .passwordState s.requestPasswordState.outbox := by
  unfold requestPasswordState
  rw [if_neg (by simp [idle])]
  exact Asks.append_iff.2 (.inr ((Asks.request_iff rfl).2 rfl))

theorem display_asks (live : s.cancelled = false) (idle : s.awaited.passwordState = none) :
    Asks .passwordState s.display.outbox := by
  unfold display
  rw [if_neg (by simp [live])]
  refine requestPasswordState_asks ?_
  split
  · exact idle
  · exact idle

theorem restart_inquires (live : s.cancelled = false) : Inquires .restart s s.restart := by
  have timers : s.restart.timers = [] := congrArg Gear.timers (gear_restart live)
  have aborted : s.abort.cancelled = false := (congrArg Gear.cancelled gear_abort).trans live
  refine .restarts rfl ?_ (by simp [Polls, timers]) ?_
  · unfold restart
    rw [if_neg (by simp [live])]
    exact known_display
  · unfold restart
    rw [if_neg (by simp [live])]
    exact display_asks aborted rfl

theorem known_passwordStateDone : (s.passwordStateDone now (.ok (.passwordState settings))).known =
    (some settings, s.forceShow && s.passwordSettings ≠ some settings) := by
  rw [passwordStateDone_ok]
  split
  · exact known_showForm
  · rfl

theorem polls_passwordStateDone :
    (s.passwordStateDone now (.ok (.passwordState settings))).Polls ↔
      settings.unconfirmedPattern.isSome = true := by
  have timers : (s.passwordStateDone now (.ok (.passwordState settings))).timers =
      (s.learn now settings).timers := by
    rw [passwordStateDone_ok]
    split
    · exact congrArg Gear.timers (gear_showForm now)
    · rfl
  unfold Polls
  rw [timers, learn]
  cases settings.unconfirmedPattern with
  | none => simp
  | some pattern => simp

theorem passwordStateDone_inquires {id : Nat} (live : s.cancelled = false)
    (waiting : s.awaited.get .passwordState = some id) (silent : s.outbox = []) :
    Inquires (.reply ⟨⟨id, .errand .passwordState⟩, outcome⟩) s
      (s.handleReply now ⟨⟨id, .errand .passwordState⟩, outcome⟩) := by
  have heard : s.heard? (.reply ⟨⟨id, .errand .passwordState⟩, outcome⟩) =
      some (.passwordState, outcome) := heard?_eq_some.2 ⟨id, rfl, waiting⟩
  rw [handleReply_of_errand live waiting]
  cases fault : outcome.settingsFault? with
  | none =>
      obtain ⟨settings, rfl⟩ := exists_of_no_settingsFault fault
      exact .learns settings heard known_passwordStateDone polls_passwordStateDone
  | some error =>
      let answered := { s with awaited := s.awaited.set .passwordState none }
      show Inquires _ s (answered.passwordStateDone now outcome)
      rw [passwordStateDone_of_fault fault]
      rcases answered.failPasswordState_cases error with same | same
      · rw [same]
        exact .fails outcome error heard fault rfl Iff.rfl rfl (Asks.not_of_silent (by
          rw [show answered.outbox = [] from silent, tokensOf_nil]))
      · rw [same]
        exact .fails outcome error heard fault rfl Iff.rfl rfl (Asks.not_of_silent (by
          simp [notify, answered, silent, tokensOf, Effect.token?]))

theorem act_inquires (sound : s.core.Sound) (silent : s.outbox = []) (live : s.cancelled = false)
    (live' : (s.act now a).1.cancelled = false) : Inquires a s (s.act now a).1 := by
  by_cases restarts : a = .restart
  · subst restarts
    exact restart_inquires live
  by_cases heard : ∃ outcome, s.heard? a = some (.passwordState, outcome)
  · obtain ⟨outcome, heard⟩ := heard
    obtain ⟨id, rfl, waiting⟩ := heard?_eq_some.1 heard
    exact passwordStateDone_inquires live waiting silent
  have unheard : ∀ outcome, s.heard? a ≠ some (.passwordState, outcome) := not_exists.1 heard
  have polls : ((s.act now a).1.Polls → s.Polls) ∧
      (s.Polls → (s.act now a).1.Polls ∨ (s.act now a).1.awaited.passwordState ≠ none) := by
    by_cases time : a = .tick
    · subst time
      exact polls_tick live'
    · have same := polls_act live live' restarts time unheard
      exact ⟨same.1, fun polls => .inl (same.2 polls)⟩
  exact .goes_on restarts unheard (known_act live restarts unheard) polls.1 polls.2
    ((act_acts sound).asks_iff live' restarts unheard silent)

theorem Inquires.learned (h : Inquires a s s')
    (heard : s.heard? a = some (.passwordState, .ok (.passwordState settings))) :
    s'.known = (some settings, s.forceShow && s.passwordSettings ≠ some settings) ∧
      (s'.Polls ↔ settings.unconfirmedPattern.isSome = true) := by
  cases h with
  | restarts ha => subst ha; cases heard
  | learns settings' heard' known polls =>
      cases heard.symm.trans heard'
      exact ⟨known, polls⟩
  | fails outcome error heard' fault =>
      cases heard.symm.trans heard'
      cases fault
  | goes_on _ unheard => exact absurd heard (unheard _)

end Session

/-! ## In a run -/

def Turn.heard? (past : History) (t : Turn) : Option (Errand × Outcome) :=
  match t.action with
  | .reply r =>
    match r.token.pending with
    | .errand errand => if past.Outstanding r.token then some (errand, r.outcome) else none
    | .task _ _ => none
  | _ => none

namespace Run

variable {setup : Setup} {past : History} {s : Session} {now : Nat} {a : Session.Action}

theorem awaits_iff_outstanding (run : Run setup past s) (live : s.cancelled = false) {token : Token}
    (issued : token ∈ past.tokens) : s.core.Awaits token ↔ past.Outstanding token :=
  ⟨run.outstanding_of_awaits live issued, run.awaits_of_outstanding live⟩

theorem awaited_iff_outstanding (run : Run setup past s) (live : s.cancelled = false)
    (errand : Errand) :
    s.awaited.get errand ≠ none ↔ ∃ id, past.Outstanding ⟨id, .errand errand⟩ := by
  constructor
  · intro waiting
    obtain ⟨id, waiting⟩ := Option.ne_none_iff_exists'.1 waiting
    exact ⟨id, run.outstanding_of_awaits live ((run.books live).errands errand id waiting) waiting⟩
  · rintro ⟨id, outstanding⟩
    have waiting : s.awaited.get errand = some id := run.awaits_of_outstanding live outstanding
    rw [waiting]
    exact Option.some_ne_none _

theorem heard?_eq (run : Run setup past s) (live : s.cancelled = false) (genuine : past.Genuine a) :
    Turn.heard? past ⟨s, now, a⟩ = s.heard? a := by
  cases a with
  | reply r =>
      unfold Turn.heard? Session.heard?
      cases ht : r.token.pending with
      | errand errand =>
          have awaits := run.awaits_iff_outstanding live (genuine r.token rfl)
          unfold Core.Awaits at awaits
          simp only [ht] at awaits ⊢
          exact if_congr awaits.symm rfl rfl
      | task task kind => simp only [ht]
  | _ => rfl

theorem inquires (run : Run setup past s) (now : Nat) (genuine : past.Genuine a)
    (live : (s.act now a).1.cancelled = false) : s.cancelled = false ∧
      Turn.heard? past ⟨s, now, a⟩ = s.heard? a ∧ Session.Inquires a s (s.act now a).1 := by
  have before := (run.acts now a).live live
  exact ⟨before, run.heard?_eq before genuine,
    Session.act_inquires run.gated.toSound run.outbox_eq_nil before live⟩

end Run

end IdentityForm
