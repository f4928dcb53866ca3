import IdentityForm.Proofs.Background
import IdentityForm.Proofs.Move.Step

/-! # What an action does behind the entries

An action arms or disarms at most one timer, begins some downloads or takes one off, or stops all of
them. Only a tick does more: it fires every timer that is due.
-/

namespace IdentityForm

def Gear.rearm (g : Gear) : Option (Timer × Option Nat) → Gear
  | none => g
  | some (timer, due?) =>
    { g with timers := g.timers.filter (fun t => t.2 ≠ timer) ++ (due?.map (·, timer)).toList }

theorem Gear.filter_rearm {g : Gear} {timer : Timer} {alarm? : Option (Timer × Option Nat)}
    (other : ∀ due?, alarm? ≠ some (timer, due?)) :
    (g.rearm alarm?).timers.filter (fun t => t.2 = timer) =
      g.timers.filter fun t => t.2 = timer := by
  cases alarm? with
  | none => rfl
  | some rearmed =>
      obtain ⟨rearmed, due?⟩ := rearmed
      have apart : rearmed ≠ timer := fun here => other due? (here ▸ rfl)
      have rest : (g.timers.filter fun t => t.2 ≠ rearmed).filter (fun t => t.2 = timer) =
          g.timers.filter fun t => t.2 = timer := by
        rw [List.filter_filter]
        refine List.filter_congr fun t _ => ?_
        by_cases here : t.2 = timer
        · simp [here, Ne.symm apart]
        · simp [here]
      cases due? with
      | none => simpa [rearm] using rest
      | some due => simpa [rearm, apart] using rest

theorem Background.Loads.timers_eq {b b' : Background} (h : b.Loads b') : b'.timers = b.timers := by
  induction h with
  | refl => rfl
  | tail _ load ih =>
      obtain ⟨id, size, -, rfl⟩ := load
      exact ih

namespace Session

/-- What the answer to a request of the session as a whole does to the timers. -/
def errandAlarm? (s : Session) (now : Nat) : Errand → Outcome → Option (Timer × Option Nat)
  | .passwordState, .ok (.passwordState settings) =>
    some (.shortPoll,
      if settings.unconfirmedPattern.isSome then some (now + s.setup.settings.shortPoll) else none)
  | .availableElements, .ok (.availableElements _ _) =>
    s.checking.map fun _ => (.forgetPassword, some (now + s.setup.settings.rememberFor))
  | .submit, .ok _ => some (.closeAfterSubmit, some (now + s.setup.settings.closeDelay))
  | _, _ => none

def taskAlarm? (s : Session) (now : Nat) (kind : Kind) :
    Task → Outcome → Option (Timer × Option Nat)
  | .sendCode, outcome =>
    (outcome.countdown? kind).map fun _ =>
      (.callTick kind, some (now + s.setup.settings.callTick))
  | .checkCode, .ok _ => some (.callTick kind, none)
  | _, _ => none

/-- What an action does to the timers, a tick and the end of a session apart. -/
def alarm? (s : Session) (now : Nat) : Action → Option (Timer × Option Nat)
  | .reply r =>
    match r.token.pending with
    | .errand errand => s.errandAlarm? now errand r.outcome
    | .task task kind => s.taskAlarm? now kind task r.outcome
  | .cancelVerification kind => some (.callTick kind, none)
  | _ => none

variable {s s' : Session} {now : Nat} {a : Action} {r : Reply}

theorem alarm?_errand {errand : Errand} (ht : r.token.pending = .errand errand) :
    s.alarm? now (.reply r) = s.errandAlarm? now errand r.outcome := by
  simp only [alarm?, ht]

theorem alarm?_task {task : Task} {kind : Kind} (ht : r.token.pending = .task task kind) :
    s.alarm? now (.reply r) = s.taskAlarm? now kind task r.outcome := by
  simp only [alarm?, ht]

theorem taskAlarm?_sendCode (kind : Kind) (outcome : Outcome) :
    s.taskAlarm? now kind .sendCode outcome = (outcome.countdown? kind).map fun _ =>
      (.callTick kind, some (now + s.setup.settings.callTick)) := by
  cases outcome <;> rfl

theorem gear_disarm (timer : Timer) :
    (s.disarm timer).gear = s.gear.rearm (some (timer, none)) := by
  simp [Gear.rearm, gear, disarm]

/-! ## Replies -/

theorem gear_formDone (outcome : Outcome) : (s.formDone now outcome).gear = s.gear := by
  unfold formDone
  split
  · exact (gear_showForm now).trans rfl
  · exact gear_of_background (background_failForm _)
  · exact gear_of_background (background_failForm _)

theorem gear_learn (settings : PasswordSettings) : (s.learn now settings).gear =
    s.gear.rearm (s.errandAlarm? now .passwordState (.ok (.passwordState settings))) := by
  cases pattern : settings.unconfirmedPattern <;>
    simp [learn, errandAlarm?, Gear.rearm, gear, pattern]

theorem errandAlarm?_of_fault {outcome : Outcome} {error : ServerError}
    (fault : outcome.settingsFault? = some error) :
    s.errandAlarm? now .passwordState outcome = none := by
  cases outcome with
  | failed => rfl
  | ok response => cases response <;> first | rfl | cases fault

theorem gear_passwordStateDone (outcome : Outcome) : (s.passwordStateDone now outcome).gear =
    s.gear.rearm (s.errandAlarm? now .passwordState outcome) := by
  rcases s.passwordStateDone_cases now outcome with
    ⟨settings, rfl, same | same⟩ | ⟨error, fault, failed⟩
  · rw [same]
    exact gear_learn settings
  · rw [same]
    exact (gear_showForm now).trans (gear_learn settings)
  · rw [failed, errandAlarm?_of_fault fault]
    exact gear_of_background (background_failPasswordState error)

theorem gear_availableElementsDone (outcome : Outcome) :
    (s.availableElementsDone now outcome).gear =
      s.gear.rearm (s.errandAlarm? now .availableElements outcome) := by
  unfold availableElementsDone
  split
  · rename_i elements errors
    cases checking : s.checking with
    | none => simp [errandAlarm?, checking, Gear.rearm]
    | some password =>
        simp only [errandAlarm?, checking]
        exact gear_unlock password elements errors
  · rename_i other unlike
    have silent : s.errandAlarm? now .availableElements (.ok other) = none := by
      cases other <;> first | rfl | exact absurd rfl (unlike _ _)
    rw [silent]
    exact gear_of_background (background_passwordCheckFailed _)
  · exact gear_of_background (background_passwordCheckFailed _)

theorem gear_errandDone (errand : Errand) (outcome : Outcome) :
    (s.errandDone now errand outcome).gear = s.gear.rearm (s.errandAlarm? now errand outcome) := by
  cases errand with
  | form => exact gear_formDone outcome
  | passwordState => exact gear_passwordStateDone outcome
  | availableElements => exact gear_availableElementsDone outcome
  | submit =>
      cases outcome with
      | ok response => exact gear_submitDone_ok response
      | failed error => exact gear_of_background (background_submitDone_failed now error)
  | clearPassword => exact gear_of_background (background_clearPasswordDone _)
  | recovery => exact gear_of_background (background_recoveryDone _)

theorem gear_taskDone {kind : Kind} {e : Entry} (he : s.entry? kind = some e) (task : Task)
    (outcome : Outcome) : (s.taskDone now task kind outcome).gear =
      s.gear.rearm (s.taskAlarm? now kind task outcome) := by
  cases task with
  | save => exact gear_of_background (background_saveDone kind outcome)
  | delete => exact gear_of_background (background_deleteDone kind outcome)
  | sendCode =>
      rw [taskAlarm?_sendCode]
      cases announced : outcome.countdown? kind with
      | none => exact gear_of_background (background_sendCodeDone_of_none announced)
      | some t => exact gear_of_background (background_sendCodeDone_of_some announced)
  | checkCode =>
      cases outcome with
      | failed error => exact gear_of_background (background_checkCodeDone_failed kind error)
      | ok response =>
          have disarmed := gear_of_background (background_checkCodeDone_ok he response)
          exact disarmed.trans (gear_disarm _)
  | resendCall => exact gear_of_background (background_resendCallDone kind outcome)

/-- A reply that nothing waits for changes nothing; any other one does to the timers what it is about. -/
theorem gear_handleReply (now : Nat) (r : Reply) :
    s.handleReply now r = s ∨
    (s.handleReply now r).gear = s.gear.rearm (s.alarm? now (.reply r)) := by
  rcases s.handleReply_cases now r with
    same | ⟨-, ⟨errand, ht, -, taken⟩ | ⟨task, kind, e, ht, he, -, taken⟩⟩
  · exact .inl same
  · rw [taken, alarm?_errand ht]
    exact .inr ((gear_errandDone errand r.outcome).trans rfl)
  · rw [taken, alarm?_task ht]
    exact .inr (gear_taskDone he task r.outcome)

/-! ## Closing and starting over -/

theorem traffic_cancellations {e : Entry} {r : Request} (hr : r ∈ e.cancellations) :
    Effect.isTraffic (.request r) = false := by
  simp only [Entry.cancellations, List.mem_append, List.mem_map, List.mem_filterMap] at hr
  rcases hr with hr | ⟨id, -, rfl⟩ | ⟨id, -, rfl⟩ | ⟨d, -, hr⟩
  · split at hr
    · rw [List.mem_singleton.1 hr]
      rfl
    · cases hr
  · rfl
  · rfl
  · split at hr
    · obtain ⟨u, -, rfl⟩ := Option.map_eq_some_iff.1 hr
      rfl
    · cases hr

/-- Of what is sent on stopping, the downloads that are stopped are the traffic. -/
theorem traffic_stops : (s.stops.map Effect.request).filter Effect.isTraffic =
    s.downloads.map fun id => .request (.cancelDownload id) := by
  have quiet {rs : List Request} (h : ∀ r ∈ rs, Effect.isTraffic (.request r) = false) :
      (rs.map Effect.request).filter Effect.isTraffic = [] := by
    simpa [List.filter_eq_nil_iff] using h
  have requests : ((s.awaited.ids.map Request.cancel).map Effect.request).filter
      Effect.isTraffic = [] := quiet fun r hr => by
    obtain ⟨id, -, rfl⟩ := List.mem_map.1 hr
    rfl
  have entries : ((s.form.entries.flatMap Entry.cancellations).map Effect.request).filter
      Effect.isTraffic = [] := quiet fun r hr => by
    obtain ⟨e, -, hr⟩ := List.mem_flatMap.1 hr
    exact traffic_cancellations hr
  have downloads : ((s.downloads.map Request.cancelDownload).map Effect.request).filter
      Effect.isTraffic = s.downloads.map fun id => .request (.cancelDownload id) := by
    rw [List.map_map]
    refine List.filter_eq_self.2 fun x hx => ?_
    obtain ⟨id, -, rfl⟩ := List.mem_map.1 hx
    rfl
  simp only [stops, List.map_append, List.filter_append, requests, entries, downloads,
    List.nil_append]

theorem gear_sendAll (rs : List Request) : (s.sendAll rs).gear = { s.gear with
    traffic := s.gear.traffic ++ (rs.map Effect.request).filter Effect.isTraffic } := by
  unfold sendAll
  induction rs generalizing s with
  | nil => simp [gear]
  | cons r rest ih =>
      rw [List.foldl_cons, ih]
      simp [gear, send, ← List.filter_append]

theorem gear_abort : s.abort.gear = s.gear.stop := by
  have sent := gear_sendAll (s := s) s.stops
  rw [traffic_stops] at sent
  exact congrArg (fun g : Gear => { g with timers := [], downloads := [] }) sent

theorem gear_restart (live : s.cancelled = false) : s.restart.gear = s.gear.stop := by
  unfold restart
  rw [if_neg (by simp [live])]
  exact (gear_of_background background_display).trans gear_abort

theorem gear_cancelSurely (live : s.cancelled = false) :
    s.cancelSurely.gear = { s.gear.stop with cancelled := true } := by
  unfold cancelSurely
  rw [if_neg (by simp [live])]
  exact (gear_notify _).trans gear_abort

/-! ## Time -/

/-- Firing a timer ends the session or arms the next tick of a countdown at most. -/
theorem gear_fire (now : Nat) (live : s.cancelled = false) (timer : Timer) :
    (s.fire now timer).gear = s.gear ∨
      timer = .closeAfterSubmit ∧ (s.fire now timer).gear = { s.gear.stop with cancelled := true } ∨
      ∃ kind, (s.fire now timer).gear =
        s.gear.rearm (some (.callTick kind, some (now + s.setup.settings.callTick))) := by
  cases timer with
  | closeAfterSubmit => exact .inr (.inl ⟨rfl, gear_cancelSurely live⟩)
  | shortPoll => exact .inl (gear_of_background background_requestPasswordState)
  | forgetPassword => exact .inl rfl
  | callTick kind =>
      by_cases early : ∃ e due, s.entry? kind = some e ∧ e.verification.call = some (.waiting due) ∧
          now < due
      · obtain ⟨e, due, he, waiting, early⟩ := early
        exact .inr (.inr ⟨kind, gear_of_background (background_callTick_of_early he waiting early)⟩)
      · refine .inl (gear_of_background (background_callTick_of_late fun e due he waiting => ?_))
        exact Nat.not_lt.1 fun before => early ⟨e, due, he, waiting, before⟩

/-- The session with what was put off done, and without the timers that are due. -/
def later (s : Session) (now : Nat) : Session :=
  { s.reportUnchanged with timers := s.timers.filter fun t => ¬ t.1 ≤ now }

theorem gear_later (s : Session) (now : Nat) : (s.later now).gear =
    { s.gear with timers := s.timers.filter fun t => ¬ t.1 ≤ now } :=
  congrArg (fun g : Gear => { g with timers := s.timers.filter fun t => ¬ t.1 ≤ now })
    (gear_of_background background_reportUnchanged)

theorem tick_eq_fires (s : Session) (now : Nat) :
    s.tick now = (s.later now).fires now (s.timers.filter fun t => t.1 ≤ now) := by
  have same : s.reportUnchanged.timers = s.timers :=
    congrArg Gear.timers (gear_of_background background_reportUnchanged)
  unfold tick fires later
  dsimp only
  rw [same]

/-- A tick changes nothing but timers, or it closes the session. -/
theorem gear_tick (s : Session) (now : Nat) : (s.tick now).cancelled = true ∨
    ∃ timers, (s.tick now).gear = { s.gear with timers } := by
  rw [tick_eq_fires]
  refine fires_induction now
    (P := fun _ u => u.cancelled = true ∨ ∃ timers, u.gear = { s.gear with timers }) ?_ ?_
    (.inr ⟨_, gear_later s now⟩)
  · rintro t rest u live (closed | ⟨timers, gear⟩)
    · exact absurd (closed.symm.trans live) (by simp)
    · rcases gear_fire now live t.2 with same | ⟨-, closed⟩ | ⟨kind, armed⟩
      · exact .inr ⟨timers, same.trans gear⟩
      · exact .inl (congrArg Gear.cancelled closed)
      · exact .inr ⟨_, armed.trans (by rw [gear]; rfl)⟩
  · exact fun t rest u _ kept => kept

/-! ## Actions -/

/-- What an action does behind the entries of a session that stays open. -/
inductive Drives (now : Nat) (a : Action) (s s' : Session) : Prop
  | rearms : s'.gear = s.gear.rearm (s.alarm? now a) → Drives now a s s'
  | dropped : s' = s → Drives now a s s'
  | loads (kind : Kind) : (a = .startEdit kind ∨ ∃ slot, a = .loadFile kind slot) →
      s.background.Loads s'.background → Drives now a s s'
  | lands (event : FileEvent) (id : UInt64) : a = .file event → event.landed? = some id →
      s'.gear = (s.endDownload id).gear → Drives now a s s'
  | restarts : a = .restart → s'.gear = s.gear.stop → Drives now a s s'
  | ticks (timers : List (Nat × Timer)) : a = .tick → s'.gear = { s.gear with timers } →
      Drives now a s s'

theorem Drives.of_background (same : s'.background = s.background) (silent : s.alarm? now a = none) :
    Drives now a s s' := .rearms (by rw [silent]; exact gear_of_background same)

theorem act_drives (live : s.cancelled = false) (live' : (s.act now a).1.cancelled = false) :
    Drives now a s (s.act now a).1 := by
  cases a with
  | display => exact .of_background background_display rfl
  | submitPassword password => exact .rearms (gear_submitPassword password)
  | reloadPassword => exact .of_background background_requestPasswordState rfl
  | clearUnconfirmedPassword => exact .of_background background_clearUnconfirmedPassword rfl
  | recoverPassword => exact .of_background background_recoverPassword rfl
  | startEdit kind => exact .loads kind (.inl rfl) (background_startEdit kind)
  | stopEdit kind => exact .of_background (background_stopEdit kind) rfl
  | save kind changes => exact .of_background (background_save kind changes) rfl
  | delete kind => exact .of_background (background_delete kind) rfl
  | upload kind role key date bytes =>
      exact .of_background (background_upload kind role key date bytes) rfl
  | deleteScan kind slot => exact .of_background (background_setDeleted kind slot true) rfl
  | restoreScan kind slot => exact .of_background (background_setDeleted kind slot false) rfl
  | loadFile kind slot => exact .loads kind (.inr ⟨slot, rfl⟩) (background_loadFile kind slot)
  | verify kind code => exact .of_background (background_verify kind code) rfl
  | cancelVerification kind =>
      cases he : s.entry? kind with
      | none =>
          refine .dropped ?_
          show (s.cancelVerification kind).1 = s
          unfold cancelVerification
          rw [he]
      | some e =>
          have disarmed := gear_of_background (background_cancelVerification he)
          exact .rearms (disarmed.trans (gear_disarm _))
  | submit => exact .rearms gear_submit
  | cancel =>
      refine .rearms ?_
      change s.cancel.cancelled = false at live'
      show s.cancel.gear = s.gear
      unfold cancel at live' ⊢
      rw [if_neg (by simp [live])] at live' ⊢
      split
      · rename_i closes
        rw [if_pos closes] at live'
        exact absurd (congrArg Gear.cancelled (gear_cancelSurely live)) (by simp [gear, live'])
      · exact gear_notify _
  | cancelSurely =>
      change s.cancelSurely.cancelled = false at live'
      exact absurd (congrArg Gear.cancelled (gear_cancelSurely live)) (by simp [gear, live'])
  | suggestRestart => exact .of_background background_suggestRestart rfl
  | dismissRestart => exact .rearms rfl
  | restart => exact .restarts rfl (gear_restart live)
  | reply r =>
      rcases gear_handleReply now r with same | rearmed
      · exact .dropped same
      · exact .rearms rearmed
  | file event =>
      have ended := background_handleFileEvent live event
      cases landed : event.landed? with
      | none =>
          rw [landed] at ended
          exact .of_background ended rfl
      | some id =>
          rw [landed] at ended
          exact .lands event id rfl landed (gear_of_background ended)
  | tick =>
      rcases gear_tick s now with closed | ⟨timers, gear⟩
      · exact absurd (closed.symm.trans live') (by simp)
      · exact .ticks timers rfl gear
  | remember password expires => exact .rearms rfl
  | forget => exact .rearms rfl

/-- A timer that an action is not about goes on. -/
theorem Drives.filter_timers (h : Drives now a s s') (stays : a ≠ .restart) (time : a ≠ .tick)
    {timer : Timer} (other : ∀ due?, s.alarm? now a ≠ some (timer, due?)) :
    s'.timers.filter (fun t => t.2 = timer) = s.timers.filter fun t => t.2 = timer := by
  cases h with
  | rearms gear =>
      exact (congrArg (fun g : Gear => g.timers.filter fun t => t.2 = timer) gear).trans
        (Gear.filter_rearm other)
  | dropped same => rw [same]
  | loads _ _ loads =>
      have same : s'.timers = s.timers := loads.timers_eq
      rw [same]
  | lands _ _ _ _ gear =>
      have same : s'.timers = s.timers := congrArg Gear.timers gear
      rw [same]
  | restarts ha => exact absurd ha stays
  | ticks _ ha => exact absurd ha time

end Session

end IdentityForm
