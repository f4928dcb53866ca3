import IdentityForm.Proofs.Clock

/-! # Deadlines that stand

The times of the timers stand in a session, the times of the calls that are counted down to, and the
expiry of the remembered password. What stands after an action stood before, or is among the deadlines
that the action sets; and all that it sets stands afterwards, unless a timer closes the session.
-/

namespace IdentityForm

theorem Gear.mem_rearm_self (g : Gear) (timer : Timer) (due : Nat) :
    (due, timer) ∈ (g.rearm (some (timer, some due))).timers :=
  List.mem_append_right _ (List.mem_singleton_self _)

theorem Gear.mem_rearm_of_ne {g : Gear} {t : Nat × Timer} {timer : Timer} {due? : Option Nat}
    (h : t ∈ g.timers) (other : t.2 ≠ timer) : t ∈ (g.rearm (some (timer, due?))).timers :=
  List.mem_append_left _ (List.mem_filter.2 ⟨h, by simpa using other⟩)

theorem Gear.mem_rearm {g : Gear} {t : Nat × Timer} {alarm? : Option (Timer × Option Nat)}
    (h : t ∈ (g.rearm alarm?).timers) :
    t ∈ g.timers ∨ alarm? = some (t.2, some t.1) := by
  cases alarm? with
  | none => exact .inl h
  | some alarm =>
      obtain ⟨timer, due?⟩ := alarm
      rcases List.mem_append.1 h with h | h
      · exact .inl (List.mem_filter.1 h).1
      · cases due? with
        | none => cases h
        | some due =>
            obtain rfl := List.mem_singleton.1 h
            exact .inr rfl

namespace Credentials

variable {c : Credentials} {now : Nat} {calls : List Call} {r : Remembered}

theorem slot_performAll (h : (c.performAll now calls).slot = some r) :
    c.slot = some r ∨ .remember r.password r.expires ∈ calls := by
  induction calls generalizing c with
  | nil => exact .inl h
  | cons call calls ih =>
      rcases ih h with held | written
      · cases call with
        | remember password expires =>
            obtain rfl := Option.some.inj held
            exact .inr List.mem_cons_self
        | forget => cases held
        | expires => exact .inl held
        | get => exact .inl ((slot_perform_of_looks rfl).1 held).1
        | forgetIfExpired => exact .inl ((slot_perform_of_looks rfl).1 held).1
      · exact .inr (List.mem_cons_of_mem _ written)

end Credentials

namespace Session

variable {s s' : Session} {now d : Nat} {a : Action} {r : Reply} {t : Nat × Timer}

/-- A deadline stands in a session: for a timer, for a call, or for the password that is remembered. -/
def Stands (s : Session) (d : Nat) : Prop :=
  (∃ timer, (d, timer) ∈ s.timers) ∨ (∃ kind, s.due? kind = some d) ∨
    s.credentials.expires? = some d

/-! ## Timers -/

theorem armed_of_rearm {timer : Timer} (gear : s'.gear = s.gear.rearm (some (timer, some d))) :
    (d, timer) ∈ s'.timers := by
  have timers : s'.timers = (s.gear.rearm (some (timer, some d))).timers := congrArg Gear.timers gear
  rw [timers]
  exact s.gear.mem_rearm_self timer d

theorem stands_of_rearm (timer : Timer) (gear : s'.gear = s.gear.rearm (some (timer, some d))) :
    s'.Stands d := .inl ⟨timer, armed_of_rearm gear⟩

theorem mem_timers_of_rearm {alarm? : Option (Timer × Option Nat)}
    (gear : s'.gear = s.gear.rearm alarm?) (h : t ∈ s'.timers) :
    t ∈ s.timers ∨ alarm? = some (t.2, some t.1) := by
  have h : t ∈ s'.gear.timers := h
  rw [gear] at h
  exact Gear.mem_rearm h

theorem mem_errandDeadlines {errand : Errand} {outcome : Outcome} :
    d ∈ s.errandDeadlines now errand outcome ↔
      ∃ timer, s.errandAlarm? now errand outcome = some (timer, some d) := by
  unfold errandDeadlines errandAlarm?
  split
  · split <;> simp [eq_comm, *]
  · cases s.checking <;> simp [eq_comm]
  · simp [eq_comm]
  · simp

theorem mem_codeDeadlines_of_alarm {task : Task} {kind : Kind} {outcome : Outcome} {timer : Timer}
    (h : s.taskAlarm? now kind task outcome = some (timer, some d)) :
    task = .sendCode ∧ d ∈ s.codeDeadlines now kind outcome := by
  cases task with
  | sendCode =>
      rw [taskAlarm?_sendCode] at h
      obtain ⟨seconds, announced, alarm⟩ := Option.map_eq_some_iff.1 h
      obtain ⟨-, time⟩ := Prod.mk.inj alarm
      exact ⟨rfl, mem_codeDeadlines.2 ⟨seconds, announced, .inr (Option.some.inj time).symm⟩⟩
  | checkCode => cases outcome <;> simp [taskAlarm?] at h
  | _ => simp [taskAlarm?] at h

/-- A timer that stands after a reply stood there before, or the reply has set its time. -/
theorem mem_timers_handleReply (h : t ∈ (s.handleReply now r).timers) :
    t ∈ s.timers ∨ t.1 ∈ s.replyDeadlines now r := by
  rcases s.handleReply_cases now r with
    same | ⟨live, ⟨errand, ht, waiting, taken⟩ | ⟨task, kind, e, ht, he, waiting, taken⟩⟩
  · rw [same] at h
    exact .inl h
  · have gear : (s.handleReply now r).gear =
        s.gear.rearm (s.errandAlarm? now errand r.outcome) := by
      rw [taken]
      exact (gear_errandDone errand r.outcome).trans rfl
    rcases mem_timers_of_rearm gear h with old | alarm
    · exact .inl old
    · exact .inr ((mem_replyDeadlines live).2
        (.inl ⟨errand, ht, waiting, mem_errandDeadlines.2 ⟨_, alarm⟩⟩))
  · have gear : (s.handleReply now r).gear =
        s.gear.rearm (s.taskAlarm? now kind task r.outcome) := by
      rw [taken]
      exact gear_taskDone he task r.outcome
    rcases mem_timers_of_rearm gear h with old | alarm
    · exact .inl old
    · obtain ⟨rfl, sum⟩ := mem_codeDeadlines_of_alarm alarm
      exact .inr ((mem_replyDeadlines live).2 (.inr ⟨kind, e, ht, he, waiting, sum⟩))

theorem mem_timers_fire {timer : Timer} (live : s.cancelled = false)
    (h : t ∈ (s.fire now timer).timers) : t ∈ s.timers ∨ t.1 ∈ s.timerDeadlines now timer := by
  cases timer with
  | closeAfterSubmit =>
      have gear := gear_cancelSurely live
      have none_left : (s.fire now .closeAfterSubmit).timers = [] := congrArg Gear.timers gear
      rw [none_left] at h
      cases h
  | shortPoll =>
      have same : (s.fire now .shortPoll).timers = s.timers :=
        congrArg Gear.timers (gear_of_background background_requestPasswordState)
      exact .inl (same ▸ h)
  | forgetPassword => exact .inl h
  | callTick kind =>
      by_cases early : ∃ e due, s.entry? kind = some e ∧ e.verification.call = some (.waiting due) ∧
          now < due
      · obtain ⟨e, due, he, waiting, early⟩ := early
        have gear : (s.fire now (.callTick kind)).gear = s.gear.rearm
            (some (.callTick kind, some (now + s.setup.settings.callTick))) :=
          gear_of_background (background_callTick_of_early he waiting early)
        rcases mem_timers_of_rearm gear h with old | alarm
        · exact .inl old
        · obtain ⟨-, time⟩ := Prod.mk.inj (Option.some.inj alarm)
          exact .inr (mem_timerDeadlines.2
            ⟨kind, e, due, rfl, he, waiting, early, (Option.some.inj time).symm⟩)
      · have same : (s.fire now (.callTick kind)).timers = s.timers := by
          refine congrArg Gear.timers (gear_of_background
            (background_callTick_of_late fun e due he waiting => ?_))
          exact Nat.not_lt.1 fun before => early ⟨e, due, he, waiting, before⟩
        exact .inl (same ▸ h)

theorem mem_timers_fires {due : List (Nat × Timer)} (h : t ∈ (s.fires now due).timers) :
    t ∈ s.timers ∨ t.1 ∈ s.firedDeadlines now due := by
  induction due generalizing s with
  | nil => exact .inl h
  | cons x rest ih =>
      cases live : s.cancelled with
      | true =>
          rw [fires_of_cancelled _ live] at h
          exact .inl h
      | false =>
          rw [fires_cons x rest live] at h
          rcases ih h with fired | sum
          · exact (mem_timers_fire live fired).imp_right fun sum =>
              mem_firedDeadlines_cons.2 ⟨live, .inl sum⟩
          · exact .inr (mem_firedDeadlines_cons.2 ⟨live, .inr sum⟩)

theorem mem_timers_tick (h : t ∈ (s.tick now).timers) :
    t ∈ s.timers ∨ t.1 ∈ s.tickDeadlines now := by
  rw [tick_eq_fires] at h
  rw [tickDeadlines_eq]
  refine (mem_timers_fires h).imp_left fun left => ?_
  have timers : (s.later now).timers = s.timers.filter fun t => ¬ t.1 ≤ now := rfl
  rw [timers] at left
  exact (List.mem_filter.1 left).1

/-- A timer that stands after an action stood there before, or the action has set its time. -/
theorem mem_timers_act (live : s.cancelled = false) (live' : (s.act now a).1.cancelled = false)
    (h : t ∈ (s.act now a).1.timers) : t ∈ s.timers ∨ t.1 ∈ s.deadlines now a := by
  by_cases replies : ∃ r, a = .reply r
  · obtain ⟨r, rfl⟩ := replies
    exact mem_timers_handleReply h
  by_cases time : a = .tick
  · subst time
    exact mem_timers_tick h
  -- No other action sets a time. To rearm a timer without one takes it away.
  refine .inl ?_
  cases act_drives live live' with
  | rearms gear =>
      rcases mem_timers_of_rearm gear h with old | alarm
      · exact old
      · cases a with
        | reply r => exact absurd ⟨r, rfl⟩ replies
        | cancelVerification kind => simp [alarm?] at alarm
        | _ => cases alarm
  | dropped same => rwa [same] at h
  | loads kind _ loads =>
      have same : (s.act now a).1.timers = s.timers := loads.timers_eq
      rwa [same] at h
  | lands event id _ _ gear =>
      have same : (s.act now a).1.timers = s.timers := congrArg Gear.timers gear
      rwa [same] at h
  | restarts ha gear =>
      have none_left : (s.act now a).1.timers = [] := congrArg Gear.timers gear
      rw [none_left] at h
      cases h
  | ticks _ ha => exact absurd ha time

/-! ## The remembered password -/

theorem not_remember_of_mem_callsToShow {password : String} {expires : Nat} :
    .remember password expires ∉ s.callsToShow := by
  unfold callsToShow
  split <;> simp

/-- An answer has a password remembered for the time that it sets. -/
theorem mem_errandDeadlines_of_callsOn {errand : Errand} {outcome : Outcome} {password : String}
    {expires : Nat} (h : .remember password expires ∈ s.callsOn now errand outcome) :
    expires ∈ s.errandDeadlines now errand outcome := by
  unfold callsOn at h
  split at h
  · split at h
    · cases h
    · exact absurd h not_remember_of_mem_callsToShow
  · split at h
    · split at h
      · exact absurd h not_remember_of_mem_callsToShow
      · cases h
    · cases h
  · split at h
    · unfold callsOnFault at h
      split at h <;> simp at h
    · rename_i accepted
      obtain ⟨elements, errors, rfl⟩ := exists_of_no_elementsFault accepted
      obtain ⟨password', checking, same⟩ := List.mem_map.1 h
      obtain ⟨-, rfl⟩ := Credentials.Call.remember.inj same
      simp [errandDeadlines, Option.mem_toList.1 checking]
  · cases h
  · cases h
  · cases h

/-- What a session has remembered is given to it from outside, or for the time that it sets. -/
theorem mem_deadlines_of_calls {password : String} {expires : Nat}
    (h : .remember password expires ∈ s.calls now a) :
    a = .remember password expires ∨ expires ∈ s.deadlines now a := by
  unfold calls at h
  split at h
  · simp only [List.mem_singleton, Credentials.Call.remember.injEq] at h
    obtain ⟨rfl, rfl⟩ := h
    exact .inl rfl
  · simp at h
  · split at h <;> simp at h
  · split at h
    · cases h
    · obtain ⟨_, -, same⟩ := List.mem_map.1 h
      cases same
  · rename_i r
    split at h
    · cases h
    · rename_i live
      split at h
      · rename_i errand outcome heard
        obtain ⟨id, same, waiting⟩ := heard?_eq_some.1 heard
        obtain rfl := Action.reply.inj same
        -- The answer is no longer waited for when the calls are made, which no deadline depends on.
        have sum : expires ∈ s.errandDeadlines now errand outcome := by
          have set := mem_errandDeadlines_of_callsOn h
          unfold errandDeadlines at set ⊢
          exact set
        have set : expires ∈ s.replyDeadlines now ⟨⟨id, .errand errand⟩, outcome⟩ :=
          (mem_replyDeadlines (eq_false_of_ne_true live)).2 (.inl ⟨errand, rfl, waiting, sum⟩)
        exact .inr set
      · cases h
  · cases h

/-! ## Calls -/

theorem Tolls.due?_cases {kind : Kind} {due : Nat} (h : Tolls now a kind s s')
    (live : s.cancelled = false) (there : s'.due? kind = some due) :
    s.due? kind = some due ∨ due ∈ s.deadlines now a := by
  cases h with
  | stays same => exact .inl (same.symm.trans there)
  | begins r seconds ha awaits ht announced begun =>
      subst ha
      obtain rfl := Option.some.inj (begun.symm.trans there)
      unfold Core.Awaits at awaits
      rw [ht] at awaits
      obtain ⟨e, he, waiting⟩ := awaits
      exact .inr ((mem_replyDeadlines live).2
        (.inr ⟨kind, e, ht, he, waiting, mem_codeDeadlines.2 ⟨seconds, announced, .inl rfl⟩⟩))
  | goesOn d _ waiting _ same =>
      obtain rfl := Option.some.inj (same.symm.trans there)
      exact .inl waiting
  | ends none_ => exact absurd (none_.symm.trans there) nofun

/-! ## All that an action sets -/

theorem due?_sendCodeDone {kind : Kind} {e : Entry} {outcome : Outcome} {seconds : Nat}
    (he : s.entry? kind = some e) (announced : outcome.countdown? kind = some seconds) :
    (s.sendCodeDone now kind outcome).due? kind = some (now + 1000 * seconds) := by
  obtain rfl := kind_of_entry he
  cases outcome with
  | failed error => cases announced
  | ok response =>
      unfold Outcome.countdown? at announced
      unfold sendCodeDone
      dsimp only at announced ⊢
      cases sent : codeSent? e.kind response with
      | none => simp [sent] at announced
      | some p =>
          obtain ⟨length, timeout⟩ := p
          obtain rfl : timeout = some seconds := by simpa [sent] using announced
          have changed {g : Entry → Entry} (kept : (g e).kind = e.kind) :
              (s.modify e.kind g).due? e.kind = (g e).verification.due? :=
            read_of_entry (Form.entry?_modify he kept)
          exact (changed rfl).trans rfl

/-- What a reply sets stands when it has been taken in. -/
theorem handleReply_stands (live : s.cancelled = false) (h : d ∈ s.replyDeadlines now r) :
    (s.handleReply now r).Stands d := by
  obtain ⟨⟨id, pending⟩, outcome⟩ := r
  rcases (mem_replyDeadlines live).1 h with
    ⟨errand, rfl, waiting, set⟩ | ⟨kind, e, rfl, he, waiting, set⟩
  · obtain ⟨timer, alarm⟩ := mem_errandDeadlines.1 set
    refine stands_of_rearm (s := s) timer ?_
    rw [handleReply_of_errand live waiting, ← alarm]
    exact (gear_errandDone errand outcome).trans rfl
  · rw [handleReply_of_task live he waiting]
    obtain ⟨seconds, announced, rfl | rfl⟩ := mem_codeDeadlines.1 set
    · exact .inr (.inl ⟨kind, due?_sendCodeDone he announced⟩)
    · refine stands_of_rearm (s := s) (.callTick kind) ?_
      rw [gear_taskDone he .sendCode outcome, taskAlarm?_sendCode, announced, Option.map_some]

/-- Firing a timer leaves the next tick of a countdown where it is, or puts it there once more. -/
theorem mem_timers_fire_of_ticks {kind : Kind} (timer : Timer) (live : s.cancelled = false)
    (live' : (s.fire now timer).cancelled = false)
    (there : (now + s.setup.settings.callTick, .callTick kind) ∈ s.timers) :
    (now + s.setup.settings.callTick, .callTick kind) ∈ (s.fire now timer).timers := by
  rcases gear_fire now live timer with same | ⟨-, closed⟩ | ⟨other, armed⟩
  · have timers : (s.fire now timer).timers = s.timers := congrArg Gear.timers same
    exact timers ▸ there
  · have closed : (s.fire now timer).cancelled = true := congrArg Gear.cancelled closed
    exact absurd (closed.symm.trans live') (by simp)
  · by_cases same : kind = other
    · subst same
      exact armed_of_rearm armed
    · have timers : (s.fire now timer).timers = _ := congrArg Gear.timers armed
      rw [timers]
      exact Gear.mem_rearm_of_ne there (by simpa using same)

theorem live_of_fires {due : List (Nat × Timer)} (live : (s.fires now due).cancelled = false) :
    s.cancelled = false := by
  by_contra closed
  rw [fires_of_cancelled due (eq_true_of_ne_false closed)] at live
  exact closed live

theorem mem_timers_fires_of_ticks {kind : Kind} {due : List (Nat × Timer)}
    (live : (s.fires now due).cancelled = false)
    (there : (now + s.setup.settings.callTick, .callTick kind) ∈ s.timers) :
    (now + s.setup.settings.callTick, .callTick kind) ∈ (s.fires now due).timers := by
  induction due generalizing s with
  | nil => exact there
  | cons t rest ih =>
      have before := live_of_fires live
      rw [fires_cons t rest before] at live ⊢
      have setup := setup_fire before now t.2
      have kept := mem_timers_fire_of_ticks t.2 before (live_of_fires live) there
      rw [← setup] at kept ⊢
      exact ih live kept

/-- Timers that are fired one after the other leave all that they set. -/
theorem fires_stands {due : List (Nat × Timer)} (live : (s.fires now due).cancelled = false)
    (h : d ∈ s.firedDeadlines now due) : (s.fires now due).Stands d := by
  induction due generalizing s with
  | nil => cases h
  | cons t rest ih =>
      obtain ⟨before, set | later⟩ := mem_firedDeadlines_cons.1 h
      · obtain ⟨kind, e, due, timer, he, waiting, early, rfl⟩ := mem_timerDeadlines.1 set
        rw [fires_cons t rest before] at live ⊢
        have gear : (s.fire now t.2).gear = s.gear.rearm
            (some (.callTick kind, some (now + s.setup.settings.callTick))) := by
          rw [timer]
          exact gear_of_background (background_callTick_of_early he waiting early)
        have armed := armed_of_rearm gear
        rw [← setup_fire before now t.2] at armed ⊢
        exact .inl ⟨_, mem_timers_fires_of_ticks live armed⟩
      · rw [fires_cons t rest before] at live ⊢
        exact ih live later

/-- Every deadline that an action sets stands afterwards, if the session is still open. -/
theorem stands_of_mem_deadlines (live : s.cancelled = false)
    (live' : (s.act now a).1.cancelled = false) (h : d ∈ s.deadlines now a) :
    (s.act now a).1.Stands d := by
  cases a with
  | reply r => exact handleReply_stands live h
  | tick =>
      have h : d ∈ s.tickDeadlines now := h
      have live' : (s.tick now).cancelled = false := live'
      show (s.tick now).Stands d
      rw [tickDeadlines_eq] at h
      rw [tick_eq_fires] at live' ⊢
      exact fires_stands live' h
  | _ => cases h

/-! ## All that stands -/

/-- The expiry of a password that another session has remembered. -/
def Action.expires? : Action → Option Nat
  | .remember _ expires => some expires
  | _ => none

end Session

/-- What stands after an action stood before, or is set by the action or by another session. -/
theorem Run.stands_act {setup : Setup} {past : History} {s : Session} {now d : Nat}
    {action : Session.Action} (run : Run setup past s) (genuine : past.Genuine action)
    (live : (s.act now action).1.cancelled = false) (there : (s.act now action).1.Stands d) :
    s.Stands d ∨ d ∈ s.deadlines now action ∨ action.expires? = some d := by
  have before : s.cancelled = false := (run.acts now action).live live
  rcases there with ⟨timer, ht⟩ | ⟨kind, due⟩ | held
  · exact (Session.mem_timers_act before live ht).imp (fun old => .inl ⟨timer, old⟩) .inl
  · have tolls := run.act_tolls genuine live (run.counted before kind)
    exact (tolls.due?_cases before due).imp (fun old => .inr (.inl ⟨kind, old⟩)) .inl
  · obtain ⟨word, there⟩ := Credentials.expires?_eq_some.1 held
    have there : (s.credentials.performAll now (s.calls now action)).slot = some ⟨word, d⟩ :=
      s.credentials_act now action ▸ there
    rcases Credentials.slot_performAll there with old | written
    · exact .inl (.inr (.inr (Credentials.expires?_eq_some.2 ⟨word, old⟩)))
    · rcases Session.mem_deadlines_of_calls written with rfl | new
      · exact .inr (.inr rfl)
      · exact .inr (.inl new)

end IdentityForm
