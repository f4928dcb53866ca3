import IdentityForm.Proofs.Clock.Stands

/-! # Runs on a clock

A run on a clock goes on as long as no action fails. All deadlines that stand in its session are times
on the clock then, since none stands there that was not set by an action.
-/

namespace IdentityForm

namespace Session

/-- The deadlines that stand are times on the clock. -/
structure Timely (s : Session) : Prop where
  timers : ∀ t ∈ s.timers, t.1 < Clock.limit
  calls : ∀ kind due, s.due? kind = some due → due < Clock.limit
  password : ∀ expires, s.credentials.expires? = some expires → expires < Clock.limit

theorem timely_iff {s : Session} : s.Timely ↔ ∀ d, s.Stands d → d < Clock.limit := by
  constructor
  · rintro ⟨timers, calls, password⟩ d (⟨timer, ht⟩ | ⟨kind, due⟩ | held)
    · exact timers (d, timer) ht
    · exact calls kind d due
    · exact password d held
  · intro all
    exact { timers := fun t ht => all t.1 (.inl ⟨t.2, ht⟩),
            calls := fun kind due there => all due (.inr (.inl ⟨kind, there⟩)),
            password := fun expires held => all expires (.inr (.inr held)) }

/-- What comes from another session is a time on the clock. -/
def Action.Timely (a : Action) : Prop := ∀ expires ∈ a.expires?, expires < Clock.limit

instance (a : Action) : Decidable a.Timely :=
  inferInstanceAs (Decidable (∀ expires ∈ a.expires?, expires < Clock.limit))

end Session

/-- The sessions that can be reached without a failure, each with a history that leads there. -/
inductive Clocked (setup : Setup) : History → Session → Prop
  | start (credentials : Credentials) :
      (∀ expires, credentials.expires? = some expires → expires < Clock.limit) →
        Clocked setup [] (.fresh setup credentials)
  | step {past : History} {s : Session} {done : Session × Session.Answer} (now : Nat)
      (action : Session.Action) : Clocked setup past s → (∀ t ∈ past, t.now ≤ now) →
        past.Genuine action → action.Timely → s.attempt now action = some done →
          Clocked setup (⟨s, now, action⟩ :: past) done.1.drain.2

namespace Clocked

variable {setup : Setup} {past : History} {s : Session}

theorem run (clocked : Clocked setup past s) : Run setup past s := by
  induction clocked with
  | start credentials => exact .start credentials
  | step now action _ ordered genuine _ done ih =>
      obtain ⟨-, rfl⟩ := Session.attempt_eq_some.1 done
      exact .step now action ih ordered genuine

/-- All deadlines of a session that is open are times on the clock. -/
theorem timely (clocked : Clocked setup past s) (live : s.cancelled = false) : s.Timely := by
  induction clocked with
  | start credentials given =>
      exact { timers := fun t ht => absurd ht List.not_mem_nil, calls := nofun, password := given }
  | @step past s done now action clocked ordered genuine given attempted ih =>
      obtain ⟨set, rfl⟩ := Session.attempt_eq_some.1 attempted
      have before : s.cancelled = false := (clocked.run.acts now action).live live
      -- What stands now stood before, or was set by the action, which has not failed.
      refine Session.timely_iff.2 fun d there => ?_
      rcases clocked.run.stands_act genuine live there with old | new | other
      · exact Session.timely_iff.1 (ih before) d old
      · exact set d new
      · exact given d other

theorem of_playable {credentials : Credentials} {actions : List (Nat × Session.Action)}
    (given : ∀ expires, credentials.expires? = some expires → expires < Clock.limit)
    (playable : Playable (.fresh setup credentials) actions)
    (goes : ∀ t ∈ (play (.fresh setup credentials) actions).1,
      t.action.Timely ∧ (t.before.attempt t.now t.action).isSome) :
    Clocked setup (play (.fresh setup credentials) actions).1
      (play (.fresh setup credentials) actions).2 := by
  induction actions with
  | nil => exact .start credentials given
  | cons x earlier ih =>
      obtain ⟨now, action⟩ := x
      obtain ⟨before, ordered, genuine⟩ := playable
      obtain ⟨⟨timely, goes⟩, earlier⟩ := List.forall_mem_cons.1 goes
      obtain ⟨done, attempted⟩ := Option.isSome_iff_exists.1 goes
      obtain ⟨-, rfl⟩ := Session.attempt_eq_some.1 attempted
      exact .step now action (ih before earlier) ordered genuine timely attempted

/-- As long as nothing fails, all deadlines that stand are times on the clock. With amounts from an
environment, and early enough on the clock, exactly two answers fail: one that accepts a password which
is to be remembered for longer than the clock runs, and one that announces a call for a time behind the
end of the clock. Time itself never fails. -/
theorem fails_iff {env : String → Option String} (clocked : Clocked setup past s)
    (configured : setup.settings = .ofEnvironment env) :
    (s.cancelled = false → s.Timely) ∧
    ∀ now, now + UInt64.size ≤ Clock.limit →
      (∀ action, s.attempt now action = none ↔
        (s.Accepts action ∧ Clock.limit ≤ now + setup.settings.rememberFor) ∨
          ∃ code, s.Announces action code ∧ Clock.limit ≤ now + 1000 * code.timeout.toNat) ∧
      s.attempt now .tick = some (s.act now .tick) := by
  refine ⟨clocked.timely, fun now early => ?_⟩
  have setup : s.setup = setup := clocked.run.setup_eq
  obtain ⟨shortPoll, closeDelay, callTick, -⟩ := Settings.ofEnvironment_lt env
  -- Intervals are words of milliseconds, and far shorter than what is left on the clock.
  have fits : ∀ amount ∈ [s.setup.settings.shortPoll, s.setup.settings.closeDelay,
      s.setup.settings.callTick], now + amount < Clock.limit := by
    rw [setup, configured]
    simp only [List.mem_cons, List.not_mem_nil, or_false, forall_eq_or_imp, forall_eq]
    omega
  have fails (action : Session.Action) := setup ▸ Session.attempt_eq_none_iff (a := action) fits
  refine ⟨fails, ?_⟩
  cases attempted : s.attempt now .tick with
  | none =>
      rcases (fails .tick).1 attempted with ⟨⟨-, -, _, _, _, -, reply⟩, -⟩ |
        ⟨_, ⟨-, -, -, _, _, -, -, reply⟩, -⟩ <;> cases reply
  | some done => rw [(Session.attempt_eq_some.1 attempted).2]

def asking : List (Nat × Session.Action) :=
  [(5, .reply ⟨⟨4, .task .save .phone⟩, .failed ⟨"PHONE_VERIFICATION_NEEDED"⟩⟩),
    (4, .save .phone (.ofTexts [(Kind.plainField, "123")]))] ++
  opening ⟨1, [[⟨.phone, false, false, false⟩]], none⟩ []

def announcing (seconds : UInt64) : Session.Action :=
  .reply ⟨⟨5, .task .sendCode .phone⟩, .ok (.phoneCode ⟨.sms 5, some (.call 5), seconds⟩)⟩

/-- A call in a minute is announced without a failure, and time goes on. A call at the end of time
cannot be announced. -/
theorem fails_iff_of_a_call :
    let past := (play (.fresh .plain .empty) asking).1
    let s := (play (.fresh .plain .empty) asking).2
    Clocked .plain past s ∧ Setup.plain.settings = .ofEnvironment (fun _ => none) ∧
      6 + UInt64.size ≤ Clock.limit ∧ s.Timely ∧ s.attempt 6 .tick ≠ none ∧
      s.attempt 6 (announcing 60) ≠ none ∧ s.attempt 6 (announcing 18446744073709551615) = none := by
  intro past s
  have clocked : Clocked .plain past s := of_playable nofun (by decide +kernel) (by decide +kernel)
  have configured : Setup.plain.settings = .ofEnvironment (fun _ => none) := rfl
  have early : 6 + UInt64.size ≤ Clock.limit := by decide
  obtain ⟨timely, fails⟩ := fails_iff clocked configured
  obtain ⟨answers, time⟩ := fails 6 early
  have soon : s.attempt 6 (announcing 60) ≠ none := fun failed => by
    rcases (answers _).1 failed with ⟨-, far⟩ | ⟨code, ⟨-, -, -, e, id, -, -, same⟩, far⟩
    · exact absurd far (by decide)
    · cases same
      exact absurd far (by decide)
  have waiting : ∃ e, s.entry? .phone = some e ∧ e.verification.request = some 5 :=
    ⟨_, rfl, by decide +kernel⟩
  obtain ⟨e, there, request⟩ := waiting
  have late : s.attempt 6 (announcing 18446744073709551615) = none :=
    (answers _).2 (.inr ⟨⟨.sms 5, some (.call 5), 18446744073709551615⟩,
      ⟨by decide +kernel, rfl, by decide, e, 5, there, request, rfl⟩, by decide⟩)
  exact ⟨clocked, configured, early, timely (by decide +kernel), by simp [time], soon, late⟩

/-- An answer that is waited for can fail, and so not every action of a run succeeds. -/
theorem not_attempt_ne_none : ¬ ∀ (env : String → Option String) (setup : Setup) (past : History)
    (s : Session) (now : Nat) (action : Session.Action), setup.settings = .ofEnvironment env →
      Clocked setup past s → (∀ t ∈ past, t.now ≤ now) → past.Genuine action →
        now + UInt64.size ≤ Clock.limit → s.attempt now action ≠ none := by
  intro never
  have clocked : Clocked .plain (play (.fresh .plain .empty) asking).1
      (play (.fresh .plain .empty) asking).2 :=
    of_playable nofun (by decide +kernel) (by decide +kernel)
  exact never (fun _ => none) .plain _ _ 6 (announcing 18446744073709551615) rfl clocked
    (by decide +kernel) (by decide +kernel) (by decide) (by decide +kernel)

end Clocked

end IdentityForm
