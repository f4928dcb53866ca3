import IdentityForm.Proofs.Inquiry

/-! # Polling for a confirmation

As long as an email waits for confirmation, the password settings are read again and again: a timer
asks for them, and the answer arms the timer anew. An answer without settings does not, so that the
reading stops there until something else asks for the settings.
-/

namespace IdentityForm

/-- The settings could not be had, and no timer is left to ask for them again. -/
def Turn.Halts (past : History) (t : Turn) : Prop :=
  ¬ t.before.Polls ∧ ∃ heard ∈ t.heard? past,
    heard.1 = .passwordState ∧ heard.2.settingsFault? ≠ none

instance (past : History) (t : Turn) : Decidable (t.Halts past) :=
  inferInstanceAs (Decidable (_ ∧ _))

/-- The settings could not be had at a time when no timer was left, and were not asked for since. -/
def History.Stalled : History → Prop
  | [] => False
  | t :: past => t.Halts past ∨ Stalled past ∧ ¬ Asks .passwordState t.effects

instance History.decidableStalled : (past : History) → Decidable past.Stalled
  | [] => inferInstanceAs (Decidable False)
  | _ :: past =>
    have := decidableStalled past
    inferInstanceAs (Decidable (_ ∨ _ ∧ _))

namespace Session

variable {s s' : Session} {past : History} {t : Turn}

def Unconfirmed (s : Session) : Prop :=
  ∃ settings, s.passwordSettings = some settings ∧ settings.unconfirmedPattern ≠ none

/-- The timer and the request against what has happened. -/
structure Polled (past : History) (s : Session) : Prop where
  needed : s.Polls → s.Unconfirmed
  alive : s.Polls ∨ s.awaited.passwordState ≠ none → ¬ past.Stalled
  halted : s.Unconfirmed → ¬ s.Polls → s.awaited.passwordState = none → past.Stalled

theorem Unconfirmed.of_known (h : s.Unconfirmed)
    (same : s'.passwordSettings = s.passwordSettings) : s'.Unconfirmed := by
  unfold Unconfirmed
  rw [same]
  exact h

/-- One turn keeps the account: an answer without settings is the only one that can halt the reading,
and a request resumes it. -/
theorem Inquires.polled (h : Inquires t.action t.before (t.before.act t.now t.action).1)
    (heard : t.heard? past = t.before.heard? t.action) (polled : t.before.Polled past) :
    t.after.Polled (t :: past) := by
  let s' := (t.before.act t.now t.action).1
  suffices kept : (s'.Polls → s'.Unconfirmed) ∧
      (s'.Polls ∨ s'.awaited.passwordState ≠ none → ¬ History.Stalled (t :: past)) ∧
      (s'.Unconfirmed → ¬ s'.Polls → s'.awaited.passwordState = none →
        History.Stalled (t :: past)) from
    ⟨kept.1, kept.2.1, kept.2.2⟩
  have unhalted {x : Option (Errand × Outcome)} (there : t.before.heard? t.action = x)
      (sound : ∀ outcome, x = some (.passwordState, outcome) → outcome.settingsFault? = none) :
      ¬ t.Halts past := by
    rintro ⟨-, ⟨errand, outcome⟩, there', rfl, fault⟩
    exact fault (sound outcome (there.symm.trans (heard.symm.trans there')))
  cases h with
  | restarts ha known silent asks =>
      have forgotten : s'.passwordSettings = none := congrArg Prod.fst known
      refine ⟨fun polls => absurd polls silent, fun _ => ?_, ?_⟩
      · have none_heard : t.before.heard? t.action = none := by rw [ha]; rfl
        rintro (halts | ⟨-, unasked⟩)
        · exact unhalted none_heard (by simp) halts
        · exact unasked asks
      · rintro ⟨settings, there, -⟩
        exact absurd (forgotten.symm.trans there) (by simp)
  | learns settings there known polls =>
      have learned : s'.passwordSettings = some settings := congrArg Prod.fst known
      obtain ⟨id, -, waiting⟩ := heard?_eq_some.1 there
      have waiting : t.before.awaited.passwordState ≠ none := by
        rw [show t.before.awaited.passwordState = some id from waiting]
        simp
      refine ⟨fun polling => ?_, fun _ => ?_, ?_⟩
      · exact ⟨settings, learned, Option.isSome_iff_ne_none.1 (polls.1 polling)⟩
      · rintro (halts | ⟨stalled, -⟩)
        · refine unhalted there (fun outcome same => ?_) halts
          rw [← (Prod.mk.inj (Option.some.inj same)).2]
          rfl
        · exact polled.alive (.inr waiting) stalled
      · rintro ⟨settings', there', pattern⟩ silent -
        cases Option.some.inj (learned.symm.trans there')
        exact absurd (polls.2 (Option.isSome_iff_ne_none.2 pattern)) silent
  | fails outcome error there fault known polls answered unasked =>
      have same : s'.passwordSettings = t.before.passwordSettings := congrArg Prod.fst known
      refine ⟨fun polling => (polled.needed (polls.1 polling)).of_known same, ?_, ?_⟩
      · rintro (polling | waiting)
        · rintro (⟨silent, -⟩ | ⟨stalled, -⟩)
          · exact silent (polls.1 polling)
          · exact polled.alive (.inl (polls.1 polling)) stalled
        · exact absurd answered waiting
      · exact fun _ silent _ => .inl ⟨fun polling => silent (polls.2 polling),
          _, heard.trans there, rfl, by simp [fault]⟩
  | goes_on stays unheard known polls polls' awaits =>
      have same : s'.passwordSettings = t.before.passwordSettings := congrArg Prod.fst known
      have unhalted : ¬ t.Halts past :=
        unhalted rfl fun outcome there => absurd there (unheard outcome)
      refine ⟨fun polling => (polled.needed (polls polling)).of_known same, ?_, ?_⟩
      · rintro needed (halts | ⟨stalled, unasked⟩)
        · exact unhalted halts
        · refine polled.alive (needed.imp polls fun waiting => ?_) stalled
          exact (awaits.1 waiting).resolve_right unasked
      · intro unconfirmed silent idle
        refine .inr ⟨polled.halted (unconfirmed.of_known same.symm) (fun polling => ?_) ?_, ?_⟩
        · exact (polls' polling).elim silent fun waiting => waiting idle
        · by_contra waiting
          exact awaits.2 (.inl waiting) idle
        · exact fun asks => awaits.2 (.inr asks) idle

end Session

namespace Run

variable {setup : Setup} {past : History} {s : Session}

theorem polled (run : Run setup past s) (live : s.cancelled = false) : s.Polled past := by
  induction run with
  | start credentials =>
      exact { needed := by simp [Session.Polls, Session.fresh], alive := fun _ stalled => stalled
              halted := by simp [Session.Unconfirmed, Session.fresh] }
  | @step past s now action run ordered genuine ih =>
      obtain ⟨before, heard, inquires⟩ := run.inquires now genuine live
      exact inquires.polled (t := ⟨s, now, action⟩) heard (ih before)

/-- The reading of the settings. As long as an email waits for confirmation, a timer or a request is
there to read them again, unless they could not be had at a time when no timer was left and were not
asked for since. The timer is armed for no other reason, and an answer with settings arms it exactly if
they have an email that waits. -/
theorem polling_goes_on (run : Run setup past s) (live : s.cancelled = false) :
    (s.Unconfirmed →
      ((s.Polls ∨ ∃ id, past.Outstanding ⟨id, .errand .passwordState⟩) ↔ ¬ past.Stalled)) ∧
    (s.Polls → s.Unconfirmed) ∧
    ∀ t earlier settings, past = t :: earlier →
      t.heard? earlier = some (.passwordState, .ok (.passwordState settings)) →
      (s.Polls ↔ settings.unconfirmedPattern ≠ none) := by
  have polled := run.polled live
  refine ⟨fun unconfirmed => ?_, polled.needed, ?_⟩
  · rw [← run.awaited_iff_outstanding live .passwordState]
    refine ⟨polled.alive, fun going => ?_⟩
    by_contra idle
    rw [not_or, Classical.not_not] at idle
    exact going (polled.halted unconfirmed idle.1 idle.2)
  · rintro t earlier settings rfl heard
    cases run with
    | step now action run ordered genuine =>
      obtain ⟨-, same, inquires⟩ := run.inquires now genuine live
      rw [same] at heard
      exact (inquires.learned heard).2.trans Option.isSome_iff_ne_none

/-- The timer is armed while an email waits for confirmation, and no more once it is confirmed. -/
theorem polling_goes_on_until_confirmed :
    let settings (pattern : Option String) : Response :=
      .passwordState ⟨true, true, "hint", pattern, none, false, none⟩
    let opened := [(1, .reply ⟨⟨2, .errand .passwordState⟩, .ok (settings (some "u***@example.com"))⟩),
      (0, .display)]
    let confirmed := (3002, .reply ⟨⟨3, .errand .passwordState⟩, .ok (settings none)⟩) ::
      (3001, .tick) :: opened
    ¬ (play (.fresh .plain .empty) opened).1.Stalled ∧
      ¬ (play (.fresh .plain .empty) confirmed).2.Polls := by
  intro settings opened confirmed
  have first : Playable (.fresh .plain .empty) opened := by decide +kernel
  have second : Playable (.fresh .plain .empty) confirmed := by decide +kernel
  have polls : (play (.fresh .plain .empty) opened).2.Polls := by decide +kernel
  have going := polling_goes_on (.of_playable first) (by decide +kernel)
  have ended := (polling_goes_on (.of_playable second) (by decide +kernel)).2.2 _ _
    ⟨true, true, "hint", none, none, false, none⟩ rfl (by decide +kernel)
  exact ⟨(going.1 (going.2.1 polls)).1 (.inl polls), fun polls => ended.1 polls rfl⟩

/-- The timer has asked for the settings, and they cannot be had: no timer is armed any more, and
nothing asks for them, although an email still waits for confirmation. -/
theorem polling_halted :
    let settings : PasswordSettings := ⟨true, true, "hint", some "u***@example.com", none, false, none⟩
    let actions := [(3002, .reply ⟨⟨3, .errand .passwordState⟩, .failed ⟨"TIMEOUT"⟩⟩), (3001, .tick),
      (1, .reply ⟨⟨2, .errand .passwordState⟩, .ok (.passwordState settings)⟩), (0, .display)]
    let halted := play (.fresh .plain .empty) actions
    Playable (.fresh .plain .empty) actions ∧ halted.2.cancelled = false ∧
      halted.2.passwordSettings = some settings ∧ halted.2.timers = [] ∧
      (∀ token ∈ halted.1.tokens, token.pending = .errand .passwordState →
        ¬ halted.1.Outstanding token) ∧
      (halted.2.tick 1000000).outbox = [] := by
  decide +kernel

end Run

end IdentityForm
