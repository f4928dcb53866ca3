import IdentityForm.Proofs.Inquiry
import IdentityForm.Proofs.Password

/-! # Prompting again

Settings that are read again and have not changed are of no interest to the user, unless somebody
insisted on them. That wish is kept in a flag, which only settings that have not changed take back.
-/

namespace IdentityForm

/-- The next settings are wanted even if they have not changed. -/
def Turn.Insists (past : History) (t : Turn) : Prop :=
  Session.Action.insists (t.heard? past) t.action = true

instance (past : History) (t : Turn) : Decidable (t.Insists past) :=
  inferInstanceAs (Decidable (_ = true))

/-- The settings that are known are read again. -/
def Turn.Repeats (past : History) (t : Turn) : Prop :=
  ∃ settings ∈ t.before.passwordSettings,
    t.heard? past = some (.passwordState, .ok (.passwordState settings))

instance (past : History) (t : Turn) : Decidable (t.Repeats past) :=
  inferInstanceAs (Decidable (∃ settings ∈ t.before.passwordSettings, _))

/-- Somebody insisted on settings, and they were not repeated since. -/
def History.Insisted : History → Prop
  | [] => False
  | t :: past =>
    t.Insists past ∨ Insisted past ∧ ¬ t.Repeats past ∧ t.startsOver = false

instance History.decidableInsisted : (past : History) → Decidable past.Insisted
  | [] => inferInstanceAs (Decidable False)
  | _ :: past =>
    have := decidableInsisted past
    inferInstanceAs (Decidable (_ ∨ _ ∧ _ ∧ _))

namespace Session

variable {past : History} {t : Turn}

/-- The flag follows what has happened. -/
theorem Inquires.insisted (h : Inquires t.action t.before (t.before.act t.now t.action).1)
    (live : t.before.cancelled = false) (heard : t.heard? past = t.before.heard? t.action)
    (before : t.before.forceShow = true ↔ past.Insisted) :
    t.after.forceShow = true ↔ History.Insisted (t :: past) := by
  let s' := (t.before.act t.now t.action).1
  show s'.forceShow = true ↔
    t.Insists past ∨ History.Insisted past ∧ ¬ t.Repeats past ∧ t.startsOver = false
  have goes_on (stays : t.action ≠ .restart) : t.startsOver = false := by
    by_contra anew
    exact stays (Turn.startsOver_iff.1 (by simpa using anew)).1
  unfold Turn.Insists Turn.Repeats
  rw [heard]
  cases h with
  | restarts ha known =>
      have calm : s'.forceShow = false := congrArg Prod.snd known
      have anew : t.startsOver = true := Turn.startsOver_iff.2 ⟨ha, live⟩
      rw [calm, anew, ha]
      simp [heard?, Action.insists]
  | learns settings there known =>
      have flag : s'.forceShow = _ := congrArg Prod.snd known
      obtain ⟨id, ha, -⟩ := heard?_eq_some.1 there
      rw [flag, there, goes_on (by simp [ha]), ha]
      simp [Action.insists, before]
  | fails outcome error there fault known =>
      have flag : s'.forceShow = t.before.forceShow := congrArg Prod.snd known
      obtain ⟨id, ha, -⟩ := heard?_eq_some.1 there
      have other (settings : PasswordSettings) : outcome ≠ .ok (.passwordState settings) := by
        rintro rfl
        cases fault
      rw [flag, there, goes_on (by simp [ha]), ha]
      simp [Action.insists, other, before]
  | goes_on stays unheard known =>
      have flag : s'.forceShow = _ := congrArg Prod.snd known
      rw [flag, goes_on stays, Bool.or_eq_true, before]
      simp [unheard, or_comm]

end Session

namespace Run

variable {setup : Setup} {past : History} {s : Session} {id : Nat} {settings : PasswordSettings}

theorem forceShow_iff (run : Run setup past s) (live : s.cancelled = false) :
    s.forceShow = true ↔ past.Insisted := by
  induction run with
  | start credentials => simp [Session.fresh, History.Insisted]
  | @step past s now action run ordered genuine ih =>
      obtain ⟨before, heard, inquires⟩ := run.inquires now genuine live
      exact inquires.insisted (t := ⟨s, now, action⟩) before heard (ih before)

/-- Settings that have not changed. Without anybody who insisted on them since they were last repeated,
or since the session started over, nothing is sent or told. Otherwise the form is shown on them, and
that once. -/
theorem unchanged_settings (run : Run setup past s) (live : s.cancelled = false)
    (asked : past.Outstanding ⟨id, .errand .passwordState⟩)
    (known : s.passwordSettings = some settings) (now : Nat) :
    let t : Turn := ⟨s, now,
      .reply ⟨⟨id, .errand .passwordState⟩, .ok (.passwordState settings)⟩⟩
    (¬ past.Insisted → t.effects = []) ∧
      (past.Insisted →
        t.effects = if s.Showable then (s.shown? now settings).toList else []) ∧
      ¬ History.Insisted (t :: past) := by
  intro t
  have waiting : s.awaited.get .passwordState = some id := run.awaits_of_outstanding live asked
  have heard : t.heard? past = some (.passwordState, .ok (.passwordState settings)) :=
    if_pos asked
  let answered := { s with awaited := s.awaited.set .passwordState none }
  have effects : t.effects = (if s.forceShow = true then (answered.learn now settings).showForm now
      else answered.learn now settings).outbox := by
    have taken : t.effects =
        (answered.passwordStateDone now (.ok (.passwordState settings))).outbox :=
      congrArg Session.outbox (Session.handleReply_of_errand live waiting _)
    rw [taken, Session.passwordStateDone_ok]
    simp [answered, known]
  have silent : (answered.learn now settings).outbox = [] := run.outbox_eq_nil
  refine ⟨fun calm => ?_, fun insisted => ?_, ?_⟩
  · rw [effects, if_neg fun flag => calm ((run.forceShow_iff live).1 flag), silent]
  · rw [effects, if_pos ((run.forceShow_iff live).2 insisted)]
    split
    · rename_i showable
      have shown : (answered.learn now settings).showForm now =
          (answered.learn now settings).present now settings :=
        Session.showForm_of_showable (by exact showable) rfl
      rw [shown, Session.outbox_present, silent]
      rfl
    · rename_i hidden
      rw [Session.showForm_of_not_showable (by exact hidden), silent]
  · rintro (insists | ⟨-, fresh, -⟩)
    · simp [Turn.Insists, heard, Session.Action.insists, t] at insists
    · exact fresh ⟨settings, known, heard⟩

/-- The user wants the settings read again, and is asked for the password once more. The next time the
same settings come, the user is left alone. -/
theorem unchanged_settings_shown_once :
    let settings : PasswordSettings := ⟨true, true, "hint", none, none, false, none⟩
    let reply (id : Nat) : Session.Action :=
      .reply ⟨⟨id, .errand .passwordState⟩, .ok (.passwordState settings)⟩
    let form : Session.Action := .reply ⟨⟨1, .errand .form⟩, .ok (.authorizationForm ⟨1, [], none⟩)⟩
    let reloaded := [(2, .reloadPassword), (1, reply 2), (1, form), (0, .display)]
    let displayed := (4, .display) :: (3, reply 3) :: reloaded
    Turn.effects ⟨(play (.fresh .plain .empty) reloaded).2, 3, reply 3⟩ = [.notice .askPassword] ∧
      Turn.effects ⟨(play (.fresh .plain .empty) displayed).2, 5, reply 4⟩ = [] := by
  intro settings reply form reloaded displayed
  have first : Playable (.fresh .plain .empty) reloaded := by decide +kernel
  have second : Playable (.fresh .plain .empty) displayed := by decide +kernel
  have asked : (play (.fresh .plain .empty) reloaded).1.Outstanding ⟨3, .errand .passwordState⟩ := by
    decide +kernel
  have asked' : (play (.fresh .plain .empty) displayed).1.Outstanding ⟨4, .errand .passwordState⟩ := by
    decide +kernel
  have known : (play (.fresh .plain .empty) reloaded).2.passwordSettings = some settings := by
    decide +kernel
  have known' : (play (.fresh .plain .empty) displayed).2.passwordSettings = some settings := by
    decide +kernel
  have shown := unchanged_settings (.of_playable first) (by decide +kernel) asked known 3
  have left := unchanged_settings (.of_playable second) (by decide +kernel) asked' known' 5
  exact ⟨(shown.2.1 (by decide +kernel)).trans (by decide +kernel), left.1 (by decide +kernel)⟩

/-- The wish to read the settings again is met by new ones, and still there when the timer has read the
same ones another time: the user is asked for the password twice. -/
theorem unchanged_settings_shown_twice :
    let settings (pattern : Option String) : PasswordSettings :=
      ⟨true, true, "hint", pattern, none, false, none⟩
    let reply (id : Nat) (pattern : Option String) : Session.Action :=
      .reply ⟨⟨id, .errand .passwordState⟩, .ok (.passwordState (settings pattern))⟩
    let form : Session.Action := .reply ⟨⟨1, .errand .form⟩, .ok (.authorizationForm ⟨1, [], none⟩)⟩
    let reloaded := [(2, .reloadPassword), (1, reply 2 none), (1, form), (0, .display)]
    let changed := (3, reply 3 (some "u***@example.com")) :: reloaded
    let polled := (3003, .tick) :: changed
    Playable (.fresh .plain .empty) ((3004, reply 4 (some "u***@example.com")) :: polled) ∧
      (play (.fresh .plain .empty) polled).2.passwordSettings =
        some (settings (some "u***@example.com")) ∧
      Turn.effects ⟨(play (.fresh .plain .empty) reloaded).2, 3, reply 3 (some "u***@example.com")⟩ =
        [.notice .askPassword] ∧
      Turn.effects ⟨(play (.fresh .plain .empty) polled).2, 3004, reply 4 (some "u***@example.com")⟩ =
        [.notice .askPassword] := by
  decide +kernel

end Run

end IdentityForm
