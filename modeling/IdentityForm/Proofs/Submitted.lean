import IdentityForm.Proofs.Standing.Advance
import IdentityForm.Proofs.Submitting

/-! # Submitted forms

The form is sent under one token at a time, and never again once the server has accepted it. From then
on a timer waits to close the session. Nothing takes it off before its time but starting over, which
leaves the session submitted all the same.
-/

namespace IdentityForm

/-! ## Submissions in a history -/

theorem Token.eq_of_submission {token token' : Token} (h : token.isSubmission = true)
    (h' : token'.isSubmission = true) (same : token.id = token'.id) : token = token' := by
  obtain ⟨id, pending⟩ := token
  obtain ⟨id', pending'⟩ := token'
  obtain rfl : pending = .errand .submit := isSubmission_iff.1 h
  obtain rfl : pending' = .errand .submit := isSubmission_iff.1 h'
  cases same
  rfl

/-- The form was sent under a token. -/
def History.SentForm (past : History) (token : Token) : Prop :=
  ∃ form kinds, .request (.sendForm token form kinds) ∈ past.log

namespace Turn

def SendsForm (t : Turn) : Prop :=
  ∃ token form kinds, .request (.sendForm token form kinds) ∈ t.effects

/-- The server accepts the form: a submission that is outstanding is answered with success. -/
def AcceptsForm (past : History) (t : Turn) : Prop :=
  ∃ token response, t.action = .reply ⟨token, .ok response⟩ ∧ past.SentForm token ∧
    past.Outstanding token

end Turn

/-- The session starts over after so many requests, and the form is opened and unlocked again. -/
def reopening (issued start : Nat) (form : AuthorizationForm) (elements : List StoredElement) :
    List (Nat × Session.Action) :=
  [(start + 2, .reply ⟨⟨issued + 3, .errand .availableElements⟩,
      .ok (.availableElements elements [])⟩),
    (start + 1, .submitPassword "secret"),
    (start, .reply ⟨⟨issued + 1, .errand .form⟩, .ok (.authorizationForm form)⟩),
    (start, .reply ⟨⟨issued + 2, .errand .passwordState⟩,
      .ok (.passwordState ⟨true, true, "hint", none, none, false, none⟩)⟩),
    (start, .restart)]

namespace Session

variable {s s' : Session} {now : Nat} {a : Action} {token : Token} {form : Int64}
  {kinds : List Kind}

theorem submit_of_awaits (awaits : s.core.Awaits token) (pending : token.pending = .errand .submit) :
    s.awaited.submit = some token.id := by
  simp only [Core.Awaits, pending] at awaits
  exact awaits

/-- The form is sent by submitting it, and only if it was not submitted before. -/
theorem Advance.sendsForm (h : Advance now a s s') (empty : s.outbox = [])
    (sent : .request (.sendForm token form kinds) ∈ s'.outbox) :
    a = .submit ∧ s.submitted = false ∧ token = ⟨s.nextId, .errand .submit⟩ := by
  cases h.reaches empty rfl sent with
  | submits _ ha _ unsubmitted => exact ⟨ha, unsubmitted, rfl⟩

theorem submit_of_submitted (submitted : s.submitted = true) : s.submit.1 = s := by
  unfold submit
  rw [if_pos (by simp [submitted])]

/-- Once no submission is under way only starting over changes when the session is to close. -/
theorem Advance.closings_eq (h : Advance now a s s') (restarts : a ≠ .restart)
    (idle : s.awaited.submit = none) (live : s'.cancelled = false) : s'.closings = s.closings := by
  have closed {d : Standing} (same : s'.standing = d) (closed : d.cancelled = true) :
      s'.closings = s.closings := by
    have closed' := (congrArg Standing.cancelled same).trans closed
    exact absurd (closed'.symm.trans live) (by simp)
  cases h with
  | stays same => exact congrArg Standing.closing same
  | asks _ _ _ same => exact congrArg Standing.closing same
  | unlocks _ _ _ _ _ _ _ _ _ same => exact congrArg Standing.closing same
  | submits _ _ _ _ same => exact congrArg Standing.closing same
  | accepts r _ _ _ awaits pending =>
      exact absurd ((submit_of_awaits awaits pending).symm.trans idle) (by simp)
  | restarts ha => exact absurd ha restarts
  | closes _ closes => exact closed closes.standing rfl
  | expires already same => exact closed same already

theorem standing_of_accepted (now : Nat) {id : Nat} (live : s.cancelled = false)
    (waiting : s.awaited.submit = some id) (response : Response) :
    (s.act now (.reply ⟨⟨id, .errand .submit⟩, .ok response⟩)).1.standing = { s.standing with
      submitted := true, closing := [now + s.setup.settings.closeDelay] } := by
  let freed := { s with awaited := s.awaited.set .submit none }
  have waiting : s.awaited.get .submit = some id := waiting
  have taken : s.handleReply now ⟨⟨id, .errand .submit⟩, .ok response⟩ =
      freed.submitDone now (.ok response) := handleReply_of_errand live waiting _
  exact (congrArg standing taken).trans (freed.standing_submitDone now response)

end Session

namespace Run

open Session

variable {setup : Setup} {past later earlier : History} {s : Session} {t : Turn}
  {token token' : Token}

theorem turn_of_mem_log (run : Run setup past s) {x : Effect} (hx : x ∈ past.log) :
    ∃ later t earlier, past = later ++ t :: earlier ∧ Run setup earlier t.before ∧
      x ∈ t.effects := by
  obtain ⟨t, ht, sent⟩ := History.mem_log.1 hx
  obtain ⟨later, earlier, rfl⟩ := List.append_of_mem ht
  exact ⟨later, t, earlier, rfl, run.before, sent⟩

/-! ### One submission at a time -/

/-- A turn that sends the form is a submission, of a form that was not accepted before. -/
theorem sendsForm (run : Run setup past s) (now : Nat) (action : Session.Action) {form : Int64}
    {kinds : List Kind}
    (sent : .request (.sendForm token form kinds) ∈ Turn.effects ⟨s, now, action⟩) :
    action = .submit ∧ s.submitted = false ∧ token = ⟨s.nextId, .errand .submit⟩ :=
  (s.act_advance now action).sendsForm run.outbox_eq_nil sent

theorem submits_of_issued (run : Run setup past s) {now : Nat} {action : Session.Action}
    (issued : token ∈ tokensOf (Turn.effects ⟨s, now, action⟩)) (submission : token.isSubmission = true) :
    action = .submit ∧ s.submitted = false ∧
      ∃ form kinds, .request (.sendForm token form kinds) ∈ Turn.effects ⟨s, now, action⟩ := by
  obtain rfl : action = .submit :=
    (run.acts now action).of_submission run.outbox_eq_nil issued submission
  rcases run.submit_cases now with same | ⟨⟨-, kinds, token', effects⟩, -⟩
  · have silent : Turn.effects ⟨s, now, .submit⟩ = [] :=
      (congrArg Session.outbox same).trans run.outbox_eq_nil
    simp [silent] at issued
  · rw [effects] at issued ⊢
    have sent : Effect.request (.sendForm token' s.form.id kinds) ∈
        Turn.effects ⟨s, now, .submit⟩ := effects ▸ List.mem_singleton_self _
    obtain rfl : token = token' := List.mem_singleton.1 issued
    exact ⟨rfl, (run.sendsForm now .submit sent).2.1, s.form.id, kinds, List.mem_singleton_self _⟩

/-- The form was sent under exactly the tokens of submissions. -/
theorem sentForm_iff (run : Run setup past s) (issued : token ∈ past.tokens) :
    past.SentForm token ↔ token.isSubmission = true := by
  constructor
  · rintro ⟨form, kinds, sent⟩
    obtain ⟨later, t, earlier, rfl, before, sent⟩ := run.turn_of_mem_log sent
    obtain ⟨-, -, rfl⟩ := before.sendsForm t.now t.action sent
    rfl
  · intro submission
    obtain ⟨r, sent, ht⟩ := mem_tokensOf.1 issued
    obtain ⟨later, t, earlier, rfl, before, here⟩ := run.turn_of_mem_log sent
    obtain ⟨-, -, form, kinds, sent⟩ :=
      before.submits_of_issued (mem_tokensOf.2 ⟨r, here, ht⟩) submission
    exact ⟨form, kinds, History.mem_log.2 ⟨t, by simp, sent⟩⟩

theorem submit_of_outstanding (run : Run setup past s) (outstanding : past.Outstanding token)
    (submission : token.isSubmission = true) :
    s.cancelled = false ∧ s.awaited.submit = some token.id := by
  have live := run.live_of_submitting ⟨token, outstanding, submission⟩
  exact ⟨live, submit_of_awaits (run.awaits_of_outstanding live outstanding)
    (Token.isSubmission_iff.1 submission)⟩

theorem outstanding_submission_unique (run : Run setup past s)
    (outstanding : past.Outstanding token) (outstanding' : past.Outstanding token')
    (submission : token.isSubmission = true) (submission' : token'.isSubmission = true) :
    token = token' := by
  obtain ⟨-, waiting⟩ := run.submit_of_outstanding outstanding submission
  obtain ⟨-, waiting'⟩ := run.submit_of_outstanding outstanding' submission'
  exact Token.eq_of_submission submission submission'
    (Option.some.inj (waiting.symm.trans waiting'))

/-! ### Forms that were accepted -/

theorem standing_of_accepts (run : Run setup past t.before) (accepts : t.AcceptsForm past) :
    t.after.submitted = true ∧ t.after.closings = [t.now + setup.settings.closeDelay] := by
  obtain ⟨token, response, ha, sent, outstanding⟩ := accepts
  have submission := (run.sentForm_iff outstanding.1).1 sent
  obtain ⟨live, waiting⟩ := run.submit_of_outstanding outstanding submission
  have pending := Token.isSubmission_iff.1 submission
  obtain ⟨before, now, action⟩ := t
  obtain ⟨id, _⟩ := token
  cases pending
  cases ha
  have standing := standing_of_accepted now live waiting response
  rw [← run.setup_eq]
  exact ⟨congrArg Standing.submitted standing, congrArg Standing.closing standing⟩

theorem submitted_of_accepts (run : Run setup (later ++ t :: earlier) s)
    (accepts : t.AcceptsForm earlier) : s.submitted = true := by
  induction later generalizing s with
  | nil =>
      cases run with
      | step now action run => exact (run.standing_of_accepts accepts).1
  | cons u later ih =>
      cases run with
      | @step _ before now action run =>
          rcases (before.act_advance now action).lasting.2 with same | ⟨submitted, -⟩
          · exact same.trans (ih run)
          · exact submitted

/-- A form that is being submitted was not accepted before. -/
theorem unsubmitted_of_submitting (run : Run setup past s) (submitting : past.Submitting) :
    s.submitted = false := by
  induction run with
  | start => rfl
  | @step past s now action run _ _ ih =>
      obtain ⟨token, outstanding, submission⟩ := submitting
      show (s.act now action).1.submitted = false
      rcases outstanding_of_cons outstanding with issued | before
      · obtain ⟨rfl, unsubmitted, -⟩ := run.submits_of_issued issued submission
        rcases (s.act_advance now .submit).lasting.2 with same | ⟨-, -, r, _, reply, -⟩
        · exact same.trans unsubmitted
        · cases reply
      · rcases (s.act_advance now action).lasting.2 with
          same | ⟨-, live, r, _, reply, awaits, pending, -⟩
        · exact same.trans (ih ⟨token, before, submission⟩)
        · -- What is accepted is the submission that is outstanding, so it is answered here.
          have waiting := submit_of_awaits awaits pending
          have waiting' := (run.submit_of_outstanding before submission).2
          have same : r.token = token := Token.eq_of_submission (Token.isSubmission_iff.2 pending)
            submission (Option.some.inj (waiting.symm.trans waiting'))
          refine absurd ?_ (outstanding.2.1 _ List.mem_cons_self)
          show action.answers? = some token
          rw [reply, ← same]
          rfl

theorem idle_of_submitted (run : Run setup past s) (live : s.cancelled = false)
    (submitted : s.submitted = true) : s.awaited.submit = none := by
  by_contra waiting
  have unsubmitted := run.unsubmitted_of_submitting ((run.submitting_iff live).2 waiting)
  exact absurd (submitted.symm.trans unsubmitted) (by simp)

/-- The form is submitted once. At most one submission is outstanding at a time. Once a submission that
was outstanding was answered with success, the form is never sent again, whatever is called or comes
in, and also after starting over. -/
theorem submitted_once (run : Run setup past s) :
    (∀ token token', past.SentForm token → past.SentForm token' → past.Outstanding token →
      past.Outstanding token' → token = token') ∧
    ∀ later t earlier, past = later ++ t :: earlier → t.AcceptsForm earlier →
      ∀ u ∈ later, ¬ u.SendsForm := by
  refine ⟨fun token token' sent sent' outstanding outstanding' => ?_, ?_⟩
  · exact run.outstanding_submission_unique outstanding outstanding'
      ((run.sentForm_iff outstanding.1).1 sent) ((run.sentForm_iff outstanding'.1).1 sent')
  · rintro later t earlier rfl accepts u hu ⟨token, form, kinds, sent⟩
    obtain ⟨after, between, rfl⟩ := List.append_of_mem hu
    rw [List.append_assoc, List.cons_append] at run
    have before := run.before
    have unsubmitted := (before.sendsForm u.now u.action sent).2.1
    exact absurd ((before.submitted_of_accepts accepts).symm.trans unsubmitted) (by simp)

/-- A form is submitted and accepted, and the session starts over: the form is complete again, and it is
not sent again. -/
theorem submitted_once_after_restart :
    let form : AuthorizationForm := ⟨1, [[⟨.email, false, false, false⟩]], none⟩
    let before := play (.fresh .plain .empty) ((4, .submit) :: opening form [.email "a@b.c"])
    let t : Turn := ⟨before.2, 5, .reply ⟨⟨4, .errand .submit⟩, .ok .ok⟩⟩
    let s := (play t.after (reopening 4 6 form [.email "a@b.c"])).2
    t.AcceptsForm before.1 ∧ s.form.isReady .email = true ∧ ¬ Turn.SendsForm ⟨s, 9, .submit⟩ := by
  intro form before t s
  let later := (9, .submit) :: reopening 4 6 form [.email "a@b.c"]
  let earlier := (t.now, t.action) :: (4, .submit) :: opening form [.email "a@b.c"]
  have playable : Playable (.fresh .plain .empty) (later ++ earlier) := by decide +kernel
  have run := Run.of_playable playable
  rw [play_append] at run
  have accepts : t.AcceptsForm before.1 := by
    refine ⟨_, _, rfl, ⟨1, [.email], ?_⟩, ?_⟩ <;> decide +kernel
  refine ⟨accepts, by decide +kernel, ?_⟩
  exact (submitted_once run).2 (play t.after later).1 t before.1 rfl accepts _ List.mem_cons_self

/-- An answer that comes too late does not count: a form that was submitted before the session started
over is submitted again, although the server has accepted it meanwhile. -/
theorem submitted_again :
    ¬ ∀ past s, Run .plain past s → ∀ later t earlier token response,
      past = later ++ t :: earlier → History.SentForm earlier token →
      t.action = .reply ⟨token, .ok response⟩ → ∀ u ∈ later, ¬ u.SendsForm := by
  intro once
  let form : AuthorizationForm := ⟨1, [[⟨.email, false, false, false⟩]], none⟩
  let actions := reopening 4 5 form [.email "a@b.c"] ++
    (4, .submit) :: opening form [.email "a@b.c"]
  let before := play (.fresh .plain .empty) actions
  let t : Turn := ⟨before.2, 8, .reply ⟨⟨4, .errand .submit⟩, .ok .ok⟩⟩
  have playable : Playable (.fresh .plain .empty) ((9, .submit) :: (t.now, t.action) :: actions) := by
    decide +kernel
  have sent : History.SentForm before.1 ⟨4, .errand .submit⟩ := ⟨1, [.email], by decide +kernel⟩
  have again : Turn.SendsForm ⟨t.after, 9, .submit⟩ :=
    ⟨⟨8, .errand .submit⟩, 1, [.email], by decide +kernel⟩
  exact once _ _ (.of_playable playable) [⟨t.after, 9, .submit⟩] t before.1 _ _ rfl sent rfl _
    (List.mem_singleton_self _) again

/-! ### Closing after a while -/

theorem closings_of_accepts (run : Run setup (later ++ t :: earlier) s)
    (accepts : t.AcceptsForm earlier) (live : s.cancelled = false) :
    ((∀ u ∈ later, u.action ≠ .restart) → s.closings = [t.now + setup.settings.closeDelay]) ∧
      ((∃ u ∈ later, u.action = .restart) → s.closings = []) := by
  induction later generalizing s with
  | nil =>
      cases run with
      | step now action run =>
          exact ⟨fun _ => (run.standing_of_accepts accepts).2, fun ⟨_, hu, _⟩ => absurd hu (by simp)⟩
  | cons u later ih =>
      have whole := run
      cases run with
      | @step _ before now action run =>
          have live_before := (run.acts now action).live live
          have submitted := run.submitted_of_accepts accepts
          by_cases restart : action = .restart
          · subst restart
            have disarmed : before.restart.closings = [] :=
              congrArg Standing.closing (standing_restart live_before)
            exact ⟨fun others => absurd rfl (others _ List.mem_cons_self), fun _ => disarmed⟩
          · have kept : (before.act now action).1.closings = before.closings :=
              (before.act_advance now action).closings_eq restart
                (run.idle_of_submitted live_before submitted) live
            obtain ⟨armed, disarmed⟩ := ih run live_before
            refine ⟨fun others => kept.trans (armed fun u hu => ?_), ?_⟩
            · exact others u (List.mem_cons_of_mem _ hu)
            · rintro ⟨u, hu, anew⟩
              rcases List.mem_cons.1 hu with rfl | hu
              · exact absurd anew restart
              · exact kept.trans (disarmed ⟨u, hu, anew⟩)

theorem accepted_of_submitted (run : Run setup past s) (submitted : s.submitted = true) :
    ∃ later t earlier, past = later ++ t :: earlier ∧ t.AcceptsForm earlier := by
  induction run with
  | start => cases submitted
  | @step past s now action run _ genuine ih =>
      rcases (s.act_advance now action).lasting.2 with
        same | ⟨-, live, r, response, ha, awaits, pending, ok⟩
      · obtain ⟨later, t, earlier, rfl, accepts⟩ := ih (same.symm.trans submitted)
        exact ⟨_ :: later, t, earlier, rfl, accepts⟩
      · obtain ⟨token, outcome⟩ := r
        subst ha ok
        have issued : token ∈ past.tokens := genuine token rfl
        have sent := (run.sentForm_iff issued).2 (Token.isSubmission_iff.2 pending)
        exact ⟨[], _, past, rfl, token, response, rfl, sent,
          run.outstanding_of_awaits live issued awaits⟩

/-- A form that was accepted has its session closed. In an open session whose form counts as submitted
there was such an acceptance. Unless the session has started over since, exactly one timer is set to
close it, for the configured delay after that moment: a tick before leaves the session open and the timer
in place, and a tick at that moment or later closes it and tells of the success. Starting over takes the
timer off and leaves the form submitted, and from then on no tick closes the session. -/
theorem closing_after_acceptance (run : Run setup past s) (live : s.cancelled = false)
    (submitted : s.submitted = true) :
    ∃ later t earlier, past = later ++ t :: earlier ∧ t.AcceptsForm earlier ∧
      ((∀ u ∈ later, u.action ≠ .restart) →
        s.closings = [t.now + setup.settings.closeDelay] ∧
        (∀ now < t.now + setup.settings.closeDelay,
          (Turn.after ⟨s, now, .tick⟩).cancelled = false ∧
          (Turn.after ⟨s, now, .tick⟩).closings = s.closings) ∧
        ∀ now ≥ t.now + setup.settings.closeDelay,
          (Turn.after ⟨s, now, .tick⟩).cancelled = true ∧
          .notice (.close setup.successUrl?) ∈ Turn.effects ⟨s, now, .tick⟩) ∧
      ((∃ u ∈ later, u.action = .restart) →
        s.closings = [] ∧ ∀ now, (Turn.after ⟨s, now, .tick⟩).cancelled = false) := by
  obtain ⟨later, t, earlier, rfl, accepts⟩ := run.accepted_of_submitted submitted
  obtain ⟨armed, disarmed⟩ := run.closings_of_accepts accepts live
  have early {now : Nat} (waiting : ∀ due ∈ s.closings, now < due) :
      (s.tick now).cancelled = false ∧ (s.tick now).closings = s.closings := by
    have same := standing_tick waiting
    exact ⟨(congrArg Standing.cancelled same).trans live, congrArg Standing.closing same⟩
  refine ⟨later, t, earlier, rfl, accepts, fun others => ?_, fun anew => ?_⟩
  · have armed := armed others
    refine ⟨armed, fun now before => early ?_, fun now after => ?_⟩
    · rw [armed]
      exact fun due hd => List.mem_singleton.1 hd ▸ before
    · have late : ∃ due ∈ s.closings, due ≤ now := by
        rw [armed]
        exact ⟨_, List.mem_singleton_self _, after⟩
      have closes := tick_closes live late
      refine ⟨congrArg Standing.cancelled closes.standing, ?_⟩
      have told := closes.told submitted
      rw [run.setup_eq] at told
      exact told
  · have disarmed := disarmed anew
    refine ⟨disarmed, fun now => (early ?_).1⟩
    rw [disarmed]
    exact nofun

/-- A form is accepted at 5, an editor is opened and the password settings are read again: at 2004 the
session is still open, at 2005 it closes with the outcome added to the address. -/
theorem closing_after_acceptance_of_email :
    let form : AuthorizationForm := ⟨1, [[⟨.email, false, false, false⟩]], none⟩
    let link : LinkRequest := ⟨1, "null", some "https://bot.example/?a=b", "key", "nonce"⟩
    let start : Session := .fresh ⟨.standard, link, none⟩ .empty
    let s := (play start ([(8, .tick), (7, .reloadPassword), (6, .startEdit .email),
      (5, .reply ⟨⟨4, .errand .submit⟩, .ok .ok⟩), (4, .submit)] ++
        opening form [.email "a@b.c"])).2
    (Turn.after ⟨s, 2004, .tick⟩).cancelled = false ∧
      .notice (.close (some "https://bot.example/?a=b&tg_passport=success")) ∈
        Turn.effects ⟨s, 2005, .tick⟩ := by
  intro form link start s
  let actions : List (Nat × Session.Action) := [(8, .tick), (7, .reloadPassword),
    (6, .startEdit .email), (5, .reply ⟨⟨4, .errand .submit⟩, .ok .ok⟩), (4, .submit)] ++
      opening form [.email "a@b.c"]
  have playable : Playable start actions := by decide +kernel
  have calm : ∀ u ∈ (play start actions).1, u.startsOver = false ∧ u.before.cancelled = false := by
    decide +kernel
  obtain ⟨later, t, earlier, split, -, closing, -⟩ :=
    closing_after_acceptance (.of_playable playable) (s := s) (by decide +kernel) (by decide +kernel)
  obtain ⟨armed, early, late⟩ := closing fun u hu restart => by
    obtain ⟨goes_on, live⟩ := calm u (by rw [split]; exact List.mem_append_left _ hu)
    exact absurd (goes_on.symm.trans (Turn.startsOver_iff.2 ⟨restart, live⟩)) (by simp)
  have due : s.closings = [2005] := by decide +kernel
  have time : t.now + Settings.standard.closeDelay = 2005 :=
    (List.cons.inj (armed.symm.trans due)).1
  have url : Setup.successUrl? ⟨.standard, link, none⟩ =
      some "https://bot.example/?a=b&tg_passport=success" := by decide +kernel
  refine ⟨(early 2004 (by rw [time]; decide)).1, ?_⟩
  rw [← url]
  exact (late 2005 (Nat.le_of_eq time)).2

/-- Starting over between the acceptance and the closing takes the timer off. The session counts as
submitted and stays open: no tick closes it, and the form cannot be submitted. -/
theorem left_open_by_restart :
    ∃ past s, Run .plain past s ∧ s.cancelled = false ∧ s.submitted = true ∧ s.closings = [] ∧
      (∀ now, (Turn.after ⟨s, now, .tick⟩).cancelled = false) ∧
      s.form.isReady .email = true ∧ ∀ now, Turn.effects ⟨s, now, .submit⟩ = [] := by
  let form : AuthorizationForm := ⟨1, [[⟨.email, false, false, false⟩]], none⟩
  let actions := reopening 4 6 form [.email "a@b.c"] ++
    [(5, .reply ⟨⟨4, .errand .submit⟩, .ok .ok⟩), (4, .submit)] ++ opening form [.email "a@b.c"]
  have playable : Playable (.fresh .plain .empty) actions := by decide +kernel
  obtain ⟨past, s, run, live, submitted, disarmed, ready⟩ : ∃ past s, Run .plain past s ∧
      s.cancelled = false ∧ s.submitted = true ∧ s.closings = [] ∧ s.form.isReady .email = true :=
    ⟨_, _, .of_playable playable, by decide +kernel, by decide +kernel, by decide +kernel,
      by decide +kernel⟩
  refine ⟨past, s, run, live, submitted, disarmed, fun now => ?_, ready, fun now => ?_⟩
  · have same : (s.tick now).standing = s.standing := standing_tick (by rw [disarmed]; exact nofun)
    exact (congrArg Standing.cancelled same).trans live
  · exact (congrArg Session.outbox (submit_of_submitted submitted)).trans run.outbox_eq_nil

end Run

end IdentityForm
