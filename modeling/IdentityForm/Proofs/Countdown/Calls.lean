import IdentityForm.Proofs.Closed
import IdentityForm.Proofs.Countdown
import IdentityForm.Proofs.Verified

/-! # Voice calls

A call is asked for by a tick, once the time has come that the answer to the sending of a code
announced, and at most once for a code. Nothing asks for it after the verification has ended.
-/

namespace IdentityForm

def Effect.isCall : Effect → Bool
  | .request (.resendPhoneCode _ _) => true
  | _ => false

namespace Turn

/-- A code is asked for under a token. -/
def Sends (token : Token) (t : Turn) : Prop :=
  ∃ target, .request (.sendPhoneCode token target) ∈ t.effects

def Calls (t : Turn) : Prop := ∃ x ∈ t.effects, x.isCall = true

/-- The answer to the sending of a code says when the call is due. -/
def Announces (past : History) (token : Token) (due : Nat) (t : Turn) : Prop :=
  ∃ r seconds, t.action = .reply r ∧ r.token = token ∧ past.Outstanding token ∧
    r.outcome.countdown? .phone = some seconds ∧ due = t.now + 1000 * seconds

end Turn

namespace History

/-- A code was asked for under a token, and since then the verification has not ended and no call was
asked for. -/
def Verifying (token : Token) : History → Prop
  | [] => False
  | t :: past => t.after.cancelled = false ∧
    (t.Sends token ∨ Verifying token past ∧ ¬ t.Ends past .phone ∧ ¬ t.Calls)

/-- The answer to the sending of a code has said when the call is due. -/
def Announced (token : Token) (due : Nat) : History → Prop
  | [] => False
  | t :: past => t.Announces past token due ∨ Announced token due past

theorem tokens_subset_append (later earlier : History) :
    earlier.tokens ⊆ History.tokens (later ++ earlier) := by
  induction later with
  | nil => exact List.Subset.refl _
  | cons t later ih =>
      rw [List.cons_append, tokens_cons]
      exact List.subset_append_of_subset_left _ ih

end History

theorem SaveFailure.ofCode_phone_ne (code : String) :
    SaveFailure.ofCode .phone code ≠ .verifyEmail := by
  intro h
  unfold SaveFailure.ofCode at h
  split_ifs at h with _ _ _ email
  exact absurd email.1 (by simp)

namespace Session

variable {s s' : Session} {now : Nat} {a : Action} {r : Reply} {kind : Kind} {e e' : Entry}
  {es : List Effect} {task : Task} {outcome : Outcome} {tokens : List Token}

/-! ## Who asks for a call -/

theorem uncalled_of_silent (silent : tokensOf es = []) : ∀ x ∈ es, x.isCall = false := by
  intro x hx
  cases x with
  | notice n => rfl
  | request r =>
      cases r with
      | resendPhoneCode token target =>
          have issued : token ∈ tokensOf es := mem_tokensOf.2 ⟨_, hx, rfl⟩
          rw [silent] at issued
          cases issued
      | _ => rfl

theorem Change.uncalled (h : s.Change now a e es e') (time : a ≠ .tick) :
    ∀ x ∈ es, x.isCall = false := by
  cases h with
  | calling ha => exact absurd ha time
  | givenUp => exact uncalled_of_silent (tokensOf_cancels _)
  | uploaded => exact uncalled_of_silent (tokensOf_uploading _ _ _ _)
  | checked _ _ _ hr => subst hr; split <;> simp [Effect.isCall]
  | _ => simp [Effect.isCall]

theorem Uptake.uncalled (h : s.Uptake now e task outcome es e') : ∀ x ∈ es, x.isCall = false := by
  cases h with
  | accepted =>
      intro x hx
      rcases List.mem_append.1 hx with hx | hx
      · exact uncalled_of_silent (tokensOf_cancels _) x hx
      · simp only [List.mem_cons, List.not_mem_nil, or_false] at hx
        rcases hx with rfl | rfl <;> rfl
  | acceptedLocked => exact uncalled_of_silent (tokensOf_cancels _)
  | _ => simp [Effect.isCall]

/-- No action but a tick asks for a call. -/
theorem Acts.uncalled (h : Acts now a s s') (time : a ≠ .tick) :
    s'.outbox.filter Effect.isCall = s.outbox.filter Effect.isCall := by
  refine h.induction (P := fun t => t.outbox.filter Effect.isCall = s.outbox.filter Effect.isCall)
    ?_ ?_ ?_ rfl
  · intro t t' move same
    refine Eq.trans ?_ same
    cases move with
    | rest es _ outbox calm => exact filter_outbox outbox (uncalled_of_silent (tokensOf_of_calm calm))
    | ask errand r _ hr _ _ _ _ _ outbox =>
        refine filter_outbox outbox (List.forall_mem_singleton.2 ?_)
        cases r <;> first | rfl | cases hr
    | entry e g es _ change _ outbox => exact filter_outbox outbox (change.uncalled time)
    | abandon es _ _ outbox silent => exact filter_outbox outbox (uncalled_of_silent silent)
  · intro r t _ _ _ settle
    cases settle with
    | errand _ _ _ _ _ outbox calm | form _ _ _ _ _ _ outbox calm
    | unlock _ _ _ _ _ _ _ _ outbox calm =>
        exact filter_outbox outbox (uncalled_of_silent (tokensOf_of_calm calm))
    | task _ _ _ _ _ _ _ uptake _ outbox => exact filter_outbox outbox uptake.uncalled
  · intro t t' close same
    obtain ⟨es, outbox, silent, -⟩ := close.effects
    exact (filter_outbox outbox (uncalled_of_silent silent)).trans same

/-- Only a phone is called. -/
theorem phone_of_countdown {t : Nat} (h : outcome.countdown? kind = some t) : kind = .phone := by
  cases outcome with
  | failed error => cases h
  | ok response =>
      cases response with
      | phoneCode code =>
          by_contra other
          simp [Outcome.countdown?, codeSent?, other] at h
      | emailCode code =>
          simp only [Outcome.countdown?, codeSent?] at h
          split at h <;> cases h
      | _ => cases h

theorem uncalled_reportUnchanged :
    s.reportUnchanged.outbox.filter Effect.isCall = s.outbox.filter Effect.isCall := by
  have finished (queue : List Kind) (u : Session) :
      (queue.foldl finishUnchanged u).outbox.filter Effect.isCall =
        u.outbox.filter Effect.isCall := by
    induction queue generalizing u with
    | nil => rfl
    | cons kind rest ih =>
        rw [List.foldl_cons, ih]
        refine filter_outbox (outbox_finishUnchanged u kind) ?_
        split <;> simp [Effect.isCall]
  unfold reportUnchanged
  split
  · rfl
  · exact finished _ _

/-- What a tick has done so far: nothing about calls, or one was asked for whose time has come. -/
inductive Dials (now : Nat) (s u : Session) : Prop
  | silent : u.outbox.filter Effect.isCall = s.outbox.filter Effect.isCall →
      (u.cancelled = false → ∀ kind, u.due? kind = s.due? kind) → Dials now s u
  | calls (due : Nat) (x : Effect) : s.due? .phone = some due → due ≤ now → x.isCall = true →
      u.outbox.filter Effect.isCall = s.outbox.filter Effect.isCall ++ [x] →
      (u.cancelled = false → ∀ kind, u.due? kind = none) → Dials now s u

/-- Firing anything but the timer of a countdown asks for no call. -/
theorem fire_silent (now : Nat) {timer : Timer} (plain : ∀ kind, timer ≠ .callTick kind)
    (live : s.cancelled = false) :
    (s.fire now timer).outbox.filter Effect.isCall = s.outbox.filter Effect.isCall ∧
      ((s.fire now timer).cancelled = false → ∀ kind, (s.fire now timer).due? kind = s.due? kind) := by
  cases timer with
  | closeAfterSubmit =>
      obtain ⟨es, outbox, silent, -⟩ := (cancelSurely_close live).effects
      refine ⟨filter_outbox outbox (uncalled_of_silent silent), fun open_ => ?_⟩
      exact absurd ((cancelled_cancelSurely s).symm.trans open_) (by simp)
  | shortPoll =>
      refine ⟨?_, fun _ kind => read_of_form (congrArg Prod.fst desk_requestPasswordState)⟩
      show s.requestPasswordState.outbox.filter Effect.isCall = _
      unfold requestPasswordState
      split
      · rfl
      · exact filter_outbox rfl (List.forall_mem_singleton.2 rfl)
  | forgetPassword => exact ⟨rfl, fun _ _ => rfl⟩
  | callTick kind => exact absurd rfl (plain kind)

theorem Dials.fire {u : Session} (h : Dials now s u) (phone : ∀ kind, s.due? kind ≠ none → kind = .phone)
    (live : u.cancelled = false) (timer : Timer) : Dials now s (u.fire now timer) := by
  by_cases plain : ∀ kind, timer ≠ .callTick kind
  · obtain ⟨silent, same⟩ := fire_silent now plain live
    cases h with
    | silent uncalled still =>
        exact .silent (silent.trans uncalled) fun open_ kind =>
          (same open_ kind).trans (still live kind)
    | calls due x waiting come call called ended =>
        exact .calls due x waiting come call (silent.trans called) fun open_ kind =>
          (same open_ kind).trans (ended live kind)
  · simp only [ne_eq, not_forall, not_not] at plain
    obtain ⟨kind, rfl⟩ := plain
    cases callTick_step u now kind with
    | idle _ same => exact (show u.fire now (.callTick kind) = u from same).symm ▸ h
    | goesOn due waiting _ form _ outbox =>
        have silent := filter_outbox (p := Effect.isCall) outbox (List.forall_mem_singleton.2 rfl)
        cases h with
        | silent uncalled still =>
            exact .silent (silent.trans uncalled) fun _ k => (read_of_form form).trans (still live k)
        | calls _ _ _ _ _ _ ended =>
            exact absurd ((ended live kind).symm.trans waiting) (by simp)
    | calls due target waiting come ended others _ outbox =>
        cases h with
        | calls _ _ _ _ _ _ ended => exact absurd ((ended live kind).symm.trans waiting) (by simp)
        | silent uncalled still =>
            have before : s.due? kind = some due := (still live kind).symm.trans waiting
            obtain rfl := phone kind (by simp [before])
            let call : Request := .resendPhoneCode ⟨u.nextId, .task .resendCall .phone⟩ target
            refine .calls due (.request call) before come rfl ?_ fun _ k => ?_
            · show List.filter Effect.isCall (u.callTick now .phone).outbox = _
              rw [outbox, List.filter_append, uncalled]
              rfl
            · by_cases here : k = .phone
              · exact here ▸ ended
              · refine (others k here).trans ((still live k).trans ?_)
                by_contra waits
                exact here (phone k waits)

/-- A tick asks for a call at most once, when its time has come, and then it is waited for no longer. -/
theorem tick_dials (now : Nat) (live : s.cancelled = false)
    (phone : ∀ kind, s.due? kind ≠ none → kind = .phone) :
    Dials now s (s.tick now) := by
  rw [tick_eq_fires]
  refine fires_induction now (P := fun _ u => Dials now s u)
    (fun t _ _ live dials => dials.fire phone live t.2) (fun _ _ _ _ dials => dials) ?_
  exact .silent uncalled_reportUnchanged fun _ kind => due?_later now kind live

/-! ## Requests for a code -/

/-- Only the answer to a save asks for a code. -/
theorem Uptake.asked?_cases (h : s.Uptake now e task outcome es e') (phone : e.kind = .phone)
    (fits : e.Fits task) {id : Nat} (asked : e'.verification.asked? = some id) :
    e.verification.asked? = some id ∨
      ∃ target, .request (.sendPhoneCode ⟨id, .task .sendCode .phone⟩ target) ∈ es := by
  cases h with
  | unverifiedPhone =>
      have same : s.nextId = id := Option.some.inj asked
      rw [same, phone]
      exact .inr ⟨_, List.mem_singleton.2 rfl⟩
  | unverifiedEmail email =>
      rw [phone] at email
      exact absurd email (SaveFailure.ofCode_phone_ne _)
  | codeSent => cases asked
  | codeNotSent => cases asked
  | accepted => cases asked
  | acceptedLocked => cases asked
  | deleted => simp [Verification.asked?, Verification.none] at asked
  | refused => simp [Verification.asked?, fits.2 rfl] at asked
  | called => exact .inl asked
  | notCalled => exact .inl asked
  | _ => exact .inl (by simpa using asked)

theorem Uptake.verification_of_unsent (h : s.Uptake now e .sendCode outcome es e')
    (lacks : ∀ response, outcome = .ok response → codeSent? e.kind response = none) :
    e'.verification = .none := by
  cases h with
  | codeSent sent => exact absurd ((lacks _ rfl).symm.trans sent) (by simp)
  | codeNotSent => rfl

theorem Uptake.verification_of_accepted (h : s.Uptake now e .checkCode outcome es e')
    (accepted : ∃ response, outcome = .ok response) : e'.verification = .none := by
  obtain ⟨response, rfl⟩ := accepted
  cases h <;> rfl

theorem read_after_reply {mid : Session} {p : Verification → Option Nat} (gated : mid.core.Gated)
    (moves : Moves now (.reply r) mid s') : s'.read kind p = mid.read kind p :=
  moves.read_eq gated (by simp) fun _ _ _ _ _ change => by
    cases change with
    | saved ha => cases ha
    | checked ha => cases ha
    | miscoded ha => cases ha
    | givenUp ha => cases ha
    | calling ha => cases ha
    | _ => first | rfl | simp

end Session

namespace Run

variable {setup : Setup} {past later earlier : History} {s : Session} {now : Nat}
  {action : Session.Action} {p : Verification → Option Nat}

theorem read_of_ends (run : Run setup past s) (live : (s.act now action).1.cancelled = false)
    (ends : Turn.Ends past .phone ⟨s, now, action⟩) (blank : p .none = none) :
    (s.act now action).1.read .phone p = none := by
  have before := (run.acts now action).live live
  have ended (r : Reply) (ha : action = .reply r) (outstanding : past.Outstanding r.token)
      (task : Task) (ht : r.token.pending = .task task .phone)
      (uptake : ∀ e e' es, e.awaits? task = some r.token.id →
        s.Uptake now e task r.outcome es e' → e.kind = .phone → e'.verification = .none) :
      (s.act now action).1.read .phone p = none := by
    subst ha
    have awaits := run.awaits_of_outstanding before outstanding
    cases run.acts now (.reply r) with
    | moves no_reply => exact absurd rfl (no_reply r)
    | close no_reply => exact absurd rfl (no_reply r)
    | @dropped r' ha unwanted =>
        cases ha
        exact absurd ⟨before, awaits⟩ unwanted
    | @reply r' ha _ _ settles =>
        cases ha
        obtain ⟨mid, settle, moves⟩ := settles
        rw [Session.read_after_reply (settle.gated run.gated) moves]
        rcases settle.read_cases run.gated .phone with ⟨other, -⟩ |
          ⟨task', e, e', es, ht', he, waiting, taken, there, -⟩
        · exact absurd ht (other task)
        · cases ht.symm.trans ht'
          rw [Session.read_of_entry there, uptake e e' es waiting taken (Form.kind_of_entry he), blank]
  rcases ends with ha | ha | ⟨r, ha, outstanding, accepts⟩ | ⟨ha, outstanding, lacks⟩
  · have ha : action = .restart := ha
    subst ha
    exact Session.read_restart before
  · have ha : action = .cancelVerification .phone := ha
    subst ha
    cases there : Form.entry? (s.cancelVerification .phone).1.form .phone with
    | none => exact Session.read_of_absent there
    | some e' =>
        have given := Session.verification_cancelVerification there
        exact (Session.read_of_entry there).trans (by rw [given, blank])
  · obtain ⟨pending, accepted⟩ := accepts
    exact ended r ha outstanding .checkCode pending fun e e' es _ taken _ =>
      taken.verification_of_accepted accepted
  · exact ended _ ha outstanding .sendCode lacks.1 fun e e' es _ taken phone =>
      taken.verification_of_unsent (phone ▸ lacks.2)

/-- A code that was asked for and not sent yet leaves no call to be waited for. -/
theorem due?_of_asked? (run : Run setup past s) (live : s.cancelled = false) {id : Nat}
    (asked : s.asked? .phone = some id) : s.due? .phone = none := by
  cases he : s.form.entry? .phone with
  | none => exact Session.read_of_absent he
  | some e =>
      have asked : e.verification.asked? = some id := (Session.read_of_entry he).symm.trans asked
      have uncoded : e.verification.codeLength = none := by
        by_contra coded
        simp [Verification.asked?, coded] at asked
      have kept := (run.books live).entries e (Form.mem_of_entry he)
      refine (Session.read_of_entry he).trans ?_
      rw [Verification.due?, (kept.uncoded uncoded).1]

/-- The answer to the sending of a code finds the request for it. -/
theorem asked?_of_awaits (run : Run setup past s) (live : s.cancelled = false) {token : Token}
    (issued : token ∈ past.tokens) (pending : token.pending = .task .sendCode .phone)
    (awaits : s.core.Awaits token) : s.asked? .phone = some token.id := by
  unfold Core.Awaits at awaits
  rw [pending] at awaits
  obtain ⟨e, he, waiting⟩ := awaits
  have held := (run.books live).entries e (Form.mem_of_entry he)
  have fits : e.Fits .sendCode :=
    held.fits (run.books live).unique issued (Form.kind_of_entry he ▸ pending) waiting
  refine (Session.read_of_entry he).trans ?_
  rw [Verification.asked?, if_pos (fits.1 rfl)]
  exact waiting

theorem dials_of_calls (run : Run setup past s) (live : s.cancelled = false)
    (phone : ∀ kind, s.due? kind ≠ none → kind = .phone) (calls : Turn.Calls ⟨s, now, action⟩) :
    action = .tick ∧ ∃ due x, s.due? .phone = some due ∧ due ≤ now ∧
      (s.act now action).1.outbox.filter Effect.isCall = [x] ∧
      ((s.act now action).1.cancelled = false → ∀ kind, (s.act now action).1.due? kind = none) := by
  obtain ⟨x, sent, call⟩ := calls
  have called : x ∈ (s.act now action).1.outbox.filter Effect.isCall :=
    List.mem_filter.2 ⟨sent, call⟩
  have time : action = .tick := by
    by_contra other
    rw [(run.acts now action).uncalled other, run.outbox_eq_nil] at called
    cases called
  subst time
  refine ⟨rfl, ?_⟩
  cases Session.tick_dials now live phone with
  | silent uncalled =>
      replace called : x ∈ (s.tick now).outbox.filter Effect.isCall := called
      rw [uncalled, run.outbox_eq_nil] at called
      cases called
  | calls due x waiting come _ called ended =>
      rw [run.outbox_eq_nil] at called
      exact ⟨due, x, waiting, come, called, ended⟩

end Run

/-- What is waited for was foreseen: a call only with a phone and after its time was announced, a code
only after it was asked for. -/
structure Session.Foreseen (past : History) (s : Session) : Prop where
  phone : ∀ kind, s.due? kind ≠ none → kind = .phone
  asked : ∀ id, s.asked? .phone = some id → past.Verifying ⟨id, .task .sendCode .phone⟩
  announced : ∀ due, s.due? .phone = some due →
    ∃ token, past.Verifying token ∧ past.Announced token due

namespace Run

variable {setup : Setup} {past later earlier : History} {s : Session} {now : Nat}
  {action : Session.Action}

/-- A request for a code that stands after a turn stood before it or was made by it. -/
theorem asked?_cases (run : Run setup past s) (genuine : past.Genuine action)
    (live : (s.act now action).1.cancelled = false)
    (goes_on : ¬ Turn.Ends past .phone ⟨s, now, action⟩) {id : Nat}
    (asked : (s.act now action).1.asked? .phone = some id) : s.asked? .phone = some id ∨
      action ≠ .tick ∧ Turn.Sends ⟨id, .task .sendCode .phone⟩ ⟨s, now, action⟩ := by
  have stays : action ≠ .restart := fun ha => goes_on (.restart ha)
  have given : action ≠ .cancelVerification .phone := fun ha => goes_on (.givenUp ha)
  have unchanged {t t' : Session} (gated : t.core.Gated) (moves : Session.Moves now action t t') :
      t'.asked? .phone = t.asked? .phone :=
    moves.read_eq gated stays fun _ _ _ _ here change => change.asked?_eq (here ▸ given)
  cases run.acts now action with
  | moves _ moves => exact .inl ((unchanged run.gated moves).symm.trans asked)
  | close _ _ close =>
      exact absurd (live.symm.trans (congrArg Core.cancelled close.core)) (by simp)
  | dropped _ _ same => exact .inl (same ▸ asked)
  | @reply r ha before awaits settles =>
      obtain ⟨mid, settle, moves⟩ := settles
      have taken := (unchanged (settle.gated run.gated) moves).symm.trans asked
      rcases settle.read_cases run.gated .phone with ⟨-, same⟩ | ⟨task, e, e', es, ht, he, waiting,
        uptake, there, outbox⟩
      · exact .inl ((same _ rfl).symm.trans taken)
      · have here := Form.kind_of_entry he
        have issued : r.token ∈ tokensOf past.log := genuine _ (ha ▸ rfl)
        have held := (run.books before).entries e (Form.mem_of_entry he)
        have fits : e.Fits task :=
          held.fits (run.books before).unique issued (here.symm ▸ ht) waiting
        have taken : e'.verification.asked? = some id :=
          (Session.read_of_entry there).symm.trans taken
        rcases uptake.asked?_cases here fits taken with stood | ⟨target, sent⟩
        · exact .inl ((Session.read_of_entry he).trans stood)
        · refine .inr ⟨by simp [ha], target, moves.outbox_subset ?_⟩
          rw [outbox]
          exact List.mem_append_right _ sent

theorem foreseen_act (run : Run setup past s) (genuine : past.Genuine action)
    (live : (s.act now action).1.cancelled = false) (foreseen : s.Foreseen past) :
    (s.act now action).1.Foreseen (⟨s, now, action⟩ :: past) := by
  have before := (run.acts now action).live live
  have uncalled {kind : Kind} (waiting : (s.act now action).1.due? kind ≠ none) :
      ¬ Turn.Calls ⟨s, now, action⟩ := fun calls => by
    obtain ⟨-, _, _, -, -, -, ended⟩ := run.dials_of_calls before foreseen.phone calls
    exact waiting (ended live kind)
  have goes_on {p : Verification → Option Nat} (blank : p .none = none)
      (left : (s.act now action).1.read .phone p ≠ none) :
      ¬ Turn.Ends past .phone ⟨s, now, action⟩ :=
    fun ends => left (run.read_of_ends live ends blank)
  have verifying {token : Token} (verified : past.Verifying token)
      (goes_on : ¬ Turn.Ends past .phone ⟨s, now, action⟩)
      (uncalled : ¬ Turn.Calls ⟨s, now, action⟩) :
      History.Verifying token (⟨s, now, action⟩ :: past) :=
    ⟨live, .inr ⟨verified, goes_on, uncalled⟩⟩
  refine ⟨fun kind waiting => ?_, fun id asked => ?_, fun due waiting => ?_⟩
  · cases run.act_tolls genuine live (run.counted before kind) with
    | stays due => exact foreseen.phone kind (due ▸ waiting)
    | begins r t _ _ _ announced => exact Session.phone_of_countdown announced
    | goesOn due _ counted => exact foreseen.phone kind (by simp [counted])
    | ends ended => exact absurd ended waiting
  · have goes_on := goes_on (p := Verification.asked?) rfl (by
      rw [← Session.asked?, asked]
      simp)
    rcases run.asked?_cases genuine live goes_on asked with stood | ⟨-, sent⟩
    · refine verifying (foreseen.asked id stood) goes_on fun calls => ?_
      obtain ⟨-, due, -, waiting, -⟩ := run.dials_of_calls before foreseen.phone calls
      exact absurd ((run.due?_of_asked? before stood).symm.trans waiting) (by simp)
    · exact ⟨live, .inl sent⟩
  · have left : (s.act now action).1.due? .phone ≠ none := by simp [waiting]
    have goes_on := goes_on (p := Verification.due?) rfl left
    have kept (stood : s.due? .phone = some due) :
        ∃ token, History.Verifying token (⟨s, now, action⟩ :: past) ∧
          History.Announced token due (⟨s, now, action⟩ :: past) := by
      obtain ⟨token, verified, announced⟩ := foreseen.announced due stood
      exact ⟨token, verifying verified goes_on (uncalled left), .inr announced⟩
    cases run.act_tolls genuine live (run.counted before .phone) with
    | stays same => exact kept (same.symm.trans waiting)
    | begins r t ha awaits pending announced begun =>
        have issued : r.token ∈ past.tokens := genuine _ (ha ▸ rfl)
        have verified := foreseen.asked _ (run.asked?_of_awaits before issued pending awaits)
        have same : (⟨r.token.id, .task .sendCode .phone⟩ : Token) = r.token := by rw [← pending]
        refine ⟨r.token, verifying (same ▸ verified) goes_on (uncalled left), .inl ?_⟩
        exact ⟨r, t, ha, rfl, run.outstanding_of_awaits before issued awaits, announced,
          Option.some.inj (waiting.symm.trans begun)⟩
    | goesOn d _ stood _ same => exact kept (stood.trans (same.symm.trans waiting))
    | ends ended => exact absurd ended left

theorem foreseen (run : Run setup past s) (live : s.cancelled = false) : s.Foreseen past := by
  induction run with
  | start => exact ⟨fun _ waiting => absurd rfl waiting, nofun, nofun⟩
  | @step past s now action run _ genuine ih =>
      have after := run.foreseen_act genuine live (ih ((run.acts now action).live live))
      exact ⟨after.phone, after.asked, after.announced⟩

theorem live_of_calls (run : Run setup past s) (calls : Turn.Calls ⟨s, now, action⟩) :
    s.cancelled = false := by
  obtain ⟨x, sent, call⟩ := calls
  have called : x ∈ (s.act now action).1.outbox.filter Effect.isCall :=
    List.mem_filter.2 ⟨sent, call⟩
  by_contra closed
  have closed : s.cancelled = true := eq_true_of_ne_false closed
  by_cases time : action = .tick
  · subst time
    have heeds : Session.Action.heedsClosing .tick = true := rfl
    have silent := (run.silent_of_heeds closed now heeds).1
    exact List.not_mem_nil (silent ▸ sent)
  · rw [(run.acts now action).uncalled time, run.outbox_eq_nil] at called
    cases called

theorem issued_of_verifying {token : Token} (verifying : past.Verifying token) :
    token ∈ past.tokens := by
  induction past with
  | nil => exact verifying.elim
  | cons t past ih =>
      rw [History.tokens_cons]
      obtain ⟨-, ⟨target, sent⟩ | ⟨earlier, -⟩⟩ := verifying
      · exact List.mem_append_right _ (mem_tokensOf.2 ⟨_, sent, rfl⟩)
      · exact List.mem_append_left _ (ih earlier)

/-- No code is asked for under a token that was issued. -/
theorem not_sends_of_issued {t : Turn} {token : Token} (run : Run setup (t :: past) s)
    (live : s.cancelled = false) (issued : token ∈ past.tokens) : ¬ t.Sends token := by
  rintro ⟨target, sent⟩
  have unique : ((past.tokens ++ tokensOf t.effects).map Token.id).Nodup :=
    History.tokens_cons t past ▸ (run.books live).unique
  rw [List.map_append] at unique
  have again : token ∈ tokensOf t.effects := mem_tokensOf.2 ⟨_, sent, rfl⟩
  exact (List.nodup_append.1 unique).2.2 _ (List.mem_map_of_mem issued) _
    (List.mem_map_of_mem again) rfl

theorem not_verifying_of_calls {mid : History} {u : Turn} {token : Token}
    (run : Run setup (mid ++ u :: earlier) s) (calls : u.Calls)
    (issued : token ∈ earlier.tokens) : ¬ History.Verifying token (mid ++ u :: earlier) := by
  induction mid generalizing s with
  | nil =>
      rintro ⟨live, sent | ⟨-, -, uncalled⟩⟩
      · cases run with
        | step now action run ordered genuine =>
            exact (run.step now action ordered genuine).not_sends_of_issued live issued sent
      · exact uncalled calls
  | cons t mid ih =>
      rintro ⟨live, sent | ⟨verifying, -, -⟩⟩
      · cases run with
        | step now action run ordered genuine =>
            refine (run.step now action ordered genuine).not_sends_of_issued live ?_ sent
            refine History.tokens_subset_append mid (u :: earlier) ?_
            rw [History.tokens_cons]
            exact List.mem_append_left _ issued
      · cases run with
        | step now action run => exact ih run verifying

/-- Voice calls are counted down to. A timer is armed exactly as long as a call is waited for, once and
for no later than one step after the call. A call is asked for by a tick, one at a time, for a code that
was asked for and is still being verified, and not before the time that the answer announced. And no
code is called for twice. -/
theorem calls_counted_down (run : Run setup past s) :
    (s.cancelled = false → ∀ kind, s.Counted kind) ∧
    (∀ (later earlier : History) t, past = later ++ t :: earlier → t.Calls →
      t.action = .tick ∧ (∃ x, t.effects.filter Effect.isCall = [x]) ∧
      ∃ token due, earlier.Verifying token ∧ earlier.Announced token due ∧ due ≤ t.now) ∧
    (∀ (later mid earlier : History) t u, past = later ++ t :: (mid ++ u :: earlier) →
      t.Calls → u.Calls →
      ∀ token, earlier.Verifying token → ¬ History.Verifying token (mid ++ u :: earlier)) := by
  refine ⟨fun live => run.counted live, ?_, ?_⟩
  · rintro later earlier t rfl calls
    obtain ⟨_, run⟩ := run.of_append
    cases run with
    | @step _ s now action run _ _ =>
        have live := run.live_of_calls calls
        have foreseen := run.foreseen live
        obtain ⟨time, due, x, waiting, come, called, -⟩ :=
          run.dials_of_calls live foreseen.phone calls
        obtain ⟨token, verifying, announced⟩ := foreseen.announced due waiting
        exact ⟨time, ⟨x, called⟩, token, due, verifying, announced, come⟩
  · rintro later mid earlier t u rfl - calls token verified
    obtain ⟨_, run⟩ := run.of_append
    cases run with
    | step now action run => exact run.not_verifying_of_calls calls (issued_of_verifying verified)

/-- A number was rejected, a code was sent, and two seconds later the call is asked for. -/
theorem calls_counted_down_once :
    let actions := [(1006, .tick), (6, .reply ⟨⟨5, .task .sendCode .phone⟩,
          .ok (.phoneCode ⟨.sms 5, some (.call 5), 2⟩)⟩),
        (5, .reply ⟨⟨4, .task .save .phone⟩, .failed ⟨"PHONE_VERIFICATION_NEEDED"⟩⟩),
        (4, .save .phone (.ofTexts [(Kind.plainField, "123")]))] ++
      opening ⟨1, [[⟨.phone, false, false, false⟩]], none⟩ []
    let past := (play (.fresh .plain .empty) actions).1
    let s := (play (.fresh .plain .empty) actions).2
    let t : Turn := ⟨s, 2006, .tick⟩
    s.due? .phone = some 2006 ∧ s.Counted .phone ∧ t.Calls ∧ t.after.Counted .phone ∧
      t.after.due? .phone = none ∧
      ∃ token due, past.Verifying token ∧ past.Announced token due ∧ due ≤ 2006 := by
  intro actions past s t
  have playable : Playable (.fresh .plain .empty) ((2006, .tick) :: actions) := by
    decide +kernel
  have run : Run .plain past s := .of_playable playable.1
  have calls : t.Calls :=
    ⟨.request (.resendPhoneCode ⟨6, .task .resendCall .phone⟩ "123"), by decide +kernel, rfl⟩
  have turn : Run .plain (t :: past) t.after := .of_playable playable
  have counted := (calls_counted_down run).1 (by decide +kernel) .phone
  obtain ⟨after, placed, -⟩ := calls_counted_down turn
  refine ⟨by decide +kernel, counted, calls, after (by decide +kernel) .phone, by decide +kernel, ?_⟩
  exact (placed [] past t rfl calls).2.2

end Run

end IdentityForm
