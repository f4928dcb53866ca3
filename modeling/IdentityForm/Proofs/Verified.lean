import IdentityForm.Proofs.Agreement

/-! # What is verified is what is saved

A save of a phone or an email that is rejected begins a verification. Until that ends, whatever else
happens, all requests about codes carry the rejected text, and once a code is accepted the rejected
element is saved again.
-/

namespace IdentityForm

/-! ## Verifications in a history -/

namespace Turn

/-- A save of an element was rejected until it is verified. -/
def Rejects (past : History) (kind : Kind) (element : SubmittedElement) (t : Turn) : Prop :=
  ∃ r password, t.action = .reply r ∧ past.Outstanding r.token ∧ r.Rejects kind ∧
    .request (.setElement r.token element password) ∈ past.log

def Accepts (past : History) (kind : Kind) (t : Turn) : Prop :=
  ∃ r, t.action = .reply r ∧ past.Outstanding r.token ∧ r.Accepts kind

/-- What ends a verification, closing apart: starting over, giving it up, a code that is accepted,
or one that could not be sent. -/
inductive Ends (past : History) (kind : Kind) (t : Turn) : Prop
  | restart : t.action = .restart → Ends past kind t
  | givenUp : t.action = .cancelVerification kind → Ends past kind t
  | accepted : t.Accepts past kind → Ends past kind t
  | unsent {r : Reply} : t.action = .reply r → past.Outstanding r.token → r.LacksCode kind →
      Ends past kind t

end Turn

/-- An element was rejected until it is verified, and that verification has not ended since. -/
def History.Proving (kind : Kind) (element : SubmittedElement) : History → Prop
  | [] => False
  | t :: past => t.after.cancelled = false ∧
    (t.Rejects past kind element ∨ Proving kind element past ∧ ¬ t.Ends past kind)

namespace Session

variable {s s' : Session} {now : Nat} {a : Action} {log : List Effect} {kind : Kind}
  {element : SubmittedElement}

theorem Moves.upholds (h : Moves now a s s') (plain : kind.isPlain = true)
    (ha : a ≠ .cancelVerification kind) (hr : a ≠ .restart) (upholds : s.Upholds log kind element) :
    s'.Upholds log kind element := by
  induction h with
  | refl => exact upholds
  | tail _ move ih => exact move.upholds plain ha hr ih

theorem Moves.agrees_of_end (h : Moves now a s s')
    (ha : (∃ kind, a = .cancelVerification kind) ∨ a = .restart ∨ ∃ r, a = .reply r)
    (agrees : ∀ x ∈ s.outbox, x.Agrees kind element) : ∀ x ∈ s'.outbox, x.Agrees kind element := by
  induction h with
  | refl => exact agrees
  | tail _ move ih => exact move.agrees_of_end ha ih

end Session

/-! ## Turns in the course of a verification -/

namespace Run

variable {setup : Setup} {past : History} {s : Session} {t : Turn} {kind : Kind}
  {element : SubmittedElement}

theorem isPlain_of_proving (proving : past.Proving kind element) : kind.isPlain = true := by
  induction past with
  | nil => exact proving.elim
  | cons t past ih =>
      rcases proving.2 with ⟨r, _, _, _, rejects, _⟩ | ⟨earlier, _⟩
      · exact rejects.isPlain
      · exact ih earlier

theorem silent_of_closed {now : Nat} {action : Session.Action} {r : Reply} (run : Run setup past s)
    (closed : s.cancelled = true) (ha : action = .reply r) :
    Turn.effects ⟨s, now, action⟩ = [] := by
  show (s.act now action).1.outbox = []
  cases run.acts now action with
  | moves no_reply => exact absurd ha (no_reply r)
  | close no_reply => exact absurd ha (no_reply r)
  | dropped _ _ same => rw [same, run.outbox_eq_nil]
  | reply _ live => exact absurd (closed.symm.trans live) (by simp)

section

variable (run : Run setup past s) (live : s.cancelled = false)

include run live

theorem upholds_of_proves (proves : s.core.Proves kind element) :
    s.Upholds past.log kind element := by
  have silent := run.outbox_eq_nil
  refine ⟨⟨past.taken, ?_⟩, proves, ?_⟩
  · rw [silent, List.append_nil]
    exact run.books live
  · rw [silent]
    exact List.forall_mem_nil _

/-- What a turn of an open session does while an element is verified. -/
theorem turn_of_proves (now : Nat) {action : Session.Action} (genuine : past.Genuine action)
    (plain : kind.isPlain = true) (proves : s.core.Proves kind element) :
    let t : Turn := ⟨s, now, action⟩
    (∀ x ∈ t.effects, x.Agrees kind element) ∧
      (t.after.cancelled = false → ¬ t.Ends past kind → t.after.core.Proves kind element) ∧
      (t.Accepts past kind → ∃ id password,
        .request (.setElement ⟨id, .task .save kind⟩ element password) ∈ t.effects) := by
  intro t
  have start := run.upholds_of_proves live proves
  have moved {s' : Session} (h : Session.Moves now action s s') :
      (∀ x ∈ s'.outbox, x.Agrees kind element) ∧
        (¬ t.Ends past kind → s'.core.Proves kind element) := by
    by_cases givenUp : action = .cancelVerification kind
    · refine ⟨h.agrees_of_end (.inl ⟨kind, givenUp⟩) start.agrees, fun goes_on => ?_⟩
      exact absurd (.givenUp givenUp) goes_on
    · by_cases restart : action = .restart
      · refine ⟨h.agrees_of_end (.inr (.inl restart)) start.agrees, fun goes_on => ?_⟩
        exact absurd (.restart restart) goes_on
      · have upholds := h.upholds plain givenUp restart start
        exact ⟨upholds.agrees, fun _ => upholds.proves⟩
  have unaccepted (no_reply : ∀ r, action ≠ .reply r) : ¬ t.Accepts past kind := by
    rintro ⟨r, ha, -⟩
    exact no_reply r ha
  have acts := run.acts now action
  show (∀ x ∈ (s.act now action).1.outbox, x.Agrees kind element) ∧
    ((s.act now action).1.cancelled = false → ¬ t.Ends past kind →
      (s.act now action).1.core.Proves kind element) ∧
    (t.Accepts past kind → ∃ id password,
      .request (.setElement ⟨id, .task .save kind⟩ element password) ∈
        (s.act now action).1.outbox)
  cases acts with
  | moves no_reply h =>
      obtain ⟨agrees, proves⟩ := moved h
      exact ⟨agrees, fun _ => proves, fun accepts => absurd accepts (unaccepted no_reply)⟩
  | close no_reply h close =>
      obtain ⟨es, outbox, tokens, -, unreported⟩ := close.effects
      have closed : (s.act now action).1.cancelled = true := congrArg Core.cancelled close.core
      refine ⟨?_, fun live => ?_, fun accepts => absurd accepts (unaccepted no_reply)⟩
      · refine Session.Upholds.append (moved h).1 (fun x hx => ?_) outbox
        exact Effect.agrees_of_silent tokens unreported hx
      · exact absurd (live.symm.trans closed) (by simp)
  | @dropped r ha unwanted same =>
      rw [same]
      refine ⟨start.agrees, fun _ _ => proves, fun ⟨r', ha', outstanding, _⟩ => ?_⟩
      obtain rfl : r = r' := Session.Action.reply.inj (ha.symm.trans ha')
      exact absurd ⟨live, run.awaits_of_outstanding live outstanding⟩ unwanted
  | @reply r ha _ awaits settles =>
      obtain ⟨mid, settle, h⟩ := settles
      have issued : r.token ∈ past.tokens := genuine _ (ha ▸ rfl)
      have outstanding := run.outstanding_of_awaits live issued awaits
      have is_issued : r.token ∈ tokensOf (past.log ++ s.outbox) := by
        rw [run.outbox_eq_nil, List.append_nil]
        exact issued
      obtain ⟨agrees, goes_on, resaved⟩ := settle.upholds plain is_issued start
      refine ⟨h.agrees_of_end (.inr (.inr ⟨r, ha⟩)) agrees, fun _ unended => ?_, ?_⟩
      · rcases goes_on with upholds | unsent | accepted
        · exact (h.upholds plain (by simp [ha]) (by simp [ha]) upholds).proves
        · exact absurd (.unsent ha outstanding unsent) unended
        · exact absurd (.accepted ⟨r, ha, outstanding, accepted⟩) unended
      · rintro ⟨r', ha', -, accepts⟩
        obtain rfl : r = r' := Session.Action.reply.inj (ha.symm.trans ha')
        obtain ⟨id, password, sent⟩ := resaved accepts
        exact ⟨id, password, h.outbox_subset sent⟩

/-- What the turn of an open session does in which an element is rejected. -/
theorem turn_of_rejects {now : Nat} {action : Session.Action}
    (rejects : Turn.Rejects past kind element ⟨s, now, action⟩) :
    (∀ x ∈ Turn.effects ⟨s, now, action⟩, x.Agrees kind element) ∧
      (Turn.after ⟨s, now, action⟩).core.Proves kind element := by
  obtain ⟨r, password, ha, outstanding, rejects, saved⟩ := rejects
  have ha : action = .reply r := ha
  have awaits := run.awaits_of_outstanding live outstanding
  have log : past.log ++ s.outbox = past.log := by rw [run.outbox_eq_nil, List.append_nil]
  have acts := run.acts now action
  show (∀ x ∈ (s.act now action).1.outbox, x.Agrees kind element) ∧
    (s.act now action).1.core.Proves kind element
  cases acts with
  | moves no_reply => exact absurd ha (no_reply r)
  | close no_reply => exact absurd ha (no_reply r)
  | @dropped r' ha' unwanted =>
      obtain rfl : r = r' := Session.Action.reply.inj (ha.symm.trans ha')
      exact absurd ⟨live, awaits⟩ unwanted
  | @reply r' ha' _ _ settles =>
      obtain rfl : r = r' := Session.Action.reply.inj (ha.symm.trans ha')
      obtain ⟨mid, settle, h⟩ := settles
      have books : s.core.Books (past.log ++ s.outbox) past.taken := log.symm ▸ run.books live
      have sent : s.core.Sent (past.log ++ s.outbox) := log.symm ▸ run.sent live
      have issued : r.token ∈ tokensOf (past.log ++ s.outbox) := log.symm ▸ outstanding.1
      have begun := settle.begins books sent run.outbox_eq_nil issued rejects (log.symm ▸ saved)
      have upholds := h.upholds rejects.isPlain (by simp [ha]) (by simp [ha]) begun
      exact ⟨upholds.agrees, upholds.proves⟩

end

/-- As long as a verification has not ended, the session is open and the element is verified. -/
theorem proves (run : Run setup past s) (proving : past.Proving kind element) :
    s.cancelled = false ∧ s.core.Proves kind element := by
  induction run with
  | start => exact proving.elim
  | @step past s now action run ordered genuine ih =>
      obtain ⟨live, proving⟩ := proving
      have before : s.cancelled = false := (run.acts now action).live live
      refine ⟨live, ?_⟩
      rcases proving with rejects | ⟨proving, unended⟩
      · exact (run.turn_of_rejects before rejects).2
      · have plain := isPlain_of_proving proving
        exact (run.turn_of_proves before now genuine plain (ih proving).2).2.1 live unended

/-- What is verified is what is saved. From the turn in which an element is rejected until the
verification has ended, all requests about codes carry its text, no other element is saved, and no
write is reported as finished; and when a code is accepted the element is saved again. -/
theorem saved_as_verified (run : Run setup (t :: past) s)
    (window : t.Rejects past kind element ∨ past.Proving kind element) :
    (∀ r text, .request r ∈ t.effects → r.kind? = some kind → r.provenText? = some text →
      element.plainText? = some text) ∧
    (∀ r sent, .request r ∈ t.effects → r.kind? = some kind → r.element? = some sent →
      sent = element) ∧
    .notice (.saveFinished kind) ∉ t.effects ∧
    (t.Accepts past kind → ∃ id password,
      .request (.setElement ⟨id, .task .save kind⟩ element password) ∈ t.effects) := by
  suffices h : (∀ x ∈ t.effects, x.Agrees kind element) ∧ (t.Accepts past kind → ∃ id password,
      .request (.setElement ⟨id, .task .save kind⟩ element password) ∈ t.effects) by
    obtain ⟨agrees, resaved⟩ := h
    refine ⟨?_, ?_, ?_, resaved⟩
    · exact fun r text hr hk => (agrees _ hr hk).1 text
    · exact fun r sent hr hk => (agrees _ hr hk).2 sent
    · exact fun reported => agrees _ reported rfl
  cases run with
  | @step _ before now action run ordered genuine =>
      rcases window with rejects | proving
      · refine ⟨?_, fun ⟨r, ha, _, accepts⟩ => ?_⟩
        · cases live : before.cancelled with
          | false => exact (run.turn_of_rejects live rejects).1
          | true =>
              obtain ⟨r, _, ha, _⟩ := rejects
              exact run.silent_of_closed live ha ▸ List.forall_mem_nil _
        · obtain ⟨r', _, ha', _, rejects, _⟩ := rejects
          obtain rfl : r = r' := Session.Action.reply.inj (ha.symm.trans ha')
          exact absurd (accepts.1.symm.trans rejects.1) (by simp)
      · obtain ⟨live, proves⟩ := run.proves proving
        have turn := run.turn_of_proves live now genuine (isPlain_of_proving proving) proves
        exact ⟨turn.1, turn.2.2⟩

/-- A phone number was rejected, a code was sent and checked: accepting the code saves the number
again. -/
theorem saved_as_verified_after_check :
    let actions := [(7, .verify .phone "12345"),
        (6, .reply ⟨⟨5, .task .sendCode .phone⟩, .ok (.phoneCode ⟨.sms 5, none, 0⟩)⟩),
        (5, .reply ⟨⟨4, .task .save .phone⟩, .failed ⟨"PHONE_VERIFICATION_NEEDED"⟩⟩),
        (4, .save .phone (.ofTexts [(Kind.plainField, "123")]))] ++
      opening ⟨1, [[⟨.phone, false, false, false⟩]], none⟩ []
    let past := (play (.fresh .plain .empty) actions).1
    let t : Turn := ⟨(play (.fresh .plain .empty) actions).2, 7,
      .reply ⟨⟨6, .task .checkCode .phone⟩, .ok .ok⟩⟩
    past.Proving .phone (.phone "123") ∧ ∃ id password,
      .request (.setElement ⟨id, .task .save .phone⟩ (.phone "123") password) ∈ t.effects := by
  intro actions past t
  have playable : Playable (.fresh .plain .empty) ((t.now, t.action) :: actions) := by
    decide +kernel
  have rejected : Turn.Rejects (past.drop 3) .phone (.phone "123") past[2] := by
    refine ⟨_, ⟨"secret"⟩, rfl, ?_, ⟨rfl, _, rfl, ?_⟩, ?_⟩ <;> decide +kernel
  have checking : ¬ Turn.Ends (past.drop 1) .phone past[0] := by
    rintro (ha | ha | ⟨r, ha, -⟩ | ⟨ha, -⟩) <;> cases ha
  have sending : ¬ Turn.Ends (past.drop 2) .phone past[1] := by
    rintro (ha | ha | ⟨r, ha, -, accepts⟩ | ⟨ha, -, unsent⟩) <;> cases ha
    · cases accepts.1
    · have told := unsent.2 _ rfl
      revert told
      decide
  have begun : History.Proving .phone (.phone "123") (past.drop 2) :=
    ⟨by decide +kernel, .inl rejected⟩
  have sent : History.Proving .phone (.phone "123") (past.drop 1) :=
    ⟨by decide +kernel, .inr ⟨begun, sending⟩⟩
  have proving : past.Proving .phone (.phone "123") := ⟨by decide +kernel, .inr ⟨sent, checking⟩⟩
  have run : Run .plain (t :: past) t.after := .of_playable playable
  have saved := saved_as_verified run (.inr proving)
  exact ⟨proving, saved.2.2.2 ⟨_, rfl, by decide +kernel, rfl, _, rfl⟩⟩

end Run

end IdentityForm
