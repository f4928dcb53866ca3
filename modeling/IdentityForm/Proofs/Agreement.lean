import IdentityForm.Proofs.Sent

/-! # Agreement on what is verified

While an entry is verified its edit buffer stands still. So all that is sent for it agrees with one
element, move by move, until the verification ends.
-/

namespace IdentityForm

/-! ## What has to agree -/

/-- The text in a request to send a code, to repeat it by a call, or to check it. -/
def Request.provenText? : Request → Option String
  | .sendPhoneCode _ text | .resendPhoneCode _ text | .checkPhoneCode _ text _
  | .sendEmailCode _ text | .checkEmailCode _ text _ => some text
  | _ => none

def Element.plainText? {F : Type} : Element F → Option String
  | .phone text | .email text => some text
  | _ => none

def Kind.verificationCode? : Kind → Option String
  | .phone => some "PHONE_VERIFICATION_NEEDED"
  | .email => some "EMAIL_VERIFICATION_NEEDED"
  | _ => none

/-- An effect that agrees with the element that is being verified. -/
def Effect.Agrees (kind : Kind) (element : SubmittedElement) : Effect → Prop
  | .request r => r.kind? = some kind →
    (∀ text, r.provenText? = some text → element.plainText? = some text) ∧
      ∀ sent, r.element? = some sent → sent = element
  | .notice n => n ≠ .saveFinished kind

namespace Effect

variable {x : Effect} {kind other : Kind} {element : SubmittedElement}

theorem agrees_of_concerns (hne : other ≠ kind) (concerns : x.Concerns other) :
    x.Agrees kind element := by
  cases x with
  | request r =>
      intro hk
      rcases concerns with h | h
      · simp [hk] at h
      · exact absurd (Option.some.inj (h.symm.trans hk)) hne
  | notice n =>
      intro h
      exact hne (concerns kind h).symm

theorem agrees_of_calm (calm : x.isCalm = true) : x.Agrees kind element := by
  cases x with
  | request r =>
      intro hk
      simp [Session.kind?_of_calm calm] at hk
  | notice n =>
      intro h
      subst h
      cases calm

theorem agrees_of_silent {es : List Effect} (tokens : tokensOf es = [])
    (unreported : ∀ kind, .notice (.saveFinished kind) ∉ es) (hx : x ∈ es) :
    x.Agrees kind element := by
  cases x with
  | request r =>
      intro hk
      simp [Request.kind?_of_unissued tokens hx] at hk
  | notice n =>
      rintro rfl
      exact unreported kind hx

end Effect

namespace Entry

variable {e : Entry} {tokens : List Token}

theorem plainText?_submission (plain : e.kind.isPlain = true) :
    e.submission.plainText? = some e.target := by
  unfold submission
  cases h : e.kind <;> first | rfl | (rw [h] at plain; cases plain)

theorem Kept.busy_of_verification (kept : e.Kept tokens) (proving : e.verification ≠ .none) :
    e.isBusy = true := by
  cases busy : e.isBusy with
  | true => rfl
  | false => exact absurd (kept.verification_of_quiet busy) proving

end Entry

namespace Session

variable {s : Session} {now : Nat} {a : Action} {e e' : Entry} {es : List Effect}
  {tokens : List Token}

/-- While an entry is verified, what is sent for it agrees with its edit buffer. -/
theorem Change.agrees (h : s.Change now a e es e') (kept : e.Kept tokens)
    (proving : e.verification ≠ .none) (plain : e.kind.isPlain = true) :
    ∀ x ∈ es, x.Agrees e.kind e.submission := by
  have not_quiet : e.isBusy ≠ false := by simp [kept.busy_of_verification proving]
  have about (r : Request) (text : r.provenText? = some e.target) (no_element : r.element? = none) :
      Effect.Agrees e.kind e.submission (.request r) := by
    intro _
    refine ⟨fun text' h => ?_, fun sent h => ?_⟩
    · rw [← text.symm.trans h]
      exact Entry.plainText?_submission plain
    · simp [no_element] at h
  cases h with
  | saved _ _ _ _ quiet => exact absurd quiet not_quiet
  | deleted _ _ _ quiet => exact absurd quiet not_quiet
  | reported _ hw => exact absurd (hw.symm.trans (kept.idle_of_verification proving)) (by simp)
  | uploaded =>
      intro x hx
      rcases uploading_cases hx with rfl | calm
      · exact fun hk => by cases hk
      · exact Effect.agrees_of_calm calm
  | marked => exact List.forall_mem_singleton.2 (Effect.agrees_of_calm rfl)
  | checked _ _ _ hr =>
      subst hr
      refine List.forall_mem_singleton.2 (about _ ?_ ?_) <;> split <;> rfl
  | givenUp => exact List.forall_mem_map.2 fun id _ h => by cases h
  | calling => exact List.forall_mem_singleton.2 (about _ rfl rfl)
  | _ => exact List.forall_mem_nil _

/-- Unless it is given up, a verification goes on about the same element. -/
theorem Change.proves (h : s.Change now a e es e') (kept : e.Kept tokens)
    (proving : e.verification ≠ .none) (plain : e.kind.isPlain = true)
    (ha : a ≠ .cancelVerification e.kind) :
    e'.verification ≠ .none ∧ e'.submission = e.submission := by
  have idle := kept.idle_of_verification proving
  have frozen := h.frozen (kept.busy_of_verification proving) (by simp [idle])
  refine ⟨?_, Entry.submission_eq plain h.kind_eq frozen⟩
  cases h with
  | givenUp given => exact absurd given ha
  | saved _ _ _ _ quiet => exact absurd quiet (by simp [kept.busy_of_verification proving])
  | miscoded _ coded => exact fun none_ => by simp [Verification.none, coded] at none_
  | checked _ coded => exact fun none_ => by simp [Verification.none] at none_
  | calling => exact fun none_ => by simp [Verification.none] at none_
  | _ => simpa [Entry.snapshot, updateFile] using proving

/-- Giving up, starting over and taking a reply in send nothing more about codes. -/
theorem Change.agrees_of_end {kind : Kind} {element : SubmittedElement}
    (h : s.Change now a e es e')
    (ha : (∃ kind, a = .cancelVerification kind) ∨ a = .restart ∨ ∃ r, a = .reply r) :
    ∀ x ∈ es, x.Agrees kind element := by
  have other {action : Action} (h : a = action)
      (hne : (∀ kind, action ≠ .cancelVerification kind) ∧ action ≠ .restart ∧
        ∀ r, action ≠ .reply r) : False := by
    subst h
    rcases ha with ⟨kind, ha⟩ | ha | ⟨r, ha⟩
    · exact hne.1 kind ha
    · exact hne.2.1 ha
    · exact hne.2.2 r ha
  cases h with
  | saved h => exact (other h (by simp)).elim
  | deleted h => exact (other h (by simp)).elim
  | reported h => exact (other h (by simp)).elim
  | uploaded h => exact (other h (by simp)).elim
  | marked h =>
      refine (other h ?_).elim
      split <;> simp
  | checked h => exact (other h (by simp)).elim
  | calling h => exact (other h (by simp)).elim
  | givenUp => exact List.forall_mem_map.2 fun id _ h => by cases h
  | _ => exact List.forall_mem_nil _

/-- A reply in the course of a verification: what it sends agrees, the verification goes on about the
same element unless it ends, and an accepted code has the element saved. -/
theorem Uptake.proves {task : Task} {outcome : Outcome} {id : Nat}
    (h : s.Uptake now e task outcome es e') (hw : e.awaits? task = some id) (kept : e.Kept tokens)
    (proving : e.verification ≠ .none) (plain : e.kind.isPlain = true)
    (unlocked : s.password ≠ none) :
    (∀ x ∈ es, x.Agrees e.kind e.submission) ∧
      (e'.verification ≠ .none ∧ e'.submission = e.submission ∨
        (task = .sendCode ∧ ∀ response, outcome = .ok response → codeSent? e.kind response = none) ∨
        task = .checkCode ∧ ∃ response, outcome = .ok response) ∧
      ((task = .checkCode ∧ ∃ response, outcome = .ok response) → ∃ id password,
        .request (.setElement ⟨id, .task .save e.kind⟩ e.submission password) ∈ es) := by
  have idle := kept.idle_of_verification proving
  have not_writing (ht : task = .save ∨ task = .delete) : False := by
    have writing := write_of_awaits hw ht
    rw [idle] at writing
    cases writing
  cases h with
  | saved => exact (not_writing (.inl rfl)).elim
  | unsaved => exact (not_writing (.inl rfl)).elim
  | misfilled => exact (not_writing (.inl rfl)).elim
  | unverifiedPhone => exact (not_writing (.inl rfl)).elim
  | unverifiedEmail => exact (not_writing (.inl rfl)).elim
  | deleted => exact (not_writing (.inr rfl)).elim
  | undeleted => exact (not_writing (.inr rfl)).elim
  | codeSent =>
      refine ⟨List.forall_mem_nil _, .inl ⟨?_, Entry.submission_eq plain rfl rfl⟩, by simp⟩
      exact fun none_ => by simp [Verification.none] at none_
  | codeNotSent unsent => exact ⟨List.forall_mem_nil _, .inr (.inl ⟨rfl, unsent⟩), by simp⟩
  | acceptedLocked locked => exact absurd locked unlocked
  | @accepted response password =>
      refine ⟨List.forall_mem_append.2 ⟨?_, List.forall_mem_cons.2 ⟨?_, ?_⟩⟩,
        .inr (.inr ⟨rfl, _, rfl⟩), fun _ => ⟨s.nextId, ⟨password⟩, ?_⟩⟩
      · exact List.forall_mem_map.2 fun id _ h => by cases h
      · exact Effect.agrees_of_calm rfl
      · refine List.forall_mem_singleton.2 fun _ => ⟨fun text h => ?_, fun sent h => ?_⟩
        · cases h
        · exact (Option.some.inj h).symm
      · exact List.mem_append_right _ (List.mem_cons_of_mem _ List.mem_cons_self)
  | refused =>
      refine ⟨List.forall_mem_nil _, .inl ⟨?_, Entry.submission_eq plain rfl rfl⟩, by simp⟩
      exact fun none_ => by simp [Verification.none] at none_
  | called =>
      refine ⟨List.forall_mem_nil _, .inl ⟨?_, Entry.submission_eq plain rfl rfl⟩, by simp⟩
      exact fun none_ => by simp [Verification.none] at none_
  | notCalled =>
      refine ⟨List.forall_mem_nil _, .inl ⟨?_, Entry.submission_eq plain rfl rfl⟩, by simp⟩
      exact fun none_ => by simp [Verification.none] at none_

end Session

/-! ## A verification under way -/

/-- An element is being verified. -/
def Core.Proves (kind : Kind) (element : SubmittedElement) (c : Core) : Prop :=
  ∃ e, c.form.entry? kind = some e ∧ e.verification ≠ .none ∧ e.submission = element

namespace Core.Proves

variable {c c' : Core} {kind : Kind} {element : SubmittedElement} {e : Entry} {g : Entry → Entry}

/-- A change of the entry that is verified has to leave the verification and the element. -/
theorem of_modify (form : c'.form = c.form.modify e.kind g)
    (he : c.form.entry? e.kind = some e) (hk : (g e).kind = e.kind)
    (proving : (g e).verification ≠ .none) (same : (g e).submission = element) :
    c'.Proves e.kind element := by
  refine ⟨g e, ?_, proving, same⟩
  rw [form]
  exact Form.entry?_modify he hk

theorem modify_other (proves : c.Proves kind element)
    (distinct : (c.form.entries.map Entry.kind).Nodup) (form : c'.form = c.form.modify e.kind g)
    (he : c.form.entry? e.kind = some e) (hk : (g e).kind = e.kind) (hne : e.kind ≠ kind) :
    c'.Proves kind element := by
  obtain ⟨e', he', proving, same⟩ := proves
  refine ⟨e', ?_, proving, same⟩
  rw [form]
  exact (Form.entry?_modify_other distinct he hk hne).trans he'

end Core.Proves

/-- In the course of an action: the element is still being verified, and what was sent agrees. -/
structure Session.Upholds (log : List Effect) (kind : Kind) (element : SubmittedElement)
    (s : Session) : Prop where
  books : ∃ settled, s.core.Books (log ++ s.outbox) settled
  proves : s.core.Proves kind element
  agrees : ∀ x ∈ s.outbox, x.Agrees kind element

namespace Session

variable {s s' : Session} {now : Nat} {a : Action} {r : Reply} {log : List Effect} {kind : Kind}
  {element : SubmittedElement}

theorem Upholds.append {es : List Effect} (h : ∀ x ∈ s.outbox, x.Agrees kind element)
    (agrees : ∀ x ∈ es, x.Agrees kind element) (outbox : s'.outbox = s.outbox ++ es) :
    ∀ x ∈ s'.outbox, x.Agrees kind element :=
  outbox ▸ List.forall_mem_append.2 ⟨h, agrees⟩

theorem Move.upholds (h : Move now a s s') (plain : kind.isPlain = true)
    (ha : a ≠ .cancelVerification kind) (hr : a ≠ .restart) (upholds : s.Upholds log kind element) :
    s'.Upholds log kind element := by
  obtain ⟨⟨settled, books⟩, proves, agrees⟩ := upholds
  have books' := h.books books
  cases h with
  | rest es core outbox calm =>
      refine ⟨⟨settled, books'⟩, core ▸ proves, Upholds.append agrees (fun x hx => ?_) outbox⟩
      exact Effect.agrees_of_calm (calm x hx)
  | ask errand r free he ht form check submit core outbox =>
      refine ⟨⟨settled, books'⟩, core ▸ proves, Upholds.append agrees ?_ outbox⟩
      refine List.forall_mem_singleton.2 fun hk => ?_
      simp [Request.kind?, ht] at hk
  | entry e g es he change core outbox =>
      have form : s'.core.form = s.core.form.modify e.kind g := congrArg Core.form core
      by_cases hk : e.kind = kind
      · subst hk
        obtain ⟨e', he', proving, same⟩ := proves
        obtain rfl : e = e' := Option.some.inj (he.symm.trans he')
        have kept := books.entries e (Form.mem_of_entry he)
        have after := change.proves kept proving plain ha
        refine ⟨⟨settled, books'⟩, ?_, ?_⟩
        · exact .of_modify form he change.kind_eq after.1 (after.2.trans same)
        · exact Upholds.append agrees (same ▸ change.agrees kept proving plain) outbox
      · refine ⟨⟨settled, books'⟩, ?_, ?_⟩
        · exact proves.modify_other books.distinct form he change.kind_eq hk
        · refine Upholds.append agrees (fun x hx => ?_) outbox
          exact Effect.agrees_of_concerns hk (change.concerns x hx)
  | abandon es restart => exact absurd restart hr

theorem Move.agrees_of_end (h : Move now a s s')
    (ha : (∃ kind, a = .cancelVerification kind) ∨ a = .restart ∨ ∃ r, a = .reply r)
    (agrees : ∀ x ∈ s.outbox, x.Agrees kind element) : ∀ x ∈ s'.outbox, x.Agrees kind element := by
  cases h with
  | rest es core outbox calm =>
      exact Upholds.append agrees (fun x hx => Effect.agrees_of_calm (calm x hx)) outbox
  | ask errand r free he ht form check submit core outbox =>
      refine Upholds.append agrees ?_ outbox
      refine List.forall_mem_singleton.2 fun hk => ?_
      simp [Request.kind?, ht] at hk
  | entry e g es he change core outbox =>
      exact Upholds.append agrees (change.agrees_of_end ha) outbox
  | abandon es _ core outbox tokens cancels unreported =>
      exact Upholds.append agrees (fun x => Effect.agrees_of_silent tokens unreported) outbox

end Session

/-! ## Replies in the course of a verification -/

def Reply.Accepts (kind : Kind) (r : Reply) : Prop :=
  r.token.pending = .task .checkCode kind ∧ ∃ response, r.outcome = .ok response

/-- The reply to the sending of a code that tells of none. -/
def Reply.LacksCode (kind : Kind) (r : Reply) : Prop :=
  r.token.pending = .task .sendCode kind ∧
    ∀ response, r.outcome = .ok response → Session.codeSent? kind response = none

def Reply.Rejects (kind : Kind) (r : Reply) : Prop :=
  r.token.pending = .task .save kind ∧
    ∃ error, r.outcome = .failed error ∧ kind.verificationCode? = some error.code

theorem Kind.ofCode_of_verificationCode? {kind : Kind} {code : String}
    (h : kind.verificationCode? = some code) :
    kind = .phone ∧ SaveFailure.ofCode kind code = .verifyPhone ∨
      kind = .email ∧ SaveFailure.ofCode kind code = .verifyEmail := by
  cases kind with
  | phone =>
      cases h
      exact .inl ⟨rfl, by decide⟩
  | email =>
      cases h
      exact .inr ⟨rfl, by decide⟩
  | _ => cases h

theorem Reply.Rejects.isPlain {kind : Kind} {r : Reply} (rejects : r.Rejects kind) :
    kind.isPlain = true := by
  obtain ⟨-, error, -, code⟩ := rejects
  rcases Kind.ofCode_of_verificationCode? code with ⟨rfl, -⟩ | ⟨rfl, -⟩ <;> rfl

namespace Session

variable {s s' : Session} {now : Nat} {r : Reply} {log : List Effect} {kind : Kind}
  {element : SubmittedElement}

/-- A reply in the course of a verification sends nothing that disagrees. The verification goes on
unless the reply ends it, and an accepted code has the element saved. -/
theorem Settle.upholds (h : Settle now r s s') (plain : kind.isPlain = true)
    (issued : r.token ∈ tokensOf (log ++ s.outbox)) (upholds : s.Upholds log kind element) :
    (∀ x ∈ s'.outbox, x.Agrees kind element) ∧
      (s'.Upholds log kind element ∨ r.LacksCode kind ∨ r.Accepts kind) ∧
      (r.Accepts kind → ∃ id password,
        .request (.setElement ⟨id, .task .save kind⟩ element password) ∈ s'.outbox) := by
  obtain ⟨⟨settled, books⟩, proves, agrees⟩ := upholds
  have books' := h.books issued books
  have calm_agrees {es : List Effect} (calm : ∀ x ∈ es, x.isCalm = true) :
      ∀ x ∈ es, x.Agrees kind element := fun x hx => Effect.agrees_of_calm (calm x hx)
  have present := proves
  obtain ⟨e', he', proving, same⟩ := present
  cases h with
  | errand errand es ht hw core outbox calm =>
      have agrees := Upholds.append agrees (calm_agrees calm) outbox
      refine ⟨agrees, .inl ⟨⟨_, books'⟩, ?_, agrees⟩, fun accepts => ?_⟩
      · rw [core]
        exact proves
      · exact absurd (ht.symm.trans accepts.1) (by simp)
  | form form es ht hw ho core outbox calm =>
      have empty := books.empty_of_awaits hw
      have present := Form.mem_of_entry he'
      rw [empty] at present
      cases present
  | unlock password elements errors es ht hw ho core outbox calm =>
      -- Nothing is verified before the unlocking.
      have locked := books.locked_of_awaits hw
      exact absurd (books.locked locked e' (Form.mem_of_entry he')).2 proving
  | task task e g es ht he hw uptake core outbox =>
      have form : s'.core.form = s.core.form.modify e.kind g := congrArg Core.form core
      by_cases hk : e.kind = kind
      · subst hk
        obtain rfl : e = e' := Option.some.inj (he.symm.trans he')
        have kept := books.entries e (Form.mem_of_entry he)
        have unlocked : s.password ≠ none := by
          have ready : s.secretReady = true := books.ready_of_awaits he hw
          have keyed : s.secretReady = s.password.isSome := books.keyed
          intro none_
          simp [ready, none_] at keyed
        obtain ⟨agree, after, resaved⟩ := uptake.proves hw kept proving plain unlocked
        have agrees := Upholds.append agrees (same ▸ agree) outbox
        refine ⟨agrees, ?_, fun accepts => ?_⟩
        · rcases after with after | ⟨task_eq, unsent⟩ | ⟨task_eq, accepted⟩
          · refine .inl ⟨⟨_, books'⟩, ?_, agrees⟩
            exact .of_modify form he uptake.kind_eq after.1 (after.2.trans same)
          · exact .inr (.inl ⟨task_eq ▸ ht, unsent⟩)
          · exact .inr (.inr ⟨task_eq ▸ ht, accepted⟩)
        · have is_check : task = .checkCode := by
            have pending := ht.symm.trans accepts.1
            simpa using pending
          obtain ⟨id, password, sent⟩ := resaved ⟨is_check, accepts.2⟩
          refine ⟨id, password, ?_⟩
          rw [outbox, ← same]
          exact List.mem_append_right _ sent
      · have agrees : ∀ x ∈ s'.outbox, x.Agrees kind element := by
          refine Upholds.append agrees (fun x hx => ?_) outbox
          exact Effect.agrees_of_concerns hk (uptake.concerns x hx)
        refine ⟨agrees, .inl ⟨⟨_, books'⟩, ?_, agrees⟩, fun accepts => ?_⟩
        · exact proves.modify_other books.distinct form he uptake.kind_eq hk
        · have pending := ht.symm.trans accepts.1
          simp [hk] at pending

/-- The code of a rejected save asks for a code to be sent. -/
theorem Uptake.begins {e e' : Entry} {es : List Effect} {error : ServerError}
    (h : s.Uptake now e .save (.failed error) es e')
    (code : e.kind.verificationCode? = some error.code) (plain : e.kind.isPlain = true) :
    (∀ x ∈ es, x.Agrees e.kind e.submission) ∧ e'.verification ≠ .none ∧
      e'.submission = e.submission := by
  have meaning := Kind.ofCode_of_verificationCode? code
  have about {r : Request} (text : r.provenText? = some e.target) (no_element : r.element? = none) :
      ∀ x ∈ [Effect.request r], x.Agrees e.kind e.submission := by
    refine List.forall_mem_singleton.2 fun _ => ⟨fun text' h => ?_, fun sent h => ?_⟩
    · rw [← text.symm.trans h]
      exact Entry.plainText?_submission plain
    · simp [no_element] at h
  have proving : { Verification.none with request := some s.nextId } ≠ Verification.none := by
    simp [Verification.none]
  cases h with
  | unsaved other =>
      obtain ⟨phone, email⟩ := other error rfl
      rcases meaning with ⟨-, h⟩ | ⟨-, h⟩
      · exact absurd h phone
      · exact absurd h email
  | misfilled bad same =>
      rw [← same error rfl] at bad
      rcases meaning with ⟨-, h⟩ | ⟨-, h⟩ <;> exact absurd (bad.symm.trans h) (by simp)
  | unverifiedPhone => exact ⟨about rfl rfl, proving, Entry.submission_eq plain rfl rfl⟩
  | unverifiedEmail => exact ⟨about rfl rfl, proving, Entry.submission_eq plain rfl rfl⟩

theorem Settle.begins {settled : List Nat} {password : Secret} (h : Settle now r s s')
    (books : s.core.Books (log ++ s.outbox) settled) (sent : s.core.Sent (log ++ s.outbox))
    (silent : s.outbox = []) (issued : r.token ∈ tokensOf (log ++ s.outbox))
    (rejects : r.Rejects kind)
    (saved : .request (.setElement r.token element password) ∈ log ++ s.outbox) :
    s'.Upholds log kind element := by
  have plain := rejects.isPlain
  obtain ⟨pending, error, failed, code⟩ := rejects
  have books' := h.books issued books
  cases h with
  | errand errand es ht => exact absurd (ht.symm.trans pending) (by simp)
  | form form es ht => exact absurd (ht.symm.trans pending) (by simp)
  | unlock _ _ _ es ht => exact absurd (ht.symm.trans pending) (by simp)
  | task task e g es ht he hw uptake core outbox =>
      have same := ht.symm.trans pending
      simp only [Pending.task.injEq] at same
      obtain ⟨rfl, rfl⟩ := same
      rw [failed] at uptake
      have token : r.token = ⟨r.token.id, .task .save e.kind⟩ := by
        rw [← pending]
      have is_sent : element = e.submission :=
        sent e (Form.mem_of_entry he) plain r.token.id element password
          (write_of_awaits hw (.inl rfl)) (token ▸ saved)
      obtain ⟨agree, proving, submission⟩ := uptake.begins code plain
      refine ⟨⟨_, books'⟩, ?_, ?_⟩
      · have form : s'.core.form = s.core.form.modify e.kind g := congrArg Core.form core
        exact .of_modify form he uptake.kind_eq proving (submission.trans is_sent.symm)
      · rw [outbox, silent, is_sent]
        exact agree

end Session

end IdentityForm
