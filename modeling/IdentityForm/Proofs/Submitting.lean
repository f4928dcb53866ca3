import IdentityForm.Proofs.Closed
import IdentityForm.Proofs.Submission
import IdentityForm.Proofs.Verified

/-! # Writes while the form is submitted

While a submission is outstanding, saving and deleting do nothing. That keeps most writes away from
it, and not all: the form can be submitted while a write is outstanding, and a code that is accepted
during a submission has its element saved again. These are the only two ways in which a submission and
a write come to be outstanding at the same time.
-/

namespace IdentityForm

/-! ## Submissions and writes in a history -/

namespace Token

def isSubmission (t : Token) : Bool :=
  match t.pending with
  | .errand .submit => true
  | _ => false

def isWrite (t : Token) : Bool :=
  match t.pending with
  | .task .save _ | .task .delete _ => true
  | _ => false

variable {t : Token}

theorem isSubmission_iff : t.isSubmission = true ↔ t.pending = .errand .submit := by
  unfold isSubmission
  split <;> simp_all

theorem isWrite_iff : t.isWrite = true ↔
    ∃ kind, t.pending = .task .save kind ∨ t.pending = .task .delete kind := by
  unfold isWrite
  split <;> simp_all

end Token

namespace History

def Submitting (past : History) : Prop :=
  ∃ token, past.Outstanding token ∧ token.isSubmission = true

def Writing (past : History) : Prop :=
  ∃ token, past.Outstanding token ∧ token.isWrite = true

end History

namespace Turn

/-- The view submits the form, and the form is sent. -/
def BeginsSubmission (t : Turn) : Prop := t.action = .submit ∧ ∃ kinds, t.Submits kinds

/-- A submission begins beside a write, or a write beside a submission: once a code is accepted, the
element that it verifies is saved again. -/
inductive Collides (past : History) (t : Turn) : Prop
  | submits : t.BeginsSubmission → past.Writing → Collides past t
  | saves {kind : Kind} : past.Submitting → t.Accepts past kind → Collides past t

end Turn

/-! ## Submissions and writes in a session -/

namespace Entry

/-- Nothing is written or verified. -/
def Unengaged (e : Entry) : Prop := e.write.request? = none ∧ e.verification = .none

instance (e : Entry) : Decidable e.Unengaged := inferInstanceAs (Decidable (_ ∧ _))

variable {e e' : Entry} {next : Nat} {ready : Bool} {tokens : List Token} {cancels : List Nat}

theorem Progress.writes (h : Progress ready next e e' tokens cancels)
    (hw : e.write.request? ≠ none) : e'.write.request? ≠ none := by
  have busy (quiet : e.isBusy = false) : False := by
    simp [(quiet_iff.1 quiet).1, WriteState.request?] at hw
  cases h with
  | unchanged _ quiet => exact (busy quiet).elim
  | written _ _ quiet => exact (busy quiet).elim
  | reported unreported => simp [unreported, WriteState.request?] at hw
  | kept same => exact same ▸ hw
  | miscoded _ same => exact same ▸ hw
  | checked _ _ same => exact same ▸ hw
  | givenUp same => exact same ▸ hw
  | calling _ same => exact same ▸ hw

theorem Progress.not_submission (h : Progress ready next e e' tokens cancels) {token : Token}
    (ht : token ∈ tokens) : token.isSubmission = false := by
  cases h <;> simp_all [Token.isSubmission]

theorem Progress.verification_of_none (h : Progress ready next e e' tokens cancels)
    (hv : e.verification = .none) : e'.verification = .none := by
  cases h with
  | kept _ same => exact same.trans hv
  | unchanged _ _ _ same => exact same.trans hv
  | written _ _ _ _ same => exact same.trans hv
  | reported _ _ same => exact same.trans hv
  | miscoded hl => simp [hv, Verification.none] at hl
  | checked hl => simp [hv, Verification.none] at hl
  | givenUp _ none_ => exact none_
  | calling hc => simp [hv, Verification.none] at hc

theorem Unengaged.awaits (unengaged : e.Unengaged) (task : Task) : e.awaits? task = none := by
  obtain ⟨hw, hv⟩ := unengaged
  cases task with
  | save => exact hw
  | delete => exact hw
  | sendCode => simp [awaits?, hv, Verification.none]
  | checkCode => simp [awaits?, hv, Verification.none]
  | resendCall => simp [awaits?, hv, Verification.none, Verification.callRequest?]

end Entry

namespace Core

def Submitting (c : Core) : Prop := c.awaited.submit ≠ none

def Writing (c : Core) : Prop := ∃ e ∈ c.form.entries, e.write.request? ≠ none

theorem writing_modify {c : Core} {e : Entry} {g : Entry → Entry} {n : Nat}
    (distinct : (c.form.entries.map Entry.kind).Nodup) (he : c.form.entry? e.kind = some e)
    (writing : { c with form := c.form.modify e.kind g, issued := n }.Writing) :
    (g e).write.request? ≠ none ∨ c.Writing := by
  obtain ⟨x, hx, hw⟩ := writing
  rcases Form.mem_modify distinct he hx with rfl | ⟨hx, -⟩
  · exact .inl hw
  · exact .inr ⟨x, hx, hw⟩

theorem writing_of_modified (c : Core) {e : Entry} {g : Entry → Entry} {n : Nat}
    (he : c.form.entry? e.kind = some e) (hk : (g e).kind = e.kind)
    (hw : (g e).write.request? ≠ none) :
    { c with form := c.form.modify e.kind g, issued := n }.Writing :=
  ⟨g e, Form.mem_of_entry (Form.entry?_modify he hk), hw⟩

end Core

namespace Session

variable {s s' : Session} {now : Nat} {a : Action} {r : Reply} {e e' : Entry} {es : List Effect}

/-! ### What a move does to them -/

/-- During a submission no write of an entry begins. -/
theorem Change.writes_during_submission (h : s.Change now a e es e') (submitting : s.core.Submitting)
    (hw : e'.write.request? ≠ none) : e.write.request? ≠ none := by
  have progress := h.progress
  cases h with
  | saved _ _ idle => exact absurd idle submitting
  | deleted _ _ idle => exact absurd idle submitting
  | spared _ _ idle => exact absurd idle submitting
  | reported => simp [WriteState.request?] at hw
  | blocked => simpa using hw
  | misdated => simpa using hw
  | _ => simpa [Entry.snapshot, updateFile] using hw

/-- Nothing but submitting begins a submission, and no write begins during one. -/
theorem Move.apart (h : Move now a s s') (gated : s.core.Gated) (ha : a ≠ .submit)
    (submitting : s'.core.Submitting) :
    s.core.Submitting ∧ (s'.core.Writing → s.core.Writing) := by
  cases h with
  | rest _ core => exact core ▸ ⟨core ▸ submitting, id⟩
  | ask errand _ _ _ _ _ _ _ core _ _ submits =>
      rw [core] at submitting ⊢
      refine ⟨?_, id⟩
      cases errand with
      | submit => exact absurd (submits rfl) ha
      | _ => exact submitting
  | entry e g es he change core =>
      rw [core] at submitting ⊢
      refine ⟨submitting, fun writing => ?_⟩
      rcases Core.writing_modify gated.distinct he writing with hw | writing
      · exact ⟨e, Form.mem_of_entry he, change.writes_during_submission submitting hw⟩
      · exact writing
  | abandon _ _ core =>
      rw [core] at submitting
      exact absurd rfl submitting

theorem Move.lasting (h : Move now a s s') (gated : s.core.Gated) (ha : a ≠ .restart) :
    (s.core.Submitting → s'.core.Submitting) ∧ (s.core.Writing → s'.core.Writing) := by
  cases h with
  | rest _ core => exact core ▸ ⟨id, id⟩
  | ask errand _ _ _ _ _ _ _ core =>
      rw [core]
      refine ⟨fun submitting => ?_, id⟩
      cases errand with
      | submit => exact Option.some_ne_none _
      | _ => exact submitting
  | entry e g es he change core =>
      rw [core]
      refine ⟨id, fun ⟨x, hx, hw⟩ => ?_⟩
      by_cases hk : x.kind = e.kind
      · obtain rfl := Form.eq_of_kind_eq gated.distinct hx (Form.mem_of_entry he) hk
        exact s.core.writing_of_modified he change.kind_eq (change.progress.writes hw)
      · exact ⟨x, List.mem_map.2 ⟨x, hx, if_neg hk⟩, hw⟩
  | abandon _ restart => exact absurd restart ha

theorem Moves.lasting (h : Moves now a s s') (gated : s.core.Gated) (ha : a ≠ .restart) :
    (s.core.Submitting → s'.core.Submitting) ∧ (s.core.Writing → s'.core.Writing) := by
  induction h with
  | refl => exact ⟨id, id⟩
  | tail earlier move ih =>
      have lasting := move.lasting (Moves.gated earlier gated) ha
      exact ⟨lasting.1 ∘ ih.1, lasting.2 ∘ ih.2⟩

/-! ### What a reply does to them -/

/-- What a reply leaves to be written was written before, or a code was accepted. -/
theorem Uptake.writes {task : Task} {outcome : Outcome} (h : s.Uptake now e task outcome es e')
    (hw : e'.write.request? ≠ none) :
    e.write.request? ≠ none ∨ task = .checkCode ∧ ∃ response, outcome = .ok response := by
  cases h with
  | accepted => exact .inr ⟨rfl, _, rfl⟩
  | codeSent => exact .inl hw
  | codeNotSent => exact .inl hw
  | acceptedLocked => exact .inl hw
  | refused => exact .inl hw
  | called => exact .inl hw
  | notCalled => exact .inl hw
  | _ => simp [WriteState.request?] at hw

theorem Uptake.writes_of_accepted {response : Response}
    (h : s.Uptake now e .checkCode (.ok response) es e') (unlocked : s.password.isSome = true) :
    e'.write.request? ≠ none := by
  cases h with
  | accepted => simp [WriteState.request?]
  | acceptedLocked locked => simp [locked] at unlocked

theorem Uptake.not_submission {task : Task} {outcome : Outcome}
    (h : s.Uptake now e task outcome es e') {token : Token} (ht : token ∈ tokensOf es) :
    token.isSubmission = false := by
  cases h with
  | accepted =>
      rw [tokensOf_append, tokensOf_cancels, List.nil_append] at ht
      obtain rfl := List.mem_singleton.1 ht
      rfl
  | acceptedLocked => simp at ht
  | _ => simp_all [tokensOf, Effect.token?, Request.token?, Token.isSubmission]

/-- The only reply that begins a write is the acceptance of a code. -/
theorem Settle.apart (h : Settle now r s s') (gated : s.core.Gated)
    (submitting : s'.core.Submitting) : s.core.Submitting ∧
      (s'.core.Writing → s.core.Writing ∨ ∃ kind, r.Accepts kind) := by
  cases h with
  | errand errand _ _ _ core =>
      rw [core] at submitting ⊢
      refine ⟨?_, .inl⟩
      cases errand with
      | submit => exact absurd rfl submitting
      | _ => exact submitting
  | form form _ _ _ _ core =>
      rw [core] at submitting ⊢
      refine ⟨submitting, ?_⟩
      rintro ⟨e, he, hw⟩
      simp [(Form.blank_of_mem_ofAuthorization he).1, WriteState.request?] at hw
  | unlock password elements errors _ _ _ _ core =>
      rw [core] at submitting ⊢
      refine ⟨submitting, ?_⟩
      rintro ⟨e, he, hw⟩
      -- Neither the elements nor their errors touch a write.
      have same : (s.form.takeElements elements errors).entries.map Entry.write =
          s.form.entries.map Entry.write :=
        Form.takeElements_map (fun _ _ => rfl) fun e x => (e.applyError_keeps x).2.1
      have among : e.write ∈ s.form.entries.map Entry.write := same ▸ List.mem_map_of_mem he
      obtain ⟨x, hx, hxw⟩ := List.mem_map.1 among
      exact .inl ⟨x, hx, hxw.symm ▸ hw⟩
  | task task e g es ht he _ uptake core =>
      rw [core] at submitting ⊢
      refine ⟨submitting, fun writing => ?_⟩
      rcases Core.writing_modify gated.distinct he writing with hw | writing
      · rcases uptake.writes hw with hw | ⟨rfl, response, ok⟩
        · exact .inl ⟨e, Form.mem_of_entry he, hw⟩
        · exact .inr ⟨e.kind, ht, response, ok⟩
      · exact .inl writing

/-- Once a code is accepted its element is being saved again, whatever else is under way. -/
theorem Settle.writes_of_accepts {kind : Kind} (h : Settle now r s s') (gated : s.core.Gated)
    (accepts : r.Accepts kind) :
    s'.core.Writing ∧ (s.core.Submitting → s'.core.Submitting) := by
  obtain ⟨checked, response, ok⟩ := accepts
  cases h with
  | errand _ _ ht => exact absurd (ht.symm.trans checked) (by simp)
  | form _ _ ht => exact absurd (ht.symm.trans checked) (by simp)
  | unlock _ _ _ _ ht => exact absurd (ht.symm.trans checked) (by simp)
  | task task e g es ht he hw uptake core =>
      have ready : s.secretReady = true := gated.ready_of_awaits he hw
      rw [core]
      obtain ⟨rfl, -⟩ := Pending.task.inj (ht.symm.trans checked)
      rw [ok] at uptake
      have unlocked : s.password.isSome = true := gated.keyed.symm.trans ready
      exact ⟨s.core.writing_of_modified he uptake.kind_eq (uptake.writes_of_accepted unlocked), id⟩

/-! ### What an action does to them -/

theorem Acts.apart (h : Acts now a s s') (gated : s.core.Gated) (ha : a ≠ .submit)
    (submitting : s'.core.Submitting) (writing : s'.core.Writing) : s.core.Submitting ∧
      (s.core.Writing ∨ ∃ r kind, a = .reply r ∧ s.core.Awaits r.token ∧ r.Accepts kind) := by
  have apart := h.induction (P := fun t => t.core.Gated ∧ (t.core.Submitting →
      s.core.Submitting ∧ (t.core.Writing → s.core.Writing ∨
        ∃ r kind, a = .reply r ∧ s.core.Awaits r.token ∧ r.Accepts kind)))
    ?_ ?_ ?_ ⟨gated, fun submitting => ⟨submitting, .inl⟩⟩
  · obtain ⟨before, begun⟩ := apart.2 submitting
    exact ⟨before, begun writing⟩
  · rintro t t' move ⟨gated, ih⟩
    refine ⟨move.gated gated, fun submitting => ?_⟩
    obtain ⟨before, kept⟩ := move.apart gated ha submitting
    exact ⟨(ih before).1, fun writing => (ih before).2 (kept writing)⟩
  · intro r t ha _ awaits settle
    refine ⟨settle.gated gated, fun submitting => ?_⟩
    obtain ⟨before, kept⟩ := settle.apart gated submitting
    refine ⟨before, fun writing => ?_⟩
    exact (kept writing).imp_right fun ⟨kind, accepts⟩ => ⟨r, kind, ha, awaits, accepts⟩
  · rintro t t' close ⟨gated, _⟩
    refine ⟨close.gated gated, fun submitting => ?_⟩
    rw [close.core] at submitting
    exact absurd rfl submitting

theorem Acts.unengaged (h : Acts now a s s') (gated : s.core.Gated) (ha : a ≠ .submit)
    (unengaged : s.core.Submitting → ∀ e ∈ s.core.form.entries, e.Unengaged) :
    s'.core.Submitting → ∀ e ∈ s'.core.form.entries, e.Unengaged := by
  refine (h.induction (P := fun t => t.core.Gated ∧
    (t.core.Submitting → ∀ e ∈ t.core.form.entries, e.Unengaged)) ?_ ?_ ?_ ⟨gated, unengaged⟩).2
  · rintro t t' move ⟨gated, ih⟩
    refine ⟨move.gated gated, fun submitting => ?_⟩
    have unengaged := ih (move.apart gated ha submitting).1
    cases move with
    | rest _ core => exact core ▸ unengaged
    | ask _ _ _ _ _ _ _ _ core => exact core ▸ unengaged
    | entry e g es he change core =>
        rw [core] at submitting ⊢
        intro x hx
        rcases Form.mem_modify gated.distinct he hx with rfl | ⟨hx, -⟩
        · obtain ⟨hw, hv⟩ := unengaged e (Form.mem_of_entry he)
          refine ⟨?_, change.progress.verification_of_none hv⟩
          by_contra begun
          exact change.writes_during_submission submitting begun hw
        · exact unengaged x hx
    | abandon _ _ core =>
        rw [core]
        exact fun e he => absurd he List.not_mem_nil
  · intro r t _ _ _ settle
    refine ⟨settle.gated gated, fun submitting => ?_⟩
    have unengaged := unengaged (settle.apart gated submitting).1
    cases settle with
    | errand _ _ _ _ core => exact core ▸ unengaged
    | form form _ _ _ _ core =>
        rw [core]
        intro e he
        obtain ⟨idle, none_⟩ := Form.blank_of_mem_ofAuthorization he
        exact ⟨congrArg WriteState.request? idle, none_⟩
    | unlock password elements errors _ _ _ _ core =>
        rw [core]
        refine Form.takeElements_forall (fun _ _ _ h => h) (fun e x h => ?_) unengaged
        obtain ⟨-, hw, hv⟩ := e.applyError_keeps x
        exact ⟨hw ▸ h.1, hv.trans h.2⟩
    | task task e g es _ he hw =>
        exact absurd (((unengaged e (Form.mem_of_entry he)).awaits task).symm.trans hw) (by simp)
  · rintro t t' close ⟨gated, _⟩
    refine ⟨close.gated gated, fun submitting => ?_⟩
    rw [close.core] at submitting
    exact absurd rfl submitting

theorem Acts.of_submission {token : Token} (h : Acts now a s s') (empty : s.outbox = [])
    (issued : token ∈ tokensOf s'.outbox) (ht : token.isSubmission = true) : a = .submit := by
  have appended {t t' : Session} {es : List Effect} (outbox : t'.outbox = t.outbox ++ es)
      (ih : token ∈ tokensOf t.outbox → a = .submit) (new : token ∈ tokensOf es → a = .submit)
      (issued : token ∈ tokensOf t'.outbox) : a = .submit := by
    rw [outbox, tokensOf_append] at issued
    exact (List.mem_append.1 issued).elim ih new
  have silent {es : List Effect} (tokens : tokensOf es = []) (new : token ∈ tokensOf es) :
      a = .submit := by simp [tokens] at new
  refine h.induction (P := fun t => token ∈ tokensOf t.outbox → a = .submit) ?_ ?_ ?_
    (by simp [empty]) issued
  · intro t t' move ih
    cases move with
    | rest es _ outbox calm => exact appended outbox ih (silent (tokensOf_of_calm calm))
    | ask errand r _ _ hr _ _ _ _ outbox _ submits =>
        refine appended outbox ih fun new => submits ?_
        simp only [tokensOf, List.filterMap_cons, Effect.token?, hr, List.filterMap_nil,
          List.mem_singleton] at new
        subst new
        simpa using Token.isSubmission_iff.1 ht
    | entry e g es _ change _ outbox =>
        refine appended outbox ih fun new => ?_
        simp [change.progress.not_submission new] at ht
    | abandon es _ _ outbox tokens => exact appended outbox ih (silent tokens)
  · intro r t _ _ _ settle
    have start : token ∈ tokensOf s.outbox → a = .submit := by simp [empty]
    cases settle with
    | errand _ es _ _ _ outbox calm => exact appended outbox start (silent (tokensOf_of_calm calm))
    | form _ es _ _ _ _ outbox calm => exact appended outbox start (silent (tokensOf_of_calm calm))
    | unlock _ _ _ es _ _ _ _ outbox calm =>
        exact appended outbox start (silent (tokensOf_of_calm calm))
    | task task e g es _ _ _ uptake _ outbox =>
        refine appended outbox start fun new => ?_
        simp [uptake.not_submission new] at ht
  · intro t t' close ih
    obtain ⟨es, outbox, tokens, -⟩ := close.effects
    exact appended outbox ih (silent tokens)

/-- Submitting sends the form, or does nothing at all. -/
theorem submit_cases (s : Session) : s.submit.1 = s ∨ s.awaited.submit = none ∧
    s.cancelled = false ∧ ∃ kinds, s.submit.1 = s.run .submit fun t => .sendForm t s.form.id kinds := by
  unfold submit
  split
  · exact .inl rfl
  · rename_i can
    simp only [Bool.or_eq_true, Bool.not_eq_true', not_or, Bool.not_eq_false] at can
    obtain ⟨⟨⟨⟨unsent, -⟩, live⟩, -⟩, -⟩ := can
    dsimp only
    split
    · exact .inr ⟨by simpa using unsent, by simpa using live, _, rfl⟩
    · exact .inl rfl

theorem save_of_submitting (submitting : s.core.Submitting) (kind : Kind) (changes : Fields) :
    (s.save kind changes).1 = s := by
  have busy : s.awaited.submit.isSome = true := Option.isSome_iff_ne_none.2 submitting
  unfold save
  rw [if_pos busy]
  split <;> rfl

theorem delete_of_submitting (submitting : s.core.Submitting) (kind : Kind) :
    (s.delete kind).1 = s := by
  have busy : s.awaited.submit.isSome = true := Option.isSome_iff_ne_none.2 submitting
  unfold delete
  rw [if_pos busy]
  split <;> rfl

theorem submit_of_submitting (submitting : s.core.Submitting) : s.submit.1 = s := by
  rcases s.submit_cases with same | ⟨unsent, -⟩
  · exact same
  · exact absurd unsent submitting

end Session

/-! ## Along a run -/

namespace Run

variable {setup : Setup} {past : History} {s : Session} {t : Turn}

theorem submit_cases (run : Run setup past s) (now : Nat) : (s.act now .submit).1 = s ∨
    Turn.BeginsSubmission ⟨s, now, .submit⟩ ∧ s.cancelled = false ∧
      (s.act now .submit).1.core = { s.core with
        issued := s.nextId, awaited := s.awaited.set .submit (some s.nextId) } := by
  show s.submit.1 = s ∨ _
  refine s.submit_cases.imp_right fun ⟨_, live, kinds, sent⟩ =>
    ⟨⟨rfl, kinds, ⟨s.nextId, .errand .submit⟩, ?_⟩, live, ?_⟩
  · show s.submit.1.outbox = _
    rw [sent]
    show s.outbox ++ _ = _
    rw [run.outbox_eq_nil]
    rfl
  · show s.submit.1.core = _
    rw [sent]
    rfl

/-- A closed session has no submission outstanding. -/
theorem live_of_submitting (run : Run setup past s) (submitting : past.Submitting) :
    s.cancelled = false := by
  induction run with
  | start => rfl
  | @step past s now action run _ _ ih =>
      obtain ⟨token, outstanding, ht⟩ := submitting
      by_contra closed
      have closed : (s.act now action).1.cancelled = true := eq_true_of_ne_false closed
      cases live : s.cancelled with
      | false => exact run.settled_of_closing live closed token outstanding
      | true =>
          rcases outstanding_of_cons outstanding with issued | earlier
          · obtain rfl : action = .submit :=
              (run.acts now action).of_submission run.outbox_eq_nil issued ht
            rcases run.submit_cases now with same | ⟨-, live', -⟩
            · have silent : Turn.effects ⟨s, now, .submit⟩ = [] :=
                (congrArg Session.outbox same).trans run.outbox_eq_nil
              simp [silent] at issued
            · exact absurd (live.symm.trans live') (by simp)
          · exact absurd (live.symm.trans (ih ⟨token, earlier, ht⟩)) (by simp)

theorem submitting_iff (run : Run setup past s) (live : s.cancelled = false) :
    past.Submitting ↔ s.core.Submitting := by
  constructor
  · rintro ⟨token, outstanding, ht⟩ none_
    have awaits := run.awaits_of_outstanding live outstanding
    rw [Token.isSubmission_iff] at ht
    simp only [Core.Awaits, ht] at awaits
    exact absurd (awaits.symm.trans none_) (by simp)
  · intro submitting
    obtain ⟨id, waiting⟩ := Option.ne_none_iff_exists'.1 submitting
    have awaits : s.core.Awaits ⟨id, .errand .submit⟩ := waiting
    have issued := (run.books live).errands .submit id waiting
    exact ⟨_, run.outstanding_of_awaits live issued awaits, rfl⟩

theorem writing_iff (run : Run setup past s) (live : s.cancelled = false) :
    past.Writing ↔ s.core.Writing := by
  have books := run.books live
  constructor
  · rintro ⟨token, outstanding, ht⟩
    have awaits := run.awaits_of_outstanding live outstanding
    obtain ⟨kind, ht⟩ := Token.isWrite_iff.1 ht
    have waiting : ∃ e, s.core.form.entry? kind = some e ∧ e.write = .pending token.id := by
      rcases ht with ht | ht <;> simp only [Core.Awaits, ht] at awaits <;>
        obtain ⟨e, he, hw⟩ := awaits
      · exact ⟨e, he, Session.write_of_awaits hw (.inl rfl)⟩
      · exact ⟨e, he, Session.write_of_awaits hw (.inr rfl)⟩
    obtain ⟨e, he, hw⟩ := waiting
    exact ⟨e, Form.mem_of_entry he, by simp [hw, WriteState.request?]⟩
  · rintro ⟨e, he, hw⟩
    have found := Form.entry?_of_mem books.distinct he
    cases write : e.write with
    | idle => simp [write, WriteState.request?] at hw
    | unchanged => simp [write, WriteState.request?] at hw
    | pending id =>
        rcases (books.entries e he).write id write with issued | issued
        · refine ⟨_, run.outstanding_of_awaits live issued ⟨e, found, ?_⟩, rfl⟩
          simp [Entry.awaits?, write]
        · refine ⟨_, run.outstanding_of_awaits live issued ⟨e, found, ?_⟩, rfl⟩
          simp [Entry.awaits?, write]

/-- If both are outstanding after a turn and were not before, the turn is one of the two kinds that
collide. -/
theorem collides_of_meeting (run : Run setup (t :: past) s)
    (submitting : History.Submitting (t :: past)) (writing : History.Writing (t :: past))
    (apart : ¬ (past.Submitting ∧ past.Writing)) : t.Collides past := by
  have live := run.live_of_submitting submitting
  replace submitting := (run.submitting_iff live).1 submitting
  replace writing := (run.writing_iff live).1 writing
  cases run with
  | @step _ before now action run _ genuine =>
      have submitting_after : (before.act now action).1.core.Submitting := submitting
      have writing_after : (before.act now action).1.core.Writing := writing
      have live_before := (run.acts now action).live live
      rw [run.submitting_iff live_before, run.writing_iff live_before] at apart
      by_cases ha : action = .submit
      · subst ha
        rcases run.submit_cases now with same | ⟨begins, -, core⟩
        · rw [same] at submitting_after writing_after
          exact absurd ⟨submitting_after, writing_after⟩ apart
        · rw [core] at writing_after
          exact .submits begins ((run.writing_iff live_before).2 writing_after)
      · obtain ⟨submitting_before, writing | ⟨r, kind, rfl, awaits, accepts⟩⟩ :=
          (run.acts now action).apart run.gated ha submitting_after writing_after
        · exact absurd ⟨submitting_before, writing⟩ apart
        · have outstanding := run.outstanding_of_awaits live_before (genuine _ rfl) awaits
          exact .saves ((run.submitting_iff live_before).2 submitting_before)
            ⟨r, rfl, outstanding, accepts⟩

/-- After a turn that collides both are outstanding. -/
theorem meeting_of_collides (run : Run setup (t :: past) s) (collides : t.Collides past) :
    History.Submitting (t :: past) ∧ History.Writing (t :: past) := by
  have whole := run
  cases run with
  | @step _ before now action run _ genuine =>
      suffices h : (before.act now action).1.cancelled = false ∧
          (before.act now action).1.core.Submitting ∧ (before.act now action).1.core.Writing by
        exact ⟨(whole.submitting_iff h.1).2 h.2.1, (whole.writing_iff h.1).2 h.2.2⟩
      cases collides with
      | submits begins writing =>
          obtain ⟨ha, kinds, token, effects⟩ := begins
          have ha : action = .submit := ha
          subst ha
          rcases run.submit_cases now with same | ⟨-, live, core⟩
          · have silent : Turn.effects ⟨before, now, .submit⟩ = [] :=
              (congrArg Session.outbox same).trans run.outbox_eq_nil
            simp [silent] at effects
          · refine ⟨(congrArg Core.cancelled core).trans live, ?_⟩
            rw [core]
            exact ⟨Option.some_ne_none _, (run.writing_iff live).1 writing⟩
      | saves submitting accepts =>
          have live := run.live_of_submitting submitting
          have submitting_before := (run.submitting_iff live).1 submitting
          obtain ⟨r, ha, outstanding, accepts⟩ := accepts
          have ha : action = .reply r := ha
          have awaits := run.awaits_of_outstanding live outstanding
          cases run.acts now action with
          | moves no_reply => exact absurd ha (no_reply r)
          | close no_reply => exact absurd ha (no_reply r)
          | @dropped r' ha' unwanted =>
              obtain rfl : r = r' := Session.Action.reply.inj (ha.symm.trans ha')
              exact absurd ⟨live, awaits⟩ unwanted
          | @reply r' ha' _ _ settles =>
              obtain rfl : r = r' := Session.Action.reply.inj (ha.symm.trans ha')
              obtain ⟨mid, settle, moves⟩ := settles
              obtain ⟨writing, submitting⟩ := settle.writes_of_accepts run.gated accepts
              have lasting := moves.lasting (settle.gated run.gated) (by simp [ha])
              refine ⟨moves.cancelled_eq.trans (settle.cancelled_eq.trans live), ?_, ?_⟩
              · exact lasting.1 (submitting submitting_before)
              · exact lasting.2 writing

/-- A form that is submitted with nothing written or verified has nothing of that until the submission
is over. -/
theorem unengaged_of_submitting (run : Run setup past s)
    (begun : ∀ t ∈ past, t.BeginsSubmission → ∀ e ∈ t.before.form.entries, e.Unengaged) :
    s.core.Submitting → ∀ e ∈ s.core.form.entries, e.Unengaged := by
  induction run with
  | start => exact fun _ e he => absurd he List.not_mem_nil
  | @step past s now action run _ _ ih =>
      have before := ih fun t ht => begun t (List.mem_cons_of_mem _ ht)
      by_cases ha : action = .submit
      · subst ha
        show (s.act now .submit).1.core.Submitting → ∀ e ∈ (s.act now .submit).1.core.form.entries, _
        rcases run.submit_cases now with same | ⟨begins, -, core⟩
        · exact same.symm ▸ before
        · rw [core]
          exact fun _ => begun _ List.mem_cons_self begins
      · exact (run.acts now action).unengaged run.gated ha before

/-- Writes and submissions are never outstanding at the same time exactly if no turn collides: no form
is submitted beside a write, and no code is accepted during a submission. It is enough that whenever
the form is submitted nothing is written or verified. And during a submission the view can begin
neither a save nor a deletion, nor another submission. -/
theorem writes_apart (run : Run setup past s) :
    ((∀ later earlier, past = later ++ earlier → ¬ (earlier.Submitting ∧ earlier.Writing)) ↔
      ∀ later t earlier, past = later ++ t :: earlier → ¬ t.Collides earlier) ∧
    ((∀ t ∈ past, t.BeginsSubmission → ∀ e ∈ t.before.form.entries, e.Unengaged) →
      ∀ later earlier, past = later ++ earlier → ¬ (earlier.Submitting ∧ earlier.Writing)) ∧
    (past.Submitting → ∀ now kind, (∀ changes, (s.act now (.save kind changes)).1 = s) ∧
      (s.act now (.delete kind)).1 = s ∧ (s.act now .submit).1 = s) := by
  refine ⟨⟨?_, ?_⟩, ?_, ?_⟩
  · rintro apart later t earlier split collides
    obtain ⟨s', run'⟩ := of_append (split ▸ run)
    exact apart later (t :: earlier) split (run'.meeting_of_collides collides)
  · -- By induction on the history: if both are outstanding they met in some turn of it.
    intro smooth later earlier split
    induction earlier generalizing later with
    | nil =>
        rintro ⟨⟨token, ⟨issued, -⟩, -⟩, -⟩
        cases issued
    | cons t earlier ih =>
        rintro ⟨submitting, writing⟩
        obtain ⟨s', run'⟩ := of_append (split ▸ run)
        have apart := ih (later ++ [t]) (by simp [split])
        exact smooth later t earlier split (run'.collides_of_meeting submitting writing apart)
  · rintro begun later earlier split ⟨submitting, writing⟩
    obtain ⟨s', run'⟩ := of_append (split ▸ run)
    have live := run'.live_of_submitting submitting
    have unengaged := run'.unengaged_of_submitting
      (fun t ht => begun t (split ▸ List.mem_append_right _ ht)) ((run'.submitting_iff live).1 submitting)
    obtain ⟨e, he, hw⟩ := (run'.writing_iff live).1 writing
    exact hw (unengaged e he).1
  · intro submitting now kind
    have submitting := (run.submitting_iff (run.live_of_submitting submitting)).1 submitting
    exact ⟨fun changes => Session.save_of_submitting submitting kind changes,
      Session.delete_of_submitting submitting kind, Session.submit_of_submitting submitting⟩

/-- An email is submitted with nothing else under way: another email is not saved meanwhile. -/
theorem writes_apart_of_rest :
    let actions := (4, .submit) :: opening ⟨1, [[⟨.email, false, false, false⟩]], none⟩ [.email "a@b.c"]
    let past := (play (.fresh .plain .empty) actions).1
    let s := (play (.fresh .plain .empty) actions).2
    past.Outstanding ⟨4, .errand .submit⟩ ∧ ¬ past.Writing ∧
      (s.act 5 (.save .email (.ofTexts [(Kind.plainField, "x@y.z")]))).1 = s := by
  intro actions past s
  have playable : Playable (.fresh .plain .empty) actions := by decide +kernel
  have submitted : past.Outstanding ⟨4, .errand .submit⟩ := by decide +kernel
  have unengaged : ∀ t ∈ past, ∀ e ∈ t.before.form.entries, e.Unengaged := by decide +kernel
  have submitting : past.Submitting := ⟨_, submitted, rfl⟩
  have run : Run .plain past s := .of_playable playable
  have apart := writes_apart run
  refine ⟨submitted, fun writing => ?_, (apart.2.2 submitting 5 .email).1 _⟩
  exact apart.2.1 (fun t ht _ => unengaged t ht) [] past rfl ⟨submitting, writing⟩

/-- The form is submitted while an email is being saved. And a phone number is rejected until it is
verified, the code is sent off, the form is submitted, and the code is accepted. -/
theorem writes_collide :
    let change (text : String) : Fields := .ofTexts [(Kind.plainField, text)]
    let beside := [(5, .submit), (4, .save .email (change "x@y.z"))] ++
      opening ⟨1, [[⟨.email, false, false, false⟩]], none⟩ [.email "a@b.c"]
    let within := [(8, .reply ⟨⟨6, .task .checkCode .phone⟩, .ok .ok⟩), (7, .submit),
        (7, .verify .phone "12345"),
        (6, .reply ⟨⟨5, .task .sendCode .phone⟩, .ok (.phoneCode ⟨.sms 5, none, 0⟩)⟩),
        (5, .reply ⟨⟨4, .task .save .phone⟩, .failed ⟨"PHONE_VERIFICATION_NEEDED"⟩⟩),
        (4, .save .phone (change "456"))] ++
      opening ⟨1, [[⟨.phone, false, false, false⟩]], none⟩ [.phone "123"]
    ∀ actions ∈ [beside, within],
      let past := (play (.fresh .plain .empty) actions).1
      (∃ s, Run .plain past s) ∧ past.Submitting ∧ past.Writing := by
  intro change beside within actions listed
  rcases List.mem_cons.1 listed with rfl | listed
  · have playable : Playable (.fresh .plain .empty) beside := by decide +kernel
    refine ⟨⟨_, .of_playable playable⟩, ⟨⟨5, .errand .submit⟩, ?_, rfl⟩,
      ⟨⟨4, .task .save .email⟩, ?_, rfl⟩⟩ <;> decide +kernel
  · obtain rfl := List.mem_singleton.1 listed
    have playable : Playable (.fresh .plain .empty) within := by decide +kernel
    refine ⟨⟨_, .of_playable playable⟩, ⟨⟨7, .errand .submit⟩, ?_, rfl⟩,
      ⟨⟨8, .task .save .phone⟩, ?_, rfl⟩⟩ <;> decide +kernel

end Run

end IdentityForm
