import IdentityForm.Proofs.Outstanding

/-! # What a save has sent

The fields of an edit buffer stand still as long as its entry is busy. So the element that a save of
a plain text has sent is still the one that the edit buffer describes when the reply comes.
-/

namespace IdentityForm

/-! ## What requests are about -/

namespace Request

def kind? (r : Request) : Option Kind :=
  match r.token? with
  | some ⟨_, .task _ kind⟩ => some kind
  | _ => none

def element? : Request → Option SubmittedElement
  | .setElement _ element _ => some element
  | _ => none

theorem kind?_of_unissued {r : Request} {es : List Effect} (tokens : tokensOf es = [])
    (hr : .request r ∈ es) : r.kind? = none := by
  cases ht : r.token? with
  | none => simp [kind?, ht]
  | some token =>
      have issued := mem_tokensOf.2 ⟨r, hr, ht⟩
      rw [tokens] at issued
      cases issued

end Request

/-- An effect that is about no other entry than one of a kind. -/
def Effect.Concerns (kind : Kind) : Effect → Prop
  | .request r => r.kind? = none ∨ r.kind? = some kind
  | .notice n => ∀ other, n = .saveFinished other → other = kind

namespace Effect

variable {x : Effect} {kind : Kind}

theorem concerns_of_calm (calm : x.isCalm = true) : x.Concerns kind := by
  cases x with
  | request r => cases r <;> first | exact .inl rfl | cases calm
  | notice n =>
      intro other h
      subst h
      cases calm

end Effect

namespace Entry

variable {e e' : Entry}

theorem submission_eq (plain : e.kind.isPlain = true) (hk : e'.kind = e.kind)
    (hf : e'.draftFields = e.draftFields) : e'.submission = e.submission := by
  unfold submission
  rw [hk, hf]
  cases h : e.kind <;> first | rfl | (rw [h] at plain; cases plain)

theorem clearIfIdle_of_busy (busy : e.isBusy = true) : e.clearIfIdle = e :=
  if_neg fun idle => idle.2 busy

end Entry

namespace Session

variable {s : Session} {now : Nat} {a : Action} {e e' : Entry} {es : List Effect}

theorem Change.concerns (h : s.Change now a e es e') : ∀ x ∈ es, x.Concerns e.kind := by
  have own : ∀ other, Notice.saveFinished e.kind = .saveFinished other → other = e.kind :=
    fun other h => (Notice.saveFinished.inj h).symm
  cases h with
  | saved => exact List.forall_mem_singleton.2 (.inr rfl)
  | deleted => exact List.forall_mem_singleton.2 (.inr rfl)
  | reported => exact List.forall_mem_singleton.2 own
  | uploaded =>
      intro x hx
      rcases uploading_cases hx with rfl | calm
      · exact .inl rfl
      · exact Effect.concerns_of_calm calm
  | marked => exact List.forall_mem_singleton.2 (Effect.concerns_of_calm rfl)
  | checked _ _ _ hr =>
      subst hr
      refine List.forall_mem_singleton.2 ?_
      split <;> exact .inr rfl
  | givenUp => exact List.forall_mem_map.2 fun id _ => .inl rfl
  | calling => exact List.forall_mem_singleton.2 (.inr rfl)
  | _ => exact List.forall_mem_nil _

theorem Uptake.concerns {task : Task} {outcome : Outcome}
    (h : s.Uptake now e task outcome es e') : ∀ x ∈ es, x.Concerns e.kind := by
  have own : ∀ other, Notice.saveFinished e.kind = .saveFinished other → other = e.kind :=
    fun other h => (Notice.saveFinished.inj h).symm
  cases h with
  | saved => exact List.forall_mem_singleton.2 own
  | deleted => exact List.forall_mem_singleton.2 own
  | unverifiedPhone => exact List.forall_mem_singleton.2 (.inr rfl)
  | unverifiedEmail => exact List.forall_mem_singleton.2 (.inr rfl)
  | accepted =>
      refine List.forall_mem_append.2 ?_
      refine ⟨List.forall_mem_map.2 fun id _ => .inl rfl, List.forall_mem_cons.2 ⟨?_, ?_⟩⟩
      · exact Effect.concerns_of_calm rfl
      · exact List.forall_mem_singleton.2 (.inr rfl)
  | acceptedLocked => exact List.forall_mem_map.2 fun id _ => .inl rfl
  | _ => exact List.forall_mem_nil _

/-- The fields of the edit buffer stand still as long as the entry is busy. -/
theorem Change.frozen (h : s.Change now a e es e') (busy : e.isBusy = true)
    (unreported : e.write ≠ .unchanged) : e'.draftFields = e.draftFields := by
  have not_quiet : e.isBusy ≠ false := by simp [busy]
  cases h with
  | openedFirst _ _ quiet => exact absurd quiet not_quiet
  | cleared => rw [Entry.clearIfIdle_of_busy busy]
  | blocked _ quiet => exact absurd quiet not_quiet
  | spared _ _ _ quiet => exact absurd quiet not_quiet
  | misdated _ quiet => exact absurd quiet not_quiet
  | saved _ _ _ _ quiet => exact absurd quiet not_quiet
  | reported _ hw => exact absurd hw unreported
  | _ => rfl

end Session

/-! ## The element under way -/

namespace Core.Books

variable {log : List Effect} {settled : List Nat} {c : Core} {token : Token}

theorem id_le (books : c.Books log settled) (issued : token ∈ tokensOf log) :
    token.id ≤ c.issued := by
  have numbered : token.id ∈ (tokensOf log).map Token.id := List.mem_map_of_mem issued
  rw [books.numbered, List.mem_range'_1] at numbered
  omega

theorem fresh (books : c.Books log settled) {r : Request} (hr : .request r ∈ log) {p : Pending} :
    r.token? ≠ some ⟨c.issued + 1, p⟩ := by
  intro ht
  have le : c.issued + 1 ≤ c.issued := books.id_le (mem_tokensOf.2 ⟨r, hr, ht⟩)
  omega

/-- What is waited for was issued, and so comes before the next id. -/
theorem pending_le (books : c.Books log settled) {e : Entry} (he : e ∈ c.form.entries) {id : Nat}
    (hw : e.write = .pending id) : id ≤ c.issued := by
  rcases (books.entries e he).write id hw with issued | issued
  · exact books.id_le issued
  · exact books.id_le issued

end Core.Books

namespace Entry

/-- What is being saved of this entry is what its request carries. -/
def Sent (log : List Effect) (e : Entry) : Prop :=
  ∀ id element password, e.write = .pending id →
    .request (.setElement ⟨id, .task .save e.kind⟩ element password) ∈ log → element = e.submission

theorem Progress.pending_before {ready : Bool} {next id : Nat} {e e' : Entry}
    {tokens : List Token} {cancels : List Nat} (h : Progress ready next e e' tokens cancels)
    (busy : e.isBusy = true) (hw : e'.write = .pending id) : e.write = .pending id := by
  have not_quiet : e.isBusy ≠ false := by simp [busy]
  cases h with
  | unchanged _ quiet => exact absurd quiet not_quiet
  | written _ _ quiet => exact absurd quiet not_quiet
  | kept same => exact same.symm.trans hw
  | miscoded _ same => exact same.symm.trans hw
  | checked _ _ same => exact same.symm.trans hw
  | givenUp same => exact same.symm.trans hw
  | calling _ same => exact same.symm.trans hw
  | reported _ idle => exact absurd (idle.symm.trans hw) (by simp)

theorem Sent.append {log es : List Effect} {e : Entry} (sent : e.Sent log)
    (other : ∀ r, .request r ∈ es → r.kind? ≠ some e.kind) : e.Sent (log ++ es) := by
  intro id element password hw hr
  rcases List.mem_append.1 hr with hr | hr
  · exact sent id element password hw hr
  · exact absurd rfl (other _ hr)

theorem Sent.of_not_pending {log : List Effect} {e : Entry} (hw : ∀ id, e.write ≠ .pending id) :
    e.Sent log := fun id _ _ h => absurd h (hw id)

end Entry

namespace Session

open Entry

variable {s s' : Session} {now : Nat} {a : Action} {e e' : Entry} {es log : List Effect}

theorem Change.id_of_mem (h : s.Change now a e es e') {token : Token} (ht : token ∈ tokensOf es) :
    s.issued < token.id := by
  have numbered : token.id ∈ (tokensOf es).map Token.id := List.mem_map_of_mem ht
  rw [h.progress.numbers, List.mem_range'_1] at numbered
  exact numbered.1

theorem Change.sent (h : s.Change now a e es e') (plain : e.kind.isPlain = true)
    (below : ∀ id, e.write = .pending id → id ≤ s.issued)
    (fresh : ∀ element p password, .request (.setElement ⟨s.nextId, p⟩ element password) ∉ log)
    (sent : e.Sent log) : e'.Sent (log ++ es) := by
  intro id element password hw hr
  have hk := h.kind_eq
  cases busy : e.isBusy with
  | true =>
      have before : e.write = .pending id := h.progress.pending_before busy hw
      have frozen := h.frozen busy (by simp [before])
      rw [submission_eq plain hk frozen]
      rcases List.mem_append.1 hr with hr | hr
      · exact sent id element password before (hk ▸ hr)
      · have later := h.id_of_mem (mem_tokensOf.2 ⟨_, hr, rfl⟩)
        have earlier := below id before
        simp only at later
        omega
  | false =>
      obtain ⟨idle, -⟩ := quiet_iff.1 busy
      cases h with
      | saved _ _ _ _ _ _ hsent =>
          subst hsent
          have same : s.nextId = id := WriteState.pending.inj hw
          subst same
          rcases List.mem_append.1 hr with hr | hr
          · exact absurd hr (fresh _ _ _)
          · simp only [List.mem_singleton, Effect.request.injEq, Request.setElement.injEq] at hr
            exact hr.2.1
      | deleted =>
          have same : s.nextId = id := WriteState.pending.inj hw
          subst same
          rcases List.mem_append.1 hr with hr | hr
          · exact absurd hr (fresh _ _ _)
          · simp at hr
      | _ => simp [idle, snapshot, updateFile] at hw

/-- Only the save after an accepted code goes on with a reply. -/
theorem Uptake.sent {task : Task} {outcome : Outcome} {id : Nat} {tokens : List Token}
    (h : s.Uptake now e task outcome es e') (hw : e.awaits? task = some id) (kept : e.Kept tokens)
    (fresh : ∀ element p password, .request (.setElement ⟨s.nextId, p⟩ element password) ∉ log) :
    e'.Sent (log ++ es) := by
  cases h with
  | accepted =>
      intro id element password same hr
      have same : s.nextId = id := WriteState.pending.inj same
      subst same
      rcases List.mem_append.1 hr with hr | hr
      · exact absurd hr (fresh _ _ _)
      · simp at hr
        exact hr.1
  | codeSent => exact .of_not_pending (by simp [kept.idle_of_request hw])
  | codeNotSent => exact .of_not_pending (by simp [kept.idle_of_request hw])
  | acceptedLocked => exact .of_not_pending (by simp [kept.idle_of_request hw])
  | refused => exact .of_not_pending (by simp [kept.idle_of_request hw])
  | called => exact .of_not_pending (by simp [kept.idle_of_call (callRequest?_eq_some.1 hw)])
  | notCalled => exact .of_not_pending (by simp [kept.idle_of_call (callRequest?_eq_some.1 hw)])
  | _ => exact .of_not_pending (by simp)

end Session

def Core.Sent (log : List Effect) (c : Core) : Prop :=
  ∀ e ∈ c.form.entries, e.kind.isPlain = true → e.Sent log

namespace Session

variable {s s' : Session} {now : Nat} {a : Action} {r : Reply} {log : List Effect}
  {settled : List Nat}

theorem kind?_of_calm {r : Request} (calm : (Effect.request r).isCalm = true) : r.kind? = none := by
  cases r <;> first | rfl | cases calm

theorem Move.sent (h : Move now a s s') (books : s.core.Books (log ++ s.outbox) settled)
    (sent : s.core.Sent (log ++ s.outbox)) : s'.core.Sent (log ++ s'.outbox) := by
  cases h with
  | rest es core outbox calm =>
      rw [core, outbox, ← List.append_assoc]
      intro e he plain
      apply (sent e he plain).append
      intro r hr
      simp [kind?_of_calm (calm _ hr)]
  | ask errand r free hr ht form check submit core outbox =>
      rw [core, outbox, ← List.append_assoc]
      intro e he plain
      apply (sent e he plain).append
      intro r' hr'
      simp only [List.mem_singleton, Effect.request.injEq] at hr'
      simp [Request.kind?, hr', ht]
  | entry e g es he change core outbox =>
      rw [core, outbox, ← List.append_assoc]
      intro x hx plain
      rcases Form.mem_modify books.distinct he hx with rfl | ⟨hx, hne⟩
      · have here := Form.mem_of_entry he
        rw [change.kind_eq] at plain
        refine change.sent plain (fun id hw => books.pending_le here hw) ?_ (sent e here plain)
        exact fun element p password hr => books.fresh hr rfl
      · apply (sent x hx plain).append
        intro r hr
        rcases change.concerns _ hr with none_ | some_
        · simp [none_]
        · simp [some_, hne.symm]
  | abandon es ha core outbox tokens cancels =>
      rw [core]
      exact fun e he => absurd he List.not_mem_nil

theorem Settle.sent (h : Settle now r s s') (books : s.core.Books (log ++ s.outbox) settled)
    (sent : s.core.Sent (log ++ s.outbox)) : s'.core.Sent (log ++ s'.outbox) := by
  have others {es : List Effect} (calm : ∀ x ∈ es, x.isCalm = true) {e : Entry} :
      ∀ r, .request r ∈ es → r.kind? ≠ some e.kind := by
    intro r hr
    simp [kind?_of_calm (calm _ hr)]
  cases h with
  | errand errand es ht hw core outbox calm =>
      rw [core, outbox, ← List.append_assoc]
      exact fun e he plain => (sent e he plain).append (others calm)
  | form form es ht hw ho core outbox calm =>
      rw [core]
      intro e he plain
      obtain ⟨idle, -⟩ := Form.blank_of_mem_ofAuthorization he
      exact .of_not_pending (by simp [idle])
  | unlock password elements errors es ht hw ho core outbox calm =>
      rw [core]
      have locked := books.locked_of_awaits hw
      have idle : ∀ e ∈ (s.form.takeElements elements errors).entries, e.write = .idle := by
        refine Form.takeElements_forall (fun e _ _ idle => idle) ?_ fun e he => ?_
        · exact fun e x idle => (e.applyError_keeps x).2.1.trans idle
        · exact (books.locked locked e he).1
      intro e he plain
      exact .of_not_pending (by simp [idle e he])
  | task task e g es ht he hw uptake core outbox =>
      rw [core, outbox, ← List.append_assoc]
      intro x hx plain
      rcases Form.mem_modify books.distinct he hx with rfl | ⟨hx, hne⟩
      · apply uptake.sent hw (books.entries e (Form.mem_of_entry he))
        exact fun element p password hr => books.fresh hr rfl
      · apply (sent x hx plain).append
        intro r hr
        rcases uptake.concerns _ hr with none_ | some_
        · simp [none_]
        · simp [some_, hne.symm]

end Session

namespace Run

variable {setup : Setup} {past : History} {s : Session}

theorem sent (run : Run setup past s) (live : s.cancelled = false) : s.core.Sent past.log := by
  induction run with
  | start credentials => exact fun e he => absurd he List.not_mem_nil
  | @step past s now action run ordered genuine ih =>
      have acts := run.acts now action
      have live : (s.act now action).1.cancelled = false := live
      have before := acts.live live
      have books : s.core.Books (past.log ++ s.outbox) past.taken := by
        rw [run.outbox_eq_nil, List.append_nil]
        exact run.books before
      have start : s.core.Sent (past.log ++ s.outbox) := by
        rw [run.outbox_eq_nil, List.append_nil]
        exact ih before
      refine (acts.induction (P := fun t => t.cancelled = false → (∃ settled,
        t.core.Books (past.log ++ t.outbox) settled) ∧ t.core.Sent (past.log ++ t.outbox))
        ?_ ?_ ?_ ?_ live).2
      · intro t t' move h live
        obtain ⟨⟨settled, books⟩, sent⟩ := h (move.cancelled_eq.symm.trans live)
        exact ⟨⟨settled, move.books books⟩, move.sent books sent⟩
      · intro r t ha _ _ settle _
        have issued : r.token ∈ tokensOf (past.log ++ s.outbox) := by
          rw [run.outbox_eq_nil, List.append_nil]
          exact genuine r.token (ha ▸ rfl)
        exact ⟨⟨_, settle.books issued books⟩, settle.sent books start⟩
      · intro t t' close _ live
        exact absurd (live.symm.trans (congrArg Core.cancelled close.core)) (by simp)
      · exact fun _ => ⟨⟨_, books⟩, start⟩

end Run

end IdentityForm
