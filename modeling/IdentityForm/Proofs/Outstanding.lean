import IdentityForm.Proofs.Accounting

/-! # Outstanding requests

The books of a session are kept along every run that does not close it, and they tell which tokens
are outstanding: those that are waited for.
-/

namespace IdentityForm

namespace History

/-- The ids of the tokens that were outstanding when their reply came, the latest first. -/
def taken : History → List Nat
  | [] => []
  | t :: past =>
    match t.action.answers? with
    | some token => if Outstanding past token then token.id :: taken past else taken past
    | none => taken past

variable {past : History} {t : Turn} {token : Token}

theorem taken_cons (t : Turn) (past : History) : taken (t :: past) =
    match t.action.answers? with
    | some token => if past.Outstanding token then token.id :: past.taken else past.taken
    | none => past.taken := rfl

theorem taken_of_answer (h : t.action.answers? = some token) (outstanding : past.Outstanding token) :
    taken (t :: past) = token.id :: past.taken := by
  simp only [taken_cons, h, if_pos outstanding]

theorem taken_of_other (h : ∀ token, t.action.answers? = some token → ¬ past.Outstanding token) :
    taken (t :: past) = past.taken := by
  rw [taken_cons]
  split
  · rename_i token ht
    exact if_neg (h token ht)
  · rfl

theorem taken_subset (t : Turn) (past : History) : past.taken ⊆ taken (t :: past) := by
  intro id hid
  rw [taken_cons]
  split
  · split
    · exact List.mem_cons_of_mem _ hid
    · exact hid
  · exact hid

theorem answered_of_mem_taken {id : Nat} (h : id ∈ past.taken) :
    ∃ token ∈ past.tokens, token.id = id ∧ ∃ t ∈ past, t.action.answers? = some token := by
  induction past with
  | nil => cases h
  | cons t past ih =>
      have earlier (h : id ∈ taken past) : ∃ token ∈ tokens (t :: past), token.id = id ∧
          ∃ t' ∈ t :: past, t'.action.answers? = some token := by
        obtain ⟨token, issued, same, t', ht', answers⟩ := ih h
        exact ⟨token, by simp [issued], same, t', List.mem_cons_of_mem _ ht', answers⟩
      rw [taken_cons] at h
      split at h
      · rename_i token answers
        split at h
        · rename_i outstanding
          rcases List.mem_cons.1 h with rfl | h
          · exact ⟨token, by simp [outstanding.1], rfl, t, List.mem_cons_self, answers⟩
          · exact earlier h
        · exact earlier h
      · exact earlier h

end History

namespace Session

variable {s s' : Session} {now : Nat} {a : Action} {r : Reply}

theorem Move.cancelled_eq (h : Move now a s s') : s'.cancelled = s.cancelled := by
  cases h with
  | rest es core => exact congrArg Core.cancelled core
  | ask errand r _ _ _ _ _ _ core => exact congrArg Core.cancelled core
  | entry e g es _ _ core => exact congrArg Core.cancelled core
  | abandon es _ core => exact congrArg Core.cancelled core

theorem Acts.live (h : Acts now a s s') (live : s'.cancelled = false) : s.cancelled = false := by
  have closed : s.cancelled = true → s'.cancelled = true :=
    h.induction (P := fun t => s.cancelled = true → t.cancelled = true)
      (fun _ _ move ih closed => move.cancelled_eq.trans (ih closed))
      (fun _ _ _ live _ _ closed => absurd (closed.symm.trans live) (by simp))
      (fun _ _ close _ _ => congrArg Core.cancelled close.core) id
  cases hs : s.cancelled with
  | false => rfl
  | true => exact absurd ((closed hs).symm.trans live) (by simp)

theorem cancelsOf_requestPasswordState (s : Session) :
    cancelsOf s.requestPasswordState.outbox = cancelsOf s.outbox := by
  unfold requestPasswordState
  split
  · rfl
  · exact (cancelsOf_append _ _).trans (List.append_nil _)

theorem cancelsOf_display (s : Session) : cancelsOf s.display.outbox = cancelsOf s.outbox := by
  unfold display
  split
  · rfl
  · rw [cancelsOf_requestPasswordState]
    split
    · rfl
    · exact (cancelsOf_append _ _).trans (List.append_nil _)

theorem cancelsOf_restart (live : s.cancelled = false) :
    cancelsOf s.restart.outbox = cancelsOf s.outbox ++ s.core.awaitedIds := by
  unfold restart
  rw [if_neg (by simp [live]), cancelsOf_display]
  show cancelsOf s.abort.outbox = _
  rw [outbox_abort, cancelsOf_append, cancelsOf_stops]

theorem cancelsOf_cancelSurely (live : s.cancelled = false) :
    cancelsOf s.cancelSurely.outbox = cancelsOf s.outbox ++ s.core.awaitedIds := by
  obtain ⟨es, outbox, -, cancels, -⟩ := (cancelSurely_close live).effects
  rw [outbox, cancelsOf_append, cancels]

/-- A reply that nothing waits for is dropped. -/
theorem handleReply_of_not_awaits (h : ¬ s.core.Awaits r.token) : s.handleReply now r = s := by
  have acts : Acts now (.reply r) s (s.handleReply now r) := handleReply_acts rfl
  cases acts with
  | moves no_reply => exact absurd rfl (no_reply r)
  | close no_reply => exact absurd rfl (no_reply r)
  | dropped _ _ same => exact same
  | reply ha _ awaits =>
      cases ha
      exact absurd awaits h

end Session

namespace Run

variable {setup : Setup} {past later earlier : History} {s : Session} {token : Token}

/-- What was answered while it was outstanding, or before that cancelled, is settled. -/
theorem settled_of_answered (run : Run setup past s) {t : Turn} (ht : t ∈ past)
    (answers : t.action.answers? = some token) :
    token.id ∈ past.taken ∨ token.id ∈ past.cancels := by
  induction run generalizing t with
  | start => cases ht
  | @step past s now action run ordered genuine ih =>
      have earlier (h : token.id ∈ past.taken ∨ token.id ∈ past.cancels) :
          token.id ∈ History.taken (⟨s, now, action⟩ :: past) ∨
            token.id ∈ History.cancels (⟨s, now, action⟩ :: past) := by
        rcases h with h | h
        · exact .inl (History.taken_subset _ _ h)
        · exact .inr (by simp [h])
      rcases List.mem_cons.1 ht with rfl | ht
      · by_cases outstanding : past.Outstanding token
        · rw [History.taken_of_answer answers outstanding]
          exact .inl List.mem_cons_self
        · have issued : token ∈ past.tokens := genuine token answers
          by_cases cancelled : token.id ∈ past.cancels
          · exact earlier (.inr cancelled)
          · have answered : ∃ t ∈ past, t.action.answers? = some token := by
              by_contra unanswered
              exact outstanding ⟨issued, fun t ht h => unanswered ⟨t, ht, h⟩, cancelled⟩
            obtain ⟨t, ht, h⟩ := answered
            exact earlier (ih ht h)
      · exact earlier (ih ht answers)

/-- As far as the books are kept, the outstanding tokens are those that are waited for. -/
theorem outstanding_iff_of_books (run : Run setup past s)
    (books : s.core.Books past.log past.taken) :
    past.Outstanding token ↔ token ∈ past.tokens ∧ token.id ∈ s.core.awaitedIds := by
  constructor
  · rintro ⟨issued, unanswered, uncancelled⟩
    refine ⟨issued, ?_⟩
    have somewhere := books.balance.subset (List.mem_map_of_mem issued)
    rcases List.mem_append.1 somewhere with waiting | settled
    · exact waiting
    · rcases List.mem_append.1 settled with cancelled | taken
      · exact absurd cancelled uncancelled
      · obtain ⟨token', issued', same, t, ht, answers⟩ := History.answered_of_mem_taken taken
        rw [Entry.eq_of_id books.unique issued' issued same] at answers
        exact absurd answers (unanswered t ht)
  · rintro ⟨issued, waiting⟩
    obtain ⟨-, -, apart⟩ := List.nodup_append.1 books.nodup
    have unsettled : token.id ∉ past.cancels ++ past.taken := fun h =>
      apart _ waiting _ h rfl
    refine ⟨issued, fun t ht answers => ?_, fun h => unsettled (List.mem_append_left _ h)⟩
    rcases run.settled_of_answered ht answers with taken | cancelled
    · exact unsettled (List.mem_append_right _ taken)
    · exact unsettled (List.mem_append_left _ cancelled)

/-- The books are kept along every run that does not close the session. -/
theorem books (run : Run setup past s) (live : s.cancelled = false) :
    s.core.Books past.log past.taken := by
  induction run with
  | start credentials =>
      exact { toGated := (Run.start credentials).gated, numbered := rfl, balance := .refl _
              errands := fun errand id h => by cases errand <;> cases h
              entries := fun e he => absurd he List.not_mem_nil }
  | @step past s now action run ordered genuine ih =>
      let t : Turn := ⟨s, now, action⟩
      have acts := run.acts now action
      have live : (s.act now action).1.cancelled = false := live
      have books := ih (acts.live live)
      have start : s.core.Books (past.log ++ s.outbox) past.taken := by
        rw [run.outbox_eq_nil, List.append_nil]
        exact books
      have moves {u u' : Session} {settled : List Nat}
          (h : Session.Moves now action u u') (hu : u.core.Books (past.log ++ u.outbox) settled) :
          u'.core.Books (past.log ++ u'.outbox) settled := by
        induction h with
        | refl => exact hu
        | tail _ step ih => exact step.books ih
      show (s.act now action).1.core.Books (past.log ++ (s.act now action).1.outbox)
        (History.taken (t :: past))
      cases acts with
      | moves no_reply h =>
          rw [History.taken_of_other fun token answers => ?_]
          · exact moves h start
          · cases action <;> first | exact absurd rfl (no_reply _) | cases answers
      | close _ _ close =>
          exact absurd (live.symm.trans (congrArg Core.cancelled close.core)) (by simp)
      | @dropped r ha unwanted same =>
          rw [same, History.taken_of_other fun token answers outstanding => ?_]
          · exact start
          · have is_token : r.token = token := by
              have answers : action.answers? = some token := answers
              rw [ha] at answers
              exact Option.some.inj answers
            have issued := ((run.outstanding_iff_of_books books).1 outstanding)
            have live : s.cancelled = false := same ▸ live
            exact unwanted ⟨live, is_token ▸ books.awaits_of_mem issued.1 issued.2⟩
      | @reply r ha _ awaits settles =>
          obtain ⟨mid, settle, h⟩ := settles
          have answers : t.action.answers? = some r.token := by
            show action.answers? = _
            rw [ha]
            rfl
          have issued : r.token ∈ past.tokens := genuine _ answers
          have outstanding := (run.outstanding_iff_of_books books).2
            ⟨issued, Core.Books.mem_of_awaits awaits⟩
          rw [History.taken_of_answer answers outstanding]
          refine moves h (settle.books ?_ start)
          rw [run.outbox_eq_nil, List.append_nil]
          exact issued

theorem live_of_append (run : Run setup (later ++ earlier) s) (live : s.cancelled = false) :
    ∃ s', Run setup earlier s' ∧ s'.cancelled = false := by
  induction later generalizing s with
  | nil => exact ⟨s, run, live⟩
  | cons t later ih =>
      cases run with
      | step now action run => exact ih run ((run.acts now action).live live)

theorem settled_append {id : Nat} (later : History)
    (h : id ∈ History.taken earlier ∨ id ∈ History.cancels earlier) :
    id ∈ History.taken (later ++ earlier) ∨ id ∈ History.cancels (later ++ earlier) := by
  induction later with
  | nil => exact h
  | cons t later ih =>
      rcases ih with taken | cancelled
      · exact .inl (History.taken_subset t _ taken)
      · refine .inr ?_
        rw [List.cons_append, History.cancels_cons]
        exact List.mem_append_left _ cancelled

variable (run : Run setup past s) (live : s.cancelled = false)

include run live

theorem outstanding_iff :
    past.Outstanding token ↔ token ∈ past.tokens ∧ token.id ∈ s.core.awaitedIds :=
  run.outstanding_iff_of_books (run.books live)

theorem awaits_of_outstanding {token : Token} (outstanding : past.Outstanding token) :
    s.core.Awaits token := by
  obtain ⟨issued, waiting⟩ := (run.outstanding_iff live).1 outstanding
  exact (run.books live).awaits_of_mem issued waiting

theorem outstanding_of_awaits {token : Token} (issued : token ∈ past.tokens)
    (awaits : s.core.Awaits token) : past.Outstanding token :=
  (run.outstanding_iff live).2 ⟨issued, Core.Books.mem_of_awaits awaits⟩

theorem not_awaited_of_settled {id : Nat} (h : id ∈ past.taken ∨ id ∈ past.cancels) :
    id ∉ s.core.awaitedIds := by
  intro waiting
  obtain ⟨-, -, apart⟩ := List.nodup_append.1 (run.books live).nodup
  rcases h with taken | cancelled
  · exact apart _ waiting _ (List.mem_append_right _ taken) rfl
  · exact apart _ waiting _ (List.mem_append_left _ cancelled) rfl

/-- Every token that was issued is waited for or settled. -/
theorem awaited_or_settled (issued : token ∈ past.tokens) : token.id ∈ s.core.awaitedIds ∨
    token.id ∈ past.taken ∨ token.id ∈ past.cancels := by
  have somewhere := (run.books live).balance.subset (List.mem_map_of_mem issued)
  rcases List.mem_append.1 somewhere with waiting | settled
  · exact .inl waiting
  · exact .inr (List.mem_append.1 settled).symm

omit run live in
/-- Nothing that was issued before the session started over is waited for. -/
theorem not_awaited_of_restart {t : Turn} (run : Run setup (later ++ t :: earlier) s)
    (live : s.cancelled = false) (ht : t.action = .restart)
    (issued : token ∈ History.tokens earlier) : token.id ∉ s.core.awaitedIds := by
  obtain ⟨s', run', live'⟩ := run.live_of_append live
  refine run.not_awaited_of_settled live (settled_append later ?_)
  cases run' with
  | @step _ before now action run' =>
      have ht : action = .restart := ht
      subst ht
      have live_before := (run'.acts now .restart).live live'
      rcases run'.awaited_or_settled live_before issued with waiting | settled
      · refine .inr ?_
        have cancelled := Session.cancelsOf_restart live_before
        rw [run'.outbox_eq_nil] at cancelled
        rw [History.cancels_cons]
        exact List.mem_append_right _ (cancelled.symm ▸ waiting)
      · exact settled_append [_] settled

/-- The accounting of requests. In an open session the ids that are waited for are distinct, were
issued, and are those of the outstanding tokens, each of which is waited for where its reply is
taken in. A reply to a token that was answered or cancelled, or that was issued before the session
started over, changes nothing. Closing and starting over cancel each outstanding id once. -/
theorem requests_accounted :
    s.core.awaitedIds.Nodup ∧ (∀ id ∈ s.core.awaitedIds, id ≤ s.issued) ∧
      (∀ id, id ∈ s.core.awaitedIds ↔ ∃ token, past.Outstanding token ∧ token.id = id) ∧
      (∀ token, past.Outstanding token → s.core.Awaits token) ∧
      (∀ t ∈ past, ∀ now r, t.action.answers? = some r.token → s.handleReply now r = s) ∧
      (∀ now r, r.token.id ∈ past.cancels → s.handleReply now r = s) ∧
      (∀ later t earlier, past = later ++ t :: earlier → t.action = .restart →
        ∀ now r, r.token ∈ History.tokens earlier → s.handleReply now r = s) ∧
      cancelsOf s.cancelSurely.outbox = s.core.awaitedIds ∧
      cancelsOf s.restart.outbox = s.core.awaitedIds := by
  have books := run.books live
  have dropped {now : Nat} {r : Reply} (h : r.token.id ∉ s.core.awaitedIds) :
      s.handleReply now r = s :=
    Session.handleReply_of_not_awaits fun awaits => h (Core.Books.mem_of_awaits awaits)
  have issued {id : Nat} (h : id ∈ s.core.awaitedIds) : ∃ token ∈ past.tokens, token.id = id :=
    List.mem_map.1 (books.balance.symm.subset (List.mem_append_left _ h))
  refine ⟨(List.nodup_append.1 books.nodup).1, ?_, ?_, ?_, ?_, ?_, ?_, ?_, ?_⟩
  · intro id waiting
    have numbered := books.balance.symm.subset (List.mem_append_left _ waiting)
    rw [books.numbered, List.mem_range'_1] at numbered
    have within : id < 1 + s.issued := numbered.2
    omega
  · intro id
    constructor
    · intro waiting
      obtain ⟨token, is_issued, rfl⟩ := issued waiting
      exact ⟨token, (run.outstanding_iff live).2 ⟨is_issued, waiting⟩, rfl⟩
    · rintro ⟨token, outstanding, rfl⟩
      exact ((run.outstanding_iff live).1 outstanding).2
  · exact fun token outstanding => run.awaits_of_outstanding live outstanding
  · intro t ht now r answers
    exact dropped (run.not_awaited_of_settled live (run.settled_of_answered ht answers))
  · intro now r cancelled
    exact dropped (run.not_awaited_of_settled live (.inr cancelled))
  · rintro later t earlier rfl ht now r is_issued
    exact dropped (run.not_awaited_of_restart live ht is_issued)
  · rw [Session.cancelsOf_cancelSurely live, run.outbox_eq_nil]
    rfl
  · rw [Session.cancelsOf_restart live, run.outbox_eq_nil]
    rfl

omit run live in
/-- A save was under way when the session started over: its id is cancelled, its reply is dropped,
and the two requests of the new beginning are waited for. -/
theorem requests_accounted_after_restart :
    let actions := (5, .restart) :: (4, .delete .email) ::
      opening ⟨1, [[⟨.email, false, false, false⟩]], none⟩ []
    let s := (play (.fresh .plain .empty) actions).2
    s.core.awaitedIds = [5, 6] ∧ s.handleReply 6 ⟨⟨4, .task .delete .email⟩, .ok .ok⟩ = s ∧
      cancelsOf s.restart.outbox = [5, 6] := by
  intro actions s
  have playable : Playable (.fresh .plain .empty) actions := by decide +kernel
  have accounted := requests_accounted (.of_playable playable) (s := s) (by decide +kernel)
  obtain ⟨-, -, -, -, -, cancelled, -, -, restart⟩ := accounted
  have waiting : s.core.awaitedIds = [5, 6] := by decide +kernel
  exact ⟨waiting, cancelled 6 _ (by decide +kernel), restart.trans waiting⟩

end Run

end IdentityForm
