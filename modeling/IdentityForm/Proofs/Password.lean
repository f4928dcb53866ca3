import IdentityForm.Proofs.Outstanding
import Mathlib.Data.List.Pairwise

/-! # What the password guards

A password is checked by asking for the available elements with it, and the form is unlocked when
they come. Nothing is written, submitted or verified before that, and every save carries the password
of the check that succeeded. Starting over forgets it.
-/

namespace IdentityForm

/-- The request is for an unlocked form only: it writes, submits, or is about a code. -/
def Request.isGuarded : Request → Bool
  | .setElement _ _ _ | .deleteElement _ _ | .sendForm _ _ _ | .sendPhoneCode _ _
  | .resendPhoneCode _ _ | .checkPhoneCode _ _ _ | .sendEmailCode _ _
  | .checkEmailCode _ _ _ => true
  | _ => false

def Request.Carries (password : String) (r : Request) : Prop :=
  ∀ token element key, r = .setElement token element key → key = ⟨password⟩

/-- Some request checks a password under an id. -/
def Checks (effects : List Effect) (id : Nat) (password : String) : Prop :=
  ∃ form, .request (.getAvailableElements ⟨id, .errand .availableElements⟩ form ⟨password⟩) ∈ effects

/-! ## Sessions in a history -/

def Turn.startsOver (t : Turn) : Bool :=
  match t.action with
  | .restart => !t.before.cancelled
  | _ => false

/-- The turns since the session was opened or started over. -/
def History.current : History → History
  | [] => []
  | t :: past => if t.startsOver then [] else t :: current past

/-- The server answers a check of the current session: the password is right. -/
def Turn.Unlocks (past : History) (check : Nat) (password : String) (t : Turn) : Prop :=
  t.before.cancelled = false ∧ past.Outstanding ⟨check, .errand .availableElements⟩ ∧
    Checks past.current.log check password ∧
    ∃ elements errors, t.action =
      .reply ⟨⟨check, .errand .availableElements⟩, .ok (.availableElements elements errors)⟩

/-- The current session was unlocked by a check of a password. -/
def History.Unlocked (check : Nat) (password : String) : History → Prop
  | [] => False
  | t :: past =>
    t.Unlocks past check password ∨ Unlocked check password past ∧ t.startsOver = false

theorem Turn.startsOver_iff {t : Turn} :
    t.startsOver = true ↔ t.action = .restart ∧ t.before.cancelled = false := by
  unfold startsOver
  split
  · rename_i restart
    simp [restart]
  · rename_i other
    simpa using fun restart => absurd restart other

namespace Session

variable {s s' t : Session} {now : Nat} {a : Action} {r : Reply} {log : List Effect}

/-! ## Starting over -/

theorem display_keeps (s : Session) : s.display.checking = s.checking ∧
    s.display.password = s.password ∧
    s.display.awaited.availableElements = s.awaited.availableElements := by
  have state (s : Session) : s.requestPasswordState.checking = s.checking ∧
      s.requestPasswordState.password = s.password ∧
      s.requestPasswordState.awaited.availableElements = s.awaited.availableElements := by
    unfold requestPasswordState
    split <;> exact ⟨rfl, rfl, rfl⟩
  unfold display
  split
  · exact ⟨rfl, rfl, rfl⟩
  · split
    · exact state s
    · exact state _

/-- Starting over leaves no password, and no check of one. -/
theorem restart_forgets (live : s.cancelled = false) : s.restart.checking = none ∧
    s.restart.password = none ∧ s.restart.awaited.availableElements = none := by
  unfold restart
  rw [if_neg (by simp [live])]
  exact display_keeps _

/-! ## The check of a password -/

/-- A password is being checked as long as the elements are waited for, and it is the one that was
sent. -/
structure Checked (log : List Effect) (s : Session) : Prop where
  paired : s.awaited.availableElements.isSome = s.checking.isSome
  sent : ∀ id password, s.awaited.availableElements = some id → s.checking = some password →
    Checks (log ++ s.outbox) id password

namespace Checked

theorem of_none (idle : s.awaited.availableElements = none) (unchecked : s.checking = none) :
    s.Checked log where
  paired := by rw [idle, unchecked]; rfl
  sent := fun id _ waiting => by simp [idle] at waiting

theorem of_eq {es : List Effect} (checked : s.Checked log)
    (awaited : s'.awaited.availableElements = s.awaited.availableElements)
    (checking : s'.checking = s.checking) (outbox : s'.outbox = s.outbox ++ es) :
    s'.Checked log where
  paired := by rw [awaited, checking, checked.paired]
  sent := by
    intro id password waiting same
    obtain ⟨form, sent⟩ := checked.sent id password (awaited ▸ waiting) (checking ▸ same)
    rw [outbox, ← List.append_assoc]
    exact ⟨form, List.mem_append_left es sent⟩

end Checked

theorem checks_of_errand {q : Request} (hq : q.errand? = some .availableElements) {id : Nat}
    (ht : q.token? = some ⟨id, .errand .availableElements⟩) :
    ∃ password, q.checked? = some password ∧ Checks [.request q] id password := by
  cases q <;> try cases hq
  rename_i token form password
  cases ht
  exact ⟨password.text, rfl, form, List.mem_singleton_self _⟩

theorem unchecked_of_errand {q : Request} {errand : Errand} (hq : q.errand? = some errand)
    (other : errand ≠ .availableElements) : q.checked? = none := by
  cases q <;> first | rfl | exact absurd (Option.some.inj hq).symm other

theorem Move.checked (h : Move now a s s') (checked : s.Checked log) : s'.Checked log := by
  cases h with
  | rest es core outbox _ checking =>
      exact checked.of_eq (congrArg (fun c => c.awaited.availableElements) core) checking outbox
  | ask errand q _ hq ht _ _ _ core outbox checking =>
      have awaited : s'.awaited = s.awaited.set errand (some s.nextId) :=
        congrArg Core.awaited core
      by_cases check : errand = .availableElements
      · subst check
        obtain ⟨password, carried, form, sent⟩ := checks_of_errand hq ht
        rw [carried] at checking
        refine { paired := by rw [awaited, checking]; rfl, sent := ?_ }
        intro id password' waiting same
        rw [awaited] at waiting
        cases waiting
        cases checking.symm.trans same
        rw [outbox, ← List.append_assoc]
        exact ⟨form, List.mem_append_right _ sent⟩
      · rw [unchecked_of_errand hq check] at checking
        refine checked.of_eq ?_ checking outbox
        rw [awaited]
        exact Awaited.get_set_of_ne s.awaited (some s.nextId) (Ne.symm check)
  | entry e g es _ _ core outbox checking =>
      exact checked.of_eq (congrArg (fun c => c.awaited.availableElements) core) checking outbox
  | abandon es _ core _ _ _ _ checking =>
      exact .of_none (congrArg (fun c => c.awaited.availableElements) core) checking

theorem Settle.checked (h : Settle now r s s') (checked : s.Checked log) : s'.Checked log := by
  cases h with
  | errand errand es _ _ core outbox _ checking =>
      have awaited : s'.awaited = s.awaited.set errand none := congrArg Core.awaited core
      by_cases check : errand = .availableElements
      · subst check
        exact .of_none (congrArg Awaited.availableElements awaited) checking
      · rw [if_neg check] at checking
        refine checked.of_eq ?_ checking outbox
        rw [awaited]
        exact Awaited.get_set_of_ne s.awaited none (Ne.symm check)
  | form form es _ _ _ core outbox _ checking =>
      exact checked.of_eq (congrArg (fun c => c.awaited.availableElements) core) checking outbox
  | unlock _ _ _ es _ _ _ core _ _ _ checking =>
      exact .of_none (congrArg (fun c => c.awaited.availableElements) core) checking
  | task task e g es _ _ _ _ core outbox checking =>
      exact checked.of_eq (congrArg (fun c => c.awaited.availableElements) core) checking outbox

/-! ## The password of a session -/

theorem Move.password_eq (h : Move now a s s') (ha : a ≠ .restart) : s'.password = s.password := by
  cases h with
  | rest _ core => exact congrArg Core.password core
  | ask _ _ _ _ _ _ _ _ core => exact congrArg Core.password core
  | entry _ _ _ _ _ core => exact congrArg Core.password core
  | abandon _ restart => exact absurd restart ha

theorem Moves.password_eq (h : Moves now a s s') (ha : a ≠ .restart) :
    s'.password = s.password := by
  induction h with
  | refl => rfl
  | tail _ move ih => exact (move.password_eq ha).trans ih

/-- The reply is the answer to the check of a password, and brings the elements. -/
def Confirms (s : Session) (password : String) (r : Reply) : Prop :=
  r.token.pending = .errand .availableElements ∧
    s.awaited.availableElements = some r.token.id ∧ s.checking = some password ∧
    ∃ elements errors, r.outcome = .ok (.availableElements elements errors)

/-- A reply sets the password that was checked, or leaves the password as it is. -/
theorem Settle.password_cases (h : Settle now r s s') :
    (∃ password, s.Confirms password r ∧ s'.password = some password) ∨
      s'.password = s.password := by
  cases h with
  | errand _ es _ _ core => exact .inr (congrArg Core.password core)
  | form _ es _ _ _ core => exact .inr (congrArg Core.password core)
  | unlock password elements errors es ht hw ho core _ _ checking =>
      refine .inl ⟨password, ⟨ht, hw, checking, elements, errors, ho⟩, ?_⟩
      exact congrArg Core.password core
  | task _ e g es _ _ _ _ core => exact .inr (congrArg Core.password core)

/-- The answer to a check unlocks the form with the password that was checked. -/
theorem Settle.unlocked {password : String} (h : Settle now r s s')
    (confirms : s.Confirms password r) : s'.password = some password ∧ s'.secretReady = true := by
  obtain ⟨pending, waiting, checking, elements, errors, sent⟩ := confirms
  cases h with
  | errand errand es ht _ _ _ _ _ unchecked =>
      cases pending.symm.trans ht
      exact absurd (checking.symm.trans (unchecked rfl elements errors sent)) (by simp)
  | form _ es ht => exact absurd (pending.symm.trans ht) (by simp)
  | unlock password' elements' errors' es _ _ _ core _ _ checking' =>
      cases checking.symm.trans checking'
      exact ⟨congrArg Core.password core, congrArg Core.secretReady core⟩
  | task _ e g es ht => exact absurd (pending.symm.trans ht) (by simp)

theorem Acts.password_cases (h : Acts now a s s') (ha : a ≠ .restart) :
    (∃ r password, a = .reply r ∧ s.cancelled = false ∧ s.Confirms password r ∧
      s'.password = some password) ∨ s'.password = s.password := by
  cases h with
  | moves _ moves => exact .inr (moves.password_eq ha)
  | close _ moves close =>
      have same : s'.password = _ := congrArg Core.password close.core
      exact .inr (same.trans (moves.password_eq ha))
  | dropped _ _ same => exact .inr (same ▸ rfl)
  | @reply r hr live _ settles =>
      obtain ⟨mid, settle, moves⟩ := settles
      rw [moves.password_eq ha]
      exact settle.password_cases.imp (fun ⟨password, confirms, set⟩ =>
        ⟨r, password, hr, live, confirms, set⟩) id

theorem Acts.settles_of_confirms {password : String} (h : Acts now (.reply r) s s')
    (live : s.cancelled = false) (confirms : s.Confirms password r) :
    Settles now (.reply r) r s s' := by
  have awaits : s.core.Awaits r.token := by
    unfold Core.Awaits
    rw [confirms.1]
    exact confirms.2.1
  cases h with
  | moves no_reply => exact absurd rfl (no_reply r)
  | close no_reply => exact absurd rfl (no_reply r)
  | dropped hr unwanted =>
      cases hr
      exact absurd ⟨live, awaits⟩ unwanted
  | reply hr _ _ settles =>
      cases hr
      exact settles

theorem Acts.unlocked {password : String} (h : Acts now (.reply r) s s')
    (live : s.cancelled = false) (confirms : s.Confirms password r) :
    s'.password = some password := by
  obtain ⟨mid, settle, moves⟩ := h.settles_of_confirms live confirms
  exact (moves.password_eq (by simp)).trans (settle.unlocked confirms).1

/-! ## Guarded requests -/

def Action.keepsPassword (a : Action) : Prop := a ≠ .restart ∧ ∀ r, a ≠ .reply r

variable {e e' : Entry} {es : List Effect} {q : Request} {password : String}

theorem not_guarded_of_silent (silent : tokensOf es = []) (hq : .request q ∈ es) :
    q.isGuarded = false := by
  have unissued : q.token? = none := by
    cases ht : q.token? with
    | none => rfl
    | some token =>
        have issued : token ∈ tokensOf es := mem_tokensOf.2 ⟨q, hq, ht⟩
        simp [silent] at issued
  cases q <;> first | rfl | cases unissued

theorem Change.carries (h : s.Change now a e es e') (hp : s.password = some password)
    (hq : .request q ∈ es) : q.Carries password := by
  rintro token element key rfl
  cases h with
  | saved _ _ _ hp' =>
      simp only [List.mem_singleton, Effect.request.injEq, Request.setElement.injEq] at hq
      rw [hq.2.2, Option.some.inj (hp'.symm.trans hp)]
  | uploaded =>
      rcases uploading_cases hq with same | calm
      · cases same
      · cases calm
  | checked _ _ _ hr =>
      subst hr
      split at hq <;> simp at hq
  | givenUp => simp at hq
  | _ => simp at hq

theorem Uptake.carries {task : Task} {outcome : Outcome} (h : s.Uptake now e task outcome es e')
    (hp : s.password = some password) (hq : .request q ∈ es) : q.Carries password := by
  rintro token element key rfl
  cases h with
  | accepted hp' =>
      simp only [List.mem_append, List.mem_map, List.mem_cons, List.not_mem_nil, or_false] at hq
      rcases hq with ⟨id, -, same⟩ | same | same
      · cases same
      · cases same
      · cases same
        rw [Option.some.inj (hp'.symm.trans hp)]
  | acceptedLocked => simp at hq
  | _ => simp at hq

/-- What is guarded is sent for the user or for a timer, and only by what is unlocked. -/
theorem Change.guarded (h : s.Change now a e es e') (hq : .request q ∈ es)
    (guarded : q.isGuarded = true) :
    a.keepsPassword ∧ (s.secretReady = true ∨ e.verification ≠ .none) := by
  cases h with
  | saved ha ready => exact ⟨by simp [Action.keepsPassword, ha], .inl ready⟩
  | deleted ha ready => exact ⟨by simp [Action.keepsPassword, ha], .inl ready⟩
  | uploaded =>
      exact absurd (not_guarded_of_silent (tokensOf_uploading _ _ _ _) hq) (by simp [guarded])
  | checked ha coded =>
      refine ⟨by simp [Action.keepsPassword, ha], .inr fun none_ => ?_⟩
      simp [none_, Verification.none] at coded
  | givenUp =>
      exact absurd (not_guarded_of_silent (tokensOf_cancels _) hq) (by simp [guarded])
  | calling ha waiting =>
      refine ⟨by simp [Action.keepsPassword, ha], .inr fun none_ => ?_⟩
      simp [none_, Verification.none] at waiting
  | _ => simp at hq

theorem Move.carries (h : Move now a s s') (hp : s.password = some password)
    (hq : .request q ∈ s'.outbox) : .request q ∈ s.outbox ∨ q.Carries password := by
  cases h with
  | rest es _ outbox calm =>
      rw [outbox, List.mem_append] at hq
      refine hq.imp_right fun new => ?_
      rintro token element key rfl
      cases calm _ new
  | ask errand r _ hr _ _ _ _ _ outbox =>
      rw [outbox, List.mem_append, List.mem_singleton] at hq
      refine hq.imp_right ?_
      rintro ⟨⟩ token element key rfl
      cases hr
  | entry e g es he change _ outbox =>
      rw [outbox, List.mem_append] at hq
      exact hq.imp_right (change.carries hp)
  | abandon es _ _ outbox tokens =>
      rw [outbox, List.mem_append] at hq
      refine hq.imp_right fun new => ?_
      rintro token element key rfl
      have issued : token ∈ tokensOf es := mem_tokensOf.2 ⟨_, new, rfl⟩
      simp [tokens] at issued

theorem Move.guarded (h : Move now a s s') (gated : s.core.Gated) (hq : .request q ∈ s'.outbox)
    (guarded : q.isGuarded = true) :
    .request q ∈ s.outbox ∨ a.keepsPassword ∧ s.secretReady = true := by
  cases h with
  | rest es _ outbox calm =>
      rw [outbox, List.mem_append] at hq
      refine hq.imp_right fun new => ?_
      exact absurd (not_guarded_of_silent (tokensOf_of_calm calm) new) (by simp [guarded])
  | ask errand r _ hr _ _ _ submit _ outbox _ submits =>
      rw [outbox, List.mem_append, List.mem_singleton] at hq
      refine hq.imp_right ?_
      rintro ⟨⟩
      have submitted : errand = .submit := by
        cases q <;> first
          | exact (Option.some.inj hr).symm
          | exact absurd guarded Bool.false_ne_true
          | cases hr
      exact ⟨by simp [Action.keepsPassword, submits submitted], submit submitted⟩
  | entry e g es he change _ outbox =>
      rw [outbox, List.mem_append] at hq
      refine hq.imp_right fun new => ?_
      obtain ⟨keeps, ready | verified⟩ := change.guarded new guarded
      · exact ⟨keeps, ready⟩
      · cases ready : s.secretReady with
        | true => exact ⟨keeps, rfl⟩
        | false => exact absurd (gated.locked ready e (Form.mem_of_entry he)).2 verified
  | abandon es _ _ outbox tokens =>
      rw [outbox, List.mem_append] at hq
      refine hq.imp_right fun new => ?_
      exact absurd (not_guarded_of_silent tokens new) (by simp [guarded])

theorem Settle.guarded (h : Settle now r s s') (gated : s.core.Gated)
    (hq : .request q ∈ s'.outbox) (guarded : q.isGuarded = true) :
    .request q ∈ s.outbox ∨ ∃ password, s.password = some password ∧ q.Carries password := by
  have quiet {es : List Effect} (outbox : s'.outbox = s.outbox ++ es)
      (calm : ∀ x ∈ es, x.isCalm = true) :
      .request q ∈ s.outbox ∨ ∃ password, s.password = some password ∧ q.Carries password := by
    rw [outbox, List.mem_append] at hq
    refine hq.imp_right fun new => ?_
    exact absurd (not_guarded_of_silent (tokensOf_of_calm calm) new) (by simp [guarded])
  cases h with
  | errand _ es _ _ _ outbox calm => exact quiet outbox calm
  | form _ es _ _ _ _ outbox calm => exact quiet outbox calm
  | unlock _ _ _ es _ _ _ _ outbox calm => exact quiet outbox calm
  | task task e g es _ he hw uptake _ outbox =>
      rw [outbox, List.mem_append] at hq
      refine hq.imp_right fun new => ?_
      have ready : s.password.isSome = true := gated.keyed.symm.trans (gated.ready_of_awaits he hw)
      obtain ⟨password, hp⟩ := Option.isSome_iff_exists.1 ready
      exact ⟨password, hp, uptake.carries hp new⟩

/-- What is guarded is sent with the password that the session had before. -/
theorem Acts.guarded (h : Acts now a s s') (gated : s.core.Gated) (empty : s.outbox = [])
    (hq : .request q ∈ s'.outbox) (guarded : q.isGuarded = true) :
    ∃ password, s.password = some password ∧ q.Carries password := by
  suffices h : s'.core.Gated ∧ (a.keepsPassword → s'.password = s.password) ∧
      ∀ q, .request q ∈ s'.outbox → q.isGuarded = true →
        ∃ password, s.password = some password ∧ q.Carries password from h.2.2 q hq guarded
  refine h.induction (P := fun t => t.core.Gated ∧ (a.keepsPassword → t.password = s.password) ∧
      ∀ q, .request q ∈ t.outbox → q.isGuarded = true →
        ∃ password, s.password = some password ∧ q.Carries password) ?_ ?_ ?_ ?_
  · rintro t t' move ⟨gated, same, sent⟩
    refine ⟨move.gated gated, fun keeps => (move.password_eq keeps.1).trans (same keeps), ?_⟩
    intro q hq guarded
    rcases move.guarded gated hq guarded with before | ⟨keeps, ready⟩
    · exact sent q before guarded
    · have opened : t.password.isSome = true := gated.keyed.symm.trans ready
      obtain ⟨password, hp⟩ := Option.isSome_iff_exists.1 opened
      rcases move.carries hp hq with before | carries
      · exact sent q before guarded
      · exact ⟨password, same keeps ▸ hp, carries⟩
  · intro r t ha _ _ settle
    refine ⟨settle.gated gated, fun keeps => absurd ha (keeps.2 r), fun q hq guarded => ?_⟩
    refine (settle.guarded gated hq guarded).resolve_left fun before => ?_
    rw [empty] at before
    cases before
  · rintro t t' close ⟨gated, same, sent⟩
    obtain ⟨es, outbox, tokens, -, -⟩ := close.effects
    refine ⟨close.gated gated, fun keeps => ?_, fun q hq guarded => ?_⟩
    · exact (congrArg Core.password close.core).trans (same keeps)
    · rw [outbox, List.mem_append] at hq
      refine hq.elim (fun before => sent q before guarded) fun new => ?_
      exact absurd (not_guarded_of_silent tokens new) (by simp [guarded])
  · exact ⟨gated, fun _ => rfl, fun q hq => by simp [empty] at hq⟩

end Session

/-! ## Along a run -/

theorem eq_of_nodup_filterMap {α β : Type} {f : α → Option β} {xs : List α} {x y : α} {b : β}
    (unique : (xs.filterMap f).Nodup) (hx : x ∈ xs) (hy : y ∈ xs) (fx : f x = some b)
    (fy : f y = some b) : x = y := by
  by_contra apart
  have pairwise := List.pairwise_filterMap.1 unique
  have symm : Std.Symm fun a a' : α => ∀ b, f a = some b → ∀ b', f a' = some b' → b ≠ b' :=
    ⟨fun a a' h b' hb' b hb => (h b hb b' hb').symm⟩
  exact pairwise.forall hx hy apart b fx b fy rfl

namespace History

theorem current_subset (past : History) : past.current ⊆ past := by
  induction past with
  | nil => exact List.Subset.refl _
  | cons t past ih =>
      unfold current
      split
      · exact List.nil_subset _
      · exact List.cons_subset_cons t ih

theorem mem_log {past : History} {x : Effect} : x ∈ past.log ↔ ∃ t ∈ past, x ∈ t.effects := by
  induction past with
  | nil => simp [log]
  | cons t past ih =>
      rw [log, List.mem_append, ih]
      simp [or_comm]

end History

namespace Run

open Session

variable {setup : Setup} {past : History} {s : Session} {t : Turn} {check : Nat}
  {password : String}

/-- In an open session the check that is waited for was sent in it. -/
theorem checked (run : Run setup past s) (live : s.cancelled = false) :
    s.Checked past.current.log := by
  induction run with
  | start => exact .of_none rfl rfl
  | @step past s now action run ordered genuine ih =>
      let t : Turn := ⟨s, now, action⟩
      have acts := run.acts now action
      have live_after : (s.act now action).1.cancelled = false := live
      have live_before := acts.live live_after
      cases anew : t.startsOver with
      | true =>
          obtain ⟨restart, -⟩ := Turn.startsOver_iff.1 anew
          have restart : action = .restart := restart
          subst restart
          obtain ⟨unchecked, -, idle⟩ := restart_forgets live_before
          exact .of_none idle unchecked
      | false =>
          have before : s.Checked past.current.log := ih live_before
          have after : (s.act now action).1.cancelled = false →
              (s.act now action).1.Checked past.current.log :=
            acts.induction (P := fun u => u.cancelled = false → u.Checked past.current.log)
              (fun _ _ move ih live => move.checked (ih (move.cancelled_eq ▸ live)))
              (fun _ _ _ _ _ settle _ => settle.checked before)
              (fun _ _ close _ live => absurd (live.symm.trans (congrArg Core.cancelled close.core))
                (by simp))
              fun _ => before
          obtain ⟨paired, sent⟩ := after live_after
          refine { paired := paired, sent := fun id password waiting checking => ?_ }
          obtain ⟨form, sent⟩ := sent id password waiting checking
          refine ⟨form, ?_⟩
          have log : History.log (History.current (t :: past)) =
              past.current.log ++ (s.act now action).1.outbox := by
            simp only [History.current, anew]
            rfl
          rw [log]
          exact List.mem_append_left _ sent

theorem checks_of_waiting (run : Run setup past s) (live : s.cancelled = false)
    (waiting : s.awaited.availableElements = some check) (checking : s.checking = some password) :
    Checks past.current.log check password := by
  have sent := (run.checked live).sent check password waiting checking
  rwa [run.outbox_eq_nil, List.append_nil] at sent

/-- What a check sent is one request. -/
theorem password_of_checks (run : Run setup past s) (live : s.cancelled = false)
    {password' : String} (h : Checks past.current.log check password)
    (h' : Checks past.current.log check password') : password = password' := by
  have within {x : Effect} (hx : x ∈ past.current.log) : x ∈ past.log := by
    obtain ⟨t, ht, hx⟩ := History.mem_log.1 hx
    exact History.mem_log.2 ⟨t, History.current_subset past ht, hx⟩
  obtain ⟨form, sent⟩ := h
  obtain ⟨form', sent'⟩ := h'
  have unique : (tokensOf past.log).Nodup := (run.books live).unique.of_map _
  have same := eq_of_nodup_filterMap unique (within sent) (within sent') rfl rfl
  simp only [Effect.request.injEq, Request.getAvailableElements.injEq, Secret.mk.injEq] at same
  exact same.2.2

theorem confirms_of_unlocks (run : Run setup past s) (ht : t.before = s)
    (unlocks : t.Unlocks past check password) :
    s.cancelled = false ∧ ∃ r, t.action = .reply r ∧ r.token.id = check ∧ s.Confirms password r := by
  obtain ⟨live, outstanding, sent, elements, errors, action⟩ := unlocks
  rw [ht] at live
  have waiting : s.awaited.availableElements = some check :=
    run.awaits_of_outstanding live outstanding
  have checked := run.checked live
  have checking : s.checking.isSome = true := by rw [← checked.paired, waiting]; rfl
  obtain ⟨password', checking⟩ := Option.isSome_iff_exists.1 checking
  have same := run.password_of_checks live sent (run.checks_of_waiting live waiting checking)
  subst same
  exact ⟨live, _, action, rfl, rfl, waiting, checking, elements, errors, rfl⟩

theorem unlocks_of_confirms (run : Run setup past s) (live : s.cancelled = false) {now : Nat}
    {r : Reply} (genuine : past.Genuine (.reply r)) (confirms : s.Confirms password r) :
    Turn.Unlocks past r.token.id password ⟨s, now, .reply r⟩ := by
  obtain ⟨pending, waiting, checking, elements, errors, sent⟩ := confirms
  obtain ⟨⟨id, _⟩, _⟩ := r
  subst pending sent
  refine ⟨live, ?_, run.checks_of_waiting live waiting checking, elements, errors, rfl⟩
  exact run.outstanding_of_awaits live (genuine _ rfl) waiting

/-- The password of a session is that of the check that unlocked it. -/
theorem password_iff (run : Run setup past s) :
    s.password = some password ↔ ∃ check, past.Unlocked check password := by
  induction run with
  | start => exact ⟨nofun, fun ⟨_, unlocked⟩ => unlocked.elim⟩
  | @step past s now action run ordered genuine ih =>
      let t : Turn := ⟨s, now, action⟩
      have acts := run.acts now action
      show (s.act now action).1.password = some password ↔ _
      cases anew : t.startsOver with
      | true =>
          obtain ⟨restart, live⟩ := Turn.startsOver_iff.1 anew
          have restart : action = .restart := restart
          subst restart
          rw [show (s.act now .restart).1.password = none from (restart_forgets live).2.1]
          refine ⟨nofun, ?_⟩
          rintro ⟨check, ⟨-, -, -, elements, errors, reply⟩ | ⟨-, kept⟩⟩
          · cases reply
          · exact absurd (anew.symm.trans kept) (by simp)
      | false =>
          by_cases confirmed : ∃ r password', action = .reply r ∧ s.cancelled = false ∧
              s.Confirms password' r
          · obtain ⟨r, password', rfl, live, confirms⟩ := confirmed
            rw [(run.acts now (.reply r)).unlocked live confirms]
            have locked : s.password = none := by
              have ready : s.secretReady = false :=
                run.gated.checked (by simp [show s.core.awaited = s.awaited from rfl, confirms.2.1])
              have keyed : s.secretReady = s.password.isSome := run.gated.keyed
              simpa [ready] using keyed.symm
            constructor
            · rintro ⟨⟩
              exact ⟨_, .inl (run.unlocks_of_confirms live genuine confirms)⟩
            · rintro ⟨check, unlocks | ⟨before, -⟩⟩
              · obtain ⟨-, r', same, -, confirms'⟩ := run.confirms_of_unlocks rfl unlocks
                cases same
                rw [← confirms.2.2.1, confirms'.2.2.1]
              · exact absurd (locked.symm.trans (ih.2 ⟨check, before⟩)) (by simp)
          · have kept : (s.act now action).1.password = s.password := by
              by_cases restart : action = .restart
              · subst restart
                have closed : s.cancelled = true := by
                  simpa [t, Turn.startsOver] using anew
                have same : s.restart = s := if_pos closed
                exact congrArg Session.password same
              · refine (acts.password_cases restart).resolve_left ?_
                rintro ⟨r, password', hr, live, confirms, -⟩
                exact confirmed ⟨r, password', hr, live, confirms⟩
            rw [kept, ih]
            refine exists_congr fun check => ⟨fun before => .inr ⟨before, anew⟩, ?_⟩
            rintro (unlocks | ⟨before, -⟩)
            · obtain ⟨live, r, hr, -, confirms⟩ := run.confirms_of_unlocks rfl unlocks
              exact absurd ⟨r, password, hr, live, confirms⟩ confirmed
            · exact before

/-- A session is unlocked once. -/
theorem unlocked_unique (run : Run setup past s) {check' : Nat} {password' : String}
    (h : past.Unlocked check password) (h' : past.Unlocked check' password') :
    check = check' ∧ password = password' := by
  have same := (run.password_iff.2 ⟨check, h⟩).symm.trans (run.password_iff.2 ⟨check', h'⟩)
  refine ⟨?_, Option.some.inj same⟩
  induction run with
  | start => exact h.elim
  | @step past s now action run ordered genuine ih =>
      -- What unlocks finds the session locked, so it cannot have been unlocked before.
      have first {check check' : Nat} {password password' : String}
          (unlocks : Turn.Unlocks past check password ⟨s, now, action⟩)
          (before : past.Unlocked check' password') : False := by
        obtain ⟨live, r, -, -, confirms⟩ := run.confirms_of_unlocks rfl unlocks
        have ready : s.secretReady = false :=
          run.gated.checked (by simp [show s.core.awaited = s.awaited from rfl, confirms.2.1])
        have keyed : s.secretReady = s.password.isSome := run.gated.keyed
        rw [ready, run.password_iff.2 ⟨_, before⟩] at keyed
        cases keyed
      rcases h with unlocks | ⟨before, -⟩
      · rcases h' with unlocks' | ⟨before', -⟩
        · obtain ⟨-, r, hr, rfl, -⟩ := run.confirms_of_unlocks rfl unlocks
          obtain ⟨-, r', hr', rfl, -⟩ := run.confirms_of_unlocks rfl unlocks'
          cases hr.symm.trans hr'
          rfl
        · exact (first unlocks before').elim
      · rcases h' with unlocks' | ⟨before', -⟩
        · exact (first unlocks' before).elim
        · exact ih before before'

/-- The password gate. What is guarded is sent only after a check of a password in the same session
was answered with the elements; there is one such check, and every save carries its password. In an
open session the form is unlocked as long as there is a password, and a check is outstanding as long
as a password is being checked, so that the elements always unlock the form with it. -/
theorem password_gate (run : Run setup past s) :
    (∀ (later earlier : History) (t : Turn), past = later ++ t :: earlier →
      ∀ r, .request r ∈ t.effects → r.isGuarded = true →
        ∃ check password, earlier.Unlocked check password ∧ r.Carries password ∧
          ∀ check' password', earlier.Unlocked check' password' →
            check' = check ∧ password' = password) ∧
    (s.cancelled = false →
      (s.secretReady = true ↔ s.password.isSome = true) ∧
      ((∃ id, past.Outstanding ⟨id, .errand .availableElements⟩) ↔ s.checking.isSome = true) ∧
      ∀ id now elements errors, past.Outstanding ⟨id, .errand .availableElements⟩ →
        ∃ password, s.checking = some password ∧
          (s.act now (.reply ⟨⟨id, .errand .availableElements⟩,
            .ok (.availableElements elements errors)⟩)).1.password = some password) := by
  refine ⟨?_, fun live => ⟨?_, ?_, ?_⟩⟩
  · rintro later earlier t rfl r sent guarded
    have before := run.before
    obtain ⟨password, hp, carries⟩ := (before.acts t.now t.action).guarded before.gated
      before.outbox_eq_nil sent guarded
    obtain ⟨check, unlocked⟩ := before.password_iff.1 hp
    exact ⟨check, password, unlocked, carries, fun _ _ other =>
      before.unlocked_unique other unlocked⟩
  · rw [show s.secretReady = s.password.isSome from run.gated.keyed]
  · rw [← (run.checked live).paired, Option.isSome_iff_exists]
    refine exists_congr fun id => ⟨fun outstanding => ?_, fun waiting => ?_⟩
    · exact run.awaits_of_outstanding live outstanding
    · exact run.outstanding_of_awaits live ((run.books live).errands _ _ waiting) waiting
  · intro id now elements errors outstanding
    have waiting : s.awaited.availableElements = some id :=
      run.awaits_of_outstanding live outstanding
    have checking : s.checking.isSome = true := by rw [← (run.checked live).paired, waiting]; rfl
    obtain ⟨password, checking⟩ := Option.isSome_iff_exists.1 checking
    refine ⟨password, checking, (run.acts now _).unlocked live ?_⟩
    exact ⟨rfl, waiting, checking, elements, errors, rfl⟩

/-- An unlocked session started over, one password was rejected and another one accepted: the save
carries the last one. -/
theorem password_gate_after_restart :
    let form : AuthorizationForm := ⟨1, [[⟨.email, false, false, false⟩]], none⟩
    let check (id : Nat) : Token := ⟨id, .errand .availableElements⟩
    let actions := [(9, .reply ⟨check 7, .ok (.availableElements [] [])⟩),
        (8, .submitPassword "new"),
        (7, .reply ⟨check 6, .failed ⟨"PASSWORD_HASH_INVALID"⟩⟩),
        (6, .submitPassword "wrong"),
        (5, .reply ⟨⟨4, .errand .form⟩, .ok (.authorizationForm form)⟩),
        (5, .reply ⟨⟨5, .errand .passwordState⟩,
          .ok (.passwordState ⟨true, true, "hint", none, none, false, none⟩)⟩),
        (4, .restart)] ++ opening form []
    let past := (play (.fresh .plain .empty) actions).1
    let t : Turn := ⟨(play (.fresh .plain .empty) actions).2, 10,
      .save .email (.ofTexts [(Kind.plainField, "a@b.c")])⟩
    .request (.setElement ⟨8, .task .save .email⟩ (.email "a@b.c") ⟨"new"⟩) ∈ t.effects ∧
      (∃ id, past.Unlocked id "new") ∧ ∀ id password, past.Unlocked id password → password = "new" := by
  intro form check actions past t
  have playable : Playable (.fresh .plain .empty) ((t.now, t.action) :: actions) := by
    decide +kernel
  have run : Run .plain (t :: past) t.after := .turn_of_playable playable
  have sent : .request (.setElement ⟨8, .task .save .email⟩ (.email "a@b.c") ⟨"new"⟩) ∈
      t.effects := by decide +kernel
  have gate := (password_gate run).1 [] past t (List.nil_append _).symm _ sent rfl
  obtain ⟨id, password, unlocked, carries, unique⟩ := gate
  cases carries _ _ _ rfl
  exact ⟨sent, ⟨id, unlocked⟩, fun id' password' other => (unique id' password' other).2⟩

end Run

end IdentityForm
