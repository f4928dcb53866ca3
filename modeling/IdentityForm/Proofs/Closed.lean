import IdentityForm.Proofs.Committed
import IdentityForm.Proofs.Password

/-! # After closing

A session closes once. From then on replies, the news of transfers, the passing of time and the calls
that look at the flag do nothing. The other calls do not look, and do what they would do in the same
session if it were open; what they ask for is neither answered nor cancelled any more.
-/

namespace IdentityForm

def Effect.isClose : Effect → Bool
  | .notice (.close _) => true
  | _ => false

/-- Actions that do nothing once the session has closed. -/
def Session.Action.heedsClosing : Session.Action → Bool
  | .display | .submitPassword _ | .submit | .cancel | .cancelSurely | .restart | .reply _ | .file _
  | .tick => true
  | _ => false

namespace History

def Closed (past : History) : Prop := ∃ url, .notice (.close url) ∈ past.log

theorem closed_iff {past : History} : past.Closed ↔ past.log.countP Effect.isClose ≠ 0 := by
  rw [← Nat.pos_iff_ne_zero, List.countP_pos_iff]
  constructor
  · rintro ⟨url, told⟩
    exact ⟨_, told, rfl⟩
  · rintro ⟨x, hx, is_close⟩
    unfold Effect.isClose at is_close
    split at is_close
    · exact ⟨_, hx⟩
    · cases is_close

end History

/-! ## How often closing is told -/

theorem countP_isClose_of_calm {es : List Effect} (calm : ∀ x ∈ es, x.isCalm = true) :
    es.countP Effect.isClose = 0 := by
  rw [List.countP_eq_zero]
  intro x hx is_close
  have quiet := calm x hx
  unfold Effect.isClose at is_close
  split at is_close
  · cases quiet
  · cases is_close

theorem countP_isClose_requests (rs : List Request) :
    (rs.map Effect.request).countP Effect.isClose = 0 := by
  rw [List.countP_eq_zero]
  intro x hx
  obtain ⟨r, -, rfl⟩ := List.mem_map.1 hx
  simp [Effect.isClose]

namespace Session

variable {s s' : Session} {now : Nat} {a : Action} {r : Reply} {e e' : Entry} {es : List Effect}

theorem Change.not_close (h : s.Change now a e es e') : es.countP Effect.isClose = 0 := by
  cases h with
  | uploaded => exact countP_isClose_requests _
  | _ => simp [Effect.isClose, Function.comp_def]

theorem Uptake.not_close {task : Task} {outcome : Outcome} (h : s.Uptake now e task outcome es e') :
    es.countP Effect.isClose = 0 := by
  cases h <;> simp [Effect.isClose, Function.comp_def]

theorem countP_isClose_append (outbox : s'.outbox = s.outbox ++ es)
    (none_ : es.countP Effect.isClose = 0) :
    s'.outbox.countP Effect.isClose = s.outbox.countP Effect.isClose := by
  rw [outbox, List.countP_append, none_, Nat.add_zero]

theorem Move.not_close (h : Move now a s s') :
    s'.outbox.countP Effect.isClose = s.outbox.countP Effect.isClose := by
  cases h with
  | rest _ _ outbox calm => exact countP_isClose_append outbox (countP_isClose_of_calm calm)
  | ask _ r _ _ _ _ _ _ _ outbox => exact countP_isClose_append outbox (countP_isClose_requests [r])
  | entry _ _ _ _ change _ outbox => exact countP_isClose_append outbox change.not_close
  | abandon es _ _ outbox _ _ _ _ _ _ untold =>
      refine countP_isClose_append outbox (List.countP_eq_zero.2 fun x hx is_close => ?_)
      unfold Effect.isClose at is_close
      split at is_close
      · exact untold _ hx
      · cases is_close

theorem Settle.not_close (h : Settle now r s s') :
    s'.outbox.countP Effect.isClose = s.outbox.countP Effect.isClose := by
  cases h with
  | errand _ _ _ _ _ outbox calm => exact countP_isClose_append outbox (countP_isClose_of_calm calm)
  | form _ _ _ _ _ _ outbox calm => exact countP_isClose_append outbox (countP_isClose_of_calm calm)
  | unlock _ _ _ _ _ _ _ _ outbox calm =>
      exact countP_isClose_append outbox (countP_isClose_of_calm calm)
  | task _ _ _ _ _ _ _ uptake _ outbox => exact countP_isClose_append outbox uptake.not_close

theorem Settle.cancelled_eq (h : Settle now r s s') : s'.cancelled = s.cancelled := by
  cases h with
  | errand _ _ _ _ core => exact congrArg Core.cancelled core
  | form _ _ _ _ _ core => exact congrArg Core.cancelled core
  | unlock _ _ _ _ _ _ _ core => exact congrArg Core.cancelled core
  | task _ _ _ _ _ _ _ _ core => exact congrArg Core.cancelled core

theorem Moves.cancelled_eq (h : Moves now a s s') : s'.cancelled = s.cancelled := by
  induction h with
  | refl => rfl
  | tail _ move ih => exact move.cancelled_eq.trans ih

/-- An action tells of the closing if it closes the session, and not otherwise. -/
theorem Acts.countP_isClose (h : Acts now a s s') :
    s'.outbox.countP Effect.isClose + s.cancelled.toNat =
      s.outbox.countP Effect.isClose + s'.cancelled.toNat := by
  refine h.induction (P := fun t => t.outbox.countP Effect.isClose + s.cancelled.toNat =
    s.outbox.countP Effect.isClose + t.cancelled.toNat) ?_ ?_ ?_ rfl
  · intro t t' move ih
    rw [move.not_close, move.cancelled_eq]
    exact ih
  · intro r t _ _ _ settle
    rw [settle.not_close, settle.cancelled_eq]
  · intro t t' close ih
    obtain ⟨rs, url, outbox⟩ := close.told
    have closed : t'.cancelled = true := congrArg Core.cancelled close.core
    have told : t'.outbox.countP Effect.isClose = t.outbox.countP Effect.isClose + 1 := by
      rw [outbox, List.countP_append, List.countP_append, countP_isClose_requests]
      rfl
    rw [close.live] at ih
    rw [told, closed]
    simp only [Bool.toNat_false, Bool.toNat_true] at ih ⊢
    omega

/-! ## What looks at the flag -/

/-- Where the flag is looked at, nothing happens any more, except that time leaves timers behind. -/
theorem act_of_closed (now : Nat) (closed : s.cancelled = true) (heeds : a.heedsClosing = true) :
    (s.act now a).1.outbox = s.outbox ∧ (s.act now a).1.cancelled = true ∧
      (a ≠ .tick → (s.act now a).1 = s) := by
  have same (h : (s.act now a).1 = s) : (s.act now a).1.outbox = s.outbox ∧
      (s.act now a).1.cancelled = true ∧ (a ≠ .tick → (s.act now a).1 = s) :=
    ⟨congrArg outbox h, (congrArg cancelled h).trans closed, fun _ => h⟩
  cases a with
  | display => exact same (if_pos closed)
  | submitPassword password => exact same (if_pos (by simp [closed]))
  | submit =>
      refine same ?_
      show s.submit.1 = s
      unfold submit
      rw [if_pos (by simp [closed])]
  | cancel => exact same (if_pos closed)
  | cancelSurely => exact same (if_pos closed)
  | restart => exact same (if_pos closed)
  | reply r => exact same (if_pos closed)
  | file event => exact same (if_pos closed)
  | tick =>
      have popped : s.reportUnchanged = { s with unreported := s.unreported.tail } := if_pos closed
      have ticked : s.tick now = { s with
          unreported := s.unreported.tail, timers := s.timers.filter fun t => ¬ t.1 ≤ now } := by
        unfold tick
        rw [popped]
        exact fires_of_cancelled _ closed
      show (s.tick now).outbox = s.outbox ∧ (s.tick now).cancelled = true ∧ _
      rw [ticked]
      exact ⟨rfl, closed, fun not_tick => absurd rfl not_tick⟩
  | _ => cases heeds

/-! ## What does not look at it -/

def reopened (s : Session) : Session := { s with cancelled := false }

variable {kind : Kind} {slot : Slot}

@[simp] theorem entry?_reopened (s : Session) (kind : Kind) :
    s.reopened.entry? kind = s.entry? kind := rfl

theorem put_reopened (s : Session) (e : Entry) : s.reopened.put e = (s.put e).reopened := rfl

theorem notifyAll_reopened (ns : List Notice) :
    s.reopened.notifyAll ns = (s.notifyAll ns).reopened := by
  unfold notifyAll
  induction ns generalizing s with
  | nil => rfl
  | cons n rest ih => exact ih (s := s.notify n)

theorem sendAll_reopened (rs : List Request) :
    s.reopened.sendAll rs = (s.sendAll rs).reopened := by
  unfold sendAll
  induction rs generalizing s with
  | nil => rfl
  | cons r rest ih => exact ih (s := s.send r)

theorem requestPasswordState_reopened :
    s.reopened.requestPasswordState = s.requestPasswordState.reopened :=
  (apply_ite reopened _ s (s.run .passwordState .getPasswordState)).symm

theorem clearUnconfirmedPassword_reopened :
    s.reopened.clearUnconfirmedPassword = s.clearUnconfirmedPassword.reopened :=
  (apply_ite reopened _ s (s.run .clearPassword .clearPassword)).symm

theorem recoverPassword_reopened : s.reopened.recoverPassword = s.recoverPassword.reopened :=
  (apply_ite reopened _ s (s.run .recovery .recoverPassword)).symm

theorem suggestRestart_reopened : s.reopened.suggestRestart = s.suggestRestart.reopened := by
  have same : s.reopened.suggestingRestart = s.suggestingRestart := rfl
  unfold suggestRestart
  rw [same]
  split <;> rfl

theorem startDownload_reopened (id size : UInt64) :
    s.reopened.startDownload id size = (s.startDownload id size).reopened := by
  have same : s.reopened.downloads = s.downloads := rfl
  unfold startDownload
  rw [same]
  split <;> rfl

theorem loadFile_reopened (kind : Kind) (slot : Slot) : s.reopened.loadFile kind slot =
    ((s.loadFile kind slot).1.reopened, (s.loadFile kind slot).2) := by
  unfold loadFile
  rw [entry?_reopened]
  cases s.entry? kind with
  | none => rfl
  | some e =>
      dsimp only
      cases e.files.get? slot with
      | none => rfl
      | some f =>
          dsimp only
          split
          · rfl
          · rw [put_reopened, startDownload_reopened]

theorem loadScans_reopened (kind : Kind) :
    s.reopened.loadScans kind = (s.loadScans kind).reopened := by
  unfold loadScans
  rw [entry?_reopened]
  cases s.entry? kind with
  | none => rfl
  | some e =>
      dsimp only
      generalize e.slots.filter (fun slot => (e.files.get? slot).isSome) = slots
      induction slots generalizing s with
      | nil => rfl
      | cons slot rest ih =>
          rw [List.foldl_cons, List.foldl_cons, loadFile_reopened]
          exact ih

theorem startEdit_reopened (kind : Kind) : s.reopened.startEdit kind =
    ((s.startEdit kind).1.reopened, (s.startEdit kind).2) := by
  unfold startEdit
  rw [entry?_reopened]
  cases s.entry? kind with
  | none => rfl
  | some e =>
      dsimp only
      split
      · rw [put_reopened, loadScans_reopened]
      · rfl

theorem stopEdit_reopened (kind : Kind) : s.reopened.stopEdit kind =
    ((s.stopEdit kind).1.reopened, (s.stopEdit kind).2) := by
  unfold stopEdit
  rw [entry?_reopened]
  cases s.entry? kind with
  | none => rfl
  | some e =>
      dsimp only
      split <;> rfl

theorem sendSave_reopened (kind : Kind) : s.reopened.sendSave kind =
    ((s.sendSave kind).1.reopened, (s.sendSave kind).2) := by
  have same : s.reopened.password = s.password := rfl
  unfold sendSave
  rw [entry?_reopened, same]
  cases s.password with
  | none => rfl
  | some password =>
      cases s.entry? kind with
      | none => rfl
      | some e => rfl

theorem save_reopened (kind : Kind) (changes : Fields) : s.reopened.save kind changes =
    ((s.save kind changes).1.reopened, (s.save kind changes).2) := by
  have ready : s.reopened.secretReady = s.secretReady := rfl
  have awaited : s.reopened.awaited = s.awaited := rfl
  unfold save
  rw [ready, awaited, entry?_reopened]
  split
  · rfl
  · split
    · rfl
    · cases s.entry? kind with
      | none => rfl
      | some e =>
          dsimp only
          split
          · rfl
          · generalize (if e.editors = 0 then e.snapshot else e) = e
            cases e.failedUpload? with
            | some slot => rfl
            | none =>
                dsimp only
                split
                · rfl
                · split
                  · rw [put_reopened, sendSave_reopened]
                  · rw [put_reopened, notifyAll_reopened]

theorem delete_reopened (kind : Kind) : s.reopened.delete kind =
    ((s.delete kind).1.reopened, (s.delete kind).2) := by
  have ready : s.reopened.secretReady = s.secretReady := rfl
  have awaited : s.reopened.awaited = s.awaited := rfl
  unfold delete
  rw [ready, awaited, entry?_reopened]
  split
  · rfl
  · split
    · rfl
    · cases s.entry? kind with
      | none => rfl
      | some e =>
          dsimp only
          split <;> rfl

theorem upload_reopened (kind : Kind) (role : Role) (key : UInt64) (date : Int64)
    (bytes : List UInt8) :
    s.reopened.upload kind role key date bytes =
      ((s.upload kind role key date bytes).1.reopened, (s.upload kind role key date bytes).2) := by
  have setup : s.reopened.setup = s.setup := rfl
  unfold upload
  rw [setup, entry?_reopened]
  cases s.entry? kind with
  | none => rfl
  | some e =>
      dsimp only
      split
      · rfl
      · split
        · rfl
        · rw [sendAll_reopened]
          rfl

theorem setDeleted_reopened (kind : Kind) (slot : Slot) (deleted : Bool) :
    s.reopened.setDeleted kind slot deleted =
      ((s.setDeleted kind slot deleted).1.reopened, (s.setDeleted kind slot deleted).2) := by
  have setup : s.reopened.setup = s.setup := rfl
  unfold setDeleted
  rw [setup, entry?_reopened]
  cases s.entry? kind with
  | none => rfl
  | some e =>
      dsimp only
      cases e.draftFiles.get? slot with
      | none => rfl
      | some d =>
          dsimp only
          split
          · rfl
          · split <;> rfl

theorem verify_reopened (kind : Kind) (code : String) : s.reopened.verify kind code =
    ((s.verify kind code).1.reopened, (s.verify kind code).2) := by
  unfold verify
  rw [entry?_reopened]
  cases s.entry? kind with
  | none => rfl
  | some e =>
      dsimp only
      cases e.verification.codeLength with
      | none => rfl
      | some length =>
          dsimp only
          split
          · rfl
          · split <;> rfl

theorem cancelVerification_reopened (kind : Kind) : s.reopened.cancelVerification kind =
    ((s.cancelVerification kind).1.reopened, (s.cancelVerification kind).2) := by
  unfold cancelVerification
  rw [entry?_reopened]
  cases s.entry? kind with
  | none => rfl
  | some e =>
      dsimp only
      rw [sendAll_reopened]
      split <;> split <;> rfl

/-- An action that does not look at the flag does in a closed session what it does in an open one. -/
theorem act_reopened (s : Session) (now : Nat) (disregards : a.heedsClosing = false) :
    s.reopened.act now a = ((s.act now a).1.reopened, (s.act now a).2) := by
  have checked {f : Session → Session × Option CallError}
      (h : f s.reopened = ((f s).1.reopened, (f s).2)) :
      ((f s.reopened).1, Answer.ofError (f s.reopened).2) =
        ((f s).1.reopened, Answer.ofError (f s).2) := by rw [h]
  cases a with
  | reloadPassword =>
      exact congrArg (·, Answer.done)
        (requestPasswordState_reopened (s := { s with forceShow := true }))
  | clearUnconfirmedPassword => exact congrArg (·, Answer.done) clearUnconfirmedPassword_reopened
  | recoverPassword => exact congrArg (·, Answer.done) recoverPassword_reopened
  | suggestRestart => exact congrArg (·, Answer.done) suggestRestart_reopened
  | startEdit kind => exact checked (f := (startEdit · kind)) (startEdit_reopened kind)
  | stopEdit kind => exact checked (f := (stopEdit · kind)) (stopEdit_reopened kind)
  | save kind changes => exact checked (f := (save · kind changes)) (save_reopened kind changes)
  | delete kind => exact checked (f := (delete · kind)) (delete_reopened kind)
  | upload kind role key date bytes =>
      exact checked (f := (upload · kind role key date bytes))
        (upload_reopened kind role key date bytes)
  | deleteScan kind slot =>
      exact checked (f := (setDeleted · kind slot true)) (setDeleted_reopened kind slot true)
  | restoreScan kind slot =>
      exact checked (f := (setDeleted · kind slot false)) (setDeleted_reopened kind slot false)
  | loadFile kind slot => exact checked (f := (loadFile · kind slot)) (loadFile_reopened kind slot)
  | verify kind code => exact checked (f := (verify · kind code)) (verify_reopened kind code)
  | cancelVerification kind =>
      exact checked (f := (cancelVerification · kind)) (cancelVerification_reopened kind)
  | dismissRestart => rfl
  | remember password expires => rfl
  | forget => rfl
  | _ => cases disregards

end Session

/-! ## Along a run -/

namespace Run

variable {setup : Setup} {past : History} {s : Session} {t : Turn}

/-- Closing is told once, namely when the session closes. -/
theorem countP_isClose (run : Run setup past s) :
    past.log.countP Effect.isClose = s.cancelled.toNat := by
  induction run with
  | start => rfl
  | @step past s now action run _ _ ih =>
      have turn := (run.acts now action).countP_isClose
      rw [run.outbox_eq_nil, List.countP_nil, Nat.zero_add] at turn
      show (past.log ++ (s.act now action).1.outbox).countP Effect.isClose =
        (s.act now action).1.cancelled.toNat
      rw [List.countP_append]
      omega

theorem closed_iff (run : Run setup past s) : past.Closed ↔ s.cancelled = true := by
  rw [History.closed_iff, run.countP_isClose]
  cases s.cancelled <;> simp

/-- Once a session has closed, nothing that it asked for before is outstanding. -/
theorem settled_of_closing (run : Run setup past s) {now : Nat} {action : Session.Action}
    (live : s.cancelled = false) (closed : (s.act now action).1.cancelled = true) (token : Token) :
    ¬ History.Outstanding (⟨s, now, action⟩ :: past) token := by
  have opened {s' : Session} (same : s'.cancelled = s.cancelled) : s'.cancelled = false :=
    same.trans live
  have acts := run.acts now action
  generalize hs' : (s.act now action).1 = s' at acts closed
  cases acts with
  | moves _ moves => simp [opened moves.cancelled_eq] at closed
  | dropped _ _ same => simp [opened (congrArg _ same)] at closed
  | reply _ _ _ settles =>
      obtain ⟨mid, settle, moves⟩ := settles
      simp [opened (moves.cancelled_eq.trans settle.cancelled_eq)] at closed
  | @close mid _ moves close =>
      rintro ⟨issued, unanswered, uncancelled⟩
      obtain ⟨es, outbox, tokens, cancels, -⟩ := close.effects
      have books : mid.core.Books (past.log ++ mid.outbox) past.taken := by
        have start : s.core.Books (past.log ++ s.outbox) past.taken := by
          rw [run.outbox_eq_nil, List.append_nil]
          exact run.books live
        clear hs' close outbox cancels
        induction moves with
        | refl => exact start
        | tail _ move ih => exact move.books ih
      have effects : Turn.effects ⟨s, now, action⟩ = mid.outbox ++ es := by
        rw [← outbox, ← hs']
        rfl
      have issued_before : token ∈ tokensOf (past.log ++ mid.outbox) := by
        rw [History.tokens_cons, effects, tokensOf_append, tokens, List.append_nil] at issued
        exact (tokensOf_append ..).symm ▸ issued
      rw [History.cancels_cons, effects, cancelsOf_append, cancels] at uncancelled
      -- All that was waited for is cancelled, and the rest was cancelled or answered before.
      have somewhere := books.balance.subset (List.mem_map_of_mem issued_before)
      rw [cancelsOf_append] at somewhere
      rcases List.mem_append.1 somewhere with waiting | settled
      · exact uncancelled (by simp [waiting])
      · rcases List.mem_append.1 settled with cancelled | taken
        · refine uncancelled ?_
          rcases List.mem_append.1 cancelled with cancelled | cancelled
          · exact List.mem_append_left _ cancelled
          · exact List.mem_append_right _ (List.mem_append_left _ cancelled)
        · obtain ⟨token', issued', same, t, ht, answers⟩ := History.answered_of_mem_taken taken
          have issued' : token' ∈ tokensOf (past.log ++ mid.outbox) := by
            rw [tokensOf_append]
            exact List.mem_append_left _ issued'
          rw [Entry.eq_of_id books.unique issued' issued_before same] at answers
          exact unanswered t (List.mem_cons_of_mem _ ht) answers

/-- What is outstanding was issued in the last turn, or was outstanding before. -/
theorem outstanding_of_cons {token : Token} (h : History.Outstanding (t :: past) token) :
    token ∈ tokensOf t.effects ∨ past.Outstanding token := by
  obtain ⟨issued, unanswered, uncancelled⟩ := h
  rw [History.tokens_cons] at issued
  rw [History.cancels_cons] at uncancelled
  refine (List.mem_append.1 issued).symm.imp_right fun issued => ⟨issued, ?_, ?_⟩
  · exact fun t ht => unanswered t (List.mem_cons_of_mem _ ht)
  · exact fun cancelled => uncancelled (List.mem_append_left _ cancelled)

theorem of_append {later earlier : History} (run : Run setup (later ++ earlier) s) :
    ∃ s', Run setup earlier s' := by
  induction later generalizing s with
  | nil => exact ⟨s, run⟩
  | cons t later ih =>
      cases run with
      | step now action run => exact ih run

theorem silent_of_heeds (run : Run setup past s) (closed : s.cancelled = true) (now : Nat)
    {action : Session.Action} (heeds : action.heedsClosing = true) :
    Turn.effects ⟨s, now, action⟩ = [] ∧ (action ≠ .tick → Turn.after ⟨s, now, action⟩ = s) := by
  obtain ⟨silent, -, same⟩ := Session.act_of_closed now closed heeds
  refine ⟨silent.trans run.outbox_eq_nil, fun not_tick => ?_⟩
  show (s.act now action).1.drain.2 = s
  rw [same not_tick]
  show { s with outbox := [] } = s
  rw [← run.outbox_eq_nil]

/-- What is outstanding in a closed session was asked for after the closing, by a call that does not
look at the flag. -/
theorem asked_after_closing (run : Run setup past s) (closed : s.cancelled = true) {token : Token}
    (outstanding : past.Outstanding token) : ∃ later t earlier, past = later ++ t :: earlier ∧
      t.before.cancelled = true ∧ t.action.heedsClosing = false ∧ token ∈ tokensOf t.effects := by
  induction run with
  | start => cases closed
  | @step past s now action run _ _ ih =>
      cases closed_before : s.cancelled with
      | false =>
          exact absurd outstanding (run.settled_of_closing closed_before closed token)
      | true =>
          rcases outstanding_of_cons outstanding with issued | before
          · refine ⟨[], _, past, rfl, closed_before, ?_, issued⟩
            by_contra heeds
            have silent := (run.silent_of_heeds closed_before now
              (eq_true_of_ne_false heeds)).1
            simp [silent] at issued
          · obtain ⟨later, t, earlier, split, asked⟩ := ih closed_before before
            exact ⟨_ :: later, t, earlier, by rw [split, List.cons_append], asked⟩

/-- What comes after closing. Closing is told once. Later on a reply, news of a transfer, a tick, or a
call that looks at the flag sends nothing and tells nothing, and leaves the session as it is but for
timers that are over. Every other call does what it would do if the session were open. Whatever is
outstanding then was asked for by such a call, and no reply to it is taken in. -/
theorem after_closing (run : Run setup past s) :
    past.log.countP Effect.isClose = (if s.cancelled = true then 1 else 0) ∧
    (∀ (later earlier : History) t, past = later ++ t :: earlier → earlier.Closed →
      (t.action.heedsClosing = true →
        t.effects = [] ∧ (t.action ≠ .tick → t.after = t.before)) ∧
      (t.action.heedsClosing = false →
        t.effects = Turn.effects ⟨t.before.reopened, t.now, t.action⟩ ∧
        t.after.reopened = Turn.after ⟨t.before.reopened, t.now, t.action⟩)) ∧
    (past.Closed → ∀ token, past.Outstanding token →
      ∃ (later earlier : History) (t : Turn), past = later ++ t :: earlier ∧ earlier.Closed ∧
        t.action.heedsClosing = false ∧ token ∈ tokensOf t.effects) := by
  refine ⟨?_, ?_, ?_⟩
  · rw [run.countP_isClose]
    cases s.cancelled <;> rfl
  · rintro later earlier t rfl told
    have run' := run.before
    have closed := run'.closed_iff.1 told
    refine ⟨fun heeds => run'.silent_of_heeds closed t.now heeds, fun disregards => ?_⟩
    have twin := congrArg Prod.fst (t.before.act_reopened t.now disregards)
    constructor
    · show (t.before.act t.now t.action).1.outbox = (t.before.reopened.act t.now t.action).1.outbox
      rw [twin]
      rfl
    · show (t.before.act t.now t.action).1.drain.2.reopened =
        (t.before.reopened.act t.now t.action).1.drain.2
      rw [twin]
      rfl
  · intro told token outstanding
    obtain ⟨later, t, earlier, rfl, closed, disregards, issued⟩ :=
      run.asked_after_closing (run.closed_iff.1 told) outstanding
    exact ⟨later, earlier, t, rfl, run.before.closed_iff.2 closed, disregards, issued⟩

/-- An email was being saved when the session closed: the reply to the save comes to nothing, and so
does starting over. -/
theorem after_closing_of_save :
    let actions := [(7, .restart), (6, .reply ⟨⟨4, .task .save .email⟩, .ok .ok⟩), (5, .cancelSurely),
        (4, .save .email (.ofTexts [(Kind.plainField, "x@y.z")]))] ++
      opening ⟨1, [[⟨.email, false, false, false⟩]], none⟩ [.email "a@b.c"]
    let past := (play (.fresh .plain .empty) actions).1
    past[2].effects = [.request (.cancel 4), .notice (.close none)] ∧ past[1].effects = [] ∧
      past[0].effects = [] ∧ past.log.countP Effect.isClose = 1 := by
  intro actions past
  have playable : Playable (.fresh .plain .empty) actions := by decide +kernel
  have run : Run .plain past (play (.fresh .plain .empty) actions).2 := .of_playable playable
  have closing : past[2].effects = [.request (.cancel 4), .notice (.close none)] := by decide +kernel
  have told : History.Closed (past.drop 2) := ⟨none, by decide +kernel⟩
  have told' : History.Closed (past.drop 1) := ⟨none, by decide +kernel⟩
  have later := (after_closing run).2.1
  refine ⟨closing, ?_, ?_, ?_⟩
  · exact ((later (past.take 1) (past.drop 2) past[1] rfl told).1 rfl).1
  · exact ((later [] (past.drop 1) past[0] rfl told').1 rfl).1
  · exact (after_closing run).1.trans (by decide +kernel)

/-- In a session that has closed the password settings are asked for again, a file is downloaded, an
entry is saved, and a file is uploaded. Nothing of that is ever cancelled. -/
theorem after_closing_sends :
    let kind : Kind := .identity .passport
    let actions := [(8, .upload kind .rendition 1 0 []),
        (7, .save kind (.ofTexts [("document_no", "AB2")])), (6, .startEdit kind),
        (5, .reloadPassword), (4, .cancelSurely)] ++ opening passportForm [scannedPassport]
    let past := (play (.fresh .plain .empty) actions).1
    let s := (play (.fresh .plain .empty) actions).2
    Run .plain past s ∧ History.Closed (past.drop 4) ∧
      past[3].effects = [.request (.getPasswordState ⟨4, .errand .passwordState⟩)] ∧
      .request (.downloadFile 7 7 10) ∈ past[2].effects ∧
      tokensOf past[1].effects = [⟨5, .task .save kind⟩] ∧
      .request (.uploadFile 1 .rendition []) ∈ past[0].effects ∧
      Turn.effects ⟨s, 9, .cancelSurely⟩ = [] ∧ Turn.effects ⟨s, 9, .restart⟩ = [] := by
  intro kind actions past s
  have playable : Playable (.fresh .plain .empty) actions := by decide +kernel
  refine ⟨.of_playable playable, ⟨none, ?_⟩, ?_, ?_, ?_, ?_, ?_, ?_⟩ <;> decide +kernel

end Run

end IdentityForm
