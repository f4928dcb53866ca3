import IdentityForm.Proofs.Gate

/-! # Refused calls

A call of the view is refused for a reason that can be told from the session that it finds. A refused
call leaves the session as it was and sends and tells nothing.
-/

namespace IdentityForm

namespace Session

/-! ## Reasons -/

/-- Why a call for the entry of a kind is refused: there is none, or for a reason of its own. -/
def refuse (s : Session) (kind : Kind) (reason : Entry → Option CallError) : Option CallError :=
  match s.entry? kind with
  | none => some (.notRequested kind)
  | some e => reason e

/-- Why a call is refused. What writes an entry is done once the form is unlocked, and does nothing
while the form is being submitted. -/
def refusal? (s : Session) : Action → Option CallError
  | .startEdit kind | .cancelVerification kind => s.refuse kind fun _ => none
  | .stopEdit kind | .upload kind _ _ _ _ =>
    s.refuse kind fun e => if e.editors = 0 then some (.notEditing kind) else none
  | .save kind _ | .delete kind =>
    if !s.secretReady then some .locked
    else if s.awaited.submit.isSome then none
    else s.refuse kind fun _ => none
  | .deleteScan kind slot | .restoreScan kind slot =>
    s.refuse kind fun e =>
      match e.draftFiles.get? slot with
      | none => some (.noFile kind slot)
      | some _ => none
  | .loadFile kind slot =>
    s.refuse kind fun e =>
      match e.files.get? slot with
      | none => some (.noFile kind slot)
      | some _ => none
  | .verify kind _ =>
    s.refuse kind fun e =>
      match e.verification.codeLength with
      | none => some (.noCodeSent kind)
      | some _ => none
  | _ => none

/-- A call has the answer that was foreseen, and the session is the same if it is a refusal. -/
structure Answers (s : Session) (refusal : Option CallError) (r : Session × Option CallError) :
    Prop where
  answer : r.2 = refusal
  unchanged : ∀ error, refusal = some error → r.1 = s

namespace Answers

variable {s : Session} {refusal : Option CallError} {r : Session × Option CallError}

theorem refused (error : CallError) : s.Answers (some error) (s, some error) := ⟨rfl, fun _ _ => rfl⟩

theorem done (s' : Session) : s.Answers none (s', none) := ⟨rfl, nofun⟩

/-! What stands in the way is met in the order in which it is foreseen. -/

theorem of_entry {kind : Kind} {reason : Entry → Option CallError}
    {call : Entry → Session × Option CallError}
    (h : ∀ e, s.entry? kind = some e → s.Answers (reason e) (call e)) :
    s.Answers (s.refuse kind reason)
      (match s.entry? kind with
        | none => (s, some (.notRequested kind))
        | some e => call e) := by
  unfold refuse
  cases he : s.entry? kind with
  | none => exact .refused _
  | some e => exact h e he

theorem of_not {c : Prop} [Decidable c] {error : CallError} (h : ¬ c → s.Answers refusal r) :
    s.Answers (if c then some error else refusal) (if c then (s, some error) else r) := by
  split
  · exact .refused error
  · rename_i hc
    exact h hc

theorem of_writable (h : s.secretReady = true → s.Answers refusal r) :
    s.Answers
      (if !s.secretReady then some .locked
        else if s.awaited.submit.isSome then none else refusal)
      (if !s.secretReady then (s, some .locked)
        else if s.awaited.submit.isSome then (s, none) else r) := by
  refine .of_not fun ready => ?_
  split
  · exact .done s
  · exact h (by simpa using ready)

end Answers

variable {s : Session} {now : Nat} {a : Action}

/-! ## Files -/

theorem upload_answers (kind : Kind) (role : Role) (key : UInt64) (date : Int64)
    (bytes : List UInt8) :
    s.Answers (s.refusal? (.upload kind role key date bytes))
      (s.upload kind role key date bytes) := by
  refine .of_entry fun e _ => .of_not fun _ => ?_
  split
  · exact .done _
  · exact .done _

theorem setDeleted_answers (kind : Kind) (slot : Slot) (deleted : Bool) :
    s.Answers (s.refusal? (.deleteScan kind slot)) (s.setDeleted kind slot deleted) := by
  refine .of_entry fun e _ => ?_
  cases e.draftFiles.get? slot with
  | none => exact .refused _
  | some d =>
      dsimp only
      repeat' split
      all_goals exact .done _

theorem loadFile_answers (kind : Kind) (slot : Slot) :
    s.Answers (s.refusal? (.loadFile kind slot)) (s.loadFile kind slot) := by
  refine .of_entry fun e _ => ?_
  cases e.files.get? slot with
  | none => exact .refused _
  | some f =>
      dsimp only
      split
      · exact .done _
      · exact .done _

/-! ## Editing -/

theorem startEdit_answers (kind : Kind) :
    s.Answers (s.refusal? (.startEdit kind)) (s.startEdit kind) := by
  refine .of_entry fun e _ => ?_
  dsimp only
  split
  · exact .done _
  · exact .done _

theorem stopEdit_answers (kind : Kind) :
    s.Answers (s.refusal? (.stopEdit kind)) (s.stopEdit kind) :=
  .of_entry fun _ _ => .of_not fun _ => .done _

/-- An unlocked form has its password, so that nothing that was merged into the edit buffer is refused
when it is to be sent. -/
theorem save_answers (keyed : s.secretReady = s.password.isSome) (kind : Kind) (changes : Fields) :
    s.Answers (s.refusal? (.save kind changes)) (s.save kind changes) := by
  refine .of_writable fun ready => .of_entry fun e he => ?_
  dsimp only
  split
  · exact .done _
  · generalize hw : (if e.editors = 0 then e.snapshot else e) = w
    have hk : w.kind = kind := by
      rw [← hw]
      split <;> exact (kind_of_entry he :)
    split
    · exact .done _
    · split
      · exact .done _
      · split
        · obtain ⟨password, hp⟩ := Option.isSome_iff_exists.1 (keyed.symm.trans ready)
          rw [sendSave_eq (entry?_put (by exact hk) he) (by exact hp)]
          exact .done _
        · exact .done _

theorem delete_answers (kind : Kind) : s.Answers (s.refusal? (.delete kind)) (s.delete kind) := by
  refine .of_writable fun _ => .of_entry fun e _ => ?_
  split
  · exact .done _
  · exact .done _

/-! ## Verification -/

theorem verify_answers (kind : Kind) (code : String) :
    s.Answers (s.refusal? (.verify kind code)) (s.verify kind code) := by
  refine .of_entry fun e _ => ?_
  cases e.verification.codeLength with
  | none => exact .refused _
  | some length =>
      dsimp only
      repeat' split
      all_goals exact .done _

theorem cancelVerification_answers (kind : Kind) :
    s.Answers (s.refusal? (.cancelVerification kind)) (s.cancelVerification kind) :=
  .of_entry fun _ _ => .done _

/-! ## Actions -/

theorem Answers.act {refusal : Option CallError} {r : Session × Option CallError}
    (h : s.Answers refusal r) :
    (∀ error, Answer.ofError r.2 = .refused error ↔ refusal = some error) ∧
      ∀ error, refusal = some error → r.1 = s := by
  refine ⟨fun error => ?_, h.unchanged⟩
  rw [h.answer]
  cases refusal <;> simp [Answer.ofError]

/-- A call is refused for its reason and for no other one, and it has changed nothing then. -/
theorem act_answers (keyed : s.secretReady = s.password.isSome) (now : Nat) (a : Action) :
    (∀ error, (s.act now a).2 = .refused error ↔ s.refusal? a = some error) ∧
      ∀ error, s.refusal? a = some error → (s.act now a).1 = s := by
  cases a with
  | startEdit kind => exact (startEdit_answers kind).act
  | stopEdit kind => exact (stopEdit_answers kind).act
  | save kind changes => exact (save_answers keyed kind changes).act
  | delete kind => exact (delete_answers kind).act
  | upload kind role key date bytes => exact (upload_answers kind role key date bytes).act
  | deleteScan kind slot => exact (setDeleted_answers kind slot true).act
  | restoreScan kind slot => exact (setDeleted_answers kind slot false).act
  | loadFile kind slot => exact (loadFile_answers kind slot).act
  | verify kind code => exact (verify_answers kind code).act
  | cancelVerification kind => exact (cancelVerification_answers kind).act
  | submit => exact ⟨fun error => ⟨nofun, nofun⟩, nofun⟩
  | _ => exact (Answers.done _).act

theorem drain_of_silent (silent : s.outbox = []) : s.drain = ([], s) := by
  cases s
  cases silent
  rfl

theorem refuse_ne_locked (kind : Kind) : s.refuse kind (fun _ => none) ≠ some .locked := by
  unfold refuse
  cases s.entry? kind <;> simp

theorem locked_iff (kind : Kind) (changes : Fields) :
    s.refusal? (.save kind changes) = some .locked ↔ s.secretReady = false := by
  simp only [refusal?]
  cases s.secretReady with
  | false => simp
  | true =>
      simp only [Bool.not_true, Bool.false_eq_true, if_false, Bool.true_eq_false, iff_false]
      split
      · simp
      · exact refuse_ne_locked kind

end Session

/-! ## In a run -/

namespace Run

variable {setup : Setup} {past : History} {s : Session}

/-- Refused calls change nothing. A call is refused for the one reason that can be told before; then it
leaves the session behind as it found it, the number of issued tokens included, and has sent and told
nothing. Above all a save is refused for want of a password only where the form is locked, and never
when what it brought has been merged into the edit buffer. -/
theorem refusals_change_nothing (run : Run setup past s) (now : Nat) (a : Session.Action) :
    let t : Turn := ⟨s, now, a⟩
    (∀ error, (s.act now a).2 = .refused error ↔ s.refusal? a = some error) ∧
      (∀ error, (s.act now a).2 = .refused error → t.after = s ∧ t.effects = []) ∧
      ∀ kind changes, (s.act now (.save kind changes)).2 = .refused .locked ↔
        s.secretReady = false := by
  intro t
  have keyed : s.secretReady = s.password.isSome := run.gated.keyed
  obtain ⟨refused, unchanged⟩ := Session.act_answers keyed now a
  refine ⟨refused, fun error h => ?_, fun kind changes => ?_⟩
  · have same : (s.act now a).1 = s := unchanged error ((refused error).1 h)
    have drained : (s.act now a).1.drain = ([], s) := by
      rw [same]
      exact Session.drain_of_silent run.outbox_eq_nil
    exact ⟨congrArg Prod.snd drained, congrArg Prod.fst drained⟩
  · rw [(Session.act_answers keyed now (.save kind changes)).1, Session.locked_iff]

/-- A file is added to an entry that nobody edits, and a code is typed in that was never sent. -/
theorem refusals_change_nothing_of_upload :
    let kind : Kind := .identity .passport
    let actions := opening ⟨1, [[⟨kind, false, false, false⟩], [⟨.phone, false, false, false⟩]], none⟩ []
    let s := (play (.fresh .plain .empty) actions).2
    let add : Session.Action := .upload kind .frontSide 1 0 []
    let check : Session.Action := .verify .phone "12345"
    ((s.act 4 add).2 = .refused (.notEditing kind) ∧ Turn.after ⟨s, 4, add⟩ = s) ∧
      (s.act 4 check).2 = .refused (.noCodeSent .phone) ∧ Turn.effects ⟨s, 4, check⟩ = [] := by
  intro kind actions s add check
  have run : Run .plain (play (.fresh .plain .empty) actions).1 s :=
    .of_playable (by decide +kernel)
  obtain ⟨added, unchanged, -⟩ := refusals_change_nothing run 4 add
  obtain ⟨checked, silent, -⟩ := refusals_change_nothing run 4 check
  have refused := (added (.notEditing kind)).2 (by decide +kernel)
  have refused' := (checked (.noCodeSent .phone)).2 (by decide +kernel)
  exact ⟨⟨refused, (unchanged _ refused).1⟩, refused', (silent _ refused').2⟩

end Run

end IdentityForm
