import IdentityForm.Proofs.Accounting
import IdentityForm.Proofs.Buffer

/-! # Upkeep

An entry without an editor and with nothing under way is at rest, and there its edit buffer should be
cleared. The relation here is what the operations of a session have in common: they put nothing on the
list of unreported saves, and whatever brings an entry to rest clears its buffer. Saving, starting over
and the passing of time are looked at where they matter, and so is the one kind of failure that does
not clear.
-/

namespace IdentityForm

/-! ## Entries -/

namespace Entry

/-- No editor is open, and nothing is under way. -/
def AtRest (e : Entry) : Prop := e.editors = 0 ∧ e.isBusy = false

/-- The edit buffer has the committed fields, with their errors, and no files. -/
def Cleared (e : Entry) : Prop := e.draftFields = e.fields ∧ e.draftFiles = .empty

def Tidy (e : Entry) : Prop := e.AtRest → e.Cleared

instance (e : Entry) : Decidable e.AtRest := inferInstanceAs (Decidable (_ ∧ _))

instance (e : Entry) : Decidable e.Cleared := inferInstanceAs (Decidable (_ ∧ _))

instance (e : Entry) : Decidable e.Tidy := inferInstanceAs (Decidable (_ → _))

variable {e e' : Entry}

theorem tidy_of_editing (editing : e.editors ≠ 0) : e.Tidy := fun rest => absurd rest.1 editing

theorem tidy_of_busy (busy : e.isBusy = true) : e.Tidy := fun rest =>
  absurd (busy.symm.trans rest.2) (by simp)

theorem tidy_of_writing (writing : e.write ≠ .idle) : e.Tidy :=
  tidy_of_busy (by simp [isBusy, writing])

theorem tidy_of_request {id : Nat} (hr : e.verification.request = some id) : e.Tidy :=
  tidy_of_busy (by simp [isBusy, hr])

theorem tidy_of_coded (coded : e.verification.codeLength ≠ none) : e.Tidy :=
  tidy_of_busy (by simp [isBusy, Option.isSome_iff_ne_none.2 coded])

theorem Cleared.tidy (h : e.Cleared) : e.Tidy := fun _ => h

theorem tidy_clearIfIdle (e : Entry) : e.clearIfIdle.Tidy := by
  unfold clearIfIdle
  split
  · exact Cleared.tidy ⟨rfl, rfl⟩
  · rename_i going_on
    exact fun rest => absurd ⟨rest.1, by simp [rest.2]⟩ going_on

theorem tidy_reset (e : Entry) : e.reset.Tidy := by
  simp only [reset]
  split
  · rename_i editing
    exact tidy_of_editing (Nat.pos_iff_ne_zero.1 editing)
  · exact Cleared.tidy ⟨rfl, rfl⟩

theorem tidy_commit (e : Entry) (c : Contents) : (e.commit c).Tidy := by
  simp only [commit]
  split
  · exact Cleared.tidy ⟨rfl, rfl⟩
  · rename_i editing
    exact tidy_of_editing editing

theorem isUploading_iff : e.isUploading = true ↔
    ∃ slot d, e.draftFiles.get? slot = some d ∧ d.isUploading = true := by
  simp only [isUploading, List.any_eq_true, Files.mem_toList_iff]
  constructor
  · rintro ⟨d, ⟨slot, hd⟩, uploading⟩
    exact ⟨slot, d, hd, uploading⟩
  · rintro ⟨slot, d, hd, uploading⟩
    exact ⟨d, ⟨slot, hd⟩, uploading⟩

/-- A change of a draft that starts and ends no upload leaves the buffer tidy: at rest it has no draft
to be changed. -/
theorem Tidy.of_modify {slot : Slot} (change : Draft → Draft) (h : e.Tidy)
    (same : ∀ d, (change d).isUploading = d.isUploading) (rest : e'.AtRest → e.editors = 0 ∧
      e.write = .idle ∧ e.verification.request = none ∧ e.verification.codeLength = none)
    (fields : e'.fields = e.fields) (drafts : e'.draftFields = e.draftFields)
    (files : e'.draftFiles = e.draftFiles.modify slot change) : e'.Tidy := by
  intro resting
  obtain ⟨unedited, idle, request, length⟩ := rest resting
  have quiet : e.isUploading = false := by
    have quiet' := (quiet_iff.1 resting.2).2.2.2
    by_contra uploading
    obtain ⟨place, d, hd, uploading⟩ := isUploading_iff.1 (eq_true_of_ne_false uploading)
    have uploading' : e'.isUploading = true := by
      rw [isUploading_iff, files]
      by_cases here : slot.Same place
      · refine ⟨place, change d, ?_, (same d).trans uploading⟩
        rw [Files.get?_modify_of_same here, hd, Option.map_some]
      · exact ⟨place, d, (Files.get?_modify_of_not_same here change).trans hd, uploading⟩
    exact absurd (uploading'.symm.trans quiet') (by simp)
  obtain ⟨cleared, empty⟩ := h ⟨unedited, quiet_iff.2 ⟨idle, request, length, quiet⟩⟩
  refine ⟨drafts.trans (cleared.trans fields.symm), ?_⟩
  rw [files, empty, Files.modify_empty]

/-- At rest an error of the server shows in the buffer too. -/
theorem Tidy.applyError (h : e.Tidy) (x : ElementError) : (e.applyError x).Tidy := by
  obtain ⟨fields, files, error, scanError, renditionError, placed, -⟩ :=
    e.placeError_eq x.message x.source
  intro resting
  simp only [Entry.applyError, placed] at resting ⊢
  split at resting
  · rename_i rest
    rw [if_pos rest]
    exact ⟨rfl, (h resting).2⟩
  · rename_i going_on
    exact absurd ⟨resting.1, Bool.not_eq_true _ ▸ resting.2⟩ going_on

end Entry

/-! ## The entries of a form -/

namespace Form

variable {f : Form} {kind other : Kind} {g : Entry → Entry}

theorem entry?_modify_self (hk : ∀ e, e.kind = kind → (g e).kind = kind) :
    entry? (f.modify kind g) kind = (f.entry? kind).map g := by
  cases he : f.entry? kind with
  | none => rw [modify_of_entry?_eq_none he, he, Option.map_none]
  | some e => exact entry?_modify he (hk e (kind_of_entry he))

theorem entry?_modify_ne (hk : ∀ e, e.kind = kind → (g e).kind = kind) (hne : kind ≠ other) :
    entry? (f.modify kind g) other = f.entry? other := by
  simp only [modify, entry?]
  generalize f.entries = entries
  induction entries with
  | nil => rfl
  | cons e rest ih =>
      rw [List.map_cons]
      by_cases he : e.kind = kind
      · have apart : ¬ (g e).kind = other := fun same => hne ((hk e he).symm.trans same)
        have apart' : ¬ e.kind = other := fun same => hne (he.symm.trans same)
        rw [if_pos he, List.find?_cons_of_neg (by simpa using apart),
          List.find?_cons_of_neg (by simpa using apart')]
        exact ih
      · rw [if_neg he]
        by_cases here : e.kind = other
        · rw [List.find?_cons_of_pos (by simpa using here),
            List.find?_cons_of_pos (by simpa using here)]
        · rw [List.find?_cons_of_neg (by simpa using here),
            List.find?_cons_of_neg (by simpa using here)]
          exact ih

theorem entry?_map (change : Entry → Entry) (kept : ∀ e, (change e).kind = e.kind) (f : Form)
    (kind : Kind) :
    Form.entry? { f with entries := f.entries.map change } kind = (f.entry? kind).map change := by
  simp only [ entry?, List.find?_map, Function.comp_def, kept]

theorem foldl_modify {α : Type} (kindOf : α → Kind) (change : Entry → α → Entry)
    (kept : ∀ e x, (change e x).kind = e.kind) (xs : List α) (f : Form) :
    xs.foldl (fun f x => f.modify (kindOf x) fun e => change e x) f = { f with
      entries := f.entries.map fun e => (xs.filter fun x => kindOf x = e.kind).foldl change e } := by
  induction xs generalizing f with
  | nil => simp
  | cons x rest ih =>
      rw [List.foldl_cons, ih]
      simp only [modify, List.map_map]
      congr 1
      refine List.map_congr_left fun e _ => ?_
      by_cases here : kindOf x = e.kind
      · simp [here, kept]
      · simp [here, Ne.symm here]

def Tidy (kind : Kind) (f : Form) : Prop := ∀ e, f.entry? kind = some e → e.Tidy

theorem Tidy.modify_ne (tidy : f.Tidy other) (hk : ∀ e, e.kind = kind → (g e).kind = kind)
    (hne : kind ≠ other) : (f.modify kind g).Tidy other := by
  intro x hx
  rw [entry?_modify_ne hk hne] at hx
  exact tidy x hx

theorem Tidy.modify (tidy : f.Tidy other) (hk : ∀ e, e.kind = kind → (g e).kind = kind)
    (h : ∀ e, f.entry? kind = some e → e.Tidy → (g e).Tidy) : (f.modify kind g).Tidy other := by
  by_cases same : kind = other
  · subst same
    intro x hx
    rw [entry?_modify_self hk] at hx
    obtain ⟨e, he, rfl⟩ := Option.map_eq_some_iff.1 hx
    exact h e he (tidy e he)
  · exact tidy.modify_ne hk same

end Form

namespace Session

variable {s s' s'' : Session} {now : Nat} {kind : Kind} {e e' : Entry} {g : Entry → Entry}

/-! ## What operations have in common -/

/-- What the view works with, and the saves that are still to be reported. -/
def desk (s : Session) : Form × List Kind := (s.form, s.unreported)

/-- The list of unreported saves is the same, and every tidy entry is still tidy. -/
structure Upkeeps (s s' : Session) : Prop where
  unreported : s'.unreported = s.unreported
  tidy : ∀ kind, s.form.Tidy kind → s'.form.Tidy kind

namespace Upkeeps

theorem of_desk (h : s'.desk = s.desk) : s.Upkeeps s' where
  unreported := congrArg Prod.snd h
  tidy kind tidy := by
    rw [show s'.form = s.form from congrArg Prod.fst h]
    exact tidy

theorem refl : s.Upkeeps s := .of_desk rfl

theorem trans (h : s.Upkeeps s') (h' : s'.Upkeeps s'') : s.Upkeeps s'' where
  unreported := h'.unreported.trans h.unreported
  tidy kind tidy := h'.tidy kind (h.tidy kind tidy)

theorem of_modify (kind : Kind) (h : s'.desk = (s.modify kind g).desk)
    (hk : ∀ e, e.kind = kind → (g e).kind = kind)
    (hg : ∀ e, s.entry? kind = some e → e.Tidy → (g e).Tidy) : s.Upkeeps s' where
  unreported := congrArg Prod.snd h
  tidy other tidy := by
    rw [show s'.form = s.form.modify kind g from congrArg Prod.fst h]
    exact tidy.modify hk hg

theorem of_put (e' : Entry) (h : s'.desk = (s.put e').desk) (he : s.entry? e'.kind = some e)
    (ht : e.Tidy → e'.Tidy) : s.Upkeeps s' := by
  refine .of_modify e'.kind h (fun _ _ => rfl) fun x hx tidy => ht ?_
  obtain rfl := Option.some.inj (he.symm.trans hx)
  exact tidy

/-- One entry is changed, and cleared if that brought it to rest. -/
theorem of_cleared (kind : Kind) (h : s'.desk = ((s.modify kind g).clearIfIdle kind).desk)
    (hk : ∀ e, e.kind = kind → (g e).kind = kind) : s.Upkeeps s' := by
  refine of_modify kind (g := Entry.clearIfIdle ∘ g) ?_ ?_ fun e _ _ =>
    (g e).tidy_clearIfIdle
  · exact h.trans (congrArg desk (modify_modify hk))
  · exact fun e he => (g e).kind_clearIfIdle.trans (hk e he)

theorem foldl {α : Type} {f : Session → α → Session}
    (h : ∀ (s : Session) x, s.Upkeeps (f s x)) (xs : List α) : s.Upkeeps (xs.foldl f s) := by
  induction xs generalizing s with
  | nil => exact .refl
  | cons x rest ih => exact (h s x).trans ih

end Upkeeps

/-! ## Sending and reporting -/

@[simp] theorem desk_sendAll (rs : List Request) : (s.sendAll rs).desk = s.desk := by
  unfold sendAll
  induction rs generalizing s with
  | nil => rfl
  | cons r rest ih => exact ih

@[simp] theorem desk_notifyAll (ns : List Notice) : (s.notifyAll ns).desk = s.desk := by
  unfold notifyAll
  induction ns generalizing s with
  | nil => rfl
  | cons n rest ih => exact ih

theorem form_notifyAll (ns : List Notice) : (s.notifyAll ns).form = s.form :=
  congrArg Prod.fst (desk_notifyAll ns)

/-! ## Opening, unlocking and submitting -/

theorem desk_requestPasswordState : s.requestPasswordState.desk = s.desk := by
  unfold requestPasswordState
  split <;> rfl

theorem desk_display : s.display.desk = s.desk := by
  unfold display
  split
  · rfl
  · rw [desk_requestPasswordState]
    split <;> rfl

theorem desk_reloadPassword : s.reloadPassword.desk = s.desk := desk_requestPasswordState

theorem desk_showForm : (s.showForm now).desk = s.desk := by
  obtain ⟨_, _, _, _, _, _, same⟩ := s.showForm_eq now
  rw [same]
  rfl

theorem desk_failForm (error : ServerError) : (s.failForm error).desk = s.desk := by
  unfold failForm
  dsimp only
  split <;> rfl

theorem desk_failPasswordState (error : ServerError) :
    (s.failPasswordState error).desk = s.desk := by
  unfold failPasswordState
  split
  · exact desk_failForm error
  · rfl

theorem desk_passwordStateDone (outcome : Outcome) :
    (s.passwordStateDone now outcome).desk = s.desk := by
  rcases s.passwordStateDone_cases now outcome with
    ⟨settings, -, same | same⟩ | ⟨error, -, failed⟩
  · rw [same]
    rfl
  · rw [same]
    exact desk_showForm.trans rfl
  · rw [failed]
    exact desk_failPasswordState error

theorem desk_submitPassword (password : String) : (s.submitPassword password).desk = s.desk := by
  unfold submitPassword
  split
  · rfl
  · split <;> rfl

theorem desk_passwordCheckFailed (error : ServerError) :
    (s.passwordCheckFailed error).desk = s.desk := by
  unfold passwordCheckFailed
  dsimp only
  split
  · split <;> rfl
  · exact desk_requestPasswordState
  · rfl
  · rfl
  · rfl

theorem desk_clearUnconfirmedPassword : s.clearUnconfirmedPassword.desk = s.desk := by
  unfold clearUnconfirmedPassword
  split <;> rfl

theorem desk_clearPasswordDone (outcome : Outcome) :
    (s.clearPasswordDone outcome).desk = s.desk := by
  cases outcome with
  | ok response => exact desk_reloadPassword
  | failed error => rfl

theorem desk_recoverPassword : s.recoverPassword.desk = s.desk := by
  unfold recoverPassword
  split <;> rfl

theorem desk_recoveryDone (outcome : Outcome) : (s.recoveryDone outcome).desk = s.desk := by
  unfold recoveryDone
  split <;> rfl

theorem desk_suggestRestart : s.suggestRestart.desk = s.desk := by
  unfold suggestRestart
  split <;> rfl

theorem desk_submit : s.submit.1.desk = s.desk := by
  unfold submit
  split
  · rfl
  · dsimp only
    split <;> rfl

theorem desk_submitDone (outcome : Outcome) : (s.submitDone now outcome).desk = s.desk := by
  cases outcome with
  | ok response => rfl
  | failed error =>
      simp only [submitDone]
      split
      · rfl
      · exact desk_suggestRestart
      · rfl

/-- Errors and elements of the server show in the buffer of an entry at rest. -/
theorem tidy_takeElements {f : Form} (tidy : f.Tidy kind) (elements : List StoredElement)
    (errors : List ElementError) : (f.takeElements elements errors).Tidy kind := by
  refine Form.takeElements_induction (Q := Form.Tidy kind) ?_ ?_ tidy
  · intro f element tidy
    refine tidy.modify (fun _ hk => hk) fun e _ tidy resting => ?_
    have unedited : e.editors = 0 := resting.1
    obtain ⟨-, empty⟩ := tidy resting
    exact ⟨by simp [Entry.fill, unedited], empty⟩
  · intro f x tidy
    refine tidy.modify (fun e hk => (e.applyError_keeps x).1.trans hk) fun e _ tidy => ?_
    exact tidy.applyError x

theorem unlock_upkeeps (password : String) (elements : List StoredElement)
    (errors : List ElementError) : s.Upkeeps (s.unlock now password elements errors) where
  unreported := rfl
  tidy _ tidy := tidy_takeElements tidy elements errors

theorem availableElementsDone_upkeeps (outcome : Outcome) :
    s.Upkeeps (s.availableElementsDone now outcome) := by
  unfold availableElementsDone
  split
  · split
    · exact .refl
    · exact unlock_upkeeps _ _ _
  · exact .of_desk (desk_passwordCheckFailed _)
  · exact .of_desk (desk_passwordCheckFailed _)

/-- The entries of a form that has just come are cleared. -/
theorem formDone_upkeeps (outcome : Outcome) : s.Upkeeps (s.formDone now outcome) := by
  unfold formDone
  split
  · rename_i form
    let opened := { s with form := .ofAuthorization form, formReceived := true }
    have opens : s.Upkeeps opened := by
      refine ⟨rfl, fun kind _ e he => ?_⟩
      obtain ⟨kind, rfl⟩ := Form.mem_ofAuthorization (Form.mem_of_entry he)
      exact Entry.Cleared.tidy ⟨rfl, rfl⟩
    exact opens.trans (.of_desk desk_showForm)
  · exact .of_desk (desk_failForm _)
  · exact .of_desk (desk_failForm _)

theorem errandDone_upkeeps (errand : Errand) (outcome : Outcome) :
    s.Upkeeps (s.errandDone now errand outcome) := by
  cases errand with
  | form => exact formDone_upkeeps outcome
  | passwordState => exact .of_desk (desk_passwordStateDone outcome)
  | availableElements => exact availableElementsDone_upkeeps outcome
  | submit => exact .of_desk (desk_submitDone outcome)
  | clearPassword => exact .of_desk (desk_clearPasswordDone outcome)
  | recovery => exact .of_desk (desk_recoveryDone outcome)

end Session

end IdentityForm
