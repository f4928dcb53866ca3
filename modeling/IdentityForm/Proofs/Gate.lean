import IdentityForm.Proofs.Move.Step
import IdentityForm.Proofs.Requested
import IdentityForm.Proofs.Slots

/-! # What can be under way

The form is asked for until it is there, and the elements until it is unlocked; before that nothing
is written or verified. Every move keeps to this order, and so does every run.
-/

namespace IdentityForm

def StoredFile.unmarked (f : StoredFile) : StoredFile := { f with error := none }

/-! ## Forms with an entry changed -/

namespace Form

variable {f : Form} {g : Entry → Entry} {e x : Entry}

theorem eq_of_kind_eq (distinct : (f.entries.map Entry.kind).Nodup) (hx : x ∈ f.entries)
    (he : e ∈ f.entries) (hk : x.kind = e.kind) : x = e := by
  have found := entry?_of_mem distinct hx
  rw [hk, entry?_of_mem distinct he] at found
  exact (Option.some.inj found).symm

theorem modify_eq_put (distinct : (f.entries.map Entry.kind).Nodup) (he : e ∈ f.entries) :
    f.modify e.kind g = f.modify e.kind fun _ => g e := by
  simp only [modify]
  congr 1
  refine List.map_congr_left fun x hx => ?_
  split
  · rename_i here
    rw [eq_of_kind_eq distinct hx he here]
  · rfl

theorem modify_modify_eq_put {h : Entry → Entry} (distinct : (f.entries.map Entry.kind).Nodup)
    (he : e ∈ f.entries) (hg : ∀ x, (g x).kind = x.kind) :
    (f.modify e.kind g).modify e.kind h = f.modify e.kind fun _ => h (g e) := by
  rw [modify_modify fun x hk => (hg x).trans hk, modify_eq_put distinct he]
  rfl

theorem mem_modify (distinct : (f.entries.map Entry.kind).Nodup) (he : f.entry? e.kind = some e)
    (hx : x ∈ (f.modify e.kind g).entries) : x = g e ∨ x ∈ f.entries ∧ x.kind ≠ e.kind := by
  obtain ⟨y, hy, rfl⟩ := List.mem_map.1 hx
  by_cases hk : y.kind = e.kind
  · rw [if_pos hk, eq_of_kind_eq distinct hy (mem_of_entry he) hk]
    exact .inl rfl
  · rw [if_neg hk]
    exact .inr ⟨hy, hk⟩

theorem map_modify {α : Type} {p : Entry → α} (distinct : (f.entries.map Entry.kind).Nodup)
    (he : f.entry? e.kind = some e) (hg : p (g e) = p e) :
    (f.modify e.kind g).entries.map p = f.entries.map p := by
  simp only [modify, List.map_map]
  apply List.map_congr_left
  intro x hx
  by_cases hk : x.kind = e.kind
  · simp [eq_of_kind_eq distinct hx (mem_of_entry he) hk, hg]
  · simp [hk]

theorem kinds_modify (distinct : (f.entries.map Entry.kind).Nodup) (he : f.entry? e.kind = some e)
    (hg : (g e).kind = e.kind) :
    (f.modify e.kind g).entries.map Entry.kind = f.entries.map Entry.kind :=
  map_modify distinct he hg

end Form

/-! ## Writes and verifications -/

namespace Entry

@[simp] theorem write_clearIfIdle (e : Entry) : e.clearIfIdle.write = e.write := by
  unfold clearIfIdle
  split <;> rfl

@[simp] theorem verification_clearIfIdle (e : Entry) :
    e.clearIfIdle.verification = e.verification := by
  unfold clearIfIdle
  split <;> rfl

@[simp] theorem write_atSave (e : Entry) : e.atSave.write = e.write := by
  unfold atSave
  split <;> rfl

@[simp] theorem verification_atSave (e : Entry) : e.atSave.verification = e.verification := by
  unfold atSave
  split <;> rfl

@[simp] theorem write_spared (e : Entry) : e.spared.write = .unchanged := by
  simp only [spared]
  split <;> rfl

@[simp] theorem verification_spared (e : Entry) : e.spared.verification = e.verification := by
  simp only [spared]
  split <;> rfl

@[simp] theorem write_commit (e : Entry) (c : Contents) : (e.commit c).write = e.write := by
  simp only [commit]
  split <;> rfl

@[simp] theorem verification_commit (e : Entry) (c : Contents) :
    (e.commit c).verification = e.verification := by
  simp only [commit]
  split <;> rfl

@[simp] theorem write_reset (e : Entry) : e.reset.write = .idle := by
  simp only [reset]
  split <;> rfl

@[simp] theorem verification_reset (e : Entry) : e.reset.verification = .none := by
  simp only [reset]
  split <;> rfl

/-- An error of the server changes fields and errors, and nothing else about the files. -/
theorem placeError_eq (e : Entry) (message : String) (source : ErrorSource) :
    ∃ fields files error scanError renditionError,
      e.placeError message source = { e with fields, files, error, scanError, renditionError } ∧
        files.map StoredFile.unmarked = e.files.map StoredFile.unmarked := by
  have setFileError_eq (slot : Slot) (otherwise : Entry)
      (other : ∃ error scanError renditionError,
        otherwise = { e with error, scanError, renditionError }) :
      ∃ fields files error scanError renditionError,
        e.setFileError slot message otherwise =
          { e with fields, files, error, scanError, renditionError } ∧
        files.map StoredFile.unmarked = e.files.map StoredFile.unmarked := by
    obtain ⟨error, scanError, renditionError, rfl⟩ := other
    unfold setFileError
    split
    · exact ⟨_, _, _, _, _, rfl, Files.map_modify _ _ fun _ => rfl⟩
    · exact ⟨_, _, _, _, _, rfl, rfl⟩
  cases source with
  | unspecified =>
      simp only [placeError]
      split <;> exact ⟨_, _, _, _, _, rfl, rfl⟩
  | dataField field => exact ⟨_, _, _, _, _, rfl, rfl⟩
  | files => exact ⟨_, _, _, _, _, rfl, rfl⟩
  | renditionFiles => exact ⟨_, _, _, _, _, rfl, rfl⟩
  | frontSide => exact setFileError_eq _ _ ⟨_, _, _, rfl⟩
  | reverseSide => exact setFileError_eq _ _ ⟨_, _, _, rfl⟩
  | selfie => exact setFileError_eq _ _ ⟨_, _, _, rfl⟩
  | file index => exact setFileError_eq _ _ ⟨_, _, _, rfl⟩
  | renditionFile index => exact setFileError_eq _ _ ⟨_, _, _, rfl⟩

theorem applyError_eq (e : Entry) (x : ElementError) :
    ∃ fields files draftFields error scanError renditionError,
      e.applyError x =
        { e with fields, files, draftFields, error, scanError, renditionError } ∧
        files.map StoredFile.unmarked = e.files.map StoredFile.unmarked := by
  obtain ⟨fields, files, error, scanError, renditionError, placed, same⟩ :=
    e.placeError_eq x.message x.source
  simp only [applyError, placed]
  split
  · exact ⟨_, _, _, _, _, _, rfl, same⟩
  · exact ⟨_, _, _, _, _, _, rfl, same⟩

theorem applyError_keeps (e : Entry) (error : ElementError) :
    (e.applyError error).kind = e.kind ∧ (e.applyError error).write = e.write ∧
      (e.applyError error).verification = e.verification := by
  obtain ⟨_, _, _, _, _, _, applied, -⟩ := e.applyError_eq error
  rw [applied]
  exact ⟨rfl, rfl, rfl⟩

/-- An error goes to a file or elsewhere, but it adds no file and takes none away. -/
theorem isSome_files_applyError (e : Entry) (x : ElementError) (slot : Slot) :
    ((e.applyError x).files.get? slot).isSome = (e.files.get? slot).isSome := by
  obtain ⟨_, files, _, _, _, _, applied, same⟩ := e.applyError_eq x
  rw [applied]
  have held := congrArg (fun files => (files.get? slot).isSome) same
  simpa only [Files.get?_map, Option.isSome_map] using held

theorem quiet_iff {e : Entry} : e.isBusy = false ↔
    e.write = .idle ∧ e.verification.request = none ∧ e.verification.codeLength = none ∧
      e.isUploading = false := by
  simp [isBusy, and_assoc]

/-- What a change means for the write and the verification of an entry, with the tokens that it
issues and the ids that it cancels. -/
inductive Progress (ready : Bool) (next : Nat) (e e' : Entry) : List Token → List Nat → Prop
  | kept : e'.write = e.write → e'.verification = e.verification → Progress ready next e e' [] []
  | unchanged : ready = true → e.isBusy = false → e'.write = .unchanged →
      e'.verification = e.verification → Progress ready next e e' [] []
  | written {task : Task} : task = .save ∨ task = .delete → ready = true → e.isBusy = false →
      e'.write = .pending next → e'.verification = e.verification →
      Progress ready next e e' [⟨next, .task task e.kind⟩] []
  | reported : e.write = .unchanged → e'.write = .idle → e'.verification = e.verification →
      Progress ready next e e' [] []
  | miscoded {length : CodeLength} {error : Option String} :
      e.verification.codeLength = some length → e'.write = e.write →
      e'.verification = { e.verification with error } → Progress ready next e e' [] []
  | checked {length : CodeLength} : e.verification.codeLength = some length →
      e.verification.request = none → e'.write = e.write →
      e'.verification = { e.verification with request := some next, error := none } →
      Progress ready next e e' [⟨next, .task .checkCode e.kind⟩] []
  | givenUp : e'.write = e.write → e'.verification = .none →
      Progress ready next e e' []
        (e.verification.request.toList ++ e.verification.callRequest?.toList)
  | calling {due : Nat} : e.verification.call = some (.waiting due) → e'.write = e.write →
      e'.verification = { e.verification with call := some (.calling next) } →
      Progress ready next e e' [⟨next, .task .resendCall e.kind⟩] []

/-- Before the unlocking nothing makes progress. -/
theorem Progress.locked {next : Nat} {e e' : Entry} {tokens : List Token} {cancels : List Nat}
    (h : Progress false next e e' tokens cancels)
    (blank : e.write = .idle ∧ e.verification = .none) :
    e'.write = .idle ∧ e'.verification = .none := by
  obtain ⟨idle, none_⟩ := blank
  cases h with
  | kept hw hv => exact ⟨hw.trans idle, hv.trans none_⟩
  | unchanged ready => cases ready
  | written _ ready => cases ready
  | reported hw => exact absurd (hw.symm.trans idle) (by simp)
  | miscoded hlength => simp [none_, Verification.none] at hlength
  | checked hlength => simp [none_, Verification.none] at hlength
  | givenUp hw hv => exact ⟨hw.trans idle, hv⟩
  | calling hcall => simp [none_, Verification.none] at hcall

end Entry

namespace Session

variable {s s' : Session} {now : Nat} {a : Action} {e e' : Entry} {es : List Effect}

theorem Change.kind_eq (h : s.Change now a e es e') : e'.kind = e.kind := by
  cases h with
  | saved _ _ _ _ _ _ hsent => simp [hsent]
  | _ => simp [Entry.snapshot, updateFile]

theorem Change.progress (h : s.Change now a e es e') :
    Entry.Progress s.secretReady s.nextId e e' (tokensOf es) (cancelsOf es) := by
  cases h with
  | spared _ ready _ quiet => exact .unchanged ready quiet (by simp) (by simp)
  | saved _ ready _ _ quiet _ hsent =>
      exact .written (.inl rfl) ready quiet (by simp [hsent]) (by simp [hsent])
  | deleted _ ready _ quiet => exact .written (.inr rfl) ready quiet rfl rfl
  | reported _ unreported => exact .reported unreported (by simp) (by simp)
  | uploaded =>
      rw [tokensOf_uploading, cancelsOf_uploading]
      exact .kept rfl rfl
  | miscoded _ hlength => exact .miscoded hlength rfl rfl
  | checked _ hlength free hr =>
      subst hr
      split
      · exact .checked hlength free rfl rfl
      · exact .checked hlength free rfl rfl
  | givenUp =>
      rw [tokensOf_cancels, cancelsOf_cancels]
      exact .givenUp rfl rfl
  | calling _ waiting => exact .calling waiting rfl rfl
  | _ => exact .kept (by simp [Entry.snapshot, updateFile]) (by simp [Entry.snapshot, updateFile])

theorem Uptake.kind_eq {task : Task} {outcome : Outcome}
    (h : s.Uptake now e task outcome es e') : e'.kind = e.kind := by
  cases h <;> simp

end Session

/-! ## Contents from the server -/

namespace Form

/-- What a fill and an error keep of a form is kept by all that the server has. -/
theorem takeElements_induction {Q : Form → Prop} {f : Form} {elements : List StoredElement}
    {errors : List ElementError} (fill : ∀ g element, Q g → Q (g.fill element))
    (error : ∀ g x, Q g → Q (g.applyError x)) (h : Q f) : Q (f.takeElements elements errors) := by
  have filled : Q (elements.foldl Form.fill f) := by
    induction elements generalizing f with
    | nil => exact h
    | cons element rest ih => exact ih (fill f element h)
  unfold takeElements
  generalize elements.foldl Form.fill f = g at filled
  induction errors generalizing g with
  | nil => exact filled
  | cons x rest ih => exact ih _ (error g x filled)

theorem forall_modify {P : Entry → Prop} {f : Form} {kind : Kind} {g : Entry → Entry}
    (h : ∀ e ∈ f.entries, P e) (hg : ∀ e, kind = e.kind → P e → P (g e)) :
    ∀ e ∈ (f.modify kind g).entries, P e := by
  intro e he
  obtain ⟨x, hx, rfl⟩ := List.mem_map.1 he
  split
  · rename_i hk
    exact hg x hk.symm (h x hx)
  · exact h x hx

theorem takeElements_forall {P : Entry → Prop} {f : Form} {elements : List StoredElement}
    {errors : List ElementError}
    (fill : ∀ e (element : StoredElement), element.kind = e.kind → P e → P (e.fill element.contents))
    (error : ∀ e x, P e → P (e.applyError x)) (h : ∀ e ∈ f.entries, P e) :
    ∀ e ∈ (f.takeElements elements errors).entries, P e :=
  takeElements_induction (Q := fun g => ∀ e ∈ g.entries, P e)
    (fun _ element h => forall_modify h fun e hk => fill e element hk)
    (fun _ x h => forall_modify h fun e _ => error e x) h

theorem takeElements_map {α : Type} {p : Entry → α} {f : Form} {elements : List StoredElement}
    {errors : List ElementError} (fill : ∀ e c, p (Entry.fill e c) = p e)
    (error : ∀ e x, p (Entry.applyError e x) = p e) :
    (f.takeElements elements errors).entries.map p = f.entries.map p := by
  have modified {f : Form} {kind : Kind} {g : Entry → Entry} (hg : ∀ e, p (g e) = p e) :
      (f.modify kind g).entries.map p = f.entries.map p := by
    simp only [modify, List.map_map]
    apply List.map_congr_left
    intro e _
    simp only [Function.comp_apply]
    split
    · exact hg e
    · rfl
  exact takeElements_induction (Q := fun g => g.entries.map p = f.entries.map p)
    (fun g element h => (modified fun e => fill e _).trans h)
    (fun g x h => (modified fun e => error e x).trans h) rfl

theorem rows_takeElements (f : Form) (elements : List StoredElement) (errors : List ElementError) :
    (f.takeElements elements errors).rows = f.rows :=
  takeElements_induction (Q := fun g => g.rows = f.rows) (fun _ _ h => h) (fun _ _ h => h) rfl

/-- A form that was just received has one entry for a kind, and nothing under way. -/
theorem ofAuthorization_kinds (a : AuthorizationForm) :
    ((ofAuthorization a).entries.map Entry.kind).Nodup := by
  have kinds : (ofAuthorization a).entries.map Entry.kind =
      Kind.all.filter fun k => a.rows.flatten.any (·.kind = k) := by
    rw [ofAuthorization_eq, requestedEntries, List.map_map]
    exact (List.map_congr_left fun _ _ => rfl).trans (List.map_id _)
  rw [kinds]
  exact Kind.nodup_all.filter _

theorem blank_of_mem_ofAuthorization {a : AuthorizationForm} {e : Entry}
    (he : e ∈ (ofAuthorization a).entries) : e.write = .idle ∧ e.verification = .none := by
  obtain ⟨kind, rfl⟩ := mem_ofAuthorization he
  exact ⟨rfl, rfl⟩

end Form

/-! ## The order of things -/

/-- What has come so far decides what can be under way. -/
structure Core.Gated (c : Core) : Prop extends Sound c where
  unasked : c.formReceived = false → c.form.entries = []
  asked : c.awaited.form ≠ none → c.formReceived = false
  checked : c.awaited.availableElements ≠ none → c.secretReady = false
  locked : c.secretReady = false →
    ∀ e ∈ c.form.entries, e.write = .idle ∧ e.verification = .none

namespace Core.Gated

variable {c : Core} {e : Entry} {g : Entry → Entry}

theorem modify (gated : c.Gated) (he : c.form.entry? e.kind = some e) (hk : (g e).kind = e.kind)
    (locked : c.secretReady = false → (g e).write = .idle ∧ (g e).verification = .none) (n : Nat) :
    { c with form := c.form.modify e.kind g, issued := n }.Gated where
  distinct := (Form.kinds_modify gated.distinct he hk).symm ▸ gated.distinct
  keyed := gated.keyed
  unasked := by
    intro unasked
    have none_there : c.form.entries = [] := gated.unasked unasked
    simp [Form.modify, none_there]
  asked := gated.asked
  checked := gated.checked
  locked := by
    intro ready x hx
    rcases Form.mem_modify gated.distinct he hx with rfl | ⟨hx, -⟩
    · exact locked ready
    · exact gated.locked ready x hx

/-- What is waited for is at rest before the unlocking. -/
theorem ready_of_awaits {task : Task} {id : Nat} (gated : c.Gated)
    (he : c.form.entry? e.kind = some e) (hw : e.awaits? task = some id) :
    c.secretReady = true := by
  cases ready : c.secretReady with
  | true => rfl
  | false =>
      obtain ⟨idle, none_⟩ := gated.locked ready e (Form.mem_of_entry he)
      cases task <;>
        simp [Entry.awaits?, idle, none_, Verification.none, Verification.callRequest?] at hw

/-- The form comes before any entry is there. -/
theorem empty_of_awaits {id : Nat} (gated : c.Gated) (hw : c.awaited.form = some id) :
    c.form.entries = [] :=
  gated.unasked (gated.asked (by simp [hw]))

/-- The elements come before the unlocking. -/
theorem locked_of_awaits {id : Nat} (gated : c.Gated)
    (hw : c.awaited.availableElements = some id) : c.secretReady = false :=
  gated.checked (by simp [hw])

end Core.Gated

namespace Session

variable {s s' : Session} {now : Nat} {a : Action} {r : Reply}

theorem Move.gated (h : Move now a s s') (gated : s.core.Gated) : s'.core.Gated := by
  cases h with
  | rest es core => exact core ▸ gated
  | ask errand r free _ _ form check submit core =>
      rw [core]
      refine { toSound := ⟨gated.distinct, gated.keyed⟩, unasked := gated.unasked, asked := ?_,
               checked := ?_, locked := gated.locked }
      · intro waiting
        by_cases hform : errand = .form
        · exact form hform
        · apply gated.asked
          have same := Awaited.get_set_of_ne s.awaited (some s.nextId) (Ne.symm hform)
          exact fun none_ => waiting (same.trans none_)
      · intro waiting
        by_cases hcheck : errand = .availableElements
        · exact check hcheck
        · apply gated.checked
          have same := Awaited.get_set_of_ne s.awaited (some s.nextId) (Ne.symm hcheck)
          exact fun none_ => waiting (same.trans none_)
  | entry e g es he change core =>
      rw [core]
      refine gated.modify he change.kind_eq (fun locked => ?_) _
      have progress := change.progress
      rw [show s.secretReady = false from locked] at progress
      exact progress.locked (gated.locked locked e (Form.mem_of_entry he))
  | abandon es _ core =>
      rw [core]
      exact { distinct := List.nodup_nil, keyed := rfl, unasked := fun _ => rfl,
              asked := fun h => absurd rfl h, checked := fun h => absurd rfl h,
              locked := fun _ e he => absurd he List.not_mem_nil }

theorem Moves.gated (h : Moves now a s s') (gated : s.core.Gated) : s'.core.Gated := by
  induction h with
  | refl => exact gated
  | tail _ move ih => exact move.gated ih

theorem Settle.gated (h : Settle now r s s') (gated : s.core.Gated) : s'.core.Gated := by
  cases h with
  | errand errand es _ _ core =>
      rw [core]
      refine { toSound := ⟨gated.distinct, gated.keyed⟩, unasked := gated.unasked, asked := ?_,
               checked := ?_, locked := gated.locked }
      · intro waiting
        refine gated.asked fun none_ => waiting ?_
        cases errand <;> first | rfl | exact none_
      · intro waiting
        refine gated.checked fun none_ => waiting ?_
        cases errand <;> first | rfl | exact none_
  | form a es _ _ _ core =>
      rw [core]
      exact { distinct := Form.ofAuthorization_kinds a, keyed := gated.keyed,
              unasked := fun h => absurd h (by simp), asked := fun h => absurd rfl h,
              checked := gated.checked,
              locked := fun _ e he => Form.blank_of_mem_ofAuthorization he }
  | unlock password elements errors es _ _ _ core =>
      rw [core]
      have kinds : (s.form.takeElements elements errors).entries.map Entry.kind =
          s.form.entries.map Entry.kind :=
        Form.takeElements_map (fun _ _ => rfl) fun e x => (e.applyError_keeps x).1
      refine { distinct := ?_, keyed := rfl, unasked := ?_, asked := gated.asked,
               checked := fun h => absurd rfl h, locked := fun h => absurd h (by simp) }
      · exact kinds.symm ▸ gated.distinct
      · intro unasked
        have none_there : s.form.entries = [] := gated.unasked unasked
        rw [none_there] at kinds
        exact List.map_eq_nil_iff.1 kinds
  | task task e g es _ he hw uptake core =>
      rw [core]
      refine gated.modify he uptake.kind_eq (fun locked => ?_) _
      exact absurd (gated.ready_of_awaits he hw) (by simp [locked])

theorem Close.gated (h : Close s s') (gated : s.core.Gated) : s'.core.Gated := by
  have kinds : (s.form.entries.map Entry.stopped).map Entry.kind = s.form.entries.map Entry.kind := by
    rw [List.map_map]
    rfl
  rw [h.core]
  refine { distinct := kinds.symm ▸ gated.distinct, keyed := gated.keyed, unasked := ?_,
           asked := fun h => absurd rfl h, checked := fun h => absurd rfl h, locked := ?_ }
  · intro unasked
    have none_there : s.form.entries = [] := gated.unasked unasked
    simp [none_there]
  · intro locked x hx
    obtain ⟨e, he, rfl⟩ := List.mem_map.1 hx
    have blank := gated.locked locked e he
    exact ⟨rfl, by simp [Entry.stopped, blank.2, Verification.none]⟩

/-- What every part of an action keeps, the action keeps. -/
theorem Acts.induction {P : Session → Prop} (h : Acts now a s s')
    (move : ∀ t t', Move now a t t' → P t → P t')
    (settle : ∀ r t, a = .reply r → s.cancelled = false → s.core.Awaits r.token → Settle now r s t →
      P t)
    (close : ∀ t t', Close t t' → P t → P t') (start : P s) : P s' := by
  have moves {t t' : Session} (h : Moves now a t t') (start : P t) : P t' := by
    induction h with
    | refl => exact start
    | tail _ step ih => exact move _ _ step ih
  cases h with
  | moves _ h => exact moves h start
  | close _ h closing => exact close _ _ closing (moves h start)
  | dropped _ _ same => exact same ▸ start
  | reply ha live awaits h =>
      obtain ⟨mid, settled, h⟩ := h
      exact moves h (settle _ mid ha live awaits settled)

/-- What every change of an entry keeps is kept by an action, if the elements of the server keep
it. -/
theorem Acts.forall_entries {P : Entry → Prop} (h : Acts now a s s') (gated : s.core.Gated)
    (change : ∀ t e e' es, Change t now a e es e' → P e → P e')
    (uptake : ∀ r t e e' task es, a = .reply r → Uptake t now e task r.outcome es e' → P e → P e')
    (blank : ∀ form, ∀ e ∈ (Form.ofAuthorization form).entries, P e)
    (unlock : ∀ r elements errors, a = .reply r → s.awaited.availableElements = some r.token.id →
      r.outcome = .ok (.availableElements elements errors) →
        ∀ e ∈ (s.form.takeElements elements errors).entries, P e)
    (stopped : ∀ e, P e → P e.stopped) (start : ∀ e ∈ s.form.entries, P e) :
    ∀ e ∈ s'.form.entries, P e := by
  have modified {t : Session} {e : Entry} {g : Entry → Entry} (gated : t.core.Gated)
      (he : t.entry? e.kind = some e) (holds : ∀ e ∈ t.form.entries, P e) (hg : P e → P (g e)) :
      ∀ x ∈ (t.form.modify e.kind g).entries, P x := by
    intro x hx
    rcases Form.mem_modify gated.distinct he hx with rfl | ⟨hx, -⟩
    · exact hg (holds e (Form.mem_of_entry he))
    · exact holds x hx
  refine (h.induction (P := fun t => t.core.Gated ∧ ∀ e ∈ t.core.form.entries, P e)
    ?_ ?_ ?_ ⟨gated, start⟩).2
  · rintro t t' move ⟨gated, holds⟩
    refine ⟨move.gated gated, ?_⟩
    cases move with
    | rest es core => exact core ▸ holds
    | ask errand r _ _ _ _ _ _ core => exact core ▸ holds
    | entry e g es he moved core =>
        rw [core]
        exact modified gated he holds (change t e (g e) es moved)
    | abandon es _ core =>
        rw [core]
        exact fun e he => absurd he List.not_mem_nil
  · rintro r t rfl _ _ settle
    refine ⟨settle.gated gated, ?_⟩
    cases settle with
    | errand errand es _ _ core => exact core ▸ start
    | form form es _ _ _ core => exact core ▸ blank form
    | unlock password elements errors es _ hw ho core =>
        exact core ▸ unlock r elements errors rfl hw ho
    | task task e g es _ he _ taken core =>
        rw [core]
        exact modified gated he start (uptake r s e (g e) task es rfl taken)
  · rintro t t' close ⟨gated, holds⟩
    refine ⟨close.gated gated, ?_⟩
    rw [close.core]
    intro x hx
    obtain ⟨e, he, rfl⟩ := List.mem_map.1 hx
    exact stopped e (holds e he)

theorem act_gated (gated : s.core.Gated) : (s.act now a).1.core.Gated :=
  (act_acts gated.toSound).induction (fun _ _ h => h.gated)
    (fun _ _ _ _ _ settled => settled.gated gated) (fun _ _ h => h.gated) gated

end Session

namespace Run

variable {setup : Setup} {past : History} {s : Session}

theorem gated (run : Run setup past s) : s.core.Gated := by
  induction run with
  | start credentials =>
      exact { distinct := List.nodup_nil, keyed := rfl, unasked := fun _ => rfl,
              asked := fun h => absurd rfl h, checked := fun h => absurd rfl h,
              locked := fun _ e he => absurd he List.not_mem_nil }
  | step now action _ _ _ ih => exact Session.act_gated ih

theorem acts (run : Run setup past s) (now : Nat) (action : Session.Action) :
    s.Acts now action (s.act now action).1 := Session.act_acts run.gated.toSound

end Run

end IdentityForm
