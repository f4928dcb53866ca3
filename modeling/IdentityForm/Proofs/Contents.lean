import IdentityForm.Proofs.Buffer
import IdentityForm.Proofs.Ledger

/-! # What entries hold

The committed files of an entry are of the roles that its kind has, and there are none before the
unlocking. Only a plain text is verified.
-/

namespace IdentityForm

/-- Whether elements of a kind have files of a role. -/
def Kind.takes (kind : Kind) : Role → Bool
  | .scan => kind.isAddressDocument
  | .rendition => kind.isDocument
  | .frontSide | .reverseSide | .selfie => kind.isIdentityDocument

theorem StoredElement.takes_contents (element : StoredElement) {slot : Slot}
    (h : (element.contents.files.get? slot).isSome = true) :
    element.kind.takes slot.role = true := by
  obtain ⟨role, index⟩ := slot
  cases element <;> cases role <;>
    first | rfl | simp [StoredElement.contents, Files.get?, Files.empty] at h

/-- Only the save of a plain text is rejected until it is verified. -/
theorem SaveFailure.isPlain_of_ofCode {kind : Kind} {code : String}
    (h : ofCode kind code = .verifyPhone ∨ ofCode kind code = .verifyEmail) :
    kind.isPlain = true := by
  by_cases phone : kind = .phone
  · exact phone ▸ rfl
  · by_cases email : kind = .email
    · exact email ▸ rfl
    · have other : ofCode kind code = .updateApp ∨ ofCode kind code = .restart ∨
          ofCode kind code = .other code := by
        simp only [ofCode, phone, email, false_and, if_false]
        split
        · exact .inl rfl
        · split
          · exact .inr (.inl rfl)
          · exact .inr (.inr rfl)
      rcases other with other | other | other <;> simp [other] at h

/-- What holds of an entry at any time. -/
structure Entry.Proper (ready : Bool) (e : Entry) : Prop where
  fits : ∀ slot, (e.files.get? slot).isSome = true → e.kind.takes slot.role = true
  plain : e.verification ≠ .none → e.kind.isPlain = true
  bare : ready = false → e.files = .empty ∧ e.Untied

namespace Entry

variable {e e' : Entry} {ready : Bool}

theorem Proper.of_eq (proper : e.Proper ready) (hk : e'.kind = e.kind) (hf : e'.files = e.files)
    (hv : e'.verification ≠ .none → e.verification ≠ .none) (unlocked : ready = true) :
    e'.Proper ready where
  fits := by
    rw [hk, hf]
    exact proper.fits
  plain := fun verified => hk ▸ proper.plain (hv verified)
  bare := fun locked => absurd (locked.symm.trans unlocked) (by simp)

theorem Mirrors.untied_of_bare (h : e.Mirrors) (bare : e.files = .empty) : e.Untied := by
  intro slot d hd
  have same := congrArg (Files.get? · slot) h
  simp [bare, hd] at same

/-- A change verifies nothing that was not verified. -/
theorem Progress.verified {next : Nat} {tokens : List Token} {cancels : List Nat}
    (h : Progress ready next e e' tokens cancels) (verified : e'.verification ≠ .none) :
    e.verification ≠ .none := by
  intro none_
  cases h with
  | kept _ hv => exact verified (hv.trans none_)
  | unchanged _ _ _ hv => exact verified (hv.trans none_)
  | written _ _ _ _ hv => exact verified (hv.trans none_)
  | reported _ _ hv => exact verified (hv.trans none_)
  | miscoded coded => simp [none_, Verification.none] at coded
  | checked coded => simp [none_, Verification.none] at coded
  | givenUp _ hv => exact verified hv
  | calling call => simp [none_, Verification.none] at call

end Entry

namespace Session

open Entry

variable {s s' : Session} {now : Nat} {a : Action} {r : Reply} {e e' : Entry} {es : List Effect}

theorem Change.proper (h : s.Change now a e es e') {ready : Bool} (proper : e.Proper ready) :
    e'.Proper ready where
  fits := by
    intro slot there
    rw [h.kind_eq]
    apply proper.fits slot
    have same := congrArg Option.isSome (h.ids slot)
    simpa [there] using same.symm
  plain := fun verified => h.kind_eq ▸ proper.plain (h.progress.verified verified)
  bare := by
    intro locked
    obtain ⟨bare, untied⟩ := proper.bare locked
    have bare' : e'.files = .empty := by
      apply Files.ext_get?
      intro slot
      have same := h.ids slot
      simpa [bare] using same
    refine ⟨bare', ?_⟩
    rcases h.fate.untied (.inl untied) with untied | ⟨-, mirrors⟩
    · exact untied
    · exact mirrors.untied_of_bare bare'

theorem Uptake.proper {task : Task} {outcome : Outcome} {id : Nat}
    (h : s.Uptake now e task outcome es e') (hw : e.awaits? task = some id) (proper : e.Proper true) :
    e'.Proper true := by
  -- What waits for a reply about a code is verified before and after it.
  have coded (ht : task = .sendCode ∨ task = .checkCode ∨ task = .resendCall) :
      e.verification ≠ .none := by
    rintro none_
    rcases ht with rfl | rfl | rfl <;>
      simp [awaits?, none_, Verification.none, Verification.callRequest?] at hw
  cases h with
  | @saved element hk =>
      refine { fits := fun slot there => ?_, plain := fun verified => ?_, bare := by simp }
      · have files : (({ e with write := .idle }.commit element.contents).files.get? slot).isSome =
            (element.contents.files.get? slot).isSome := by
          simp only [commit]
          split <;> simp [clearDraft, snapshot, fill]
        rw [kind_commit]
        exact hk ▸ element.takes_contents (files ▸ there)
      · rw [verification_commit] at verified
        exact (kind_commit _ _).symm ▸ proper.plain verified
  | deleted =>
      refine { fits := fun slot there => ?_, plain := by simp, bare := by simp }
      simp only [reset] at there
      split at there <;> simp [snapshot, blank] at there
  | unverifiedPhone code =>
      have plain := SaveFailure.isPlain_of_ofCode (.inl code)
      exact { fits := proper.fits, plain := fun _ => plain, bare := by simp }
  | unverifiedEmail code =>
      have plain := SaveFailure.isPlain_of_ofCode (.inr code)
      exact { fits := proper.fits, plain := fun _ => plain, bare := by simp }
  | codeSent => exact proper.of_eq rfl rfl (fun _ => coded (.inl rfl)) rfl
  | refused => exact proper.of_eq rfl rfl (fun _ => coded (.inr (.inl rfl))) rfl
  | called => exact proper.of_eq rfl rfl (fun _ => coded (.inr (.inr rfl))) rfl
  | notCalled => exact proper.of_eq rfl rfl (fun _ => coded (.inr (.inr rfl))) rfl
  | _ => exact proper.of_eq rfl rfl (fun h => by first | exact h | exact absurd rfl h) rfl

end Session

/-! ## Along a run -/

structure Core.Proper (c : Core) : Prop extends Gated c where
  entries : ∀ e ∈ c.form.entries, e.Proper c.secretReady

namespace Session

open Entry

variable {s s' : Session} {now : Nat} {a : Action} {r : Reply}

theorem Move.proper (h : Move now a s s') (proper : s.core.Proper) : s'.core.Proper := by
  refine ⟨h.gated proper.toGated, ?_⟩
  cases h with
  | rest es core => exact core ▸ proper.entries
  | ask errand r _ _ _ _ _ _ core =>
      rw [core]
      exact proper.entries
  | entry e g es he change core =>
      rw [core]
      intro x hx
      rcases Form.mem_modify proper.distinct he hx with rfl | ⟨hx, -⟩
      · exact change.proper (proper.entries e (Form.mem_of_entry he))
      · exact proper.entries x hx
  | abandon es _ core =>
      rw [core]
      exact fun e he => absurd he List.not_mem_nil

theorem Settle.proper (h : Settle now r s s') (proper : s.core.Proper) : s'.core.Proper := by
  refine ⟨h.gated proper.toGated, ?_⟩
  cases h with
  | errand errand es _ _ core =>
      rw [core]
      exact proper.entries
  | form form es _ _ _ core =>
      rw [core]
      intro e he
      obtain ⟨kind, rfl⟩ := Form.mem_ofAuthorization he
      exact { fits := by simp [Form.requestedEntry, blank]
              plain := fun verified => absurd rfl verified
              bare := fun _ => ⟨rfl, untied_of_empty rfl⟩ }
  | unlock password elements errors es _ hw _ core =>
      rw [core]
      have bare_only {e e' : Entry} (proper : e.Proper true) (hk : e'.kind = e.kind)
          (hv : e'.verification = e.verification)
          (fits : ∀ slot, (e'.files.get? slot).isSome = true → e'.kind.takes slot.role = true) :
          e'.Proper true :=
        { fits, plain := fun verified => hk ▸ proper.plain (hv ▸ verified), bare := by simp }
      refine Form.takeElements_forall (fun e element hk proper => ?_) (fun e x proper => ?_) ?_
      · refine bare_only proper rfl rfl fun slot there => ?_
        exact hk ▸ element.takes_contents there
      · obtain ⟨kind, -, verification⟩ := e.applyError_keeps x
        refine bare_only proper kind verification fun slot there => ?_
        rw [e.isSome_files_applyError x] at there
        exact kind.symm ▸ proper.fits slot there
      · intro e he
        have before := proper.entries e he
        exact { fits := before.fits, plain := before.plain, bare := by simp }
  | task task e g es _ he hw uptake core =>
      rw [core]
      have ready : s.secretReady = true := proper.ready_of_awaits he hw
      intro x hx
      rcases Form.mem_modify proper.distinct he hx with rfl | ⟨hx, -⟩
      · have before : e.Proper s.secretReady := proper.entries e (Form.mem_of_entry he)
        show (g e).Proper s.secretReady
        rw [ready] at before ⊢
        exact uptake.proper hw before
      · exact proper.entries x hx

theorem Close.proper (h : Close s s') (proper : s.core.Proper) : s'.core.Proper := by
  refine ⟨h.gated proper.toGated, ?_⟩
  rw [h.core]
  intro x hx
  obtain ⟨e, he, rfl⟩ := List.mem_map.1 hx
  have before := proper.entries e he
  refine { fits := before.fits, plain := fun verified => before.plain fun none_ => ?_,
           bare := before.bare }
  exact verified (by simp [stopped, none_, Verification.none])

end Session

theorem Run.proper {setup : Setup} {past : History} {s : Session} (run : Run setup past s) :
    s.core.Proper := by
  induction run with
  | start credentials =>
      exact ⟨(Run.start credentials).gated, fun e he => absurd he List.not_mem_nil⟩
  | step now action run _ _ ih =>
      exact (run.acts now action).induction (fun _ _ move => move.proper)
        (fun _ _ _ _ _ settle => settle.proper ih) (fun _ _ close => close.proper) ih

/-- When the elements arrive, no edit buffer holds any of their files. -/
theorem Run.untied_takeElements {setup : Setup} {past : History} {s : Session}
    (run : Run setup past s) (locked : s.secretReady = false) (elements : List StoredElement)
    (errors : List ElementError) :
    ∀ e ∈ (s.form.takeElements elements errors).entries, e.Untied := by
  apply Form.takeElements_forall (P := Entry.Untied)
  · exact fun e element _ untied => untied
  · intro e x untied
    obtain ⟨_, _, _, _, _, _, applied, -⟩ := e.applyError_eq x
    rw [applied]
    exact untied
  · exact fun e he => ((run.proper.entries e he).bare locked).2

end IdentityForm
