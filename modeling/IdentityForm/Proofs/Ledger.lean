import IdentityForm.Proofs.Gate
import Mathlib.Data.List.Nodup

/-! # The ledger of requests

Every id that was issued is waited for in one place, or was cancelled, or was answered. The ledger
says so as a permutation of lists of ids, together with the token that stands behind every place and
with the exclusion of writes and verifications, without which a token could be overwritten.
-/

namespace IdentityForm

namespace Entry

/-! ## One entry of the ledger -/

/-- The tokens behind what an entry waits for, and what excludes what. -/
structure Kept (tokens : List Token) (e : Entry) : Prop where
  write : ∀ id, e.write = .pending id →
    ⟨id, .task .save e.kind⟩ ∈ tokens ∨ ⟨id, .task .delete e.kind⟩ ∈ tokens
  request : ∀ id, e.verification.request = some id →
    ⟨id, .task (if e.verification.codeLength = none then .sendCode else .checkCode) e.kind⟩ ∈ tokens
  call : ∀ id, e.verification.call = some (.calling id) →
    ⟨id, .task .resendCall e.kind⟩ ∈ tokens
  exclusive : e.write = .idle ∨ e.verification = .none
  uncoded : e.verification.codeLength = none →
    e.verification.call = none ∧ e.verification.error = none

namespace Kept

variable {tokens new : List Token} {e e' : Entry}

theorem mono (kept : e.Kept tokens) : e.Kept (tokens ++ new) where
  write id h := (kept.write id h).imp (List.mem_append_left _) (List.mem_append_left _)
  request id h := List.mem_append_left _ (kept.request id h)
  call id h := List.mem_append_left _ (kept.call id h)
  exclusive := kept.exclusive
  uncoded := kept.uncoded

theorem of_none (hw : ∀ id, e.write ≠ .pending id) (hv : e.verification = .none) :
    e.Kept tokens where
  write id h := absurd h (hw id)
  request id h := by simp [hv, Verification.none] at h
  call id h := by simp [hv, Verification.none] at h
  exclusive := .inr hv
  uncoded _ := by simp [hv, Verification.none]

/-- As long as no write begins, the tokens behind a verification that stays are enough. -/
theorem of_verification (kept : e.Kept tokens) (hk : e'.kind = e.kind)
    (hw : e'.write = .idle ∨ e'.write = e.write) (hv : e'.verification = e.verification) :
    e'.Kept tokens where
  write id h := by
    rcases hw with idle | same
    · simp [idle] at h
    · rw [same] at h
      exact hk ▸ kept.write id h
  request id h := by
    rw [hv] at h ⊢
    exact hk ▸ kept.request id h
  call id h := by
    rw [hv] at h
    exact hk ▸ kept.call id h
  exclusive := by
    rcases hw with idle | same
    · exact .inl idle
    · exact same ▸ hv ▸ kept.exclusive
  uncoded h := by
    rw [hv] at h ⊢
    exact kept.uncoded h

/-- A write that ends leaves the verification as it was. -/
theorem settle_write (kept : e.Kept tokens) (hk : e'.kind = e.kind) (hw : e'.write = .idle)
    (hv : e'.verification = e.verification) : e'.Kept tokens :=
  kept.of_verification hk (.inl hw) hv

theorem of_eq (kept : e.Kept tokens) (hk : e'.kind = e.kind) (hw : e'.write = e.write)
    (hv : e'.verification = e.verification) : e'.Kept tokens :=
  kept.of_verification hk (.inr hw) hv

theorem of_written {next : Nat} (hw : e.write = .pending next) (hv : e.verification = .none)
    (mem : ⟨next, .task .save e.kind⟩ ∈ tokens ∨ ⟨next, .task .delete e.kind⟩ ∈ tokens) :
    e.Kept tokens where
  write id h := by
    rw [hw, WriteState.pending.injEq] at h
    exact h ▸ mem
  request id h := by simp [hv, Verification.none] at h
  call id h := by simp [hv, Verification.none] at h
  exclusive := .inr hv
  uncoded _ := by simp [hv, Verification.none]

theorem of_sendCode {next : Nat} (hw : e.write = .idle)
    (hv : e.verification = { Verification.none with request := some next })
    (mem : ⟨next, .task .sendCode e.kind⟩ ∈ tokens) : e.Kept tokens where
  write id h := by simp [hw] at h
  request id h := by
    rw [hv] at h ⊢
    exact Option.some.inj h ▸ mem
  call id h := by simp [hv, Verification.none] at h
  exclusive := .inl hw
  uncoded _ := by simp [hv, Verification.none]

theorem of_coded (hw : e.write = .idle) (coded : e.verification.codeLength ≠ none)
    (request : ∀ id, e.verification.request = some id → ⟨id, .task .checkCode e.kind⟩ ∈ tokens)
    (call : ∀ id, e.verification.call = some (.calling id) →
      ⟨id, .task .resendCall e.kind⟩ ∈ tokens) : e.Kept tokens where
  write id h := by simp [hw] at h
  request id h := by
    rw [if_neg coded]
    exact request id h
  call := call
  exclusive := .inl hw
  uncoded h := absurd h coded

theorem request_of_coded {id : Nat} (kept : e.Kept tokens) (coded : e.verification.codeLength ≠ none)
    (h : e.verification.request = some id) : ⟨id, .task .checkCode e.kind⟩ ∈ tokens := by
  have held := kept.request id h
  rwa [if_neg coded] at held

theorem idle_of_verification (kept : e.Kept tokens) (hv : e.verification ≠ .none) :
    e.write = .idle := kept.exclusive.resolve_right hv

theorem idle_of_coded {length : CodeLength} (kept : e.Kept tokens)
    (hl : e.verification.codeLength = some length) : e.write = .idle :=
  kept.idle_of_verification fun hv => by simp [hv, Verification.none] at hl

theorem idle_of_request {id : Nat} (kept : e.Kept tokens)
    (hr : e.verification.request = some id) : e.write = .idle :=
  kept.idle_of_verification fun hv => by simp [hv, Verification.none] at hr

theorem idle_of_call {call : VoiceCall} (kept : e.Kept tokens)
    (hc : e.verification.call = some call) : e.write = .idle :=
  kept.idle_of_verification fun hv => by simp [hv, Verification.none] at hc

theorem coded_of_call {call : VoiceCall} (kept : e.Kept tokens)
    (hc : e.verification.call = some call) : e.verification.codeLength ≠ none := fun hl => by
  rw [(kept.uncoded hl).1] at hc
  cases hc

/-- A verification with a code may come to wait for less. -/
theorem of_fewer (kept : e.Kept tokens) (coded : e.verification.codeLength ≠ none)
    (hk : e'.kind = e.kind) (hw : e'.write = e.write)
    (hl : e'.verification.codeLength = e.verification.codeLength)
    (request : ∀ id, e'.verification.request = some id → e.verification.request = some id)
    (call : ∀ id, e'.verification.call = some (.calling id) →
      e.verification.call = some (.calling id)) : e'.Kept tokens := by
  obtain ⟨length, coded'⟩ := Option.ne_none_iff_exists'.1 coded
  apply of_coded (hw.trans (kept.idle_of_coded coded')) (hl ▸ coded)
  · intro id h
    rw [hk]
    exact kept.request_of_coded coded (request id h)
  · intro id h
    rw [hk]
    exact kept.call id (call id h)

theorem verification_of_quiet (kept : e.Kept tokens) (quiet : e.isBusy = false) :
    e.verification = .none := by
  obtain ⟨-, request, length, -⟩ := quiet_iff.1 quiet
  obtain ⟨call, error⟩ := kept.uncoded length
  cases hv : e.verification with
  | mk r l c x =>
      rw [hv] at request length call error
      subst request length call error
      rfl

end Kept

/-! ## Progress in the ledger -/

theorem awaitedIds_of {e : Entry} {w : WriteState} {v : Verification} (hw : e.write = w)
    (hv : e.verification = v) :
    e.awaitedIds = w.request?.toList ++ (v.request.toList ++ v.callRequest?.toList) := by
  subst hw hv
  rfl

namespace Progress

variable {ready : Bool} {next : Nat} {e e' : Entry} {tokens new : List Token} {cancels : List Nat}

theorem kept_after (h : Progress ready next e e' new cancels) (hk : e'.kind = e.kind)
    (kept : e.Kept tokens) : e'.Kept (tokens ++ new) := by
  cases h with
  | kept hw hv => exact (kept.of_eq hk hw hv).mono
  | unchanged _ quiet hw hv =>
      exact .of_none (by simp [hw]) (hv.trans (kept.verification_of_quiet quiet))
  | written task _ quiet hw hv =>
      refine .of_written hw (hv.trans (kept.verification_of_quiet quiet)) ?_
      rw [hk]
      rcases task with rfl | rfl
      · exact .inl (List.mem_append_right _ List.mem_cons_self)
      · exact .inr (List.mem_append_right _ List.mem_cons_self)
  | reported _ hw hv => exact (kept.settle_write hk hw hv).mono
  | miscoded hl hw hv =>
      have coded : e.verification.codeLength ≠ none := by simp [hl]
      exact Kept.mono (kept.of_fewer coded hk hw (by simp [hv]) (by simp [hv]) (by simp [hv]))
  | checked hl _ hw hv =>
      refine .of_coded (hw.trans (kept.idle_of_coded hl)) (by simp [hv, hl]) ?_ ?_
      · intro id hid
        rw [hv, Option.some.injEq] at hid
        subst hid
        exact hk ▸ List.mem_append_right _ List.mem_cons_self
      · intro id hid
        rw [hv] at hid
        exact List.mem_append_left _ (hk ▸ kept.call id hid)
  | givenUp hw hv =>
      refine { write := ?_, request := ?_, call := ?_, exclusive := .inr hv, uncoded := ?_ }
      · intro id hid
        rw [List.append_nil, hk]
        exact kept.write id (hw.symm.trans hid)
      · simp [hv, Verification.none]
      · simp [hv, Verification.none]
      · simp [hv, Verification.none]
  | calling hc hw hv =>
      have coded := kept.coded_of_call hc
      refine .of_coded (hw.trans (kept.idle_of_call hc)) (by rw [hv]; exact coded) ?_ ?_
      · intro id hid
        rw [hv] at hid
        exact List.mem_append_left _ (hk ▸ kept.request_of_coded coded hid)
      · intro id hid
        rw [hv, Option.some.injEq, VoiceCall.calling.injEq] at hid
        subst hid
        exact hk ▸ List.mem_append_right _ List.mem_cons_self

/-- What an entry waits for grows by what is issued and shrinks by what is cancelled. -/
theorem balance (h : Progress ready next e e' new cancels) (kept : e.Kept tokens) :
    List.Perm (e.awaitedIds ++ new.map Token.id) (e'.awaitedIds ++ cancels) := by
  cases h with
  | kept hw hv =>
      rw [awaitedIds_of hw hv]
      exact .refl _
  | unchanged _ quiet hw hv =>
      obtain ⟨idle, -, -, -⟩ := quiet_iff.1 quiet
      rw [awaitedIds_of hw hv, awaitedIds_of idle rfl]
      exact .refl _
  | written _ _ quiet hw hv =>
      obtain ⟨idle, -, -, -⟩ := quiet_iff.1 quiet
      have none_ := kept.verification_of_quiet quiet
      rw [awaitedIds_of hw (hv.trans none_), awaitedIds_of idle none_]
      exact .refl _
  | reported unreported hw hv =>
      rw [awaitedIds_of hw hv, awaitedIds_of unreported rfl]
      exact .refl _
  | miscoded _ hw hv =>
      rw [awaitedIds_of hw hv]
      exact .refl _
  | checked _ free hw hv =>
      rw [awaitedIds_of hw hv, awaitedIds_of rfl rfl, free]
      show List.Perm (e.write.request?.toList ++ e.verification.callRequest?.toList ++ [next])
        (e.write.request?.toList ++ (next :: e.verification.callRequest?.toList) ++ [])
      rw [List.append_nil, List.append_assoc]
      exact (List.perm_append_singleton _ _).append_left _
  | givenUp hw hv =>
      rw [awaitedIds_of hw hv, awaitedIds_of rfl rfl]
      simp [Verification.none, Verification.callRequest?]
  | calling hc hw hv =>
      have before : e.verification.callRequest? = none := by simp [Verification.callRequest?, hc]
      rw [awaitedIds_of hw hv, awaitedIds_of rfl rfl, before]
      simp [Verification.callRequest?]

end Progress

/-! ## Replies in the ledger -/

/-- A reply to the sending of a code finds no code yet, and a reply to a check finds one. -/
def Fits (e : Entry) (task : Task) : Prop :=
  (task = .sendCode → e.verification.codeLength = none) ∧
    (task = .checkCode → e.verification.codeLength ≠ none)

variable {tokens : List Token} {token : Token} {task : Task} {e e' : Entry} {id : Nat}

theorem eq_of_id {t t' : Token} (unique : (tokens.map Token.id).Nodup) (ht : t ∈ tokens)
    (ht' : t' ∈ tokens) (same : t.id = t'.id) : t = t' :=
  List.inj_on_of_nodup_map unique ht ht' same

theorem Kept.fits (kept : e.Kept tokens) (unique : (tokens.map Token.id).Nodup)
    (issued : token ∈ tokens) (ht : token.pending = .task task e.kind)
    (hw : e.awaits? task = some token.id) : e.Fits task := by
  have held (request : e.verification.request = some token.id) :
      token.pending =
        .task (if e.verification.codeLength = none then .sendCode else .checkCode) e.kind := by
    have same := eq_of_id unique (kept.request _ request) issued rfl
    exact (congrArg Token.pending same).symm
  constructor
  · rintro rfl
    have pending := held hw
    rw [ht] at pending
    by_contra coded
    simp [coded] at pending
  · rintro rfl coded
    have pending := held hw
    rw [ht] at pending
    simp [coded] at pending

end Entry

namespace Session

open Entry

variable {s : Session} {now : Nat} {e e' : Entry} {task : Task} {outcome : Outcome}
  {es : List Effect} {tokens : List Token} {id : Nat}

theorem callRequest?_eq_some {v : Verification} :
    v.callRequest? = some id ↔ v.call = some (.calling id) := by
  unfold Verification.callRequest?
  split
  · rename_i id' h
    simp [h]
  · rename_i h
    simpa using h id

theorem Uptake.kept_after (h : s.Uptake now e task outcome es e') (fits : e.Fits task)
    (hw : e.awaits? task = some id) (kept : e.Kept tokens) : e'.Kept (tokens ++ tokensOf es) := by
  cases h with
  | saved => exact Kept.mono (kept.settle_write (by simp) (by simp) (by simp))
  | unsaved => exact Kept.mono (kept.settle_write rfl rfl rfl)
  | misfilled => exact Kept.mono (kept.settle_write rfl rfl rfl)
  | undeleted => exact Kept.mono (kept.settle_write rfl rfl rfl)
  | deleted => exact .of_none (by simp) (by simp)
  | unverifiedPhone =>
      exact .of_sendCode rfl rfl (List.mem_append_right _ List.mem_cons_self)
  | unverifiedEmail =>
      exact .of_sendCode rfl rfl (List.mem_append_right _ List.mem_cons_self)
  | codeSent sent =>
      rename_i response length timeout
      have no_call := (kept.uncoded (fits.1 rfl)).1
      refine .of_coded (kept.idle_of_request hw) nofun nofun ?_
      intro id' hcall
      rw [no_call] at hcall
      cases timeout <;> simp at hcall
  | codeNotSent => exact .of_none (by simp [kept.idle_of_request hw]) rfl
  | accepted =>
      rw [tokensOf_append, tokensOf_cancels]
      exact .of_written rfl rfl (.inl (List.mem_append_right _ List.mem_cons_self))
  | acceptedLocked => exact .of_none (by simp [kept.idle_of_request hw]) rfl
  | refused => exact Kept.mono (kept.of_fewer (fits.2 rfl) rfl rfl rfl (by simp) fun _ h => h)
  | called =>
      have coded := kept.coded_of_call (callRequest?_eq_some.1 hw)
      exact Kept.mono (kept.of_fewer coded rfl rfl rfl (fun _ h => h) (by simp))
  | notCalled =>
      have coded := kept.coded_of_call (callRequest?_eq_some.1 hw)
      exact Kept.mono (kept.of_fewer coded rfl rfl rfl (fun _ h => h) (by simp))

theorem write_of_awaits (hw : e.awaits? task = some id) (ht : task = .save ∨ task = .delete) :
    e.write = .pending id := by
  have held : e.write.request? = some id := by
    rcases ht with rfl | rfl <;> exact hw
  cases hwrite : e.write <;> rw [hwrite] at held <;> cases held
  rfl

theorem balance_of_idle {ids ids' : List Nat} (idle : e.write = .idle) (idle' : e'.write = .idle)
    (h : List.Perm (e.verification.request.toList ++ (e.verification.callRequest?.toList ++ ids))
      (e'.verification.request.toList ++ (e'.verification.callRequest?.toList ++ ids'))) :
    List.Perm (e.awaitedIds ++ ids) (e'.awaitedIds ++ ids') := by
  rw [awaitedIds_of idle rfl, awaitedIds_of idle' rfl]
  simpa [WriteState.request?] using h

/-- The end of a write frees its id. -/
theorem balance_of_write (hw : e.write = .pending id) (hw' : e'.write = .idle)
    (hv : e'.verification = e.verification) :
    List.Perm (e.awaitedIds ++ []) (e'.awaitedIds ++ [id]) := by
  rw [awaitedIds_of hw rfl, awaitedIds_of hw' hv, List.append_nil]
  exact (List.perm_append_singleton _ _).symm

/-- A reply about a code frees its id, and those of the calls that are given up with it. -/
theorem balance_of_request {calls : List Nat} (idle : e.write = .idle)
    (request : e.verification.request = some id) (idle' : e'.write = .idle)
    (request' : e'.verification.request = none)
    (hc : e.verification.callRequest?.toList = e'.verification.callRequest?.toList ++ calls) :
    List.Perm (e.awaitedIds ++ []) (e'.awaitedIds ++ (calls ++ [id])) := by
  rw [awaitedIds_of idle rfl, awaitedIds_of idle' rfl, request, request', hc, List.append_nil]
  show List.Perm (id :: (e'.verification.callRequest?.toList ++ calls))
    (e'.verification.callRequest?.toList ++ (calls ++ [id]))
  rw [← List.append_assoc]
  exact (List.perm_append_singleton _ _).symm

theorem Uptake.balance (h : s.Uptake now e task outcome es e') (fits : e.Fits task)
    (hw : e.awaits? task = some id) (kept : e.Kept tokens) :
    List.Perm (e.awaitedIds ++ (tokensOf es).map Token.id)
      (e'.awaitedIds ++ (cancelsOf es ++ [id])) := by
  have writing (ht : task = .save ∨ task = .delete) : e.verification = .none := by
    apply kept.exclusive.resolve_left
    intro idle
    rw [write_of_awaits hw ht] at idle
    cases idle
  cases h with
  | saved =>
      exact balance_of_write (write_of_awaits hw (.inl rfl)) (by simp) (by simp)
  | unsaved =>
      refine balance_of_write (write_of_awaits hw (.inl rfl)) ?_ ?_ <;> rfl
  | misfilled =>
      refine balance_of_write (write_of_awaits hw (.inl rfl)) ?_ ?_ <;> rfl
  | undeleted =>
      refine balance_of_write (write_of_awaits hw (.inr rfl)) ?_ ?_ <;> rfl
  | deleted =>
      exact balance_of_write (write_of_awaits hw (.inr rfl)) (by simp) (by simp [writing])
  | unverifiedPhone =>
      rw [awaitedIds_of (write_of_awaits hw (.inl rfl)) (writing (.inl rfl))]
      exact .swap _ _ _
  | unverifiedEmail =>
      rw [awaitedIds_of (write_of_awaits hw (.inl rfl)) (writing (.inl rfl))]
      exact .swap _ _ _
  | codeSent =>
      rename_i response length timeout sent
      have idle := kept.idle_of_request hw
      have no_call : e.verification.call = none := (kept.uncoded (fits.1 rfl)).1
      refine balance_of_request idle hw idle rfl ?_
      cases timeout <;> simp [no_call, Verification.callRequest?]
  | codeNotSent =>
      have idle := kept.idle_of_request hw
      have no_call : e.verification.call = none := (kept.uncoded (fits.1 rfl)).1
      refine balance_of_request idle hw idle rfl ?_
      simp [no_call, Verification.callRequest?, Verification.none]
  | accepted =>
      have idle := kept.idle_of_request hw
      have request : e.verification.request = some id := hw
      rw [awaitedIds_of idle rfl, awaitedIds_of rfl rfl, request, tokensOf_append, tokensOf_cancels,
        cancelsOf_append, cancelsOf_cancels]
      show List.Perm (id :: (e.verification.callRequest?.toList ++ [s.nextId]))
        (s.nextId :: (e.verification.callRequest?.toList ++ [] ++ [id]))
      rw [List.append_nil]
      calc List.Perm (id :: (e.verification.callRequest?.toList ++ [s.nextId]))
            (id :: s.nextId :: e.verification.callRequest?.toList) :=
          (List.perm_append_singleton _ _).cons id
        List.Perm _ (s.nextId :: id :: e.verification.callRequest?.toList) := .swap _ _ _
        List.Perm _ (s.nextId :: (e.verification.callRequest?.toList ++ [id])) :=
          (List.perm_append_singleton _ _).symm.cons s.nextId
  | acceptedLocked =>
      have idle := kept.idle_of_request hw
      rw [tokensOf_cancels, cancelsOf_cancels]
      exact balance_of_request idle hw idle rfl rfl
  | refused =>
      have idle := kept.idle_of_request hw
      exact balance_of_request idle hw idle rfl (List.append_nil _).symm
  | called =>
      have hcall := callRequest?_eq_some.1 hw
      have call : e.verification.callRequest? = some id := hw
      refine balance_of_idle (kept.idle_of_call hcall) (kept.idle_of_call hcall) ?_
      rw [call]
      exact .refl _
  | notCalled =>
      have hcall := callRequest?_eq_some.1 hw
      have call : e.verification.callRequest? = some id := hw
      refine balance_of_idle (kept.idle_of_call hcall) (kept.idle_of_call hcall) ?_
      rw [call]
      exact .refl _

end Session

end IdentityForm
