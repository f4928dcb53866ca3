import IdentityForm.Proofs.Outstanding

/-! # The exclusion of writes

An entry is written or verified, never both, and never twice at a time. That holds for the writes
that the view asks for and for the save that is sent again once a code was accepted.
-/

namespace IdentityForm

/-- Tasks that write an entry or verify it, unlike a call that repeats a code. -/
def Task.isExclusive : Task → Bool
  | .resendCall => false
  | _ => true

namespace Entry

variable {tokens : List Token} {e : Entry} {task task' : Task} {id id' : Nat}

/-- What an entry writes and what it verifies are one request at most. -/
theorem Kept.eq_of_awaits (kept : e.Kept tokens) (exclusive : task.isExclusive = true)
    (exclusive' : task'.isExclusive = true) (hw : e.awaits? task = some id)
    (hw' : e.awaits? task' = some id') : id = id' := by
  have writes {task : Task} {id : Nat} (ht : task = .save ∨ task = .delete)
      (hw : e.awaits? task = some id) : e.write = .pending id := Session.write_of_awaits hw ht
  have verifies {task : Task} {id : Nat} (ht : task = .sendCode ∨ task = .checkCode)
      (hw : e.awaits? task = some id) : e.verification.request = some id := by
    rcases ht with rfl | rfl <;> exact hw
  have apart {id id' : Nat} (hw : e.write = .pending id) (hv : e.verification.request = some id') :
      False := by
    have idle := kept.idle_of_request hv
    rw [hw] at idle
    cases idle
  have split {task : Task} (exclusive : task.isExclusive = true) :
      (task = .save ∨ task = .delete) ∨ task = .sendCode ∨ task = .checkCode := by
    cases task <;> simp [Task.isExclusive] at exclusive ⊢
  rcases split exclusive with ht | ht <;> rcases split exclusive' with ht' | ht'
  · exact WriteState.pending.inj ((writes ht hw).symm.trans (writes ht' hw'))
  · exact (apart (writes ht hw) (verifies ht' hw')).elim
  · exact (apart (writes ht' hw') (verifies ht hw)).elim
  · exact Option.some.inj ((verifies ht hw).symm.trans (verifies ht' hw'))

end Entry

namespace Session

variable {s : Session} {now : Nat} {e : Entry}

theorem save_of_busy (he : s.entry? e.kind = some e) (busy : e.isBusy = true) (changes : Fields) :
    (s.act now (.save e.kind changes)).1 = s := by
  show (s.save e.kind changes).1 = s
  unfold save
  split
  · rfl
  · split
    · rfl
    · rw [he]
      simp only [busy, if_true]

theorem delete_of_busy (he : s.entry? e.kind = some e) (busy : e.isBusy = true) :
    (s.act now (.delete e.kind)).1 = s := by
  show (s.delete e.kind).1 = s
  unfold delete
  split
  · rfl
  · split
    · rfl
    · rw [he]
      simp only [busy, if_true]

end Session

namespace Run

variable {setup : Setup} {past : History} {s : Session}

/-- The exclusion of writes. Of the requests to save, to delete, to send a code and to check one, at
most one is outstanding for an entry. What is written is not verified, and nothing is left of a
verification without a code but its request. While an entry is busy, saving and deleting it change
nothing and send nothing. -/
theorem writes_excluded (run : Run setup past s) (live : s.cancelled = false) :
    (∀ kind task task' id id', task.isExclusive = true → task'.isExclusive = true →
      past.Outstanding ⟨id, .task task kind⟩ → past.Outstanding ⟨id', .task task' kind⟩ →
        id = id' ∧ task = task') ∧
    ∀ e ∈ s.form.entries,
      (e.write ≠ .idle → e.verification = .none) ∧
      (e.verification.codeLength = none →
        e.verification.call = none ∧ e.verification.error = none) ∧
      (e.isBusy = true → ∀ now changes, (s.act now (.save e.kind changes)).1 = s ∧
        (s.act now (.delete e.kind)).1 = s) := by
  have books := run.books live
  refine ⟨?_, fun e he => ⟨?_, (books.entries e he).uncoded, ?_⟩⟩
  · intro kind task task' id id' exclusive exclusive' outstanding outstanding'
    obtain ⟨e, he, hw⟩ := run.awaits_of_outstanding live outstanding
    obtain ⟨e', he', hw'⟩ := run.awaits_of_outstanding live outstanding'
    cases Option.some.inj (he.symm.trans he')
    have same : id = id' := (books.entries e (Form.mem_of_entry he)).eq_of_awaits exclusive
      exclusive' hw hw'
    have token := Entry.eq_of_id books.unique outstanding.1 outstanding'.1 same
    simp only [Token.mk.injEq, Pending.task.injEq, and_true] at token
    exact token
  · exact fun writing => (books.entries e he).exclusive.resolve_left writing
  · intro busy now changes
    have found := Form.entry?_of_mem books.distinct he
    exact ⟨Session.save_of_busy found busy changes, Session.delete_of_busy found busy⟩

/-- A code was accepted, and the save that was sent again is under way: its request is the only one
outstanding, and neither another save nor a deletion gets past it. -/
theorem writes_excluded_after_acceptance :
    let actions := [(7, .reply ⟨⟨6, .task .checkCode .phone⟩, .ok .ok⟩),
        (7, .verify .phone "12345"),
        (6, .reply ⟨⟨5, .task .sendCode .phone⟩, .ok (.phoneCode ⟨.sms 5, none, 0⟩)⟩),
        (5, .reply ⟨⟨4, .task .save .phone⟩, .failed ⟨"PHONE_VERIFICATION_NEEDED"⟩⟩),
        (4, .save .phone (.ofTexts [(Kind.plainField, "123")]))] ++
      opening ⟨1, [[⟨.phone, false, false, false⟩]], none⟩ []
    let past := (play (.fresh .plain .empty) actions).1
    let s := (play (.fresh .plain .empty) actions).2
    past.Outstanding ⟨7, .task .save .phone⟩ ∧
      (∀ id task, task.isExclusive = true → past.Outstanding ⟨id, .task task .phone⟩ → id = 7) ∧
      (s.act 8 (.delete .phone)).1 = s := by
  intro actions past s
  have playable : Playable (.fresh .plain .empty) actions := by decide +kernel
  have excluded := writes_excluded (.of_playable playable) (s := s) (by decide +kernel)
  have saving : past.Outstanding ⟨7, .task .save .phone⟩ := by decide +kernel
  have found : ∃ e ∈ s.form.entries, e.kind = .phone ∧ e.isBusy = true := by decide +kernel
  obtain ⟨e, he, hk, busy⟩ := found
  refine ⟨saving, fun id task exclusive outstanding => ?_, ?_⟩
  · exact (excluded.1 .phone task .save id 7 exclusive rfl outstanding saving).1
  · exact hk ▸ ((excluded.2 e he).2.2 busy 8 .empty).2

end Run

end IdentityForm
