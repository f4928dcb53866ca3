import IdentityForm.Proofs.Move

/-! # Small moves

What sending, reporting and changing one entry do to the parts of a session that moves speak of, and
the moves that several actions share.
-/

namespace IdentityForm

/-! ## Effects without weight -/

@[simp] theorem tokensOf_notice (n : Notice) (es : List Effect) :
    tokensOf (.notice n :: es) = tokensOf es := rfl

@[simp] theorem cancelsOf_notice (n : Notice) (es : List Effect) :
    cancelsOf (.notice n :: es) = cancelsOf es := rfl

@[simp] theorem tokensOf_requests (rs : List Request) :
    tokensOf (rs.map .request) = rs.filterMap Request.token? := by
  simp only [tokensOf, List.filterMap_map]
  rfl

@[simp] theorem tokensOf_cancels (ids : List Nat) :
    tokensOf (ids.map fun id => .request (.cancel id)) = [] := by
  induction ids with
  | nil => rfl
  | cons id rest ih => exact ih

@[simp] theorem cancelsOf_cancels (ids : List Nat) :
    cancelsOf (ids.map fun id => .request (.cancel id)) = ids := by
  induction ids with
  | nil => rfl
  | cons id rest ih => exact congrArg (id :: ·) ih

@[simp] theorem cancelsOf_requests (ids : List Nat) :
    cancelsOf ((ids.map .cancel).map .request) = ids := by
  rw [List.map_map]
  exact cancelsOf_cancels ids

theorem tokensOf_of_calm {es : List Effect} (calm : ∀ x ∈ es, x.isCalm = true) :
    tokensOf es = [] := by
  apply List.filterMap_eq_nil_iff.2
  intro x hx
  have hcalm := calm x hx
  cases x with
  | notice n => rfl
  | request r => cases r <;> first | rfl | cases hcalm

theorem cancelsOf_of_calm {es : List Effect} (calm : ∀ x ∈ es, x.isCalm = true) :
    cancelsOf es = [] := by
  apply List.filterMap_eq_nil_iff.2
  intro x hx
  have hcalm := calm x hx
  cases x with
  | notice n => rfl
  | request r => cases r <;> first | rfl | cases hcalm

/-! ## The kind of an entry -/

namespace Entry

@[simp] theorem kind_clearIfIdle (e : Entry) : e.clearIfIdle.kind = e.kind := by
  unfold clearIfIdle
  split <;> rfl

@[simp] theorem kind_atSave (e : Entry) : e.atSave.kind = e.kind := by
  unfold atSave
  split <;> rfl

@[simp] theorem kind_spared (e : Entry) : e.spared.kind = e.kind := by
  simp only [spared]
  split <;> rfl

@[simp] theorem kind_commit (e : Entry) (c : Contents) : (e.commit c).kind = e.kind := by
  simp only [commit]
  split <;> rfl

@[simp] theorem kind_reset (e : Entry) : e.reset.kind = e.kind := by
  simp only [reset]
  split <;> rfl

end Entry

/-! ## One entry of a form -/

namespace Form

variable {f : Form} {kind : Kind} {g h : Entry → Entry} {e e' : Entry}

theorem kind_of_entry (he : f.entry? kind = some e) : e.kind = kind := by
  simpa using List.find?_some he

theorem mem_of_entry (he : f.entry? kind = some e) : e ∈ f.entries :=
  List.mem_of_find?_eq_some he

theorem modify_of_entry?_eq_none (hn : f.entry? kind = none) : f.modify kind g = f := by
  have absent : ∀ e ∈ f.entries, e.kind ≠ kind := by
    simpa [ entry?] using hn
  have same : f.entries.map (fun e => if e.kind = kind then g e else e) = f.entries := by
    refine (List.map_congr_left fun e he => ?_).trans (List.map_id f.entries)
    exact if_neg (absent e he)
  simp only [modify, same]

theorem entry?_modify (he : f.entry? kind = some e) (hg : (g e).kind = kind) :
    entry? (f.modify kind g) kind = some (g e) := by
  simp only [modify, entry?] at he ⊢
  generalize f.entries = entries at he ⊢
  induction entries with
  | nil => cases he
  | cons x rest ih =>
      by_cases hx : x.kind = kind
      · rw [List.find?_cons_of_pos (by simpa using hx)] at he
        cases he
        rw [List.map_cons, if_pos hx, List.find?_cons_of_pos (by simpa using hg)]
      · rw [List.find?_cons_of_neg (by simpa using hx)] at he
        rw [List.map_cons, if_neg hx, List.find?_cons_of_neg (by simpa using hx)]
        exact ih he

theorem modify_modify (hg : ∀ e, e.kind = kind → (g e).kind = kind) :
    (f.modify kind g).modify kind h = f.modify kind (h ∘ g) := by
  simp only [modify, List.map_map]
  congr 1
  apply List.map_congr_left
  intro e _
  by_cases he : e.kind = kind
  · simp [he, hg e he]
  · simp [he]

end Form

namespace Session

variable {s s' : Session} {now : Nat} {a : Action} {kind : Kind} {e e' : Entry}

/-! ## Sending and reporting -/

@[simp] theorem core_notify (n : Notice) : (s.notify n).core = s.core := rfl

@[simp] theorem outbox_notify (n : Notice) : (s.notify n).outbox = s.outbox ++ [.notice n] := rfl

@[simp] theorem core_sendAll (rs : List Request) : (s.sendAll rs).core = s.core := by
  unfold sendAll
  induction rs generalizing s with
  | nil => rfl
  | cons r rest ih => exact ih

@[simp] theorem outbox_sendAll (rs : List Request) :
    (s.sendAll rs).outbox = s.outbox ++ rs.map .request := by
  unfold sendAll
  induction rs generalizing s with
  | nil => simp
  | cons r rest ih =>
      rw [List.foldl_cons, ih]
      simp [send]

@[simp] theorem core_notifyAll (ns : List Notice) : (s.notifyAll ns).core = s.core := by
  unfold notifyAll
  induction ns generalizing s with
  | nil => rfl
  | cons n rest ih => exact ih

@[simp] theorem outbox_notifyAll (ns : List Notice) :
    (s.notifyAll ns).outbox = s.outbox ++ ns.map .notice := by
  unfold notifyAll
  induction ns generalizing s with
  | nil => simp
  | cons n rest ih =>
      rw [List.foldl_cons, ih]
      simp [notify]

@[simp] theorem checking_sendAll (rs : List Request) : (s.sendAll rs).checking = s.checking := by
  unfold sendAll
  induction rs generalizing s with
  | nil => rfl
  | cons r rest ih => exact ih

@[simp] theorem checking_notifyAll (ns : List Notice) :
    (s.notifyAll ns).checking = s.checking := by
  unfold notifyAll
  induction ns generalizing s with
  | nil => rfl
  | cons n rest ih => exact ih

@[simp] theorem core_ask (p : Pending) (make : Token → Request) :
    (s.ask p make).core = { s.core with issued := s.nextId } := rfl

@[simp] theorem outbox_ask (p : Pending) (make : Token → Request) :
    (s.ask p make).outbox = s.outbox ++ [.request (make ⟨s.nextId, p⟩)] := rfl

@[simp] theorem core_disarm (t : Timer) : (s.disarm t).core = s.core := rfl

@[simp] theorem outbox_disarm (t : Timer) : (s.disarm t).outbox = s.outbox := rfl

@[simp] theorem core_schedule (due : Nat) (t : Timer) : (s.schedule due t).core = s.core := rfl

@[simp] theorem outbox_schedule (due : Nat) (t : Timer) :
    (s.schedule due t).outbox = s.outbox := rfl

/-! ## Entries -/

@[simp] theorem core_modify (kind : Kind) (g : Entry → Entry) :
    (s.modify kind g).core = { s.core with form := s.core.form.modify kind g } := rfl

@[simp] theorem outbox_modify (kind : Kind) (g : Entry → Entry) :
    (s.modify kind g).outbox = s.outbox := rfl

@[simp] theorem core_put (e : Entry) :
    (s.put e).core = { s.core with form := s.core.form.modify e.kind fun _ => e } := rfl

@[simp] theorem outbox_put (e : Entry) : (s.put e).outbox = s.outbox := rfl

theorem kind_of_entry (he : s.entry? kind = some e) : e.kind = kind := Form.kind_of_entry he

theorem entry?_put (hk : e'.kind = kind) (he : s.entry? kind = some e) :
    entry? (s.put e') kind = some e' := by
  subst hk
  exact Form.entry?_modify he rfl

theorem modify_put (e : Entry) (g : Entry → Entry) :
    (s.put e).modify e.kind g = s.modify e.kind fun _ => g e := by
  have same : (s.form.modify e.kind fun _ => e).modify e.kind g =
      s.form.modify e.kind (g ∘ fun _ => e) := Form.modify_modify fun _ _ => rfl
  simp only [put, modify, same]
  rfl

theorem core_put_congr (same : s.core = s'.core) : (s.put e).core = (s'.put e).core := by
  rw [core_put, core_put, same]

theorem modify_modify {g h : Entry → Entry} (hg : ∀ e, e.kind = kind → (g e).kind = kind) :
    (s.modify kind g).modify kind h = s.modify kind (h ∘ g) := by
  simp only [modify, Form.modify_modify hg]

theorem clearIfIdle_put (e : Entry) : (s.put e).clearIfIdle e.kind = s.put e.clearIfIdle := by
  rw [clearIfIdle, modify_put, put, Entry.kind_clearIfIdle]

theorem put_put (hk : e'.kind = e.kind) : (s.put e).put e' = s.put e' := by
  simp only [put, hk]
  exact modify_put e _

/-! ## Shared moves -/

theorem Moves.refl : Moves now a s s := Relation.ReflTransGen.refl

theorem Moves.trans {s'' : Session} (h : Moves now a s s') (h' : Moves now a s' s'') :
    Moves now a s s'' := Relation.ReflTransGen.trans h h'

theorem Move.moves (h : Move now a s s') : Moves now a s s' := Relation.ReflTransGen.single h

theorem Move.outbox_subset (h : Move now a s s') : s.outbox ⊆ s'.outbox := by
  cases h with
  | rest _ _ outbox => exact outbox ▸ List.subset_append_left _ _
  | ask _ _ _ _ _ _ _ _ _ outbox => exact outbox ▸ List.subset_append_left _ _
  | entry _ _ _ _ _ _ outbox => exact outbox ▸ List.subset_append_left _ _
  | abandon _ _ _ outbox => exact outbox ▸ List.subset_append_left _ _

theorem Moves.outbox_subset (h : Moves now a s s') : s.outbox ⊆ s'.outbox := by
  induction h with
  | refl => exact List.Subset.refl _
  | tail _ move ih => exact List.Subset.trans ih move.outbox_subset

/-- Nothing of weight changes, and nothing is sent. -/
theorem moves_of_core_eq (core : s'.core = s.core) (outbox : s'.outbox = s.outbox)
    (checking : s'.checking = s.checking) : Moves now a s s' :=
  (Move.rest [] core (by rw [outbox, List.append_nil]) (by simp) checking).moves

theorem notify_moves (n : Notice) (calm : (Effect.notice n).isCalm = true) :
    Moves now a s (s.notify n) := by
  have move : Move now a s (s.notify n) := .rest [.notice n] rfl rfl (by simpa using calm) rfl
  exact move.moves

theorem notifyAll_moves (ns : List Notice) (calm : ∀ n ∈ ns, (Effect.notice n).isCalm = true) :
    Moves now a s (s.notifyAll ns) :=
  (Move.rest (ns.map .notice) (core_notifyAll ns) (outbox_notifyAll ns) (by
    intro x hx
    obtain ⟨n, hn, rfl⟩ := List.mem_map.1 hx
    exact calm n hn) (checking_notifyAll ns)).moves

theorem run_moves (errand : Errand) (make : Token → Request)
    (idle : s.awaited.get errand = none)
    (hr : (make ⟨s.nextId, .errand errand⟩).errand? = some errand)
    (ht : (make ⟨s.nextId, .errand errand⟩).token? = some ⟨s.nextId, .errand errand⟩)
    (form : errand = .form → s.formReceived = false)
    (check : errand = .availableElements → s.secretReady = false)
    (submit : errand = .submit → s.secretReady = true)
    (unchecked : (make ⟨s.nextId, .errand errand⟩).checked? = none)
    (submits : errand = .submit → a = .submit) : Moves now a s (s.run errand make) :=
  (Move.ask errand _ idle hr ht form check submit rfl rfl (by rw [unchecked]; rfl) submits).moves

theorem modify_moves (g : Entry → Entry)
    (h : ∀ e, s.entry? kind = some e → s.Change now a e [] (g e)) :
    Moves now a s (s.modify kind g) := by
  cases he : s.entry? kind with
  | none =>
      refine moves_of_core_eq ?_ rfl rfl
      simp [core, modify, Form.modify_of_entry?_eq_none he]
  | some e =>
      have hk : e.kind = kind := kind_of_entry he
      refine Move.moves (.entry e g [] (hk ▸ he) (h e he) ?_ ?_ ?_)
      · subst hk
        rfl
      · exact (List.append_nil _).symm
      · rfl

/-- One entry is replaced. -/
theorem put_move {es : List Effect} (he : s.entry? e.kind = some e)
    (h : s.Change now a e es e') (hk : e'.kind = e.kind)
    (core : s'.core = { (s.put e').core with issued := s.issued + (tokensOf es).length })
    (outbox : s'.outbox = s.outbox ++ es) (checking : s'.checking = s.checking) :
    Moves now a s s' :=
  (Move.entry e (fun _ => e') es he h (by rw [core, ← hk]; rfl) outbox checking).moves

theorem put_moves (he : s.entry? e.kind = some e) (h : s.Change now a e [] e')
    (hk : e'.kind = e.kind) : Moves now a s (s.put e') :=
  put_move he h hk rfl (List.append_nil _).symm rfl

theorem clearIfIdle_moves (kind : Kind) : Moves now a s (s.clearIfIdle kind) :=
  modify_moves _ fun _ _ => .cleared

theorem editFailed_moves (kind : Kind) : Moves now a s (s.editFailed kind) :=
  (clearIfIdle_moves kind).trans (notify_moves _ rfl)

end Session

end IdentityForm
