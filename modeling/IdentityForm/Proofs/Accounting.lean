import IdentityForm.Proofs.Ledger
import Mathlib.Data.List.Perm.Basic

/-! # The accounting of requests

Over a run the ledger is balanced as long as the session is not closed. So what is waited for is
exactly what is outstanding, a reply to anything else comes to nothing, and closing and starting over
cancel what is outstanding and nothing else.
-/

namespace IdentityForm

/-! ## Places that wait -/

namespace Awaited

variable {a : Awaited} {errand : Errand} {id : Nat}

theorem mem_ids : id ∈ a.ids ↔ ∃ errand, a.get errand = some id := by
  simp only [ids, List.mem_append, Option.mem_toList]
  constructor
  · rintro (h | h | h | h | h | h)
    · exact ⟨.form, h⟩
    · exact ⟨.passwordState, h⟩
    · exact ⟨.availableElements, h⟩
    · exact ⟨.submit, h⟩
    · exact ⟨.clearPassword, h⟩
    · exact ⟨.recovery, h⟩
  · rintro ⟨errand, h⟩
    cases errand <;> simp only [get] at h <;> simp [h]

theorem ids_set_some (id : Nat) (free : a.get errand = Option.none) :
    List.Perm (a.ids ++ [id]) (a.set errand (some id)).ids := by
  apply List.perm_iff_count.2
  intro x
  cases errand <;> simp only [get] at free <;>
    simp only [ids, set, free, List.count_append, Option.toList_none, Option.toList_some,
      List.count_nil] <;> omega

theorem ids_set_none (held : a.get errand = some id) :
    List.Perm a.ids ((a.set errand Option.none).ids ++ [id]) := by
  apply List.perm_iff_count.2
  intro x
  cases errand <;> simp only [get] at held <;>
    simp only [ids, set, held, List.count_append, Option.toList_none, Option.toList_some,
      List.count_nil] <;> omega

end Awaited

namespace Form

variable {f : Form} {e : Entry}

/-- An entry has a place among the others, and changing it changes that place alone. -/
theorem entries_split (distinct : (f.entries.map Entry.kind).Nodup)
    (he : f.entry? e.kind = some e) : ∃ before later, f.entries = before ++ e :: later ∧
      ∀ g, (f.modify e.kind g).entries = before ++ g e :: later := by
  obtain ⟨before, later, split⟩ := List.append_of_mem (mem_of_entry he)
  refine ⟨before, later, split, fun g => ?_⟩
  rw [split, List.map_append, List.map_cons] at distinct
  obtain ⟨-, later_nodup, apart⟩ := List.nodup_append.1 distinct
  have others {l : List Entry} (h : ∀ x ∈ l, x.kind ≠ e.kind) :
      l.map (fun x => if x.kind = e.kind then g x else x) = l :=
    (List.map_congr_left fun x hx => if_neg (h x hx)).trans (List.map_id l)
  have before_others : ∀ x ∈ before, x.kind ≠ e.kind := fun x hx =>
    apart _ (List.mem_map_of_mem hx) _ List.mem_cons_self
  have later_others : ∀ x ∈ later, x.kind ≠ e.kind := fun x hx same =>
    (List.nodup_cons.1 later_nodup).1 (same ▸ List.mem_map_of_mem hx)
  simp only [modify, split, List.map_append, List.map_cons, if_pos, others before_others,
    others later_others]

theorem entry?_modify_other {g : Entry → Entry} {other : Kind}
    (distinct : (f.entries.map Entry.kind).Nodup) (he : f.entry? e.kind = some e)
    (hk : (g e).kind = e.kind) (hne : e.kind ≠ other) :
    entry? (f.modify e.kind g) other = f.entry? other := by
  obtain ⟨before, later, split, modified⟩ := entries_split distinct he
  simp only [ entry?]
  rw [modified g, split, List.find?_append, List.find?_append,
    List.find?_cons_of_neg (by simpa [hk] using hne), List.find?_cons_of_neg (by simpa using hne)]

theorem awaitedIds_modify {g : Entry → Entry} {ids ids' : List Nat}
    (distinct : (f.entries.map Entry.kind).Nodup) (he : f.entry? e.kind = some e)
    (h : List.Perm (e.awaitedIds ++ ids) ((g e).awaitedIds ++ ids')) :
    List.Perm (f.entries.flatMap Entry.awaitedIds ++ ids)
      ((f.modify e.kind g).entries.flatMap Entry.awaitedIds ++ ids') := by
  obtain ⟨before, later, split, modified⟩ := entries_split distinct he
  rw [split, modified g]
  apply List.perm_iff_count.2
  intro x
  have count := List.perm_iff_count.1 h x
  simp only [List.flatMap_append, List.flatMap_cons, List.count_append] at count ⊢
  omega

end Form

/-! ## The books of a session -/

/-- The balance of a session, given all that was sent and the ids that were answered. -/
structure Core.Books (log : List Effect) (settled : List Nat) (c : Core) : Prop
    extends Gated c where
  numbered : (tokensOf log).map Token.id = List.range' 1 c.issued
  balance : List.Perm ((tokensOf log).map Token.id) (c.awaitedIds ++ (cancelsOf log ++ settled))
  errands : ∀ errand id, c.awaited.get errand = some id → ⟨id, .errand errand⟩ ∈ tokensOf log
  entries : ∀ e ∈ c.form.entries, e.Kept (tokensOf log)

namespace Core.Books

variable {log es : List Effect} {settled : List Nat} {c c' : Core} {e : Entry}
  {g : Entry → Entry} {token : Token} {errand : Errand} {id : Nat}

theorem unique (books : c.Books log settled) : ((tokensOf log).map Token.id).Nodup := by
  rw [books.numbered]
  exact List.nodup_range'

/-- No place waits for what another one waits for, or for what was cancelled or answered. -/
theorem nodup (books : c.Books log settled) :
    (c.awaitedIds ++ (cancelsOf log ++ settled)).Nodup := books.balance.nodup_iff.1 books.unique

theorem mem_of_awaits (h : c.Awaits token) : token.id ∈ c.awaitedIds := by
  unfold Awaits at h
  apply List.mem_append.2
  split at h
  · exact .inl (Awaited.mem_ids.2 ⟨_, h⟩)
  · rename_i task kind _
    obtain ⟨e, he, hw⟩ := h
    refine .inr (List.mem_flatMap.2 ⟨e, Form.mem_of_entry he, ?_⟩)
    simp only [Entry.awaitedIds, List.mem_append, Option.mem_toList]
    cases task with
    | save => exact .inl hw
    | delete => exact .inl hw
    | sendCode => exact .inr (.inl hw)
    | checkCode => exact .inr (.inl hw)
    | resendCall => exact .inr (.inr hw)

theorem awaits_task {task : Task} (he : c.form.entry? e.kind = some e)
    (ht : token.pending = .task task e.kind) (hw : e.awaits? task = some token.id) :
    c.Awaits token := by
  unfold Awaits
  rw [ht]
  exact ⟨e, he, hw⟩

/-- A token waits where it will be looked for. -/
theorem awaits_of_mem (books : c.Books log settled) (issued : token ∈ tokensOf log)
    (waiting : token.id ∈ c.awaitedIds) : c.Awaits token := by
  have is_token {t : Token} (ht : t ∈ tokensOf log) (id : t.id = token.id) : t = token :=
    Entry.eq_of_id books.unique ht issued id
  rcases List.mem_append.1 waiting with held | held
  · obtain ⟨errand, held⟩ := Awaited.mem_ids.1 held
    unfold Awaits
    rw [← is_token (books.errands errand _ held) rfl]
    exact held
  · obtain ⟨e, he, held⟩ := List.mem_flatMap.1 held
    have kept := books.entries e he
    have found := Form.entry?_of_mem books.distinct he
    simp only [Entry.awaitedIds, List.mem_append, Option.mem_toList] at held
    rcases held with held | held | held
    · have write : e.write = .pending token.id := by
        cases hw : e.write with
        | pending id => rw [hw] at held; rw [Option.some.inj held]
        | idle => simp [hw, WriteState.request?] at held
        | unchanged => simp [hw, WriteState.request?] at held
      have waits {task : Task} (ht : task = .save ∨ task = .delete) :
          e.awaits? task = some token.id := by
        rcases ht with rfl | rfl <;> simp [Entry.awaits?, write]
      rcases kept.write _ write with issued | issued
      · exact awaits_task found (congrArg Token.pending (is_token issued rfl)).symm (waits (.inl rfl))
      · exact awaits_task found (congrArg Token.pending (is_token issued rfl)).symm (waits (.inr rfl))
    · have pending := (congrArg Token.pending (is_token (kept.request _ held) rfl)).symm
      by_cases uncoded : e.verification.codeLength = none
      · rw [if_pos uncoded] at pending
        exact awaits_task found pending held
      · rw [if_neg uncoded] at pending
        exact awaits_task found pending held
    · have pending := congrArg Token.pending
        (is_token (kept.call _ (Session.callRequest?_eq_some.1 held)) rfl)
      exact awaits_task found pending.symm held

theorem calm (books : c.Books log settled) (calm : ∀ x ∈ es, x.isCalm = true) :
    c.Books (log ++ es) settled := by
  have tokens : tokensOf (log ++ es) = tokensOf log := by
    rw [tokensOf_append, tokensOf_of_calm calm, List.append_nil]
  have cancels : cancelsOf (log ++ es) = cancelsOf log := by
    rw [cancelsOf_append, cancelsOf_of_calm calm, List.append_nil]
  exact { toGated := books.toGated
          numbered := tokens ▸ books.numbered
          balance := by rw [tokens, cancels]; exact books.balance
          errands := tokens ▸ books.errands
          entries := tokens ▸ books.entries }

theorem ask {r : Request} {awaited : Awaited} (books : c.Books log settled)
    (gated : { c with issued := c.issued + 1, awaited }.Gated)
    (free : c.awaited.get errand = none)
    (ht : r.token? = some ⟨c.issued + 1, .errand errand⟩)
    (set : awaited = c.awaited.set errand (some (c.issued + 1))) :
    { c with issued := c.issued + 1, awaited }.Books (log ++ [Effect.request r]) settled := by
  have tokens : tokensOf (log ++ [Effect.request r]) =
      tokensOf log ++ [⟨c.issued + 1, .errand errand⟩] := by
    rw [tokensOf_append]
    simp [tokensOf, Effect.token?, ht]
  have cancels : cancelsOf (log ++ [Effect.request r]) = cancelsOf log := by
    rw [cancelsOf_append]
    cases r <;> first | exact List.append_nil _ | cases ht
  refine { toGated := gated, numbered := ?_, balance := ?_, errands := ?_, entries := ?_ }
  · rw [tokens, List.map_append, books.numbered]
    show _ = List.range' 1 (c.issued + 1)
    rw [List.range'_1_concat, Nat.add_comm 1]
    rfl
  · rw [tokens, cancels, List.map_append]
    apply List.perm_iff_count.2
    intro x
    have before := List.perm_iff_count.1 books.balance x
    have change := List.perm_iff_count.1 (Awaited.ids_set_some (c.issued + 1) free) x
    simp only [awaitedIds, set, List.map_cons, List.map_nil, List.count_append] at before change ⊢
    omega
  · intro errand' id h
    rw [tokens]
    rw [set] at h
    by_cases he : errand' = errand
    · subst he
      rw [Awaited.get_set_self, Option.some.injEq] at h
      exact h ▸ List.mem_append_right _ List.mem_cons_self
    · rw [Awaited.get_set_of_ne _ _ he] at h
      exact List.mem_append_left _ (books.errands errand' id h)
  · intro e he
    rw [tokens]
    exact (books.entries e he).mono

theorem abandon (books : c.Books log settled) (gated : c'.Gated) (issued : c'.issued = c.issued)
    (idle : c'.awaited = .none) (empty : c'.form.entries = []) (tokens : tokensOf es = [])
    (cancels : cancelsOf es = c.awaitedIds) : c'.Books (log ++ es) settled where
  toGated := gated
  numbered := by
    rw [tokensOf_append, tokens, List.append_nil, issued]
    exact books.numbered
  balance := by
    apply List.perm_iff_count.2
    intro x
    have before := List.perm_iff_count.1 books.balance x
    have nothing : c'.awaitedIds = [] := by
      simp [awaitedIds, idle, empty, Awaited.none, Awaited.ids]
    rw [tokensOf_append, tokens, cancelsOf_append, cancels, nothing]
    simp only [List.append_nil, List.nil_append, List.count_append] at before ⊢
    omega
  errands errand id h := by
    rw [idle] at h
    cases errand <;> cases h
  entries e he := by
    rw [empty] at he
    cases he

theorem modify (books : c.Books log settled) (freed : List Nat) (gated : { c with
      form := c.form.modify e.kind g, issued := c.issued + (tokensOf es).length }.Gated)
    (he : c.form.entry? e.kind = some e)
    (numbers : (tokensOf es).map Token.id = List.range' (c.issued + 1) (tokensOf es).length)
    (kept : (g e).Kept (tokensOf log ++ tokensOf es))
    (balance : List.Perm (e.awaitedIds ++ (tokensOf es).map Token.id)
      ((g e).awaitedIds ++ (cancelsOf es ++ freed))) :
    { c with form := c.form.modify e.kind g, issued := c.issued + (tokensOf es).length }.Books
      (log ++ es) (freed ++ settled) where
  toGated := gated
  numbered := by
    rw [tokensOf_append, List.map_append, books.numbered, numbers, Nat.add_comm c.issued 1,
      List.range'_append_1]
  balance := by
    have entry := Form.awaitedIds_modify books.distinct he balance
    apply List.perm_iff_count.2
    intro x
    have before := List.perm_iff_count.1 books.balance x
    have change := List.perm_iff_count.1 entry x
    simp only [tokensOf_append, cancelsOf_append, awaitedIds, List.map_append, List.count_append]
      at before change ⊢
    omega
  errands errand id h := by
    rw [tokensOf_append]
    exact List.mem_append_left _ (books.errands errand id h)
  entries x hx := by
    rw [tokensOf_append]
    rcases Form.mem_modify books.distinct he hx with rfl | ⟨hx, -⟩
    · exact kept
    · exact (books.entries x hx).mono

/-- The books after a place of the session as a whole is freed, with the entries at rest. -/
theorem free (books : c.Books log settled) (errand : Errand) (gated : c'.Gated)
    (held : c.awaited.get errand = some id) (calm : ∀ x ∈ es, x.isCalm = true)
    (issued : c'.issued = c.issued) (awaited : c'.awaited = c.awaited.set errand none)
    (same : c'.form.entries.flatMap Entry.awaitedIds = c.form.entries.flatMap Entry.awaitedIds)
    (kept : ∀ e ∈ c'.form.entries, e.Kept (tokensOf log)) :
    c'.Books (log ++ es) (id :: settled) where
  toGated := gated
  numbered := by
    rw [tokensOf_append, tokensOf_of_calm calm, List.append_nil, issued]
    exact books.numbered
  balance := by
    apply List.perm_iff_count.2
    intro x
    have before := List.perm_iff_count.1 books.balance x
    have change := List.perm_iff_count.1 (Awaited.ids_set_none held) x
    simp only [tokensOf_append, tokensOf_of_calm calm, cancelsOf_append, cancelsOf_of_calm calm,
      awaitedIds, awaited, same, List.append_nil, List.count_append, List.count_cons,
      List.count_nil] at before change ⊢
    omega
  errands errand' id' h := by
    rw [tokensOf_append, tokensOf_of_calm calm, List.append_nil]
    rw [awaited] at h
    by_cases he : errand' = errand
    · subst he
      simp at h
    · rw [Awaited.get_set_of_ne _ _ he] at h
      exact books.errands errand' id' h
  entries e he := by
    rw [tokensOf_append, tokensOf_of_calm calm, List.append_nil]
    exact kept e he

end Core.Books

namespace Entry.Progress

theorem numbers {ready : Bool} {next : Nat} {e e' : Entry} {tokens : List Token}
    {cancels : List Nat} (h : Progress ready next e e' tokens cancels) :
    tokens.map Token.id = List.range' next tokens.length := by
  cases h <;> rfl

end Entry.Progress

namespace Session

variable {s s' : Session} {now : Nat} {a : Action} {r : Reply} {log : List Effect}
  {settled : List Nat}

theorem Uptake.numbers {e e' : Entry} {task : Task} {outcome : Outcome} {es : List Effect}
    (h : s.Uptake now e task outcome es e') :
    (tokensOf es).map Token.id = List.range' s.nextId (tokensOf es).length := by
  cases h with
  | accepted =>
      rw [tokensOf_append, tokensOf_cancels]
      rfl
  | acceptedLocked =>
      rw [tokensOf_cancels]
      rfl
  | _ => rfl

theorem Move.books (h : Move now a s s') (books : s.core.Books (log ++ s.outbox) settled) :
    s'.core.Books (log ++ s'.outbox) settled := by
  have gated := h.gated books.toGated
  cases h with
  | rest es core outbox calm =>
      rw [core, outbox, ← List.append_assoc]
      exact books.calm calm
  | ask errand r free hr ht form check submit core outbox =>
      rw [core] at gated ⊢
      rw [outbox, ← List.append_assoc]
      exact books.ask gated free ht rfl
  | entry e g es he change core outbox =>
      rw [core] at gated ⊢
      rw [outbox, ← List.append_assoc]
      have progress := change.progress
      have kept := books.entries e (Form.mem_of_entry he)
      refine books.modify [] gated he progress.numbers
        (progress.kept_after change.kind_eq kept) ?_
      rw [List.append_nil]
      exact progress.balance kept
  | abandon es ha core outbox tokens cancels =>
      rw [core] at gated ⊢
      rw [outbox, ← List.append_assoc]
      exact books.abandon gated rfl rfl rfl tokens cancels

theorem Settle.books (h : Settle now r s s') (issued : r.token ∈ tokensOf (log ++ s.outbox))
    (books : s.core.Books (log ++ s.outbox) settled) :
    s'.core.Books (log ++ s'.outbox) (r.token.id :: settled) := by
  have gated := h.gated books.toGated
  cases h with
  | errand errand es ht hw core outbox calm =>
      rw [core] at gated ⊢
      rw [outbox, ← List.append_assoc]
      exact books.free errand gated hw calm rfl rfl rfl books.entries
  | form form es ht hw ho core outbox calm =>
      rw [core] at gated ⊢
      rw [outbox, ← List.append_assoc]
      have asked : s.core.awaited.form ≠ none := fun none_ => absurd (hw.symm.trans none_) (by simp)
      have unreceived : s.core.formReceived = false := books.asked asked
      have before : s.core.form.entries = [] := books.unasked unreceived
      apply books.free .form gated hw calm rfl rfl
      · rw [before, List.flatMap_nil]
        apply List.flatMap_eq_nil_iff.2
        intro e he
        obtain ⟨idle, none_⟩ := Form.blank_of_mem_ofAuthorization he
        rw [Entry.awaitedIds_of idle none_]
        rfl
      · intro e he
        obtain ⟨idle, none_⟩ := Form.blank_of_mem_ofAuthorization he
        exact .of_none (by simp [idle]) none_
  | unlock password elements errors es ht hw ho core outbox calm =>
      rw [core] at gated ⊢
      rw [outbox, ← List.append_assoc]
      apply books.free .availableElements gated hw calm rfl rfl
      · have same : (s.form.takeElements elements errors).entries.map Entry.awaitedIds =
            s.form.entries.map Entry.awaitedIds := by
          apply Form.takeElements_map (fun _ _ => rfl)
          intro e x
          obtain ⟨-, hw, hv⟩ := e.applyError_keeps x
          exact Entry.awaitedIds_of hw hv
        rw [List.flatMap_def, List.flatMap_def]
        exact congrArg List.flatten same
      · refine Form.takeElements_forall (fun e _ _ kept => kept.of_eq rfl rfl rfl) ?_ books.entries
        intro e x kept
        obtain ⟨hk, hw, hv⟩ := e.applyError_keeps x
        exact kept.of_eq hk hw hv
  | task task e g es ht he hw uptake core outbox =>
      rw [core] at gated ⊢
      rw [outbox, ← List.append_assoc]
      have kept := books.entries e (Form.mem_of_entry he)
      have fits := kept.fits books.unique issued ht hw
      exact books.modify [r.token.id] gated he uptake.numbers
        (uptake.kept_after fits hw kept) (uptake.balance fits hw kept)

end Session

end IdentityForm
