import IdentityForm.Proofs.Since

/-! # Committed files in a save

A save names the files that an element is to have, and the server drops all others. It names every
committed file but those that were removed or replaced in the edit buffer, provided that the edit
buffer was filled.
-/

namespace IdentityForm

/-! ## The files of an element -/

def Element.filesOf {F : Type} : Element F → Role → List F
  | .identity _ d, .frontSide => d.frontSide.toList
  | .identity _ d, .reverseSide => d.reverseSide.toList
  | .identity _ d, .selfie => d.selfie.toList
  | .identity _ d, .rendition => d.renditions
  | .residence _ d, .scan => d.files
  | .residence _ d, .rendition => d.renditions
  | _, _ => []

theorem mem_submittedIds {drafts : List Draft} {id : UInt64} :
    id ∈ submittedIds drafts ↔ ∃ d ∈ drafts, d.deleted = false ∧ d.remoteId? = some id := by
  simp [submittedIds, List.mem_filterMap, and_assoc]

theorem submittedId?_toList (draft : Option Draft) :
    (submittedId? draft).toList = submittedIds draft.toList := by
  cases draft with
  | none => rfl
  | some d => cases h : d.deleted <;> cases hr : d.remoteId? <;>
      simp [submittedId?, submittedIds, Option.filter, h, hr]

namespace SubmittedElement

variable {fields : Fields} {files : Files Draft} {kind : Kind} {role : Role}

theorem filesOf_ofDraft : (ofDraft fields files kind).filesOf role =
    if kind.takes role then submittedIds (files.ofRole role) else [] := by
  cases kind <;> cases role <;> first | rfl | exact submittedId?_toList _

/-- A file that stays in the edit buffer is saved. -/
theorem mem_filesOf_of_get? {slot : Slot} {d : Draft} {id : UInt64}
    (takes : kind.takes slot.role = true) (hd : files.get? slot = some d)
    (unmarked : d.deleted = false) (hid : d.remoteId? = some id) :
    id ∈ (ofDraft fields files kind).filesOf slot.role := by
  rw [filesOf_ofDraft, if_pos takes, mem_submittedIds]
  exact ⟨d, Files.mem_ofRole_of_get? hd, unmarked, hid⟩

theorem draft_of_mem_filesOf {id : UInt64} (h : id ∈ (ofDraft fields files kind).filesOf role) :
    ∃ slot d, slot.role = role ∧ files.get? slot = some d ∧ d.deleted = false ∧
      d.remoteId? = some id := by
  rw [filesOf_ofDraft] at h
  split at h
  · obtain ⟨d, hd, unmarked, hid⟩ := mem_submittedIds.1 h
    obtain ⟨index, hd⟩ := Files.get?_of_mem_ofRole hd
    exact ⟨⟨role, index⟩, d, rfl, hd, unmarked, hid⟩
  · cases h

end SubmittedElement

/-! ## The element of a save -/

namespace Session

variable {s s' : Session} {now : Nat} {a : Action} {r : Reply} {kind : Kind}

/-- What a save of the entry of a kind may send: notices alone, or an element. The element has the
files of the edit buffer, or without an editor those that are committed. -/
inductive SaveSends (s : Session) (kind : Kind) : List Effect → Prop
  | notices (ns : List Notice) : SaveSends s kind (ns.map .notice)
  | element {e : Entry} {fields : Fields} {password : Secret} : s.form.entry? kind = some e →
      SaveSends s kind [.request (.setElement ⟨s.nextId, .task .save kind⟩
        (.ofDraft fields e.atSave.draftFiles kind) password)]

theorem save_sends (kind : Kind) (changes : Fields) :
    ∃ es, (s.save kind changes).1.outbox = s.outbox ++ es ∧ s.SaveSends kind es := by
  have nothing {t : Session} (same : t.outbox = s.outbox) :
      ∃ es, t.outbox = s.outbox ++ es ∧ s.SaveSends kind es :=
    ⟨[], same.trans (List.append_nil _).symm, .notices []⟩
  have outcome := s.saving kind changes
  generalize (s.save kind changes).1 = t at outcome
  cases outcome with
  | nothing => exact nothing rfl
  | blocked => exact ⟨_, outbox_notifyAll _, .notices _⟩
  | spared => exact nothing rfl
  | misdated => exact ⟨_, outbox_notifyAll _, .notices _⟩
  | unkeyed => exact nothing rfl
  | @sent e _ _ he _ _ _ _ _ hdraft =>
      subst hdraft
      refine ⟨_, rfl, ?_⟩
      show s.SaveSends kind [.request (.setElement _ (.ofDraft _ _ e.atSave.kind) _)]
      rw [e.kind_atSave, kind_of_entry he]
      exact .element he

def Saves (kind : Kind) (x : Effect) : Prop :=
  ∃ id element password, x = .request (.setElement ⟨id, .task .save kind⟩ element password)

theorem not_saves_of_silent {es : List Effect} {x : Effect} (tokens : tokensOf es = [])
    (hx : x ∈ es) : ¬ Saves kind x := by
  rintro ⟨id, element, password, rfl⟩
  have issued : ⟨id, .task .save kind⟩ ∈ tokensOf es := mem_tokensOf.2 ⟨_, hx, rfl⟩
  rw [tokens] at issued
  cases issued

theorem Change.of_saves {e e' : Entry} {es : List Effect} {x : Effect}
    (h : s.Change now a e es e') (hx : x ∈ es) (saves : Saves kind x) :
    ∃ changes, a = .save kind changes := by
  obtain ⟨id, element, password, rfl⟩ := saves
  cases h with
  | @saved changes _ _ ha =>
      simp only [List.mem_singleton, Effect.request.injEq, Request.setElement.injEq, Token.mk.injEq,
        Pending.task.injEq] at hx
      exact ⟨changes, hx.1.2.2 ▸ ha⟩
  | uploaded =>
      rcases uploading_cases hx with same | calm
      · cases same
      · cases calm
  | checked _ _ _ hr =>
      subst hr
      split at hx <;> simp at hx
  | givenUp => simp at hx
  | _ => simp at hx

theorem Move.of_saves {x : Effect} (h : Move now a s s') (hx : x ∈ s'.outbox)
    (saves : Saves kind x) : x ∈ s.outbox ∨ ∃ changes, a = .save kind changes := by
  cases h with
  | rest es core outbox calm =>
      rw [outbox] at hx
      apply (List.mem_append.1 hx).imp_right
      intro hx
      exact absurd saves (not_saves_of_silent (tokensOf_of_calm calm) hx)
  | ask errand r _ hr ht _ _ _ core outbox =>
      rw [outbox] at hx
      apply (List.mem_append.1 hx).imp_right
      intro hx
      obtain ⟨id, element, password, rfl⟩ := saves
      simp only [List.mem_singleton, Effect.request.injEq] at hx
      subst hx
      cases hr
  | entry e g es _ change core outbox =>
      rw [outbox] at hx
      exact (List.mem_append.1 hx).imp_right fun hx => change.of_saves hx saves
  | abandon es _ core outbox tokens =>
      rw [outbox] at hx
      apply (List.mem_append.1 hx).imp_right
      intro hx
      exact absurd saves (not_saves_of_silent tokens hx)

/-- A reply has an entry saved only after it was verified, and so only a plain text. -/
theorem Uptake.of_saves {e e' : Entry} {es : List Effect} {x : Effect} {task : Task}
    {outcome : Outcome} {id : Nat} {ready : Bool} (h : s.Uptake now e task outcome es e')
    (hw : e.awaits? task = some id) (proper : e.Proper ready) (hx : x ∈ es)
    (saves : Saves kind x) : kind.isPlain = true := by
  obtain ⟨id, element, password, rfl⟩ := saves
  cases h with
  | accepted =>
      have same : e.kind = kind := by
        simp only [List.mem_append, List.mem_map, List.mem_cons, Effect.request.injEq, reduceCtorEq,
          and_false, exists_false, false_or, List.not_mem_nil, or_false,
          Request.setElement.injEq, Token.mk.injEq, Pending.task.injEq] at hx
        exact hx.1.2.2.symm
      have verified : e.verification ≠ .none := by
        intro none_
        simp [Entry.awaits?, none_, Verification.none] at hw
      exact same ▸ proper.plain verified
  | acceptedLocked => simp at hx
  | _ => simp at hx

theorem Settle.of_saves {x : Effect} (h : Settle now r s s') (proper : s.core.Proper)
    (files : kind.isPlain = false) (hx : x ∈ s'.outbox) (saves : Saves kind x) : x ∈ s.outbox := by
  have appended {es : List Effect} (outbox : s'.outbox = s.outbox ++ es)
      (none_ : x ∉ es) : x ∈ s.outbox := by
    rw [outbox] at hx
    exact (List.mem_append.1 hx).resolve_right none_
  have calm_only {es : List Effect} (calm : ∀ x ∈ es, x.isCalm = true) : x ∉ es := fun hx =>
    not_saves_of_silent (tokensOf_of_calm calm) hx saves
  cases h with
  | errand errand es _ _ core outbox calm => exact appended outbox (calm_only calm)
  | form form es _ _ _ core outbox calm => exact appended outbox (calm_only calm)
  | unlock _ _ _ es _ _ _ core outbox calm => exact appended outbox (calm_only calm)
  | task task e g es _ he hw uptake core outbox =>
      apply appended outbox
      intro hx
      have plain := uptake.of_saves hw (proper.entries e (Form.mem_of_entry he)) hx saves
      exact absurd (plain.symm.trans files) (by simp)

end Session

/-! ## Along a run -/

namespace Run

variable {setup : Setup} {past : History} {s : Session} {t : Turn} {kind : Kind}

/-- Elements with files are sent by saves alone. -/
theorem save_of_saves {now : Nat} {action : Session.Action} {x : Effect}
    (run : Run setup past s) (files : kind.isPlain = false)
    (hx : x ∈ Turn.effects ⟨s, now, action⟩) (saves : Session.Saves kind x) :
    ∃ changes, action = .save kind changes := by
  refine (run.acts now action).induction
    (P := fun t => x ∈ t.outbox → ∃ changes, action = .save kind changes) ?_ ?_ ?_ ?_ hx
  · intro t t' move earlier hx
    exact (move.of_saves hx saves).elim earlier id
  · intro r t _ _ _ settle hx
    have before := settle.of_saves run.proper files hx saves
    rw [run.outbox_eq_nil] at before
    cases before
  · intro t t' close earlier hx
    obtain ⟨es, outbox, tokens, -⟩ := close.effects
    rw [outbox] at hx
    apply (List.mem_append.1 hx).elim earlier
    intro hx
    exact absurd saves (Session.not_saves_of_silent tokens hx)
  · intro hx
    rw [run.outbox_eq_nil] at hx
    cases hx

/-- A save of an entry with files sends the files of the edit buffer, or without an editor those that
are committed. -/
theorem element_of_save {id : Nat} {element : SubmittedElement} {password : Secret} {now : Nat}
    {action : Session.Action} (run : Run setup past s) (files : kind.isPlain = false)
    (sent : .request (.setElement ⟨id, .task .save kind⟩ element password) ∈
      Turn.effects ⟨s, now, action⟩) :
    ∃ e fields, s.form.entry? kind = some e ∧
      element = .ofDraft fields e.atSave.draftFiles kind := by
  obtain ⟨changes, rfl⟩ := run.save_of_saves files sent ⟨id, element, password, rfl⟩
  obtain ⟨es, outbox, sends⟩ := s.save_sends kind changes
  have sent : .request (.setElement ⟨id, .task .save kind⟩ element password) ∈
      (s.save kind changes).1.outbox := sent
  rw [outbox, run.outbox_eq_nil, List.nil_append] at sent
  cases sends with
  | notices ns => simp at sent
  | @element e fields password he =>
      simp only [List.mem_singleton, Effect.request.injEq, Request.setElement.injEq] at sent
      exact ⟨e, fields, he, sent.2.1⟩

/-- The committed files in a save. Without an editor every committed file is saved. With one, if the
edit buffer was filled and not emptied since, every committed file is saved that was not removed
since nor, in a special role, replaced; otherwise nothing is saved but new files. Where editors were
first opened on unlocked entries that were not busy, the edit buffer was filled. -/
theorem committed_files_saved {id : Nat} {element : SubmittedElement} {password : Secret}
    (run : Run setup (t :: past) s) (document : kind.isDocument = true)
    (sent : .request (.setElement ⟨id, .task .save kind⟩ element password) ∈ t.effects) :
    ∃ e, t.before.form.entry? kind = some e ∧
      (e.editors = 0 → ∀ slot file, e.files.get? slot = some file →
        file.id ∈ element.filesOf slot.role) ∧
      (∀ turns : History, past.sinceFilled kind = some turns → ∀ slot file,
        e.files.get? slot = some file → file.id ∈ element.filesOf slot.role ∨
          turns.Removed kind slot ∨ slot.role.isSpecial = true ∧ turns.Replaced kind slot.role) ∧
      (e.editors ≠ 0 → past.sinceFilled kind = none → ∀ role, ∀ id ∈ element.filesOf role,
        ∃ slot d, slot.role = role ∧ e.draftFiles.get? slot = some d ∧ d.upload ≠ none ∧
          d.file.id = id) ∧
      (e.editors ≠ 0 → past.Orderly kind → past.sinceFilled kind ≠ none) := by
  have files : kind.isPlain = false := by cases kind <;> first | rfl | cases document
  cases run with
  | @step _ before now action run ordered genuine =>
      obtain ⟨e, fields, he, rfl⟩ := run.element_of_save files sent
      obtain rfl := Form.kind_of_entry he
      have proper := run.proper.entries e (Form.mem_of_entry he)
      obtain ⟨covers, untied⟩ := run.buffered e he
      have takes {slot : Slot} {file : StoredFile} (hf : e.files.get? slot = some file) :
          e.kind.takes slot.role = true := proper.fits slot (by simp [hf])
      have saved_of_covers {removed : Slot → Prop} {replaced : Role → Prop} {slot : Slot}
          {file : StoredFile} (h : e.atSave.Covers removed replaced)
          (hf : e.files.get? slot = some file) :
          file.id ∈ (SubmittedElement.ofDraft fields e.atSave.draftFiles e.kind).filesOf slot.role ∨
            removed slot ∨ slot.role.isSpecial = true ∧ replaced slot.role := by
        rcases h slot file (e.files_atSave ▸ hf) with
          ⟨d, hd, committed, hid, marked⟩ | ⟨special, replaced, -⟩
        · cases unmarked : d.deleted with
          | true => exact .inr (.inl (marked unmarked))
          | false =>
              refine .inl (SubmittedElement.mem_filesOf_of_get? (takes hf) hd unmarked ?_)
              simp [Draft.remoteId?, committed, hid]
        · exact .inr (.inr ⟨special, replaced⟩)
      have unedited (h : e.editors = 0) {slot : Slot} {file : StoredFile}
          (hf : e.files.get? slot = some file) :
          file.id ∈ (SubmittedElement.ofDraft fields e.atSave.draftFiles e.kind).filesOf slot.role := by
        have covers : e.atSave.Covers (fun _ => False) fun _ => False := by
          rw [Entry.atSave_of_unedited h]
          exact e.mirrors_snapshot.covers
        simpa using saved_of_covers covers hf
      refine ⟨e, he, fun h slot file => unedited h, fun turns since slot file hf => ?_, ?_, ?_⟩
      · by_cases h : e.editors = 0
        · exact .inl (unedited h hf)
        · have covered : e.atSave.Covers (fun slot => turns.Removed e.kind slot)
              fun role => turns.Replaced e.kind role := by
            rw [Entry.atSave_of_editing h]
            exact covers turns since
          exact saved_of_covers covered hf
      · intro h since role id hid
        obtain ⟨slot, d, hrole, hd, -, remote⟩ := SubmittedElement.draft_of_mem_filesOf hid
        rw [Entry.atSave_of_editing h] at hd
        obtain ⟨u, hu, -⟩ := Draft.twin?_eq_none.1 (untied since slot d hd)
        refine ⟨slot, d, hrole, hd, by simp [hu], ?_⟩
        simp only [Draft.remoteId?, hu] at remote
        split at remote
        · exact Option.some.inj remote
        · cases remote
      · exact fun editing orderly => (run.filled_of_orderly orderly e he editing).2

def scannedPassport : StoredElement :=
  .identity .passport ⟨"AB1", none, some ⟨⟨7, 10, 0⟩, 1⟩, none, none, [⟨⟨8, 10, 0⟩, 1⟩]⟩

def passportForm : AuthorizationForm :=
  ⟨1, [[⟨.identity .passport, false, false, false⟩]], none⟩

/-- The rendition was removed in an editor. The save names the front side, which was not. -/
theorem committed_files_saved_after_removal :
    let actions := [(4, .deleteScan (.identity .passport) ⟨.rendition, some 0⟩),
        (4, .startEdit (.identity .passport))] ++ opening passportForm [scannedPassport]
    let t : Turn := ⟨(play (.fresh .plain .empty) actions).2, 5,
      .save (.identity .passport) (.ofTexts [("document_no", "AB2")])⟩
    ∃ element, .request (.setElement ⟨4, .task .save (.identity .passport)⟩ element ⟨"secret"⟩) ∈
      t.effects ∧ 7 ∈ element.filesOf .frontSide := by
  intro actions t
  let past := (play (.fresh .plain .empty) actions).1
  let element : SubmittedElement := .identity .passport ⟨"AB2", none, some 7, none, none, []⟩
  have playable : Playable (.fresh .plain .empty) ((t.now, t.action) :: actions) := by
    decide +kernel
  have run : Run .plain (t :: past) t.after := .of_playable playable
  have sent : .request (.setElement ⟨4, .task .save (.identity .passport)⟩ element ⟨"secret"⟩) ∈
      t.effects := by decide +kernel
  obtain ⟨e, he, -, since, -⟩ := committed_files_saved run rfl sent
  have committed : ∃ e ∈ t.before.form.entry? (.identity .passport),
      (e.files.get? ⟨.frontSide, none⟩).map (·.id) = some 7 := by decide +kernel
  obtain ⟨e', he', front⟩ := committed
  obtain rfl := Option.some.inj (he.symm.trans he')
  obtain ⟨file, hf, hid⟩ := Option.map_eq_some_iff.1 front
  have opened : Turn.Fills (.identity .passport) past[1] := by decide +kernel
  have unfilled : ¬ Turn.Fills (.identity .passport) past[0] := by decide +kernel
  have going_on : ¬ Turn.Empties (.identity .passport) past[0] := by decide +kernel
  have filled : past.sinceFilled (.identity .passport) = some [past[0]] := by
    apply (History.sinceFilled_of_going_on unfilled going_on (past.drop 1)).trans
    exact congrArg _ (History.sinceFilled_of_fills opened (past.drop 2))
  rcases since _ filled ⟨.frontSide, none⟩ file hf with saved | removed | ⟨-, replaced⟩
  · exact ⟨element, sent, hid ▸ saved⟩
  · rcases removed with ⟨place, removes, same⟩ | ⟨earlier, -⟩
    · cases removes
      cases same.1
    · exact earlier.elim
  · obtain ⟨t', ht', key, date, bytes, uploads⟩ := replaced
    obtain rfl := List.mem_singleton.1 ht'
    cases uploads

/-- An editor was opened while a save that had nothing to write was not yet reported. The next save
names no file at all, though nothing was removed or replaced. -/
theorem committed_files_dropped :
    let actions := [(5, .tick), (4, .startEdit (.identity .passport)),
        (4, .save (.identity .passport) (.ofTexts [("document_no", "AB1")]))] ++
      opening passportForm [scannedPassport]
    let past := (play (.fresh .plain .empty) actions).1
    let t : Turn := ⟨(play (.fresh .plain .empty) actions).2, 5,
      .save (.identity .passport) (.ofTexts [("document_no", "AB2")])⟩
    let element : SubmittedElement := .identity .passport ⟨"AB2", none, none, none, none, []⟩
    Run .plain (t :: past) t.after ∧
      .request (.setElement ⟨4, .task .save (.identity .passport)⟩ element ⟨"secret"⟩) ∈ t.effects ∧
      (∃ e ∈ t.before.form.entry? (.identity .passport),
        (e.files.get? ⟨.frontSide, none⟩).map (·.id) = some 7) ∧
      7 ∉ element.filesOf .frontSide ∧ ∀ t' ∈ past, t'.action.handlesDrafts = false := by
  intro actions past t element
  have playable : Playable (.fresh .plain .empty) ((t.now, t.action) :: actions) := by
    decide +kernel
  refine ⟨.of_playable playable, ?_, ?_, ?_, ?_⟩ <;> decide +kernel

end Run

end IdentityForm
