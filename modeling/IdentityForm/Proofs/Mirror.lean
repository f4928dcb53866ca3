import IdentityForm.Proofs.Committed
import IdentityForm.Proofs.Outstanding
import IdentityForm.Proofs.Upkeep.Operations

/-! # Edit buffers outside of an edit

Without an editor and with nothing under way the edit buffer of an entry has the committed fields and
no files. However the last editor was closed, whatever ends then clears the buffer, but for two cases.
A date that does not exist is refused without being sent, and what was given stays for the date to be
put right. That is meant so. The other case is a fault. When the server refuses a field, nothing looks
whether an editor is still open to show it, and so the refused texts of an entry without an editor stay
in its buffer, while every other failure of a save clears it.
-/

namespace IdentityForm

/-! ## Refusals -/

/-- A save goes nowhere, for a date of the entry that does not exist. -/
def Turn.Misdates (kind : Kind) (t : Turn) : Prop :=
  ∃ changes field, t.action = .save kind changes ∧ .notice (.fieldError kind field) ∈ t.effects

/-- The server answers a save of the entry by refusing a field. -/
def Turn.Refuses (kind : Kind) (t : Turn) : Prop :=
  ∃ r field, t.action = .reply r ∧ r.token.pending = .task .save kind ∧
    .notice (.fieldError kind field) ∈ t.effects

/-- An entry at rest has something else in its buffer than what is committed, and that since a turn
of the given sort. -/
def History.Residue (kind : Kind) (sort : Turn → Prop) : History → Prop
  | [] => False
  | t :: past => (∃ e, t.after.form.entry? kind = some e ∧ e.AtRest ∧ ¬ e.Cleared) ∧
      (sort t ∨ Residue kind sort past)

namespace Entry

/-- Committed files have all been uploaded. -/
theorem failedUpload?_snapshot (e : Entry) : e.snapshot.failedUpload? = none := by
  apply List.find?_eq_none.2
  intro slot _
  cases hd : e.snapshot.draftFiles.get? slot with
  | none => simp
  | some d =>
      obtain ⟨f, -, rfl⟩ := Option.map_eq_some_iff.1 ((Files.get?_map ..).symm.trans hd)
      simp [Draft.ofStored, Draft.hasFailed]

end Entry

namespace Session

variable {s : Session} {now : Nat} {a : Action} {kind other : Kind} {e : Entry}

/-! ## Saving and the passing of time -/

/-- A save finds something under way, or puts something under way, or has an editor open; it leaves
an entry at rest only if there is nothing to do or a date is refused. -/
theorem save_tidy (sound : s.core.Sound) (changes : Fields) (tidy : s.form.Tidy other) :
    (s.save kind changes).1.form.Tidy other ∨
      kind = other ∧ ∃ field, .notice (.fieldError other field) ∈ (s.save kind changes).1.outbox := by
  have put {t : Session} (x : Entry) (ht : t.form = (s.put x).form) (hx : x.Tidy) :
      t.form.Tidy other := ht ▸ tidy.modify (fun _ _ => rfl) fun _ _ _ => hx
  have outcome := s.saving kind changes
  generalize (s.save kind changes).1 = t at outcome
  cases outcome with
  | nothing => exact .inl tidy
  | @blocked e slot _ _ failed =>
      -- What failed to upload was put there in an editor, which is still open.
      have editing : e.editors ≠ 0 := by
        intro unedited
        rw [Entry.atSave_of_unedited unedited, e.failedUpload?_snapshot] at failed
        cases failed
      exact .inl (put _ (form_notifyAll _) (Entry.tidy_of_editing (by simpa using editing)))
  | spared => exact .inl (put _ rfl (Entry.tidy_of_writing (by simp)))
  | @misdated e fields he _ _ bad =>
      obtain rfl := kind_of_entry he
      by_cases same : e.kind = other
      · subst same
        obtain ⟨field, among⟩ := List.exists_mem_of_ne_nil _ bad
        refine .inr ⟨rfl, field, ?_⟩
        rw [outbox_notifyAll]
        exact List.mem_append_right _ (List.mem_map_of_mem (List.mem_map_of_mem among))
      · refine .inl ?_
        rw [form_notifyAll]
        refine tidy.modify_ne (fun _ _ => rfl) ?_
        simpa using same
  | unkeyed _ ready unkeyed =>
      obtain ⟨password, keyed⟩ := Option.isSome_iff_exists.1 (sound.keyed.symm.trans ready)
      exact absurd (keyed.symm.trans unkeyed) (by simp)
  | sent => exact .inl (put _ rfl (Entry.tidy_of_writing (by simp)))

theorem finishUnchanged_tidy (kind : Kind) : s.Upkeeps (s.finishUnchanged kind) := by
  unfold finishUnchanged
  cases he : s.entry? kind with
  | none => exact .refl
  | some e =>
      obtain rfl := kind_of_entry he
      dsimp only
      split
      · exact .of_cleared e.kind (g := fun _ => { e with write := .idle }) rfl
          fun _ _ => rfl
      · exact .refl

theorem reportUnchanged_tidy (tidy : s.form.Tidy kind) : s.reportUnchanged.form.Tidy kind := by
  unfold reportUnchanged
  split
  · exact tidy
  · exact (Upkeeps.foldl (fun s kind => finishUnchanged_tidy kind) _).tidy kind tidy

theorem tick_tidy (live : (s.tick now).cancelled = false) (tidy : s.form.Tidy kind) :
    (s.tick now).form.Tidy kind :=
  (fires_upkeeps _ live).tidy kind (reportUnchanged_tidy tidy)

/-! ## Actions -/

/-- After an action that does not close the session, a tidy entry is still tidy unless it was saved with
a bad date, or the server has refused one of its fields. -/
theorem act_tidy (sound : s.core.Sound) (live_before : s.cancelled = false)
    (live : (s.act now a).1.cancelled = false)
    (coded : ∀ r kind, a = .reply r → r.token.pending = .task .checkCode kind →
      ∀ e, s.entry? kind = some e → e.verification.request = some r.token.id →
        e.verification.codeLength ≠ none) (tidy : s.form.Tidy kind) :
    (s.act now a).1.form.Tidy kind ∨ Turn.Misdates kind ⟨s, now, a⟩ ∨
      Turn.Refuses kind ⟨s, now, a⟩ := by
  by_cases saves : ∃ kind changes, a = .save kind changes
  · obtain ⟨_, changes, rfl⟩ := saves
    refine (save_tidy sound changes tidy).imp_right fun ⟨same, field, told⟩ => .inl ?_
    exact ⟨changes, field, congrArg (Action.save · changes) same, told⟩
  · by_cases ticks : a = .tick
    · subst ticks
      exact .inl (tick_tidy live tidy)
    · by_cases restarts : a = .restart
      · subst restarts
        refine .inl fun e he => ?_
        have empty : s.restart.form = .empty := congrArg Prod.fst (desk_restart live_before)
        have he : s.restart.form.entry? kind = some e := he
        rw [empty] at he
        cases he
      · have tends := act_tends live coded (fun kind changes h => saves ⟨kind, changes, h⟩) ticks
          restarts
        refine (tends.tidy kind tidy).imp_right fun ⟨⟨r, ha, ht⟩, field, told⟩ => .inr ?_
        exact ⟨r, field, ha, ht, told⟩

end Session

/-! ## Along a run -/

namespace Run

variable {setup : Setup} {past : History} {s : Session} {kind : Kind}

/-- Only an entry that has been sent a code waits for the reply to a check of one. -/
theorem coded (run : Run setup past s) (live : s.cancelled = false) {action : Session.Action}
    (genuine : past.Genuine action) (r : Reply) (kind : Kind) (ha : action = .reply r)
    (ht : r.token.pending = .task .checkCode kind) (e : Entry) (he : s.entry? kind = some e)
    (waiting : e.verification.request = some r.token.id) : e.verification.codeLength ≠ none := by
  obtain rfl := Form.kind_of_entry he
  have books := run.books live
  have issued : r.token ∈ past.tokens := genuine _ (ha ▸ rfl)
  have kept := books.entries e (Form.mem_of_entry he)
  exact (kept.fits books.unique issued ht waiting).2 rfl

/-- What is untidy in an open session was left behind by a bad date or by a refusal of the server. -/
theorem residue (run : Run setup past s) (live : s.cancelled = false) {e : Entry}
    (he : s.form.entry? kind = some e) (untidy : ¬ e.Tidy) :
    past.Residue kind (Turn.Misdates kind) ∨ past.Residue kind (Turn.Refuses kind) := by
  induction run generalizing e with
  | start => cases he
  | @step past s now action run _ genuine ih =>
      have live_before : s.cancelled = false := (run.acts now action).live live
      have left : ∃ e, (Turn.after ⟨s, now, action⟩).form.entry? kind = some e ∧ e.AtRest ∧
          ¬ e.Cleared := ⟨e, he, by simpa [Entry.Tidy] using untidy⟩
      by_cases tidy : s.form.Tidy kind
      · rcases Session.act_tidy run.gated.toSound live_before live (run.coded live_before genuine)
          tidy with tidy | misdated | refused
        · exact absurd (tidy e he) untidy
        · exact .inl ⟨left, .inl misdated⟩
        · exact .inr ⟨left, .inl refused⟩
      · obtain ⟨x, hx, untidy⟩ : ∃ x, s.form.entry? kind = some x ∧ ¬ x.Tidy := by
          simpa [Form.Tidy] using tidy
        exact (ih live_before hx untidy).imp (fun earlier => ⟨left, .inr earlier⟩)
          fun earlier => ⟨left, .inr earlier⟩

theorem not_residue_of_cleared (run : Run setup past s) {e : Entry} {sort : Turn → Prop}
    (found : s.form.entry? kind = some e) (cleared : e.Cleared) : ¬ past.Residue kind sort := by
  intro residue
  cases run with
  | start => exact residue
  | step =>
      obtain ⟨⟨x, hx, -, uncleared⟩, -⟩ := residue
      obtain rfl := Option.some.inj (hx.symm.trans found)
      exact uncleared cleared

/-- Edit buffers mirror what is committed. In an open session the buffer of an entry without an editor
and with nothing under way has the committed fields and no files, unless what was given with a bad date
is still there to be put right, or, by a fault, what the server has refused. -/
theorem buffer_mirrors (run : Run setup past s) (live : s.cancelled = false) {e : Entry}
    (he : e ∈ s.form.entries) (rest : e.AtRest) :
    e.Cleared ↔ ¬ past.Residue e.kind (Turn.Misdates e.kind) ∧
      ¬ past.Residue e.kind (Turn.Refuses e.kind) := by
  have found : s.form.entry? e.kind = some e := Form.entry?_of_mem run.gated.distinct he
  constructor
  · intro cleared
    exact ⟨run.not_residue_of_cleared found cleared, run.not_residue_of_cleared found cleared⟩
  · rintro ⟨undated, unrefused⟩
    by_contra uncleared
    exact (run.residue live found fun tidy => uncleared (tidy rest)).elim undated unrefused

/-- The editor of a phone number was closed while the number was being saved, and then the save
failed: the number that was given is gone. -/
theorem buffer_mirrors_after_failure :
    let actions := [(7, .reply ⟨⟨4, .task .save .phone⟩, .failed ⟨"SOME_ERROR"⟩⟩),
        (6, .stopEdit .phone), (5, .save .phone (.ofTexts [(Kind.plainField, "1999")])),
        (4, .startEdit .phone)] ++
      opening ⟨1, [[⟨.phone, false, false, false⟩]], none⟩ [.phone "1555"]
    let past := (play (.fresh .plain .empty) actions).1
    let s := (play (.fresh .plain .empty) actions).2
    ∃ e ∈ s.form.entries, e.kind = .phone ∧ e.AtRest ∧ e.draftFields.text Kind.plainField = "1555" ∧
      ¬ past.Residue .phone (Turn.Misdates .phone) ∧ ¬ past.Residue .phone (Turn.Refuses .phone) := by
  intro actions past s
  have playable : Playable (.fresh .plain .empty) actions := by decide +kernel
  have run : Run .plain past s := .of_playable playable
  have at_rest : ∃ e ∈ s.form.entries, e.kind = .phone ∧ e.AtRest ∧
      e.draftFields.text Kind.plainField = "1555" ∧ e.Cleared := by decide +kernel
  obtain ⟨e, he, hk, rest, text, cleared⟩ := at_rest
  have clean := (buffer_mirrors run (by decide +kernel) he rest).1 cleared
  exact ⟨e, he, hk, rest, text, hk ▸ clean⟩

/-- The same, but the server refuses the number. No date was bad, and yet the refused number is still
in the buffer of the phone, at rest and without an editor. -/
theorem refused_edit_stays :
    let actions := [(7, .reply ⟨⟨4, .task .save .phone⟩, .failed ⟨"PHONE_NUMBER_INVALID"⟩⟩),
        (6, .stopEdit .phone), (5, .save .phone (.ofTexts [(Kind.plainField, "1999")])),
        (4, .startEdit .phone)] ++
      opening ⟨1, [[⟨.phone, false, false, false⟩]], none⟩ [.phone "1555"]
    let past := (play (.fresh .plain .empty) actions).1
    let s := (play (.fresh .plain .empty) actions).2
    Run .plain past s ∧ s.cancelled = false ∧ ¬ past.Residue .phone (Turn.Misdates .phone) ∧
      ∃ e ∈ s.form.entries, e.kind = .phone ∧ e.AtRest ∧ e.fields.text Kind.plainField = "1555" ∧
        e.draftFields.text Kind.plainField = "1999" := by
  intro actions past s
  have playable : Playable (.fresh .plain .empty) actions := by decide +kernel
  refine ⟨.of_playable playable, by decide +kernel, ?_, by decide +kernel⟩
  -- Until the answer came the number was being saved, and so nothing was at rest before.
  rintro ⟨-, ⟨_, _, saves, -⟩ | ⟨⟨e, he, rest, -⟩, -⟩⟩
  · cases saves
  · have busy : ∀ e ∈ (play (.fresh .plain .empty) actions.tail).2.form.entry? .phone, ¬ e.AtRest := by
      decide +kernel
    exact busy e he rest

/-- A passport is saved without an editor and with a date that does not exist. The buffer keeps what
was given, the files included, and that is how it is meant. -/
example :
    let actions := (4, .save (.identity .passport) (.ofTexts [("expiry_date", "31.02.2030")])) ::
      opening passportForm [scannedPassport]
    ∃ e ∈ (play (.fresh .plain .empty) actions).2.form.entries, e.AtRest ∧
      e.draftFields.text "expiry_date" = "31.02.2030" ∧ e.fields.text "expiry_date" = "" ∧
      e.draftFiles ≠ .empty := by
  decide +kernel

end Run

end IdentityForm
