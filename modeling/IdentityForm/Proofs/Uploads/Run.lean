import IdentityForm.Proofs.Uploads

/-! # Uploads along a run

Every move keeps an upload in its slot until it ends. What a run started is held by one slot, was
reported or cancelled, or went with the buffer of an entry that was written meanwhile.
-/

namespace IdentityForm

namespace Session

variable {s s' : Session} {now : Nat} {a : Action} {r : Reply} {log : List UInt64} {key : UInt64}

theorem Move.tracks (h : Move now a s s') (gated : s.core.Gated)
    (ih : (log ++ uploadsOf s.outbox).Nodup → s.form.Tracks (log ++ uploadsOf s.outbox))
    (distinct : (log ++ uploadsOf s'.outbox).Nodup) :
    s'.form.Tracks (log ++ uploadsOf s'.outbox) := by
  have appended {es : List Effect} (outbox : s'.outbox = s.outbox ++ es) :
      (log ++ uploadsOf s.outbox).Nodup ∧ (∀ key ∈ uploadsOf es, key ∉ log ++ uploadsOf s.outbox) ∧
        log ++ uploadsOf s'.outbox = (log ++ uploadsOf s.outbox) ++ uploadsOf es := by
    have split : log ++ uploadsOf s'.outbox = (log ++ uploadsOf s.outbox) ++ uploadsOf es := by
      rw [outbox, uploadsOf_append, List.append_assoc]
    rw [split] at distinct
    obtain ⟨before, -, apart⟩ := List.nodup_append.1 distinct
    exact ⟨before, fun key new old => apart key old key new rfl, split⟩
  cases h with
  | rest es core outbox =>
      obtain ⟨before, -, split⟩ := appended outbox
      have form : s'.form = s.form := congrArg Core.form core
      rw [form, split]
      exact (ih before).mono
  | ask errand q _ _ _ _ _ _ core outbox =>
      obtain ⟨before, -, split⟩ := appended outbox
      have form : s'.form = s.form := congrArg Core.form core
      rw [form, split]
      exact (ih before).mono
  | entry e g es he change core outbox =>
      obtain ⟨before, fresh, split⟩ := appended outbox
      have form : s'.form = s.form.modify e.kind g := congrArg Core.form core
      rw [form, split]
      by_cases started : ∃ key role bytes, .request (.uploadFile key role bytes) ∈ es
      · obtain ⟨key, role, bytes, sent⟩ := started
        refine (ih before).modify gated.distinct he change.kind_eq (e.draftFiles.nextSlot role)
          fresh fun slot key' held => ?_
        refine (change.holds held).imp_right ?_
        rintro ⟨role', bytes', sent', same⟩
        rw [change.role_eq sent sent']
        exact ⟨mem_uploadsOf.2 ⟨role', bytes', sent'⟩, same⟩
      · refine (ih before).modify gated.distinct he change.kind_eq ⟨.scan, none⟩ fresh
          fun slot key' held => .inl ((change.holds held).resolve_right ?_)
        rintro ⟨role', bytes', sent', -⟩
        exact started ⟨key', role', bytes', sent'⟩
  | abandon es _ core => exact .of_nil (congrArg (fun c => c.form.entries) core)

theorem Settle.tracks (h : Settle now r s s') (gated : s.core.Gated)
    (before : s.form.Tracks log) : s'.form.Tracks log := by
  cases h with
  | errand errand es _ _ core => exact (show s'.form = s.form from congrArg Core.form core) ▸ before
  | form form es _ _ _ core =>
      refine (show s'.form = .ofAuthorization form from congrArg Core.form core) ▸ ?_
      refine before.of_holds fun e' he' slot key held => ?_
      obtain ⟨kind, rfl⟩ := Form.mem_ofAuthorization he'
      exact absurd held (Entry.not_holds_empty rfl)
  | unlock _ elements errors es _ _ _ core =>
      refine (show s'.form = s.form.takeElements elements errors from congrArg Core.form core) ▸ ?_
      refine before.of_holds fun e' he' slot key held => ?_
      obtain ⟨e, he, hk, hd⟩ :=
        Form.exists_of_drafts_eq (s.form.drafts_takeElements elements errors) he'
      exact ⟨e, he, hk, held.of_eq hd.symm⟩
  | task task e g es _ he _ uptake core =>
      refine (show s'.form = s.form.modify e.kind g from congrArg Core.form core) ▸ ?_
      have kept : (s.form.modify e.kind g).Tracks (log ++ []) :=
        before.modify gated.distinct he uptake.kind_eq ⟨.scan, none⟩ (by simp)
          fun _ _ held => .inl (uptake.holds held)
      rwa [List.append_nil] at kept

theorem Move.runs (h : Move now a s s') (gated : s.core.Gated) (runs : s.form.Runs key) :
    s'.form.Runs key ∨ a.ends? = some key ∨ .request (.cancelUpload key) ∈ s'.outbox := by
  cases h with
  | rest es core => exact .inl ((show s'.form = s.form from congrArg Core.form core) ▸ runs)
  | ask errand q _ _ _ _ _ _ core =>
      exact .inl ((show s'.form = s.form from congrArg Core.form core) ▸ runs)
  | entry e g es he change core outbox =>
      rw [show s'.form = s.form.modify e.kind g from congrArg Core.form core, outbox]
      refine runs.modify gated.distinct he fun slot running => ?_
      exact (change.runs running).imp_right (Or.imp_right (List.mem_append_right _))
  | abandon es _ _ outbox _ _ _ _ _ stopped =>
      obtain ⟨e, he, running⟩ := runs
      refine .inr (.inr ?_)
      rw [outbox]
      exact List.mem_append_right _ (stopped e he key (Entry.mem_runningKeys.2 running))

theorem Move.starts (h : Move now a s s') (started : key ∈ uploadsOf s'.outbox) :
    key ∈ uploadsOf s.outbox ∨ s'.form.Runs key := by
  cases h with
  | rest es _ outbox calm =>
      rw [outbox, uploadsOf_append, uploadsOf_of_calm calm, List.append_nil] at started
      exact .inl started
  | ask errand q _ hq _ _ _ _ _ outbox =>
      rw [outbox, uploadsOf_append, List.mem_append] at started
      refine started.imp_right fun new => ?_
      obtain ⟨role, bytes, sent⟩ := mem_uploadsOf.1 new
      cases List.mem_singleton.1 sent
      cases hq
  | entry e g es he change core outbox =>
      rw [outbox, uploadsOf_append, List.mem_append] at started
      refine started.imp_right fun new => ?_
      obtain ⟨role, bytes, sent⟩ := mem_uploadsOf.1 new
      obtain ⟨slot, runs⟩ := change.starts sent
      rw [show s'.form = s.form.modify e.kind g from congrArg Core.form core]
      exact ⟨g e, Form.mem_of_entry (Form.entry?_modify he change.kind_eq), slot, runs⟩
  | abandon es _ _ outbox _ _ _ _ unstarted =>
      rw [outbox, uploadsOf_append, List.mem_append] at started
      refine started.imp_right fun new => ?_
      obtain ⟨role, bytes, sent⟩ := mem_uploadsOf.1 new
      exact absurd sent (unstarted key role bytes)

/-- A reply stops an upload only if it writes the entry. -/
theorem Settle.runs (h : Settle now r s s') (gated : s.core.Gated) (runs : s.form.Runs key) :
    s'.form.Runs key ∨ ∃ e ∈ s.form.entries, (∃ slot, e.Runs slot key) ∧ r.Writes e.kind := by
  cases h with
  | errand errand es _ _ core =>
      exact .inl ((show s'.form = s.form from congrArg Core.form core) ▸ runs)
  | form form es _ hw =>
      -- Before the form came there was no entry that could upload anything.
      have asked : s.core.awaited.form ≠ none := fun none_ => absurd (hw.symm.trans none_) (by simp)
      have bare : s.form.entries = [] := gated.unasked (gated.asked asked)
      obtain ⟨e, he, -⟩ := runs
      simp [bare] at he
  | unlock _ elements errors es _ _ _ core =>
      rw [show s'.form = s.form.takeElements elements errors from congrArg Core.form core]
      obtain ⟨e, he, slot, running⟩ := runs
      obtain ⟨e', he', -, hd⟩ :=
        Form.exists_of_drafts_eq (s.form.drafts_takeElements elements errors).symm he
      exact .inl ⟨e', he', slot, running.of_eq hd⟩
  | task task e g es ht he _ uptake core =>
      rw [show s'.form = s.form.modify e.kind g from congrArg Core.form core]
      refine runs.modify gated.distinct he fun slot running => ?_
      exact (uptake.runs ht running).imp_right
        fun writes => ⟨e, Form.mem_of_entry he, ⟨slot, running⟩, writes⟩

theorem Settle.uploadsOf_eq (h : Settle now r s s') : uploadsOf s'.outbox = uploadsOf s.outbox := by
  have appended {es : List Effect} (outbox : s'.outbox = s.outbox ++ es)
      (silent : uploadsOf es = []) : uploadsOf s'.outbox = uploadsOf s.outbox := by
    rw [outbox, uploadsOf_append, silent, List.append_nil]
  cases h with
  | errand _ es _ _ _ outbox calm => exact appended outbox (uploadsOf_of_calm calm)
  | form _ es _ _ _ _ outbox calm => exact appended outbox (uploadsOf_of_calm calm)
  | unlock _ _ _ es _ _ _ _ outbox calm => exact appended outbox (uploadsOf_of_calm calm)
  | task _ e g es _ _ _ uptake _ outbox =>
      refine appended outbox (List.eq_nil_iff_forall_not_mem.2 fun key new => ?_)
      obtain ⟨role, bytes, sent⟩ := mem_uploadsOf.1 new
      exact uptake.starts_none sent

theorem Close.tracks (h : Close s s') (before : s.form.Tracks log) : s'.form.Tracks log := by
  refine (show s'.form = { s.form with entries := s.form.entries.map Entry.stopped } from
    congrArg Core.form h.core) ▸ ?_
  refine before.of_holds fun e' he' slot key held => ?_
  obtain ⟨e, he, rfl⟩ := List.mem_map.1 he'
  exact ⟨e, he, rfl, held⟩

theorem cancelUpload_mem_of_runs {key : UInt64} (runs : s.form.Runs key) :
    .request (.cancelUpload key) ∈ s.stops.map Effect.request := by
  obtain ⟨e, he, running⟩ := runs
  exact cancelUpload_mem_stops he (Entry.mem_runningKeys.2 running)

theorem form_of_writes (now : Nat) {kind : Kind} (live : s.cancelled = false)
    (awaits : s.core.Awaits r.token) (writes : r.Writes kind) :
    ∃ g : Entry → Entry, (∀ e slot key, ¬ (g e).Holds slot key) ∧
      (s.handleReply now r).form = s.form.modify kind g := by
  unfold Core.Awaits at awaits
  unfold handleReply
  rw [if_neg (by simp [live])]
  rcases writes with ⟨ht, element, ho, hk⟩ | ⟨ht, response, ho⟩
  · rw [ht] at awaits ⊢
    obtain ⟨e, he, hw⟩ := awaits
    have he : s.entry? kind = some e := he
    refine ⟨fun e => { e with write := .idle }.commit element.contents,
      fun _ _ _ => Entry.not_holds_commit _, ?_⟩
    simp only [he, hw, if_true, taskDone, saveDone, ho, hk]
    rfl
  · rw [ht] at awaits ⊢
    obtain ⟨e, he, hw⟩ := awaits
    have he : s.entry? kind = some e := he
    refine ⟨Entry.reset, fun _ _ _ => Entry.not_holds_reset, ?_⟩
    simp only [he, hw, if_true, taskDone, deleteDone, ho]
    rfl

/-! ## Starting over and closing -/

theorem stops_subset_restart (live : s.cancelled = false) :
    s.stops.map .request ⊆ s.restart.outbox := by
  unfold restart
  rw [if_neg (by simp [live])]
  have shown (u : Session) : Moves 0 .restart u u.display := display_moves
  intro x hx
  refine (shown _).outbox_subset ?_
  show x ∈ s.abort.outbox
  rw [outbox_abort]
  exact List.mem_append_right _ hx

theorem stops_subset_cancelSurely (live : s.cancelled = false) :
    s.stops.map .request ⊆ s.cancelSurely.outbox := by
  unfold cancelSurely
  rw [if_neg (by simp [live])]
  intro x hx
  have stopped : x ∈ { s with cancelled := true }.abort.outbox := by
    rw [outbox_abort]
    exact List.mem_append_right _ hx
  exact List.mem_append_left _ stopped

end Session

namespace Run

open Session

variable {setup : Setup} {past : History} {s : Session} {t : Turn} {key : UInt64}

/-- Along a run with distinct keys every upload stands in one slot. -/
theorem tracks (run : Run setup past s) (distinct : past.uploads.Nodup) :
    s.form.Tracks past.uploads := by
  induction run with
  | start => exact .of_nil rfl
  | @step past s now action run ordered genuine ih =>
      let P (u : Session) : Prop := (past.uploads ++ uploadsOf u.outbox).Nodup →
        u.form.Tracks (past.uploads ++ uploadsOf u.outbox)
      have start : P s := by
        intro distinct
        rw [run.outbox_eq_nil] at distinct ⊢
        exact (ih (List.append_nil past.uploads ▸ distinct)).mono
      have after : (s.act now action).1.core.Gated ∧ P (s.act now action).1 := by
        refine (run.acts now action).induction (P := fun u => u.core.Gated ∧ P u) ?_ ?_ ?_
          ⟨run.gated, start⟩
        · exact fun _ _ move ⟨gated, before⟩ => ⟨move.gated gated, move.tracks gated before⟩
        · refine fun _ u _ _ _ settle => ⟨settle.gated run.gated, fun distinct => ?_⟩
          rw [settle.uploadsOf_eq] at distinct ⊢
          exact settle.tracks run.gated (start distinct)
        · refine fun u u' close ⟨gated, before⟩ => ⟨close.gated gated, fun distinct => ?_⟩
          obtain ⟨es, outbox, -⟩ := close.effects
          rw [outbox, uploadsOf_append, ← List.append_assoc] at distinct ⊢
          exact (close.tracks (before (List.nodup_append.1 distinct).1)).mono
      rw [History.uploads_cons] at distinct ⊢
      exact after.2 distinct

/-- An upload that was started runs on, unless it is over. -/
theorem runs_or_over (run : Run setup past s) (live : s.cancelled = false)
    (started : key ∈ past.uploads) : s.form.Runs key ∨ past.Over key := by
  induction run with
  | start => cases started
  | @step past s now action run ordered genuine ih =>
      let t : Turn := ⟨s, now, action⟩
      have acts := run.acts now action
      have live_after : (s.act now action).1.cancelled = false := live
      have live_before := acts.live live_after
      let P (u : Session) : Prop := key ∈ past.uploads ++ uploadsOf u.outbox →
        u.form.Runs key ∨ past.Over key ∨ t.Reports key ∨
          .request (.cancelUpload key) ∈ u.outbox ∨ t.Wipes past key
      have before {u : Session} (same : uploadsOf u.outbox = uploadsOf s.outbox)
          (started : key ∈ past.uploads ++ uploadsOf u.outbox) : s.form.Runs key ∨ past.Over key := by
        rw [same, run.outbox_eq_nil, show uploadsOf [] = [] from rfl, List.append_nil] at started
        exact ih live_before started
      have after : (s.act now action).1.core.Gated ∧
          ((s.act now action).1.cancelled = false → P (s.act now action).1) := by
        refine acts.induction (P := fun u => u.core.Gated ∧ (u.cancelled = false → P u)) ?_ ?_ ?_
          ⟨run.gated, fun _ started => (before rfl started).imp_right .inl⟩
        · rintro u u' move ⟨gated, ih⟩
          refine ⟨move.gated gated, fun live started => ?_⟩
          have goes_on (runs : u.form.Runs key) : u'.form.Runs key ∨ past.Over key ∨
              t.Reports key ∨ .request (.cancelUpload key) ∈ u'.outbox ∨ t.Wipes past key := by
            rcases move.runs gated runs with runs | reported | stopped
            · exact .inl runs
            · exact .inr (.inr (.inl reported))
            · exact .inr (.inr (.inr (.inl stopped)))
          have earlier (started : key ∈ past.uploads ++ uploadsOf u.outbox) :
              u'.form.Runs key ∨ past.Over key ∨ t.Reports key ∨
                .request (.cancelUpload key) ∈ u'.outbox ∨ t.Wipes past key := by
            rcases ih (move.cancelled_eq ▸ live) started with
              runs | ended | reported | stopped | wiped
            · exact goes_on runs
            · exact .inr (.inl ended)
            · exact .inr (.inr (.inl reported))
            · exact .inr (.inr (.inr (.inl (move.outbox_subset stopped))))
            · exact .inr (.inr (.inr (.inr wiped)))
          rcases List.mem_append.1 started with old | new
          · exact earlier (List.mem_append_left _ old)
          · rcases move.starts new with old | runs
            · exact earlier (List.mem_append_right _ old)
            · exact .inl runs
        · intro r u ha live awaits settle
          refine ⟨settle.gated run.gated, fun _ started => ?_⟩
          rcases before settle.uploadsOf_eq started with runs | ended
          · rcases settle.runs run.gated runs with runs | ⟨e, he, running, writes⟩
            · exact .inl runs
            · have issued : r.token ∈ past.tokens := genuine _ (ha ▸ rfl)
              have outstanding := run.outstanding_of_awaits live issued awaits
              exact .inr (.inr (.inr (.inr ⟨e, he, running, r, ha, outstanding, writes⟩)))
          · exact .inr (.inl ended)
        · rintro u u' close ⟨gated, -⟩
          refine ⟨close.gated gated, fun live => ?_⟩
          exact absurd (live.symm.trans (congrArg Core.cancelled close.core)) (by simp)
      have within := started
      rw [History.uploads_cons] at within
      rcases after.2 live_after within with runs | ended | reported | stopped | wiped
      · exact .inl runs
      · exact .inr (.inr ended)
      · exact .inr (.inl ⟨started, .inl reported⟩)
      · exact .inr (.inl ⟨started, .inr (.inl stopped)⟩)
      · exact .inr (.inl ⟨started, .inr (.inr wiped)⟩)

theorem not_found_of_wipes (run : Run setup past s) (live : s.cancelled = false)
    (distinct : past.uploads.Nodup) {now : Nat} {action : Session.Action}
    (wipes : Turn.Wipes past key ⟨s, now, action⟩) :
    (s.act now action).1.form.findUpload? key = none := by
  obtain ⟨e, he, ⟨slot, runs⟩, r, ha, outstanding, writes⟩ := wipes
  have ha : action = .reply r := ha
  subst ha
  have awaits := run.awaits_of_outstanding live outstanding
  obtain ⟨g, bare, form⟩ := form_of_writes now live awaits writes
  show (s.handleReply now r).form.findUpload? key = none
  rw [form]
  cases found : (s.form.modify e.kind g).findUpload? key with
  | none => rfl
  | some place =>
      obtain ⟨x, hx, -, -, held⟩ := Form.holds_of_findUpload? found
      have here : s.form.entry? e.kind = some e := Form.entry?_of_mem run.gated.distinct he
      rcases Form.mem_modify run.gated.distinct here hx with rfl | ⟨hx, other⟩
      · exact absurd held (bare e _ key)
      · exact absurd ((run.tracks distinct).once x hx e he _ slot key held runs.holds).1 other

/-- The accounting of uploads. With distinct keys every upload that was started is held by one slot,
which is found by its key, or it is over: reported to have ended, cancelled, or in the buffer of an
entry while that was saved or deleted. Closing and starting over cancel every upload that is not over.
A save or a deletion that succeeds does not wait for uploads that were started after it: none of them
is found any more. -/
theorem uploads_accounted (run : Run setup past s) (live : s.cancelled = false)
    (distinct : past.uploads.Nodup) :
    (∀ key ∈ past.uploads, s.form.HoldsOnce key ∨ past.Over key) ∧
    (∀ key ∈ past.uploads, ¬ past.Over key →
      .request (.cancelUpload key) ∈ s.cancelSurely.outbox ∧
        .request (.cancelUpload key) ∈ s.restart.outbox) ∧
    ∀ (t : Turn) (earlier : History) key, past = t :: earlier → t.Wipes earlier key →
      s.form.findUpload? key = none := by
  refine ⟨fun key started => ?_, fun key started unfinished => ?_, ?_⟩
  · refine (run.runs_or_over live started).imp_left ?_
    rintro ⟨e, he, slot, runs⟩
    exact (run.tracks distinct).holdsOnce he runs.holds
  · have runs := (run.runs_or_over live started).resolve_right unfinished
    have stopped := cancelUpload_mem_of_runs runs
    exact ⟨stops_subset_cancelSurely live stopped, stops_subset_restart live stopped⟩
  · rintro t earlier key rfl wipes
    cases run with
    | step now action run _ _ =>
        have live_before := (run.acts now action).live live
        rw [History.uploads_cons] at distinct
        have before : (History.uploads earlier).Nodup := (List.nodup_append.1 distinct).1
        exact run.not_found_of_wipes live_before before wipes

/-- A front side was replaced while it was uploading. The first upload is over, and closing cancels
the second one. -/
theorem uploads_accounted_after_replacement :
    let kind : Kind := .identity .passport
    let actions := [(5, .upload kind .frontSide 2 0 []), (4, .upload kind .frontSide 1 0 []),
      (4, .startEdit kind)] ++ opening ⟨1, [[⟨kind, false, false, false⟩]], none⟩ []
    let past := (play (.fresh .plain .empty) actions).1
    let s := (play (.fresh .plain .empty) actions).2
    past.uploads = [1, 2] ∧ s.cancelled = false ∧ past.Over 1 ∧ ¬ past.Over 2 ∧
      s.form.HoldsOnce 2 ∧ .request (.cancelUpload 2) ∈ s.cancelSurely.outbox := by
  intro kind actions past s
  have playable : Playable (.fresh .plain .empty) actions := by decide +kernel
  have started : past.uploads = [1, 2] := by decide +kernel
  have live : s.cancelled = false := by decide +kernel
  have distinct : past.uploads.Nodup := by rw [started]; decide
  have accounted := uploads_accounted (.of_playable playable) live distinct
  have ended : past.Over 1 := by
    refine (accounted.1 1 (by rw [started]; decide)).resolve_left ?_
    rintro ⟨place, found, -⟩
    have lost : s.form.findUpload? 1 = none := by decide +kernel
    exact absurd (found.symm.trans lost) (by simp)
  have unfinished : ¬ past.Over 2 := by
    rintro (⟨-, reported | stopped | ⟨e, -, -, r, ha, -⟩⟩ | earlier)
    · cases reported
    · revert stopped
      decide +kernel
    · cases ha
    · have unstarted : 2 ∉ History.uploads (past.drop 1) := by decide +kernel
      exact unstarted (History.started_of_over earlier)
  have second : 2 ∈ past.uploads := by rw [started]; decide
  refine ⟨started, live, ended, unfinished, ?_, ?_⟩
  · exact (accounted.1 2 second).resolve_right unfinished
  · exact (accounted.2.1 2 second unfinished).1

/-- A file was uploading when a save that was under way succeeded. No slot holds the upload, no event
of it came, it was not cancelled, and closing does not cancel it. -/
theorem uploads_lost :
    let kind : Kind := .identity .passport
    let echo : StoredElement := .identity .passport ⟨"AB2", none, none, none, none, []⟩
    let actions := [(6, .reply ⟨⟨4, .task .save kind⟩, .ok (.element echo)⟩),
        (5, .upload kind .rendition 1 0 []),
        (4, .save kind (.ofTexts [("document_no", "AB2")])), (4, .startEdit kind)] ++
      opening ⟨1, [[⟨kind, false, false, false⟩]], none⟩ []
    let past := (play (.fresh .plain .empty) actions).1
    let s := (play (.fresh .plain .empty) actions).2
    Run .plain past s ∧ s.cancelled = false ∧ past.uploads = [1] ∧
      s.form.findUpload? 1 = none ∧ (∀ t ∈ past, ¬ t.Reports 1) ∧
      .request (.cancelUpload 1) ∉ past.log ∧
      .request (.cancelUpload 1) ∉ s.cancelSurely.outbox ∧
      .request (.cancelUpload 1) ∉ s.restart.outbox := by
  intro kind echo actions past s
  have playable : Playable (.fresh .plain .empty) actions := by decide +kernel
  refine ⟨.of_playable playable, ?_, ?_, ?_, ?_, ?_, ?_, ?_⟩ <;> decide +kernel

end Run

end IdentityForm
