import IdentityForm.Proofs.Mirror
import IdentityForm.Proofs.Password
import IdentityForm.Proofs.Sent

/-! # Saves that are still to be reported

A save that has nothing to write marks its entry and is reported at the next tick. The kinds that are
still to be reported are those of the marked entries, each once. Until the tick nothing is sent for a
marked entry and nothing is reported of it, whatever else happens; the tick then reports it once.
-/

namespace IdentityForm

/-! ## Saves that have nothing to write -/

namespace Session

def write? (s : Session) (kind : Kind) : Option WriteState := (s.form.entry? kind).map Entry.write

/-- A save would be taken in, and would find nothing to write. -/
def NothingToWrite (s : Session) (kind : Kind) (changes : Fields) : Prop :=
  s.secretReady = true ∧ s.awaited.submit = none ∧ ∃ e ∈ s.form.entry? kind,
    e.isBusy = false ∧ e.atSave.failedUpload? = none ∧ e.atSave.isChangedBy changes = false

end Session

/-- A save that was taken in and had nothing to write. -/
def Turn.Unneeded (kind : Kind) (t : Turn) : Prop :=
  ∃ changes, t.action = .save kind changes ∧ t.before.NothingToWrite kind changes

/-- There was a save that had nothing to write, and since then no tick and no new start. -/
def History.Deferred (kind : Kind) : History → Prop
  | [] => False
  | t :: past => t.Unneeded kind ∨ Deferred kind past ∧ t.action ≠ .tick ∧ t.action ≠ .restart

/-! ## What is about an entry -/

namespace Effect

/-- A request for the entry of a kind, or the report that it has been saved. -/
def isAbout (kind : Kind) : Effect → Bool
  | .request r => r.kind? = some kind
  | .notice n => n = .saveFinished kind

variable {x : Effect} {kind other : Kind} {es : List Effect}

theorem not_about_of_concerns (hne : other ≠ kind) (concerns : x.Concerns other) :
    x.isAbout kind = false := by
  cases x with
  | request r =>
      refine decide_eq_false fun hk => ?_
      rcases concerns with h | h
      · simp [hk] at h
      · exact hne (Option.some.inj (h.symm.trans hk))
  | notice n =>
      refine decide_eq_false ?_
      rintro rfl
      exact hne (concerns kind rfl).symm

theorem not_about_of_calm (calm : x.isCalm = true) : x.isAbout kind = false := by
  cases x with
  | request r =>
      refine decide_eq_false fun hk => ?_
      simp [Session.kind?_of_calm calm] at hk
  | notice n =>
      refine decide_eq_false ?_
      rintro rfl
      cases calm

theorem not_about_of_silent (tokens : tokensOf es = [])
    (unreported : ∀ kind, .notice (.saveFinished kind) ∉ es) (hx : x ∈ es) :
    x.isAbout kind = false := by
  cases x with
  | request r =>
      exact decide_eq_false (by simp [Request.kind?_of_unissued tokens hx])
  | notice n =>
      refine decide_eq_false ?_
      rintro rfl
      exact unreported kind hx

end Effect

theorem Form.mem_kinds_iff {f : Form} {kind : Kind} :
    kind ∈ f.entries.map Entry.kind ↔ ∃ e, f.entry? kind = some e := by
  rw [← Option.isSome_iff_exists, Form.entry?, List.find?_isSome]
  simp

namespace Entry

/-- The write of the entry is in a certain state, and nothing is verified. -/
def StandsAt (w : WriteState) (e : Entry) : Prop := e.write = w ∧ e.verification = .none

def reported (e : Entry) : Entry :=
  if e.write = .unchanged then { e with write := .idle }.clearIfIdle else e

theorem write_reported_ne (e : Entry) : e.reported.write ≠ .unchanged := by
  unfold reported
  split
  · simp
  · assumption

theorem reported_reported (e : Entry) : e.reported.reported = e.reported :=
  if_neg e.write_reported_ne

theorem StandsAt.reported {e : Entry} (marked : e.StandsAt .unchanged) :
    e.reported.StandsAt .idle := by
  simp [StandsAt, Entry.reported, marked.1, marked.2]

theorem StandsAt.stopped {e : Entry} {w : WriteState} (h : e.StandsAt w) :
    e.stopped.StandsAt .idle :=
  ⟨rfl, by simp [Entry.stopped, h.2, Verification.none]⟩

end Entry

namespace Session

variable {s s' : Session} {now : Nat} {a : Action} {r : Reply} {e e' : Entry} {es : List Effect}
  {kind other : Kind} {changes : Fields}

/-! ## Changes of one entry -/

theorem Change.waits (h : s.Change now a e es e') (ha : a ≠ .tick) (stands : e.StandsAt .unchanged) :
    e'.StandsAt .unchanged ∧ ∀ x ∈ es, x.isAbout e.kind = false := by
  obtain ⟨marked, unverified⟩ := id stands
  have not_quiet : e.isBusy ≠ false := by simp [Entry.isBusy, marked]
  have uncoded : e.verification.codeLength = none := by rw [unverified]; rfl
  cases h with
  | openedFirst _ _ quiet => exact absurd quiet not_quiet
  | blocked _ quiet => exact absurd quiet not_quiet
  | spared _ _ _ quiet => exact absurd quiet not_quiet
  | misdated _ quiet => exact absurd quiet not_quiet
  | saved _ _ _ _ quiet => exact absurd quiet not_quiet
  | deleted _ _ _ quiet => exact absurd quiet not_quiet
  | reported ticks => exact absurd ticks ha
  | calling ticks => exact absurd ticks ha
  | miscoded _ hlength => exact absurd (uncoded.symm.trans hlength) (by simp)
  | checked _ hlength => exact absurd (uncoded.symm.trans hlength) (by simp)
  | uploaded =>
      refine ⟨stands, fun x hx => ?_⟩
      rcases uploading_cases hx with rfl | calm
      · rfl
      · exact Effect.not_about_of_calm calm
  | marked => exact ⟨stands, List.forall_mem_singleton.2 (Effect.not_about_of_calm rfl)⟩
  | givenUp => exact ⟨⟨marked, rfl⟩, List.forall_mem_map.2 fun id _ => rfl⟩
  | _ => exact ⟨by simpa [Entry.StandsAt, updateFile] using stands, List.forall_mem_nil _⟩

theorem Change.rests (h : s.Change now a e es e') (ha : a = .tick) (stands : e.StandsAt .idle) :
    e'.StandsAt .idle ∧ ∀ x ∈ es, x.isAbout e.kind = false := by
  obtain ⟨idle, unverified⟩ := id stands
  subst ha
  cases h with
  | spared ha => cases ha
  | saved ha => cases ha
  | deleted ha => cases ha
  | uploaded ha => cases ha
  | marked ha => split at ha <;> cases ha
  | miscoded ha => cases ha
  | checked ha => cases ha
  | givenUp ha => cases ha
  | reported _ marked => exact absurd (idle.symm.trans marked) (by simp)
  | calling _ waiting => simp [unverified, Verification.none] at waiting
  | _ =>
      exact ⟨by simpa [Entry.StandsAt, Entry.snapshot, updateFile] using stands,
        List.forall_mem_nil _⟩

/-- Only a save marks an entry. -/
theorem Change.unmarked (h : s.Change now a e es e') (saves : ∀ changes, a ≠ .save e.kind changes)
    (unmarked : e.write ≠ .unchanged) : e'.write ≠ .unchanged := by
  cases h with
  | spared ha => exact absurd ha (saves _)
  | saved ha => exact absurd ha (saves _)
  | reported => simp
  | deleted => simp
  | _ => simpa [Entry.snapshot, updateFile] using unmarked

theorem Change.unmarked_of_reports (h : s.Change now a e es e') (unmarked : e.write ≠ .unchanged) :
    ∀ x ∈ es, x ≠ .notice (.saveFinished e.kind) := by
  cases h with
  | reported _ marked => exact absurd marked unmarked
  | uploaded => exact List.forall_mem_map.2 fun r _ => by simp
  | givenUp => exact List.forall_mem_map.2 fun id _ => by simp
  | _ => simp

theorem Uptake.unmarked {task : Task} {outcome : Outcome} (h : s.Uptake now e task outcome es e')
    (unmarked : e.write ≠ .unchanged) : e'.write ≠ .unchanged := by
  cases h <;> simp [unmarked]

/-! ## A condition of one entry, and silence about it -/

theorem filter_outbox {p : Effect → Bool} (outbox : s'.outbox = s.outbox ++ es)
    (silent : ∀ x ∈ es, p x = false) : s'.outbox.filter p = s.outbox.filter p := by
  have none_ : es.filter p = [] := List.filter_eq_nil_iff.2 fun x hx => by simp [silent x hx]
  rw [outbox, List.filter_append, none_, List.append_nil]

section Silence

variable {I : Entry → Prop} {p : Effect → Bool}

/-- A condition that every change of the entry of a kind keeps, without any effect of a certain sort
that is about the entry. -/
structure Hushes (now : Nat) (a : Action) (kind : Kind) (I : Entry → Prop) (p : Effect → Bool) :
    Prop where
  about : ∀ x : Effect, x.isAbout kind = false → p x = false
  change : ∀ t e e' es, Change t now a e es e' → e.kind = kind → I e → I e' ∧ ∀ x ∈ es, p x = false

theorem Move.silent (h : Move now a s s') (hush : Hushes now a kind I p) (gated : s.core.Gated)
    (holds : ∀ e, s.form.entry? kind = some e → I e) :
    (∀ e, s'.form.entry? kind = some e → I e) ∧ s'.outbox.filter p = s.outbox.filter p := by
  cases h with
  | rest es core outbox calm =>
      have form : s'.form = s.form := congrArg Core.form core
      rw [form]
      exact ⟨holds, filter_outbox outbox fun x hx => hush.about x (Effect.not_about_of_calm (calm x hx))⟩
  | ask errand r _ _ ht _ _ _ core outbox =>
      have form : s'.form = s.form := congrArg Core.form core
      rw [form]
      refine ⟨holds, filter_outbox outbox (List.forall_mem_singleton.2 (hush.about _ ?_))⟩
      exact decide_eq_false (by simp [Request.kind?, ht])
  | entry e g es he changes core outbox =>
      have form : s'.form = s.form.modify e.kind g := congrArg Core.form core
      rw [form]
      constructor
      · refine entry_modify gated he changes.kind_eq (fun hk holds => ?_) holds
        exact (hush.change s e (g e) es changes hk holds).1
      · refine filter_outbox outbox fun x hx => ?_
        by_cases hk : e.kind = kind
        · exact (hush.change s e (g e) es changes hk (holds e (hk ▸ he))).2 x hx
        · exact hush.about x (Effect.not_about_of_concerns hk (changes.concerns x hx))
  | abandon es _ core outbox tokens _ unreported =>
      have form : s'.form = .empty := congrArg Core.form core
      rw [form]
      refine ⟨fun e he => (by cases he), filter_outbox outbox fun x hx => hush.about x ?_⟩
      exact Effect.not_about_of_silent tokens unreported hx

theorem Moves.silent (h : Moves now a s s') (hush : Hushes now a kind I p) (gated : s.core.Gated)
    (holds : ∀ e, s.form.entry? kind = some e → I e) :
    (∀ e, s'.form.entry? kind = some e → I e) ∧ s'.outbox.filter p = s.outbox.filter p := by
  induction h with
  | refl => exact ⟨holds, rfl⟩
  | tail earlier move ih =>
      obtain ⟨holds, silent⟩ := ih
      obtain ⟨holds', silent'⟩ := move.silent hush (Moves.gated earlier gated) holds
      exact ⟨holds', silent'.trans silent⟩

theorem Close.silent (h : Close s s') (hush : Hushes now a kind I p) :
    s'.outbox.filter p = s.outbox.filter p := by
  obtain ⟨es, outbox, tokens, -, unreported⟩ := h.effects
  exact filter_outbox outbox fun x hx => hush.about x (Effect.not_about_of_silent tokens unreported hx)

theorem Acts.silent (h : Acts now a s s') (hush : Hushes now a kind I p)
    (unanswered : ∀ r, a ≠ .reply r) (gated : s.core.Gated) (stopped : ∀ e, I e → I e.stopped)
    (holds : ∀ e, s.form.entry? kind = some e → I e) :
    (∀ e, s'.form.entry? kind = some e → I e) ∧ s'.outbox.filter p = s.outbox.filter p := by
  cases h with
  | moves _ moves => exact moves.silent hush gated holds
  | @close mid _ moves close =>
      obtain ⟨holds, silent⟩ := moves.silent hush gated holds
      refine ⟨?_, (close.silent hush).trans silent⟩
      have kept : mid.Has kind False I := .inr holds
      exact (close.has stopped kept).resolve_left fun excused => excused.1
  | dropped ha => exact absurd ha (unanswered _)
  | reply ha => exact absurd ha (unanswered _)

end Silence

/-! ## Marked entries until the tick -/

theorem Settle.waits (h : Settle now r s s') (gated : s.core.Gated)
    (he : s.form.entry? kind = some e) (stands : e.StandsAt .unchanged) :
    (∀ x, s'.form.entry? kind = some x → x.StandsAt .unchanged) ∧
      s'.outbox.filter (Effect.isAbout kind) = s.outbox.filter (Effect.isAbout kind) := by
  obtain ⟨marked, unverified⟩ := id stands
  have there := Form.mem_of_entry he
  have holds : ∀ x, s.form.entry? kind = some x → x.StandsAt .unchanged :=
    fun x hx => Option.some.inj (he.symm.trans hx) ▸ stands
  cases h with
  | errand errand es _ _ core outbox calm =>
      have form : s'.form = s.form := congrArg Core.form core
      rw [form]
      exact ⟨holds, filter_outbox outbox fun x hx => Effect.not_about_of_calm (calm x hx)⟩
  | form received es _ waiting =>
      have none_there : s.form.entries = [] := gated.empty_of_awaits waiting
      rw [none_there] at there
      cases there
  | unlock password elements errors es _ waiting =>
      have idle := (gated.locked (gated.locked_of_awaits waiting) e there).1
      exact absurd (marked.symm.trans idle) (by simp)
  | task task x g es _ hx awaits uptake core outbox =>
      have other : x.kind ≠ kind := by
        rintro rfl
        obtain rfl := Option.some.inj (he.symm.trans hx)
        cases task <;> simp [Entry.awaits?, marked, unverified, Verification.none,
          Verification.callRequest?] at awaits
      have form : s'.form = s.form.modify x.kind g := congrArg Core.form core
      rw [form]
      constructor
      · exact entry_modify gated hx uptake.kind_eq (fun same => absurd same other) holds
      · exact filter_outbox outbox fun x hx => Effect.not_about_of_concerns other (uptake.concerns x hx)

/-- As long as no tick comes, a marked entry stays marked and nothing is sent or reported about it. -/
theorem Acts.waits (h : Acts now a s s') (ha : a ≠ .tick) (gated : s.core.Gated)
    (he : s.form.entry? kind = some e) (stands : e.StandsAt .unchanged) :
    (s'.cancelled = false → ∀ x, s'.form.entry? kind = some x → x.StandsAt .unchanged) ∧
      s'.outbox.filter (Effect.isAbout kind) = s.outbox.filter (Effect.isAbout kind) := by
  have holds : ∀ x, s.form.entry? kind = some x → x.StandsAt .unchanged :=
    fun x hx => Option.some.inj (he.symm.trans hx) ▸ stands
  have hush : Hushes now a kind (Entry.StandsAt .unchanged) (Effect.isAbout kind) :=
    ⟨fun _ => id, fun t e e' es change hk stands => hk ▸ change.waits ha stands⟩
  cases h with
  | moves _ h =>
      obtain ⟨holds, silent⟩ := h.silent hush gated holds
      exact ⟨fun _ => holds, silent⟩
  | close _ h close =>
      have closed : s'.cancelled = true := congrArg Core.cancelled close.core
      refine ⟨fun live => absurd (closed.symm.trans live) (by simp), ?_⟩
      exact (close.silent hush).trans (h.silent hush gated holds).2
  | dropped _ _ same =>
      subst same
      exact ⟨fun _ => holds, rfl⟩
  | reply _ _ _ settles =>
      obtain ⟨mid, settle, h⟩ := settles
      obtain ⟨holds, silent⟩ := settle.waits gated he stands
      obtain ⟨holds', silent'⟩ := h.silent hush (settle.gated gated) holds
      exact ⟨fun _ => holds', silent'.trans silent⟩

theorem Acts.mem_kinds (h : Acts now a s s') (ha : a ≠ .restart) (gated : s.core.Gated)
    (there : kind ∈ s.form.entries.map Entry.kind) : kind ∈ s'.form.entries.map Entry.kind := by
  refine (h.induction (P := fun t => t.core.Gated ∧ kind ∈ t.form.entries.map Entry.kind)
    ?_ ?_ ?_ ⟨gated, there⟩).2
  · rintro t t' move ⟨gated, there⟩
    refine ⟨move.gated gated, ?_⟩
    cases move with
    | rest es core => rwa [show t'.form = t.form from congrArg Core.form core]
    | ask errand r _ _ _ _ _ _ core => rwa [show t'.form = t.form from congrArg Core.form core]
    | entry e g es he change core =>
        rw [show t'.form = t.form.modify e.kind g from congrArg Core.form core]
        exact (Form.kinds_modify gated.distinct he change.kind_eq).symm ▸ there
    | abandon es restarts => exact absurd restarts ha
  · intro r t _ _ _ settle
    refine ⟨settle.gated gated, ?_⟩
    cases settle with
    | errand errand es _ _ core => rwa [show t.form = s.form from congrArg Core.form core]
    | form received es _ waiting =>
        have none_there : s.form.entries = [] := gated.empty_of_awaits waiting
        simp [none_there] at there
    | unlock password elements errors es _ _ _ core =>
        rw [show t.form = s.form.takeElements elements errors from congrArg Core.form core,
          Form.takeElements_map (fun _ _ => rfl) fun e x => (e.applyError_keeps x).1]
        exact there
    | task task e g es _ he _ uptake core =>
        rw [show t.form = s.form.modify e.kind g from congrArg Core.form core]
        exact (Form.kinds_modify gated.distinct he uptake.kind_eq).symm ▸ there
  · rintro t t' close ⟨gated, there⟩
    refine ⟨close.gated gated, ?_⟩
    rw [show t'.form.entries = t.form.entries.map Entry.stopped from
      congrArg (fun c => c.form.entries) close.core, List.map_map]
    exact there

/-! ## Reporting -/

theorem entry?_finishUnchanged (s : Session) (kind other : Kind) :
    (s.finishUnchanged kind).form.entry? other =
      if kind = other then (s.form.entry? other).map Entry.reported else s.form.entry? other := by
  unfold finishUnchanged
  cases he : s.entry? kind with
  | none =>
      dsimp only
      split
      · rename_i here
        have absent : s.form.entry? other = none := here ▸ he
        rw [absent, Option.map_none]
      · rfl
  | some e =>
      obtain rfl := kind_of_entry he
      have found : s.form.entry? e.kind = some e := he
      dsimp only
      by_cases marked : e.write = .unchanged
      · let idle := { e with write := .idle }
        have same : ((s.put idle).clearIfIdle idle.kind).form =
            s.form.modify idle.clearIfIdle.kind fun _ => idle.clearIfIdle :=
          congrArg form (clearIfIdle_put idle)
        rw [if_pos marked]
        show Form.entry? ((s.put idle).clearIfIdle idle.kind).form other = _
        rw [same, Entry.kind_clearIfIdle]
        split
        · rename_i here
          subst here
          rw [Form.entry?_modify_self fun _ _ => Entry.kind_clearIfIdle idle, found, Option.map_some,
            Option.map_some, Entry.reported, if_pos marked]
        · rename_i apart
          exact Form.entry?_modify_ne (fun _ _ => Entry.kind_clearIfIdle idle) apart
      · rw [if_neg marked]
        split
        · rename_i here
          subst here
          rw [found, Option.map_some, Entry.reported, if_neg marked]
        · rfl

theorem outbox_finishUnchanged (s : Session) (kind : Kind) : (s.finishUnchanged kind).outbox =
    s.outbox ++ if s.write? kind = some .unchanged then [.notice (.saveFinished kind)] else [] := by
  unfold finishUnchanged write?
  cases he : s.entry? kind with
  | none =>
      have absent : s.form.entry? kind = none := he
      simp [absent]
  | some e =>
      have found : s.form.entry? kind = some e := he
      dsimp only
      rw [found, Option.map_some]
      by_cases marked : e.write = .unchanged
      · rw [if_pos marked, if_pos (congrArg some marked)]
        rfl
      · rw [if_neg marked, if_neg fun same => marked (Option.some.inj same), List.append_nil]

theorem entry?_finishAll (queue : List Kind) : Form.entry? (queue.foldl finishUnchanged s).form kind =
    if kind ∈ queue then (s.form.entry? kind).map Entry.reported else s.form.entry? kind := by
  induction queue generalizing s with
  | nil => rfl
  | cons first rest ih =>
      rw [List.foldl_cons, ih, entry?_finishUnchanged]
      by_cases here : first = kind
      · have twice : Entry.reported ∘ Entry.reported = Entry.reported :=
          funext Entry.reported_reported
        simp [here, Option.map_map, twice]
      · simp [here, Ne.symm here]

/-- However often a kind is listed, its entry is reported once if it is marked. -/
theorem reports_finishAll (queue : List Kind) :
    (queue.foldl finishUnchanged s).outbox.filter (Effect.isAbout kind) =
      s.outbox.filter (Effect.isAbout kind) ++
        if kind ∈ queue ∧ s.write? kind = some .unchanged then [.notice (.saveFinished kind)]
        else [] := by
  induction queue generalizing s with
  | nil => simp
  | cons first rest ih =>
      rw [List.foldl_cons, ih, outbox_finishUnchanged, List.filter_append, List.append_assoc]
      congr 1
      by_cases here : first = kind
      · subst here
        have reported : (s.finishUnchanged first).write? first ≠ some .unchanged := by
          rw [write?, entry?_finishUnchanged, if_pos rfl]
          cases s.form.entry? first with
          | none => simp
          | some e => simpa using e.write_reported_ne
        have none_left : ¬ (first ∈ rest ∧ (s.finishUnchanged first).write? first = some .unchanged) :=
          fun left => reported left.2
        rw [if_neg none_left, List.append_nil]
        by_cases marked : s.write? first = some .unchanged
        · simp [marked, Effect.isAbout]
        · simp [marked]
      · have same : (s.finishUnchanged first).write? kind = s.write? kind := by
          rw [write?, write?, entry?_finishUnchanged, if_neg here]
        have silent : (if s.write? first = some .unchanged then [.notice (.saveFinished first)]
            else []).filter (Effect.isAbout kind) = [] := by
          split <;> simp [Effect.isAbout, here]
        simp [same, silent, Ne.symm here]

/-! ## The passing of time -/

theorem reportUnchanged_of_live (live : s.cancelled = false) :
    s.reportUnchanged = s.unreported.foldl finishUnchanged { s with unreported := [] } :=
  if_neg (by simp [live])

theorem tick_split (gated : s.core.Gated) (live : s.cancelled = false) (now : Nat) (kind : Kind) :
    ∃ mid : Session, mid.core.Gated ∧ Acts now .tick mid (s.tick now) ∧
      mid.form.entry? kind = (if kind ∈ s.unreported then (s.form.entry? kind).map Entry.reported
        else s.form.entry? kind) ∧
      mid.outbox.filter (Effect.isAbout kind) = s.outbox.filter (Effect.isAbout kind) ++
        if kind ∈ s.unreported ∧ s.write? kind = some .unchanged then [.notice (.saveFinished kind)]
        else [] := by
  let mid := { s.reportUnchanged with
    timers := s.reportUnchanged.timers.filter fun t => ¬ t.1 ≤ now }
  have reports : Moves now .tick s s.reportUnchanged := reportUnchanged_moves rfl
  have looks : Acts now .tick mid (s.tick now) := fires_acts rfl _
  have same := reportUnchanged_of_live live
  refine ⟨mid, reports.gated gated, looks, ?_, ?_⟩
  · show Form.entry? s.reportUnchanged.form kind = _
    rw [same]
    exact entry?_finishAll s.unreported
  · show s.reportUnchanged.outbox.filter (Effect.isAbout kind) = _
    rw [same]
    exact reports_finishAll s.unreported

theorem unreported_tick (live : (s.tick now).cancelled = false) : (s.tick now).unreported = [] := by
  have live_before : s.cancelled = false := (tick_acts rfl).live live
  have emptied : s.reportUnchanged.unreported = [] := by
    rw [reportUnchanged_of_live live_before]
    exact (Upkeeps.foldl (fun s kind => finishUnchanged_tidy kind) _).unreported
  exact (fires_upkeeps _ live).unreported.trans emptied

/-- A tick reports a marked entry once, sends nothing for it, and leaves it idle. -/
theorem tick_marked (gated : s.core.Gated) (live : s.cancelled = false) (queued : kind ∈ s.unreported)
    (he : s.form.entry? kind = some e) (stands : e.StandsAt .unchanged) :
    (s.tick now).outbox.filter (Effect.isAbout kind) =
        s.outbox.filter (Effect.isAbout kind) ++ [.notice (.saveFinished kind)] ∧
      (s.tick now).write? kind = some .idle := by
  have listed : kind ∈ s.unreported ∧ s.write? kind = some .unchanged :=
    ⟨queued, by rw [write?, he, Option.map_some, stands.1]⟩
  obtain ⟨mid, gated_mid, looks, found, reports⟩ := s.tick_split gated live now kind
  rw [if_pos queued, he, Option.map_some] at found
  rw [if_pos listed] at reports
  have rests : ∀ x, mid.form.entry? kind = some x → x.StandsAt .idle :=
    fun x hx => Option.some.inj (found.symm.trans hx) ▸ stands.reported
  have hush : Hushes now .tick kind (Entry.StandsAt .idle) (Effect.isAbout kind) :=
    ⟨fun _ => id, fun t e e' es change hk stands => hk ▸ change.rests rfl stands⟩
  obtain ⟨still, silent⟩ := looks.silent hush (by simp) gated_mid (fun _ => Entry.StandsAt.stopped)
    rests
  have there := looks.mem_kinds (by simp) gated_mid (Form.mem_kinds_iff.2 ⟨_, found⟩)
  obtain ⟨x, hx⟩ := Form.mem_kinds_iff.1 there
  exact ⟨silent.trans reports, by rw [write?, hx, Option.map_some, (still x hx).1]⟩

theorem tick_unmarked (gated : s.core.Gated) (live : s.cancelled = false)
    (drained : s.outbox = []) (unmarked : s.write? kind ≠ some .unchanged) :
    .notice (.saveFinished kind) ∉ (s.tick now).outbox ∧
      (s.tick now).write? kind ≠ some .unchanged := by
  let told := fun x : Effect => decide (x = .notice (.saveFinished kind))
  obtain ⟨mid, gated_mid, looks, found, reports⟩ := s.tick_split gated live now kind
  have unmarked_mid : ∀ e, mid.form.entry? kind = some e → e.write ≠ .unchanged := by
    intro e he marked
    rw [found] at he
    split at he
    · obtain ⟨x, -, rfl⟩ := Option.map_eq_some_iff.1 he
      exact x.write_reported_ne marked
    · exact unmarked (by rw [write?, he, Option.map_some, marked])
  have hush : Hushes now .tick kind (fun e => e.write ≠ .unchanged) told := by
    constructor
    · intro x unrelated
      refine decide_eq_false ?_
      rintro rfl
      simp [Effect.isAbout] at unrelated
    · intro t e e' es change hk unmarked
      refine ⟨change.unmarked (by simp) unmarked, fun x hx => decide_eq_false ?_⟩
      exact hk ▸ change.unmarked_of_reports unmarked x hx
  obtain ⟨holds, silent⟩ := looks.silent hush (by simp) gated_mid
    (fun e _ => by simp [Entry.stopped]) unmarked_mid
  constructor
  · intro reported
    have among : .notice (.saveFinished kind) ∈ mid.outbox.filter told :=
      silent ▸ List.mem_filter.2 ⟨reported, decide_eq_true rfl⟩
    have about : .notice (.saveFinished kind) ∈ mid.outbox.filter (Effect.isAbout kind) :=
      List.mem_filter.2 ⟨(List.mem_filter.1 among).1, decide_eq_true rfl⟩
    rw [reports, drained, if_neg fun h => unmarked h.2] at about
    cases about
  · intro marked
    obtain ⟨e, he, written⟩ := Option.map_eq_some_iff.1 marked
    exact holds e he written

/-! ## Saving -/

/-- A save that has nothing to write marks the entry, which was not marked, and lists it. -/
theorem save_of_nothing (h : s.NothingToWrite kind changes) :
    (s.save kind changes).1.outbox = s.outbox ∧
      (s.save kind changes).1.unreported = s.unreported ++ [kind] ∧
      s.write? kind ≠ some .unchanged ∧
      (s.save kind changes).1.write? kind = some .unchanged := by
  obtain ⟨ready, free, e, he, quiet, sound, unchanged⟩ := h
  have he : s.form.entry? kind = some e := he
  obtain rfl := Form.kind_of_entry he
  have here : s.entry? e.kind = some e := he
  have now_edited : (if e.editors = 0 then e.snapshot else e) = e.atSave := rfl
  have saved : s.save e.kind changes =
      ({ s.put e.atSave.spared with unreported := s.unreported ++ [e.kind] }, none) := by
    unfold save
    rw [if_neg (by simp [ready]), if_neg (by simp [free])]
    simp only [here, now_edited, sound]
    rw [if_neg (by simp [quiet]), if_pos (by simp [unchanged])]
    rfl
  have marked : Form.entry? (s.put e.atSave.spared).form e.kind = some e.atSave.spared :=
    entry?_put (by simp) here
  rw [saved]
  refine ⟨rfl, rfl, ?_, ?_⟩
  · have idle := (Entry.quiet_iff.1 quiet).1
    simp [write?, he, idle]
  · show Option.map Entry.write (Form.entry? (s.put e.atSave.spared).form e.kind) = _
    simp [marked]

theorem save_of_something (h : ¬ s.NothingToWrite kind changes) (other : Kind) :
    (s.save kind changes).1.unreported = s.unreported ∧
      ((s.save kind changes).1.write? other = some .unchanged → s.write? other = some .unchanged) := by
  have put {t : Session} {e x : Entry} (he : s.entry? kind = some e)
      (same : t.desk = (s.put x).desk) (hk : x.kind = e.kind) (hw : x.write ≠ .unchanged) :
      t.unreported = s.unreported ∧
        (t.write? other = some .unchanged → s.write? other = some .unchanged) := by
    obtain rfl := kind_of_entry he
    refine ⟨congrArg Prod.snd same, fun marked => ?_⟩
    have form : t.form = (s.put x).form := congrArg Prod.fst same
    rw [write?, form] at marked
    by_cases here : e.kind = other
    · subst here
      have found : Form.entry? (s.put x).form e.kind = some x := entry?_put hk he
      rw [found] at marked
      exact absurd (Option.some.inj marked) hw
    · have apart : Form.entry? (s.put x).form other = s.form.entry? other :=
        Form.entry?_modify_ne (fun _ _ => rfl) (hk ▸ here)
      rwa [apart] at marked
  have idle {e : Entry} (quiet : e.isBusy = false) : e.atSave.write ≠ .unchanged := by
    simp [(Entry.quiet_iff.1 quiet).1]
  have outcome := s.saving kind changes
  generalize (s.save kind changes).1 = t at outcome
  cases outcome with
  | nothing => exact ⟨rfl, id⟩
  | @blocked e _ he quiet => exact put he (desk_notifyAll _) e.kind_atSave (idle quiet)
  | spared he ready free quiet sound unchanged =>
      exact absurd ⟨ready, free, _, he, quiet, sound, unchanged⟩ h
  | @misdated e _ he quiet => exact put he (desk_notifyAll _) e.kind_atSave (idle quiet)
  | @unkeyed e he _ _ quiet => exact put he rfl e.kind_atSave (idle quiet)
  | @sent e draft _ he _ _ _ _ _ hdraft =>
      exact put he rfl (hdraft ▸ e.kind_atSave) (by simp)

end Session

/-! ## Along a run -/

namespace Run

variable {setup : Setup} {past : History} {s : Session} {kind : Kind}

/-- Nothing is verified for a marked entry of an open session. -/
theorem standsAt_of_marked (run : Run setup past s) (live : s.cancelled = false)
    (marked : s.write? kind = some .unchanged) :
    ∃ e, s.form.entry? kind = some e ∧ e.StandsAt .unchanged := by
  obtain ⟨e, he, written⟩ := Option.map_eq_some_iff.1 marked
  have kept := (run.books live).entries e (Form.mem_of_entry he)
  exact ⟨e, he, written, kept.exclusive.resolve_left (by simp [written])⟩

theorem marked_after (run : Run setup past s) {now : Nat} {action : Session.Action}
    (live : (Turn.after ⟨s, now, action⟩).cancelled = false) (ticks : action ≠ .tick)
    (restarts : action ≠ .restart) (needed : ¬ Turn.Unneeded kind ⟨s, now, action⟩) :
    (Turn.after ⟨s, now, action⟩).write? kind = some .unchanged ↔
      s.write? kind = some .unchanged := by
  have acts := run.acts now action
  have live_before : s.cancelled = false := acts.live live
  constructor
  · intro marked
    by_cases saves : ∃ changes, action = .save kind changes
    · obtain ⟨changes, rfl⟩ := saves
      have something : ¬ s.NothingToWrite kind changes := fun nothing => needed ⟨changes, rfl, nothing⟩
      exact (Session.save_of_something something kind).2 marked
    · by_contra unmarked
      obtain ⟨x, hx, written⟩ := Option.map_eq_some_iff.1 marked
      refine acts.forall_entries (P := fun e => e.kind = kind → e.write ≠ .unchanged) run.gated
        ?_ ?_ ?_ ?_ (fun _ _ _ => by simp [Entry.stopped]) ?_ x (Form.mem_of_entry hx)
        (Form.kind_of_entry hx) written
      · intro t e e' es change unmarked hk
        have hk := change.kind_eq.symm.trans hk
        exact change.unmarked (fun changes ha => saves ⟨changes, hk ▸ ha⟩) (unmarked hk)
      · intro r t e e' task es _ uptake unmarked hk
        exact uptake.unmarked (unmarked (uptake.kind_eq.symm.trans hk))
      · intro form e he _
        simp [(Form.blank_of_mem_ofAuthorization he).1]
      · intro r elements errors _ waiting _
        have locked := run.gated.locked_of_awaits waiting
        refine Form.takeElements_forall ?_ ?_ ?_
        · exact fun e _ _ unmarked hk => unmarked hk
        · intro e x unmarked hk
          obtain ⟨same, write, -⟩ := e.applyError_keeps x
          exact write ▸ unmarked (same ▸ hk)
        · intro e he _
          simp [(run.gated.locked locked e he).1]
      · intro e he hk marked
        have found : s.form.entry? kind = some e := hk ▸ Form.entry?_of_mem run.gated.distinct he
        exact unmarked (by rw [Session.write?, found, Option.map_some, marked])
  · intro marked
    obtain ⟨e, he, stands⟩ := run.standsAt_of_marked live_before marked
    have waits := (acts.waits ticks run.gated he stands).1 live
    have there := acts.mem_kinds restarts run.gated (Form.mem_kinds_iff.2 ⟨e, he⟩)
    obtain ⟨x, hx⟩ := Form.mem_kinds_iff.1 there
    have hx' : (Turn.after ⟨s, now, action⟩).form.entry? kind = some x := hx
    rw [Session.write?, hx', Option.map_some, (waits x hx).1]

theorem count_after (run : Run setup past s) {now : Nat} {action : Session.Action}
    (genuine : past.Genuine action) (live : (Turn.after ⟨s, now, action⟩).cancelled = false)
    (ticks : action ≠ .tick) (restarts : action ≠ .restart)
    (needed : ¬ Turn.Unneeded kind ⟨s, now, action⟩) :
    (Turn.after ⟨s, now, action⟩).unreported.count kind = s.unreported.count kind := by
  have live_before : s.cancelled = false := (run.acts now action).live live
  by_cases saves : ∃ other changes, action = .save other changes
  · obtain ⟨other, changes, rfl⟩ := saves
    show (s.save other changes).1.unreported.count kind = _
    by_cases nothing : s.NothingToWrite other changes
    · have apart : other ≠ kind := by
        rintro rfl
        exact needed ⟨changes, rfl, nothing⟩
      rw [(Session.save_of_nothing nothing).2.1, List.count_append]
      simp [apart]
    · rw [(Session.save_of_something nothing other).1]
  · have tends := Session.act_tends live (run.coded live_before genuine)
      (fun other changes ha => saves ⟨other, changes, ha⟩) ticks restarts
    exact congrArg (List.count kind) tends.unreported

theorem tick_of_marked (run : Run setup past s) (live : s.cancelled = false) (now : Nat)
    (queued : kind ∈ s.unreported) (marked : s.write? kind = some .unchanged) :
    (Turn.effects ⟨s, now, .tick⟩).filter (Effect.isAbout kind) = [.notice (.saveFinished kind)] ∧
      (Turn.after ⟨s, now, .tick⟩).write? kind = some .idle := by
  obtain ⟨e, he, stands⟩ := run.standsAt_of_marked live marked
  obtain ⟨reports, idle⟩ := Session.tick_marked run.gated live queued he stands
  rw [run.outbox_eq_nil] at reports
  exact ⟨reports, idle⟩

/-- The list of what is to be reported has the kinds of the marked entries, each once, and these are
the ones that a save has marked since the last tick. -/
theorem count_unreported (run : Run setup past s) (live : s.cancelled = false) (kind : Kind) :
    s.unreported.count kind = (if s.write? kind = some .unchanged then 1 else 0) ∧
      (s.write? kind = some .unchanged ↔ past.Deferred kind) := by
  induction run with
  | start => exact ⟨rfl, nofun, nofun⟩
  | @step past s now action run _ genuine ih =>
      have live_before : s.cancelled = false := (run.acts now action).live live
      obtain ⟨count, marked⟩ := ih live_before
      by_cases unneeded : Turn.Unneeded kind ⟨s, now, action⟩
      · obtain ⟨changes, rfl, nothing⟩ := id unneeded
        obtain ⟨-, listed, unmarked, marked'⟩ := Session.save_of_nothing nothing
        have marked' : (Turn.after ⟨s, now, .save kind changes⟩).write? kind = some .unchanged :=
          marked'
        have listed : (Turn.after ⟨s, now, .save kind changes⟩).unreported =
          s.unreported ++ [kind] := listed
        rw [if_neg unmarked] at count
        refine ⟨?_, fun _ => .inl unneeded, fun _ => marked'⟩
        rw [if_pos marked', listed, List.count_append, count, List.count_singleton_self]
      · have emptied (unreported : (Turn.after ⟨s, now, action⟩).unreported = [])
            (unmarked : (Turn.after ⟨s, now, action⟩).write? kind ≠ some .unchanged)
            (ended : ¬ (action ≠ .tick ∧ action ≠ .restart)) :
            (Turn.after ⟨s, now, action⟩).unreported.count kind =
              (if (Turn.after ⟨s, now, action⟩).write? kind = some .unchanged then 1 else 0) ∧
            ((Turn.after ⟨s, now, action⟩).write? kind = some .unchanged ↔
              History.Deferred kind (⟨s, now, action⟩ :: past)) := by
          rw [unreported, if_neg unmarked]
          refine ⟨rfl, fun marked => absurd marked unmarked, ?_⟩
          rintro (unneeded' | ⟨-, goes_on⟩)
          · exact absurd unneeded' unneeded
          · exact absurd goes_on ended
        by_cases ticks : action = .tick
        · subst ticks
          refine emptied (Session.unreported_tick live) ?_ (by simp)
          by_cases marked_before : s.write? kind = some .unchanged
          · rw [if_pos marked_before] at count
            have queued : kind ∈ s.unreported := List.count_pos_iff.1 (by omega)
            rw [(run.tick_of_marked live_before now queued marked_before).2]
            simp
          · exact (Session.tick_unmarked run.gated live_before run.outbox_eq_nil marked_before).2
        · by_cases restarts : action = .restart
          · subst restarts
            have desk := Session.desk_restart live_before
            have form : (Turn.after ⟨s, now, .restart⟩).form = .empty := congrArg Prod.fst desk
            refine emptied (congrArg Prod.snd desk) ?_ (by simp)
            rw [Session.write?, form]
            exact nofun
          · have marked_iff := run.marked_after live ticks restarts unneeded
            rw [run.count_after genuine live ticks restarts unneeded, count]
            refine ⟨if_congr marked_iff.symm rfl rfl, marked_iff.trans (marked.trans ?_)⟩
            simp [History.Deferred, unneeded, ticks, restarts]

/-- A save that has nothing to write is reported exactly once. In an open session the kinds to be
reported are those of the marked entries, each once, and an entry is marked as long as neither a tick
nor a new start came after such a save. That save itself sends and shows nothing. Until the tick
nothing is sent for the entry and nothing is reported of it; the tick only reports it, and leaves it
idle. A tick says nothing of entries that are not marked. -/
theorem unneeded_save_reported (run : Run setup past s) (live : s.cancelled = false) (kind : Kind) :
    s.unreported.count kind = (if s.write? kind = some .unchanged then 1 else 0) ∧
    (s.write? kind = some .unchanged ↔ past.Deferred kind) ∧
    (∀ t ∈ past, t.Unneeded kind → t.effects = []) ∧
    (s.write? kind = some .unchanged → ∀ now action, let t : Turn := ⟨s, now, action⟩
      (action ≠ .tick → t.effects.filter (Effect.isAbout kind) = []) ∧
      (action = .tick → t.effects.filter (Effect.isAbout kind) = [.notice (.saveFinished kind)] ∧
        t.after.write? kind = some .idle)) ∧
    (s.write? kind ≠ some .unchanged → ∀ now,
      .notice (.saveFinished kind) ∉ Turn.effects ⟨s, now, .tick⟩) := by
  obtain ⟨count, marked_iff⟩ := run.count_unreported live kind
  refine ⟨count, marked_iff, ?_, ?_, ?_⟩
  · rintro t ht ⟨changes, save, nothing⟩
    obtain ⟨later, earlier, rfl⟩ := List.append_of_mem ht
    have silent : (t.before.act t.now (.save kind changes)).1.outbox = t.before.outbox :=
      (Session.save_of_nothing nothing).1
    show (t.before.act t.now t.action).1.outbox = []
    rw [save, silent, run.before.outbox_eq_nil]
  · intro marked now action t
    rw [if_pos marked] at count
    have queued : kind ∈ s.unreported := List.count_pos_iff.1 (by omega)
    constructor
    · intro ticks
      obtain ⟨e, he, stands⟩ := run.standsAt_of_marked live marked
      have silent := ((run.acts now action).waits ticks run.gated he stands).2
      rwa [run.outbox_eq_nil] at silent
    · rintro rfl
      exact run.tick_of_marked live now queued marked
  · intro unmarked now
    exact (Session.tick_unmarked run.gated live run.outbox_eq_nil unmarked).1

/-- An email is saved as it was, and its editor closed. The next tick reports that, and the one after
it nothing. -/
theorem unneeded_save_reported_after_editing :
    let actions := [(6, .stopEdit .email),
        (5, .save .email (.ofTexts [(Kind.plainField, "a@b.c")])), (4, .startEdit .email)] ++
      opening ⟨1, [[⟨.email, false, false, false⟩]], none⟩ [.email "a@b.c"]
    let past := (play (.fresh .plain .empty) actions).1
    let s := (play (.fresh .plain .empty) actions).2
    let t : Turn := ⟨s, 7, .tick⟩
    past.Deferred .email ∧ s.unreported = [.email] ∧
      t.effects = [.notice (.saveFinished .email)] ∧ t.after.write? .email = some .idle ∧
      .notice (.saveFinished .email) ∉ Turn.effects ⟨t.after, 8, .tick⟩ := by
  intro actions past s t
  have playable : Playable (.fresh .plain .empty) actions := by decide +kernel
  have run : Run .plain past s := .of_playable playable
  have playable' : Playable (.fresh .plain .empty) ((7, .tick) :: actions) := by decide +kernel
  have run' : Run .plain (t :: past) t.after := .of_playable playable'
  have marked : s.write? .email = some .unchanged := by decide +kernel
  obtain ⟨-, deferred, -, reports, -⟩ := unneeded_save_reported run (by decide +kernel) .email
  obtain ⟨-, -, -, -, silent⟩ := unneeded_save_reported run' (by decide +kernel) .email
  have idle := ((reports marked 7 .tick).2 rfl).2
  refine ⟨deferred.1 marked, by decide +kernel, by decide +kernel, idle, silent ?_ 8⟩
  rw [idle]
  simp

end Run

end IdentityForm
