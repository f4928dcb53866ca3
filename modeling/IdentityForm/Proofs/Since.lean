import IdentityForm.Proofs.Accounting
import IdentityForm.Proofs.Contents

/-! # Since the edit buffer was filled

The turns of a run since an edit buffer last held what is committed decide what a later save may
leave out. There may be no such turns: an editor that opens on a busy entry finds the edit buffer
empty and leaves it so, and nothing fills it before the next save.
-/

namespace IdentityForm

/-! ## What happened to an edit buffer -/

namespace Turn

def Fills (kind : Kind) (t : Turn) : Prop := ∀ e ∈ t.after.form.entry? kind, e.Mirrors

/-- After the turn the edit buffer is empty, or the committed files have only just arrived. -/
def Empties (kind : Kind) (t : Turn) : Prop :=
  (∃ e ∈ t.after.form.entry? kind, e.draftFiles = .empty) ∨
    t.before.secretReady = false ∧ t.after.secretReady = true

/-- The mark on the draft in a slot is taken back, and there was room for that. -/
def Restores (kind : Kind) (slot : Slot) (t : Turn) : Prop :=
  (∃ place, t.action = .restoreScan kind place ∧ place.Same slot) ∧
    ∀ e ∈ t.after.form.entry? kind, ∀ d ∈ e.draftFiles.get? slot, d.deleted = false

instance (kind : Kind) (t : Turn) : Decidable (t.Fills kind) :=
  inferInstanceAs (Decidable (∀ e ∈ t.after.form.entry? kind, e.Mirrors))

instance (kind : Kind) (t : Turn) : Decidable (t.Empties kind) :=
  inferInstanceAs (Decidable (_ ∨ _))

end Turn

namespace History

/-- The turns since the edit buffer last held the committed files, unless it was emptied since. -/
def sinceFilled (kind : Kind) : History → Option History
  | [] => some []
  | t :: past =>
    if t.Fills kind then some []
    else if t.Empties kind then none
    else (sinceFilled kind past).map (t :: ·)

theorem sinceFilled_of_fills {kind : Kind} {t : Turn} (fills : t.Fills kind) (past : History) :
    sinceFilled kind (t :: past) = some [] := if_pos fills

theorem sinceFilled_of_empties {kind : Kind} {t : Turn} (unfilled : ¬ t.Fills kind)
    (empties : t.Empties kind) (past : History) : sinceFilled kind (t :: past) = none :=
  (if_neg unfilled).trans (if_pos empties)

theorem sinceFilled_of_going_on {kind : Kind} {t : Turn} (unfilled : ¬ t.Fills kind)
    (going_on : ¬ t.Empties kind) (past : History) :
    sinceFilled kind (t :: past) = (sinceFilled kind past).map (t :: ·) :=
  (if_neg unfilled).trans (if_neg going_on)

/-- The file in a slot was marked for removal, and that was not taken back. -/
def Removed (kind : Kind) (slot : Slot) : History → Prop
  | [] => False
  | t :: past => t.action.Removes kind slot ∨ Removed kind slot past ∧ ¬ t.Restores kind slot

def Replaced (kind : Kind) (role : Role) (past : History) : Prop :=
  ∃ t ∈ past, t.action.Uploads kind role

/-- Editors were first opened on entries that were unlocked and not busy. -/
def Orderly (kind : Kind) (past : History) : Prop :=
  ∀ t ∈ past, t.action = .startEdit kind → t.before.secretReady = true ∧
    ∀ e ∈ t.before.form.entry? kind, e.editors = 0 → e.isBusy = false

end History

/-! ## The entry of a kind in a turn -/

theorem Entry.Unopened.stopped {a : Session.Action} {e : Entry} (h : e.Unopened a) :
    e.stopped.Unopened a := by
  refine ⟨h.unedited, fun ha => ?_⟩
  obtain ⟨-, -, length, uploading⟩ := Entry.quiet_iff.1 (h.quiet ha)
  exact Entry.quiet_iff.2 ⟨rfl, rfl, length, uploading⟩

namespace Session

/-- What holds of the entry of a kind, unless the unlocking is an excuse and has come. -/
def Has (kind : Kind) (excuse : Prop) (P : Entry → Prop) (s : Session) : Prop :=
  excuse ∧ s.secretReady = true ∨ ∀ e, s.form.entry? kind = some e → P e

variable {s s' : Session} {now : Nat} {a : Action} {r : Reply} {kind : Kind} {excuse : Prop}
  {P : Entry → Prop}

theorem entry_modify (gated : s.core.Gated) {e : Entry} {g : Entry → Entry}
    (he : s.form.entry? e.kind = some e) (hk : (g e).kind = e.kind)
    (hg : e.kind = kind → P e → P (g e)) (holds : ∀ e, s.form.entry? kind = some e → P e) :
    ∀ x, Form.entry? (s.form.modify e.kind g) kind = some x → P x := by
  intro x hx
  by_cases same : e.kind = kind
  · subst same
    obtain rfl := Option.some.inj ((Form.entry?_modify he hk).symm.trans hx)
    exact hg rfl (holds e he)
  · exact holds x ((Form.entry?_modify_other gated.distinct he hk same).symm.trans hx)

theorem Move.has (h : Move now a s s') (gated : s.core.Gated)
    (fate : ∀ e e', e.kind = kind → e.Fate a e' → P e → P e') (has : s.Has kind excuse P) :
    s'.Has kind excuse P := by
  cases h with
  | rest es core =>
      have form : s'.form = s.form := congrArg Core.form core
      have ready : s'.secretReady = s.secretReady := congrArg Core.secretReady core
      rwa [Has, form, ready]
  | ask errand r _ _ _ _ _ _ core =>
      have form : s'.form = s.form := congrArg Core.form core
      have ready : s'.secretReady = s.secretReady := congrArg Core.secretReady core
      rwa [Has, form, ready]
  | entry e g es he change core =>
      have form : s'.form = s.form.modify e.kind g := congrArg Core.form core
      have ready : s'.secretReady = s.secretReady := congrArg Core.secretReady core
      rw [Has, form, ready]
      refine has.imp_right (entry_modify gated he change.kind_eq fun hk => ?_)
      exact fate e (g e) hk change.fate
  | abandon es _ core =>
      have form : s'.form = .empty := congrArg Core.form core
      refine .inr fun e he => ?_
      rw [form] at he
      cases he

theorem Settle.has (h : Settle now r s s') (gated : s.core.Gated)
    (fate : ∀ e e', e.kind = kind → e.Fate (.reply r) e' → P e → P e')
    (blank : ∀ e : Entry, e.files = .empty → e.draftFiles = .empty → e.editors = 0 → P e)
    (unlock : s.secretReady = false → excuse ∨ ∀ elements errors e,
      Form.entry? (s.form.takeElements elements errors) kind = some e → P e)
    (has : ∀ e, s.form.entry? kind = some e → P e) : s'.Has kind excuse P := by
  cases h with
  | errand errand es _ _ core =>
      have form : s'.form = s.form := congrArg Core.form core
      rw [Has, form]
      exact .inr has
  | form received es _ _ _ core =>
      have form : s'.form = .ofAuthorization received := congrArg Core.form core
      refine .inr fun e he => ?_
      rw [form] at he
      obtain ⟨kind, rfl⟩ := Form.mem_ofAuthorization (Form.mem_of_entry he)
      exact blank _ rfl rfl rfl
  | unlock password elements errors es _ hw _ core =>
      have form : s'.form = s.form.takeElements elements errors := congrArg Core.form core
      have ready : s'.secretReady = true := congrArg Core.secretReady core
      have locked := gated.locked_of_awaits hw
      rw [Has, form]
      exact (unlock locked).imp (⟨·, ready⟩) fun holds => holds elements errors
  | task task e g es _ he _ uptake core =>
      have form : s'.form = s.form.modify e.kind g := congrArg Core.form core
      rw [Has, form]
      refine .inr (entry_modify gated he uptake.kind_eq (fun hk => ?_) has)
      exact fate e (g e) hk uptake.fate

theorem Close.has (h : Close s s') (stopped : ∀ e, P e → P e.stopped)
    (has : s.Has kind excuse P) : s'.Has kind excuse P := by
  have entries : s'.form.entries = s.form.entries.map Entry.stopped :=
    congrArg (fun c => c.form.entries) h.core
  have ready : s'.secretReady = s.secretReady := congrArg Core.secretReady h.core
  rw [Has, ready]
  apply has.imp_right
  intro holds x hx
  rw [Form.entry?, entries, List.find?_map, Option.map_eq_some_iff] at hx
  obtain ⟨e, he, rfl⟩ := hx
  exact stopped e (holds e he)

theorem Acts.has (h : Acts now a s s') (gated : s.core.Gated)
    (fate : ∀ e e', e.kind = kind → e.Fate a e' → P e → P e')
    (blank : ∀ e : Entry, e.files = .empty → e.draftFiles = .empty → e.editors = 0 → P e)
    (unlock : s.secretReady = false → excuse ∨ ∀ elements errors e,
      Form.entry? (s.form.takeElements elements errors) kind = some e → P e)
    (stopped : ∀ e, P e → P e.stopped) (start : ∀ e, s.form.entry? kind = some e → P e) :
    s'.Has kind excuse P := by
  refine (h.induction (P := fun t => t.core.Gated ∧ t.Has kind excuse P) ?_ ?_ ?_ ?_).2
  · rintro t t' move ⟨gated, has⟩
    exact ⟨move.gated gated, move.has gated fate has⟩
  · rintro r t rfl _ _ settle
    exact ⟨settle.gated gated, settle.has gated fate blank unlock start⟩
  · rintro t t' close ⟨gated, has⟩
    exact ⟨close.gated gated, close.has stopped has⟩
  · exact ⟨gated, .inr start⟩

/-- Nothing is locked again as long as there are entries. -/
theorem Acts.ready (h : Acts now a s s') (ready : s.secretReady = true) :
    s'.secretReady = true ∨ s'.form.entries = [] := by
  refine h.induction (P := fun t => t.secretReady = true ∨ t.form.entries = []) ?_ ?_ ?_ (.inl ready)
  · intro t t' move before
    cases move with
    | rest es core =>
        have form : t'.form = t.form := congrArg Core.form core
        have ready : t'.secretReady = t.secretReady := congrArg Core.secretReady core
        rwa [form, ready]
    | ask errand r _ _ _ _ _ _ core =>
        have form : t'.form = t.form := congrArg Core.form core
        have ready : t'.secretReady = t.secretReady := congrArg Core.secretReady core
        rwa [form, ready]
    | entry e g es he change core =>
        have form : t'.form = t.form.modify e.kind g := congrArg Core.form core
        have ready : t'.secretReady = t.secretReady := congrArg Core.secretReady core
        rw [form, ready]
        exact before.imp_right fun none_there => by simp [Form.modify, none_there]
    | abandon es _ core => exact .inr (congrArg (fun c => c.form.entries) core)
  · intro r t _ _ _ settle
    refine .inl ?_
    cases settle with
    | errand errand es _ _ core => exact (congrArg Core.secretReady core).trans ready
    | form form es _ _ _ core => exact (congrArg Core.secretReady core).trans ready
    | unlock _ _ _ es _ _ _ core => exact congrArg Core.secretReady core
    | task task e g es _ _ _ _ core => exact (congrArg Core.secretReady core).trans ready
  · intro t t' close before
    have entries : t'.form.entries = t.form.entries.map Entry.stopped :=
      congrArg (fun c => c.form.entries) close.core
    have ready : t'.secretReady = t.secretReady := congrArg Core.secretReady close.core
    rw [entries, ready]
    exact before.imp_right fun none_there => by simp [none_there]

end Session

/-! ## Along a run -/

namespace Run

open Session

variable {setup : Setup} {past : History} {s : Session} {kind : Kind}

theorem untied_after {now : Nat} {action : Session.Action} (run : Run setup past s)
    (untied : ∀ e, s.form.entry? kind = some e → e.Untied) :
    ∀ e, (Turn.after ⟨s, now, action⟩).form.entry? kind = some e → e.Untied ∨ e.Mirrors := by
  have has : (s.act now action).1.Has kind False
      fun e => e.Untied ∨ action.handlesDrafts = false ∧ e.Mirrors := by
    refine (run.acts now action).has run.gated (fun e e' _ fate => fate.untied) ?_ ?_ ?_ ?_
    · exact fun e _ empty _ => .inl (Entry.untied_of_empty empty)
    · exact fun locked => .inr fun elements errors e he =>
        .inl (run.untied_takeElements locked elements errors e (Form.mem_of_entry he))
    · exact fun e h => h
    · exact fun e he => .inl (untied e he)
  intro e he
  rcases has with ⟨excused, -⟩ | has
  · exact excused.elim
  · exact (has e he).imp_right And.right

/-- A buffer that covers the committed files goes on covering them, unless it is emptied or they
have only just arrived. -/
theorem covers_after {now : Nat} {action : Session.Action} {removed : Slot → Prop}
    {replaced : Role → Prop} (run : Run setup past s)
    (hr : ∀ slot, action.Removes kind slot → removed slot)
    (hp : ∀ role, action.Uploads kind role → replaced role)
    (covers : ∀ e, s.form.entry? kind = some e → e.Covers removed replaced) :
    (Turn.after ⟨s, now, action⟩).Has kind (s.secretReady = false)
      fun e => e.Covers removed replaced ∨ e.Emptied action := by
  have has : (s.act now action).1.Has kind (s.secretReady = false)
      fun e => e.Covers removed replaced ∨ e.Emptied action := by
    refine (run.acts now action).has run.gated ?_ ?_ .inl ?_ ?_
    · rintro e e' rfl fate
      exact fate.covers hr hp
    · exact fun e bare empty _ => .inl (Entry.mirrors_of_bare bare empty).covers
    · exact fun e h => h.imp_right fun emptied => ⟨emptied.toUnopened.stopped, emptied.empty⟩
    · exact fun e he => .inl (covers e he)
  exact has

/-- Since it was filled, an edit buffer covers the committed files up to what was removed or replaced
in it. One that was emptied since holds nothing that is committed. -/
theorem buffered (run : Run setup past s) : ∀ e, s.form.entry? kind = some e →
    (∀ turns : History, past.sinceFilled kind = some turns →
      e.Covers (fun slot => turns.Removed kind slot) fun role => turns.Replaced kind role) ∧
    (past.sinceFilled kind = none → e.Untied) := by
  induction run with
  | start => exact fun e he => by cases he
  | @step past s now action run ordered genuine ih =>
      intro e he
      let t : Turn := ⟨s, now, action⟩
      by_cases fills : t.Fills kind
      · have since := History.sinceFilled_of_fills fills past
        refine ⟨fun turns _ => (fills e he).covers, fun none_ => ?_⟩
        exact absurd (since.symm.trans none_) (by simp)
      · have unfilled : ¬ e.Mirrors := fun mirrors =>
          fills fun e' he' => Option.some.inj (he.symm.trans he') ▸ mirrors
        have untied (before : ∀ e, s.form.entry? kind = some e → e.Untied) : e.Untied :=
          (run.untied_after before e he).resolve_right unfilled
        by_cases empties : t.Empties kind
        · have since := History.sinceFilled_of_empties fills empties past
          refine ⟨fun turns some_ => absurd (since.symm.trans some_) (by simp), fun _ => ?_⟩
          rcases empties with ⟨e', he', empty⟩ | ⟨locked, -⟩
          · obtain rfl := Option.some.inj (he.symm.trans he')
            exact Entry.untied_of_empty empty
          · exact untied fun e he => ((run.proper.entries e (Form.mem_of_entry he)).bare locked).2
        · have since := History.sinceFilled_of_going_on fills empties past
          refine ⟨fun turns some_ => ?_, fun none_ => ?_⟩
          · obtain ⟨earlier, before, rfl⟩ := Option.map_eq_some_iff.1 (since.symm.trans some_)
            let removed (slot : Slot) : Prop :=
              History.Removed kind slot earlier ∨ action.Removes kind slot
            let replaced (role : Role) : Prop :=
              History.Replaced kind role earlier ∨ action.Uploads kind role
            have start : ∀ e, s.form.entry? kind = some e → e.Covers removed replaced := fun e he =>
              ((ih e he).1 earlier before).mono (fun _ _ _ _ => .inl) fun _ => .inl
            have covers : e.Covers removed replaced := by
              rcases run.covers_after (fun _ => .inr) (fun _ => .inr) start with unlocked | has
              · exact absurd (.inr unlocked) empties
              · apply (has e he).resolve_right
                intro emptied
                exact empties (.inl ⟨e, he, emptied.empty⟩)
            refine covers.mono (fun slot d hd deleted removed => ?_) fun role replaced => ?_
            · refine removed.symm.imp_right fun before => ⟨before, fun restores => ?_⟩
              exact absurd ((restores.2 e he d hd).symm.trans deleted) (by simp)
            · rcases replaced with ⟨t', ht', uploads⟩ | uploads
              · exact ⟨t', List.mem_cons_of_mem _ ht', uploads⟩
              · exact ⟨t, List.mem_cons_self, uploads⟩
          · have before := Option.map_eq_none_iff.1 (since.symm.trans none_)
            exact untied fun e he => (ih e he).2 before

theorem unedited_after {now : Nat} {action : Session.Action} (run : Run setup past s)
    (ha : action ≠ .startEdit kind) (unedited : ∀ e, s.form.entry? kind = some e → e.editors = 0) :
    ∀ e, (Turn.after ⟨s, now, action⟩).form.entry? kind = some e → e.editors = 0 := by
  have has : (s.act now action).1.Has kind False fun e => e.editors = 0 := by
    refine (run.acts now action).has run.gated ?_ ?_ ?_ (fun _ => id) unedited
    · exact fun e e' hk fate => fate.unedited (hk ▸ ha)
    · exact fun e _ _ unedited => unedited
    · refine fun locked => .inr fun elements errors e he => ?_
      refine Form.takeElements_forall (P := fun e => e.kind = kind → e.editors = 0) ?_ ?_ ?_ e
        (Form.mem_of_entry he) (Form.kind_of_entry he)
      · exact fun e element _ unedited => unedited
      · intro e x unedited
        obtain ⟨_, _, _, _, _, _, applied, -⟩ := e.applyError_eq x
        rw [applied]
        exact unedited
      · exact fun e he hk => unedited e (hk ▸ Form.entry?_of_mem run.gated.distinct he)
  intro e he
  exact (has.resolve_left fun excused => excused.1) e he

/-- The first editor on an entry that is not busy fills the edit buffer. -/
theorem mirrors_after_startEdit {now : Nat} (run : Run setup past s) (ready : s.secretReady = true)
    (idle : ∀ e, s.form.entry? kind = some e → e.editors = 0 ∧ e.isBusy = false) :
    ∀ e, (Turn.after ⟨s, now, .startEdit kind⟩).form.entry? kind = some e →
      e.editors ≠ 0 → e.Mirrors := by
  have has : (s.act now (.startEdit kind)).1.Has kind False
      fun e => e.Unopened (.startEdit kind) ∨ e.Mirrors := by
    refine (run.acts now _).has run.gated (fun e e' _ fate => fate.opened rfl) ?_ ?_ ?_ ?_
    · exact fun e bare empty _ => .inr (Entry.mirrors_of_bare bare empty)
    · exact fun locked => absurd (locked.symm.trans ready) (by simp)
    · exact fun e => Or.imp_left Entry.Unopened.stopped
    · exact fun e he => .inl ⟨(idle e he).1, fun _ => (idle e he).2⟩
  intro e he editing
  rcases (has.resolve_left fun excused => excused.1) e he with unopened | mirrors
  · exact absurd unopened.unedited editing
  · exact mirrors

/-- While an editor is open that was first opened on an unlocked entry that was not busy, the edit
buffer is not emptied. -/
theorem filled_of_orderly (run : Run setup past s) (orderly : past.Orderly kind) :
    ∀ e, s.form.entry? kind = some e → e.editors ≠ 0 →
      s.secretReady = true ∧ past.sinceFilled kind ≠ none := by
  induction run with
  | start => exact fun e he => by cases he
  | @step past s now action run ordered genuine ih =>
      intro e he editing
      let t : Turn := ⟨s, now, action⟩
      have ih := ih fun t ht => orderly t (List.mem_cons_of_mem _ ht)
      have still_ready (ready : s.secretReady = true) : t.after.secretReady = true := by
        apply ((run.acts now action).ready ready).resolve_right
        intro none_there
        have there : e ∈ (s.act now action).1.form.entries := Form.mem_of_entry he
        rw [none_there] at there
        cases there
      have filled_of_mirrors (mirrors : e.Mirrors) :
          History.sinceFilled kind (t :: past) ≠ none := by
        have fills : t.Fills kind := fun e' he' => Option.some.inj (he.symm.trans he') ▸ mirrors
        exact fun none_ => absurd
          ((History.sinceFilled_of_fills fills past).symm.trans none_) (by simp)
      by_cases before : ∃ e, s.form.entry? kind = some e ∧ e.editors ≠ 0
      · obtain ⟨e₀, he₀, editing₀⟩ := before
        obtain ⟨ready, since⟩ := ih e₀ he₀ editing₀
        obtain ⟨turns, since⟩ := Option.ne_none_iff_exists'.1 since
        refine ⟨still_ready ready, ?_⟩
        by_cases mirrors : e.Mirrors
        · exact filled_of_mirrors mirrors
        · have start : ∀ e, s.form.entry? kind = some e →
              e.Covers (fun _ => True) fun _ => True := fun e he =>
            ((run.buffered e he).1 turns since).mono (fun _ _ _ _ _ => trivial) fun _ _ => trivial
          have covers : e.Covers (fun _ => True) fun _ => True := by
            rcases run.covers_after (fun _ _ => trivial) (fun _ _ => trivial) start with
              ⟨locked, -⟩ | has
            · exact absurd (locked.symm.trans ready) (by simp)
            · exact (has e he).resolve_right fun emptied => editing emptied.unedited
          have unfilled : ¬ t.Fills kind := fun fills => mirrors (fills e he)
          have going_on : ¬ t.Empties kind := by
            rintro (⟨e', he', empty⟩ | ⟨locked, -⟩)
            · obtain rfl := Option.some.inj (he.symm.trans he')
              exact mirrors (covers.mirrors_of_empty empty)
            · exact absurd (locked.symm.trans ready) (by simp)
          have goes_on := History.sinceFilled_of_going_on unfilled going_on past
          rw [since] at goes_on
          exact fun none_ => absurd (goes_on.symm.trans none_) (by simp)
      · have unedited : ∀ e, s.form.entry? kind = some e → e.editors = 0 := fun e he => by
          by_contra editing
          exact before ⟨e, he, editing⟩
        by_cases ha : action = .startEdit kind
        · obtain ⟨ready, idle⟩ := orderly t List.mem_cons_self ha
          subst ha
          refine ⟨still_ready ready, filled_of_mirrors ?_⟩
          refine run.mirrors_after_startEdit ready (fun e he => ?_) e he editing
          exact ⟨unedited e he, idle e he (unedited e he)⟩
        · exact absurd (run.unedited_after ha unedited e he) editing

end Run

end IdentityForm
