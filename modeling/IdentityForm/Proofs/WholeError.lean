import IdentityForm.Proofs.Contents
import IdentityForm.Proofs.Requirements

/-! # Errors on a plain text as a whole

A phone number and an address of mail are a single text, and what is wrong with them is said of its
field. But what the server finds wrong with a single file is said of the entry as a whole if there is
no such file, whatever its kind. A plain text never has one, so that it carries the last such error
until it is filled anew; nothing else puts an error on it.
-/

namespace IdentityForm

def ErrorSource.special? : ErrorSource → Option Role
  | .frontSide => some .frontSide
  | .reverseSide => some .reverseSide
  | .selfie => some .selfie
  | _ => none

/-! ## One entry -/

/-- What the server has to say about one entry. -/
inductive ServerCall where
  | fill (c : Contents)
  | commit (c : Contents)
  | applyError (x : ElementError)
  | reset

namespace Entry

variable {e : Entry} {m : String} {calls : List ServerCall}

/-- The error is about a single file that the entry does not have. -/
def misses (e : Entry) (x : ElementError) : Bool :=
  x.source.special?.any fun role => (e.files.get? ⟨role, none⟩).isNone

theorem misses_applyError (e : Entry) (x y : ElementError) :
    (e.applyError x).misses y = e.misses y := by
  simp only [misses, ← Option.not_isSome, isSome_files_applyError]

theorem error_placeError (plain : e.kind.isPlain = true) (x : ElementError) :
    (e.placeError x.message x.source).error = if e.misses x then some x.message else e.error := by
  have file (slot : Slot) (otherwise : Entry) :
      (e.setFileError slot x.message otherwise).error =
        if (e.files.get? slot).isNone then otherwise.error else e.error := by
    unfold setFileError
    cases e.files.get? slot <;> rfl
  cases hs : x.source with
  | unspecified => simp [placeError, misses, hs, ErrorSource.special?, Kind.canHaveError, plain]
  | frontSide => simp [placeError, misses, hs, ErrorSource.special?, file]
  | reverseSide => simp [placeError, misses, hs, ErrorSource.special?, file]
  | selfie => simp [placeError, misses, hs, ErrorSource.special?, file]
  | file index => simp [placeError, misses, hs, ErrorSource.special?, file]
  | renditionFile index => simp [placeError, misses, hs, ErrorSource.special?, file]
  | _ => simp [placeError, misses, hs, ErrorSource.special?]

theorem error_applyError (plain : e.kind.isPlain = true) (x : ElementError) :
    (e.applyError x).error = if e.misses x then some x.message else e.error := by
  rw [← error_placeError plain x, applyError]
  split <;> rfl

def call (e : Entry) : ServerCall → Entry
  | .fill c => e.fill c
  | .commit c => e.commit c
  | .applyError x => e.applyError x
  | .reset => e.reset

theorem kind_call (e : Entry) (c : ServerCall) : (e.call c).kind = e.kind := by
  cases c with
  | fill c => rfl
  | commit c => exact kind_commit e c
  | applyError x => exact (e.applyError_keeps x).1
  | reset => exact congrArg RequiredKind.kind e.required_reset

/-- Nothing but errors, and none about a file that is missing. -/
def Passes (e : Entry) (calls : List ServerCall) : Prop :=
  ∀ c ∈ calls, ∃ x, c = .applyError x ∧ e.misses x = false

/-- The last call that touches the error of the whole puts one there. -/
def Blames (e : Entry) (m : String) (calls : List ServerCall) : Prop :=
  ∃ earlier x later, calls = earlier ++ .applyError x :: later ∧ x.message = m ∧
    (earlier.foldl call e).misses x = true ∧ (earlier.foldl call e).Passes later

theorem blames_cons {c : ServerCall} : e.Blames m (c :: calls) ↔
    (∃ x, c = .applyError x ∧ x.message = m ∧ e.misses x = true ∧ e.Passes calls) ∨
      (e.call c).Blames m calls := by
  constructor
  · rintro ⟨_ | ⟨_, earlier⟩, x, later, split, said, missing, passes⟩
    · obtain ⟨rfl, rfl⟩ := List.cons.inj split
      exact .inl ⟨x, rfl, said, missing, passes⟩
    · obtain ⟨rfl, rfl⟩ := List.cons.inj split
      exact .inr ⟨earlier, x, later, rfl, said, missing, passes⟩
  · rintro (⟨x, rfl, said, missing, passes⟩ | ⟨earlier, x, later, rfl, said, missing, passes⟩)
    · exact ⟨[], x, calls, rfl, said, missing, passes⟩
    · exact ⟨c :: earlier, x, later, rfl, said, missing, passes⟩

theorem passes_applyError {x : ElementError} : (e.applyError x).Passes calls ↔ e.Passes calls := by
  simp only [Passes, misses_applyError]

/-- The error of a plain text as a whole comes from a file that was missing, and goes with the next
call that is not about an error. -/
theorem error_calls (plain : e.kind.isPlain = true) : (calls.foldl call e).error = some m ↔
    e.Blames m calls ∨ e.error = some m ∧ e.Passes calls := by
  induction calls generalizing e with
  | nil => simp [Blames, Passes]
  | cons c calls ih =>
      have clean (none_ : (e.call c).error = none) (other : ∀ x, c ≠ .applyError x) :
          ((c :: calls).foldl call e).error = some m ↔
            e.Blames m (c :: calls) ∨ e.error = some m ∧ e.Passes (c :: calls) := by
        have fails : ¬ e.Passes (c :: calls) := fun passes => by
          obtain ⟨x, same, -⟩ := passes c List.mem_cons_self
          exact other x same
        rw [List.foldl_cons, ih ((kind_call e c).symm ▸ plain), none_, blames_cons]
        simp [fails, other]
      cases c with
      | fill c => exact clean rfl (by simp)
      | commit c =>
          refine clean ?_ (by simp)
          simp only [call, commit]
          split <;> rfl
      | reset =>
          refine clean ?_ (by simp)
          simp only [call, reset]
          split <;> rfl
      | applyError x =>
          have passes : e.Passes (.applyError x :: calls) ↔ e.misses x = false ∧ e.Passes calls := by
            simp [Passes]
          have kept : (e.call (.applyError x)).Passes calls ↔ e.Passes calls := passes_applyError
          have error : (e.call (.applyError x)).error = _ := error_applyError plain x
          rw [List.foldl_cons, ih ((kind_call e _).symm ▸ plain), blames_cons, kept, error, passes]
          cases missing : e.misses x <;> simp [missing, or_comm, and_comm]

def Filed (e : Entry) : Prop :=
  ∀ slot, (e.files.get? slot).isSome = true → e.kind.takes slot.role = true

theorem Filed.misses (filed : e.Filed) (plain : e.kind.isPlain = true) (x : ElementError) :
    e.misses x = x.source.special?.isSome := by
  have bare (slot : Slot) : (e.files.get? slot).isNone = true := by
    by_contra there
    have takes := filed slot (by simpa [Option.isSome_iff_ne_none] using there)
    revert plain takes
    cases e.kind <;> cases slot.role <;> simp [Kind.isPlain, Kind.takes, Kind.isAddressDocument,
      Kind.isIdentityDocument, Kind.isDocument]
  simp only [Entry.misses, bare]
  cases x.source.special? <;> rfl

theorem Filed.applyError (filed : e.Filed) (x : ElementError) : (e.applyError x).Filed := by
  intro slot there
  rw [e.isSome_files_applyError x] at there
  exact (e.applyError_keeps x).1.symm ▸ filed slot there

end Entry

/-! ## The elements of a form -/

/-- The last error about a single file of a kind. -/
def ElementError.lastSpecial? (kind : Kind) (errors : List ElementError) : Option String :=
  (errors.filterMap fun x =>
    if x.kind = kind ∧ x.source.special?.isSome then some x.message else none).getLast?

theorem ElementError.lastSpecial?_cons (kind : Kind) (x : ElementError) (errors : List ElementError) :
    lastSpecial? kind (x :: errors) = (lastSpecial? kind errors).or
      (if x.kind = kind ∧ x.source.special?.isSome then some x.message else none) := by
  unfold lastSpecial?
  rw [List.filterMap_cons]
  split
  · rename_i none_
    rw [none_, Option.or_none]
  · rename_i said
    rw [said, List.getLast?_cons]
    cases List.getLast? _ <;> rfl

namespace Form

variable {f : Form}

theorem error_applyErrors {errors : List ElementError} (found : Kind → Option String)
    (before : ∀ e ∈ f.entries, e.kind.isPlain = true → e.Filed ∧ e.error = found e.kind) :
    ∀ e ∈ (errors.foldl applyError f).entries, e.kind.isPlain = true →
      e.error = (ElementError.lastSpecial? e.kind errors).or (found e.kind) := by
  induction errors generalizing f found with
  | nil => exact fun e he plain => (before e he plain).2
  | cons x errors ih =>
      let after (kind : Kind) : Option String :=
        if x.kind = kind ∧ x.source.special?.isSome then some x.message else found kind
      have step : ∀ e ∈ (f.applyError x).entries, e.kind.isPlain = true →
          e.Filed ∧ e.error = after e.kind := by
        intro e he plain
        obtain ⟨e, there, rfl⟩ := List.mem_map.1 he
        split at plain
        · rename_i here
          rw [(e.applyError_keeps x).1] at plain
          obtain ⟨filed, error⟩ := before e there plain
          rw [if_pos here]
          refine ⟨filed.applyError x, ?_⟩
          rw [Entry.error_applyError plain, filed.misses plain, (e.applyError_keeps x).1, error]
          simp only [after, here, true_and]
        · rename_i apart
          rw [if_neg apart]
          refine ⟨(before e there plain).1, (before e there plain).2.trans ?_⟩
          exact (if_neg fun same => apart same.1.symm).symm
      intro e he plain
      rw [ih after step e he plain, ElementError.lastSpecial?_cons, Option.or_assoc]
      congr 1
      by_cases said : x.kind = e.kind ∧ x.source.special?.isSome = true
      · simp only [after, if_pos said, Option.some_or]
      · simp only [after, if_neg said, Option.none_or]

/-- A plain text that carried no error carries the last one about a single file of its kind. -/
theorem error_takeElements {elements : List StoredElement} {errors : List ElementError}
    (filed : ∀ e ∈ f.entries, e.Filed)
    (clean : ∀ e ∈ f.entries, e.kind.isPlain = true → e.error = none) :
    ∀ e ∈ (f.takeElements elements errors).entries, e.kind.isPlain = true →
      e.error = ElementError.lastSpecial? e.kind errors := by
  have filled : ∀ e ∈ (elements.foldl fill f).entries,
      e.Filed ∧ (e.kind.isPlain = true → e.error = none) := by
    have start : ∀ e ∈ f.entries, e.Filed ∧ (e.kind.isPlain = true → e.error = none) :=
      fun e he => ⟨filed e he, clean e he⟩
    clear filed clean
    induction elements generalizing f with
    | nil => exact start
    | cons element elements ih =>
        refine ih (forall_modify start fun e hk _ => ⟨fun slot there => ?_, fun _ => rfl⟩)
        exact (congrArg (Kind.takes · slot.role) hk).symm.trans (element.takes_contents there)
  intro e he plain
  rw [error_applyErrors (fun _ => none)
    (fun e he plain => ⟨(filled e he).1, (filled e he).2 plain⟩) e he plain, Option.or_none]

def Errors (P : Kind → Option String → Prop) (f : Form) : Prop :=
  ∀ e ∈ f.entries, P e.kind e.error

end Form

/-! ## One action -/

namespace Session

variable {s s' : Session} {now : Nat} {a : Action} {r : Reply} {e e' : Entry} {es : List Effect}
  {P : Kind → Option String → Prop}

theorem Change.error_eq (h : s.Change now a e es e') : e'.error = e.error := by
  have clearing (e : Entry) : e.clearIfIdle.error = e.error := by
    unfold Entry.clearIfIdle
    split <;> rfl
  have saving : e.atSave.error = e.error := by
    unfold Entry.atSave
    split <;> rfl
  cases h with
  | cleared => exact clearing e
  | blocked => exact saving
  | spared =>
      refine Eq.trans ?_ saving
      simp only [Entry.spared]
      split <;> rfl
  | misdated => exact saving
  | saved _ _ _ _ _ _ hsent =>
      subst hsent
      exact saving
  | reported => exact clearing _
  | _ => rfl

/-- A reply about one entry leaves its error as it is or takes it off. -/
theorem Uptake.error_eq {task : Task} {outcome : Outcome} (h : s.Uptake now e task outcome es e') :
    e'.error = none ∨ e'.error = e.error := by
  cases h with
  | saved =>
      refine .inl ?_
      simp only [Entry.commit]
      split <;> rfl
  | deleted =>
      refine .inl ?_
      simp only [Entry.reset]
      split <;> rfl
  | _ => exact .inr rfl

theorem errors_modify {g : Entry → Entry} (gated : s.core.Gated) (he : s.entry? e.kind = some e)
    (hk : (g e).kind = e.kind) (hg : P e.kind e.error → P e.kind (g e).error)
    (holds : s.form.Errors P) : (s.form.modify e.kind g).Errors P := by
  intro x hx
  rcases Form.mem_modify gated.distinct he hx with rfl | ⟨hx, -⟩
  · exact hk.symm ▸ hg (holds e (Form.mem_of_entry he))
  · exact holds x hx

theorem Move.errors (h : Move now a s s') (gated : s.core.Gated) (holds : s.form.Errors P) :
    s'.form.Errors P := by
  cases h with
  | rest _ core => exact (congrArg (fun c : Core => c.form.Errors P) core).mpr holds
  | ask _ _ _ _ _ _ _ _ core => exact (congrArg (fun c : Core => c.form.Errors P) core).mpr holds
  | entry e g _ he change core =>
      refine (congrArg (fun c : Core => c.form.Errors P) core).mpr ?_
      exact errors_modify gated he change.kind_eq (change.error_eq ▸ id) holds
  | abandon _ _ core =>
      refine (congrArg (fun c : Core => c.form.Errors P) core).mpr ?_
      exact fun e he => absurd he List.not_mem_nil

theorem Moves.errors (h : Moves now a s s') (gated : s.core.Gated) (holds : s.form.Errors P) :
    s'.form.Errors P := by
  induction h with
  | refl => exact holds
  | tail earlier move ih => exact move.errors (Moves.gated earlier gated) ih

/-- The reply unlocks the form, with these elements and errors. -/
def Opens (s : Session) (elements : List StoredElement) (errors : List ElementError) (r : Reply) :
    Prop :=
  (∃ password, s.Confirms password r) ∧ r.outcome = .ok (.availableElements elements errors)

/-- Only the reply that unlocks the form puts errors on entries. -/
theorem Settle.errors (h : Settle now r s s') (gated : s.core.Gated) (holds : s.form.Errors P)
    (blank : ∀ kind, P kind none)
    (opens : ∀ elements errors, s.Opens elements errors r →
      (s.form.takeElements elements errors).Errors P) : s'.form.Errors P := by
  cases h with
  | errand _ _ _ _ core => exact (congrArg (fun c : Core => c.form.Errors P) core).mpr holds
  | form _ _ _ _ _ core =>
      refine (congrArg (fun c : Core => c.form.Errors P) core).mpr fun e he => ?_
      obtain ⟨kind, rfl⟩ := Form.mem_ofAuthorization he
      exact blank _
  | unlock password elements errors _ pending waiting sent core _ _ checking =>
      refine (congrArg (fun c : Core => c.form.Errors P) core).mpr (opens elements errors ?_)
      exact ⟨⟨password, pending, waiting, checking, elements, errors, sent⟩, sent⟩
  | task _ e g _ _ he _ uptake core =>
      refine (congrArg (fun c : Core => c.form.Errors P) core).mpr ?_
      refine errors_modify gated he uptake.kind_eq (fun before => ?_) holds
      rcases uptake.error_eq with none_ | same
      · exact none_ ▸ blank _
      · exact same ▸ before

theorem Acts.errors (h : Acts now a s s') (gated : s.core.Gated) (holds : s.form.Errors P)
    (blank : ∀ kind, P kind none)
    (opens : ∀ r elements errors, a = .reply r → s.cancelled = false → s.Opens elements errors r →
      (s.form.takeElements elements errors).Errors P) : s'.form.Errors P := by
  refine (h.induction (P := fun t => t.core.Gated ∧ t.form.Errors P) ?_ ?_ ?_ ⟨gated, holds⟩).2
  · rintro t t' move ⟨gated, holds⟩
    exact ⟨move.gated gated, move.errors gated holds⟩
  · rintro r t reply live _ settle
    exact ⟨settle.gated gated, settle.errors gated holds blank fun elements errors =>
      opens r elements errors reply live⟩
  · rintro t t' close ⟨gated, holds⟩
    refine ⟨close.gated gated, (congrArg (fun c : Core => c.form.Errors P) close.core).mpr ?_⟩
    intro x hx
    obtain ⟨e, he, rfl⟩ := List.mem_map.1 hx
    exact holds e he

theorem Acts.opened {elements : List StoredElement} {errors : List ElementError}
    (h : Acts now (.reply r) s s') (gated : s.core.Gated) (live : s.cancelled = false)
    (opens : s.Opens elements errors r)
    (holds : (s.form.takeElements elements errors).Errors P) : s'.form.Errors P := by
  obtain ⟨⟨password, confirms⟩, sent⟩ := opens
  obtain ⟨mid, settle, moves⟩ := h.settles_of_confirms live confirms
  obtain ⟨pending, -, checking, -⟩ := confirms
  refine moves.errors (settle.gated gated) ?_
  cases settle with
  | errand errand _ other _ _ _ _ _ unchecked =>
      cases pending.symm.trans other
      exact absurd (checking.symm.trans (unchecked rfl elements errors sent)) (by simp)
  | form _ _ other => exact absurd (pending.symm.trans other) (by simp)
  | unlock _ elements' errors' _ _ _ sent' core =>
      cases sent.symm.trans sent'
      exact (congrArg (fun c : Core => c.form.Errors P) core).mpr holds
  | task _ _ _ _ other => exact absurd (pending.symm.trans other) (by simp)

end Session

/-! ## Along a run -/

/-- The turn unlocks the form, and the server has found these errors. -/
def Turn.Finds (past : History) (errors : List ElementError) (t : Turn) : Prop :=
  (∃ check password, t.Unlocks past check password) ∧
    ∃ token elements, t.action = .reply ⟨token, .ok (.availableElements elements errors)⟩

/-- The form of the current session was unlocked, and the server had found these errors. -/
def History.Found (errors : List ElementError) : History → Prop
  | [] => False
  | t :: past => t.Finds past errors ∨ Found errors past ∧ t.startsOver = false

namespace Run

open Session

variable {setup : Setup} {past : History} {s : Session} {t : Turn} {errors : List ElementError}

theorem opens_of_finds (run : Run setup past s) (ht : t.before = s) (finds : t.Finds past errors) :
    s.cancelled = false ∧ ∃ r elements, t.action = .reply r ∧ s.Opens elements errors r := by
  obtain ⟨⟨check, password, unlocks⟩, token, elements, reply⟩ := finds
  obtain ⟨live, r, action, -, confirms⟩ := run.confirms_of_unlocks ht unlocks
  cases action.symm.trans reply
  exact ⟨live, _, elements, action, ⟨password, confirms⟩, rfl⟩

theorem finds_of_opens (run : Run setup past s) (live : s.cancelled = false) {now : Nat} {r : Reply}
    {elements : List StoredElement} (genuine : past.Genuine (.reply r))
    (opens : s.Opens elements errors r) : Turn.Finds past errors ⟨s, now, .reply r⟩ := by
  obtain ⟨⟨password, confirms⟩, sent⟩ := opens
  obtain ⟨token, _⟩ := r
  subst sent
  exact ⟨⟨_, _, run.unlocks_of_confirms live genuine confirms⟩, token, elements, rfl⟩

theorem ready_of_found (run : Run setup past s) (found : past.Found errors) :
    s.secretReady = true := by
  have unlocked : ∃ check password, past.Unlocked check password := by
    clear run
    induction past with
    | nil => exact found.elim
    | cons t past ih =>
        rcases found with ⟨⟨check, password, unlocks⟩, -⟩ | ⟨before, goes_on⟩
        · exact ⟨check, password, .inl unlocks⟩
        · obtain ⟨check, password, unlocked⟩ := ih before
          exact ⟨check, password, .inr ⟨unlocked, goes_on⟩⟩
  obtain ⟨check, password, unlocked⟩ := unlocked
  have keyed : s.secretReady = s.password.isSome := run.gated.keyed
  rw [keyed, run.password_iff.2 ⟨check, unlocked⟩]
  rfl

/-- A plain text carries no error, or the last one about a single file of its kind that the server
had found when the form was unlocked. -/
theorem error_of_found (run : Run setup past s) : s.form.Errors fun kind error =>
    kind.isPlain = true → error = none ∨
      ∃ errors, past.Found errors ∧ error = ElementError.lastSpecial? kind errors := by
  induction run with
  | start => exact fun e he => absurd he List.not_mem_nil
  | @step past s now action run ordered genuine ih =>
      let t : Turn := ⟨s, now, action⟩
      show (s.act now action).1.form.Errors _
      cases anew : t.startsOver with
      | true =>
          obtain ⟨restart, live⟩ := Turn.startsOver_iff.1 anew
          have restart : action = .restart := restart
          subst restart
          have none_there : (s.act now .restart).1.form.entries = [] :=
            List.map_eq_nil_iff.1 (congrArg (·.2.2.2) (demands_restart live).2)
          exact fun e he => absurd (none_there ▸ he) List.not_mem_nil
      | false =>
          refine (run.acts now action).errors run.gated ?_ (fun _ _ => .inl rfl) ?_
          · intro e he plain
            refine (ih e he plain).imp_right ?_
            rintro ⟨errors, found, same⟩
            exact ⟨errors, .inr ⟨found, anew⟩, same⟩
          · rintro r elements errors rfl live opens e he plain
            have locked : s.secretReady = false :=
              run.gated.locked_of_awaits opens.1.choose_spec.2.1
            have clean : ∀ e ∈ s.form.entries, e.kind.isPlain = true → e.error = none := by
              intro e he plain
              refine (ih e he plain).resolve_right ?_
              rintro ⟨errors, found, -⟩
              exact absurd (locked.symm.trans (run.ready_of_found found)) (by simp)
            refine .inr ⟨errors, .inl (run.finds_of_opens live genuine opens), ?_⟩
            exact Form.error_takeElements (fun e he => (run.proper.entries e he).fits) clean e he plain

/-- When the form is unlocked, every plain text gets the last error about a single file of its kind. -/
theorem error_of_finds (run : Run setup (t :: past) s) (finds : t.Finds past errors) :
    s.form.Errors fun kind error =>
      kind.isPlain = true → error = ElementError.lastSpecial? kind errors := by
  cases run with
  | @step _ before now action run =>
      obtain ⟨live, r, elements, reply, opens⟩ := run.opens_of_finds rfl finds
      have reply : action = .reply r := reply
      subst reply
      have locked : before.secretReady = false :=
        run.gated.locked_of_awaits opens.1.choose_spec.2.1
      refine (run.acts now (.reply r)).opened run.gated live opens ?_
      refine Form.error_takeElements (fun e he => (run.proper.entries e he).fits) fun e he plain => ?_
      refine (run.error_of_found e he plain).resolve_right ?_
      rintro ⟨errors, found, -⟩
      exact absurd (locked.symm.trans (run.ready_of_found found)) (by simp)

/-- A plain text carries an error as a whole only for a single file that it does not have. By itself it
carries the last one that came, until it is filled, saved or reset. In a run it never has such a file:
it gets the last error about one that comes with the elements, and none from anything else. -/
theorem plain_error_of_missing_file {kind : Kind} (plain : kind.isPlain = true) :
    (∀ calls m, (calls.foldl Entry.call (.blank kind)).error = some m ↔
      (Entry.blank kind).Blames m calls) ∧
    (∀ setup past s, Run setup past s → ∀ e, s.form.entry? kind = some e → e.error = none ∨
      ∃ errors, past.Found errors ∧ e.error = ElementError.lastSpecial? kind errors) ∧
    ∀ setup past t s errors, Run setup (t :: past) s → t.Finds past errors →
      ∀ e, s.form.entry? kind = some e → e.error = ElementError.lastSpecial? kind errors := by
  refine ⟨fun calls m => ?_, fun setup past s run e he => ?_,
    fun setup past t s errors run finds e he => ?_⟩
  · rw [Entry.error_calls plain]
    simp [Entry.blank]
  · obtain rfl := Form.kind_of_entry he
    exact run.error_of_found e (Form.mem_of_entry he) plain
  · obtain rfl := Form.kind_of_entry he
    exact run.error_of_finds finds e (Form.mem_of_entry he) plain

/-- What is wrong with a number: two files that it cannot have, and the number. -/
def misfiled : List ElementError :=
  [⟨.phone, "blurred", .frontSide⟩, ⟨.phone, "bad", .selfie⟩, ⟨.phone, "short", .unspecified⟩]

def asking : List (Nat × Session.Action) :=
  (opening ⟨1, [[⟨.phone, false, false, false⟩]], none⟩ []).drop 1

/-- A number that is filled by itself and then found wrong twice, and one that comes with a form. -/
theorem plain_error_of_missing_file_misfiled :
    let asked := play (.fresh .plain .empty) asking
    let t : Turn := ⟨asked.2, 3, .reply ⟨⟨3, .errand .availableElements⟩,
      .ok (.availableElements [.phone "1555"] misfiled)⟩⟩
    ([ServerCall.fill (StoredElement.contents (.phone "1555")),
        .applyError ⟨.phone, "blurred", .frontSide⟩,
        .applyError ⟨.phone, "short", .unspecified⟩].foldl Entry.call (.blank .phone)).error =
      some "blurred" ∧
    (t.after.form.entry? .phone).map Entry.error = some (some "bad") := by
  intro asked t
  obtain ⟨alone, -, inside⟩ := plain_error_of_missing_file (rfl : Kind.isPlain .phone = true)
  constructor
  · refine (alone _ _).2 ⟨[.fill (StoredElement.contents (.phone "1555"))], _, _, rfl, rfl, ?_, ?_⟩
    · decide +kernel
    · intro c hc
      obtain rfl := List.mem_singleton.1 hc
      exact ⟨_, rfl, by decide +kernel⟩
  · have playable : Playable (.fresh .plain .empty) ((t.now, t.action) :: asking) := by
      decide +kernel
    have before : Run .plain asked.1 asked.2 := .of_playable playable.1
    have opens : asked.2.Opens [.phone "1555"] misfiled ⟨⟨3, .errand .availableElements⟩,
        .ok (.availableElements [.phone "1555"] misfiled)⟩ :=
      ⟨⟨"secret", rfl, by decide +kernel, by decide +kernel, _, _, rfl⟩, rfl⟩
    have finds : t.Finds asked.1 misfiled :=
      before.finds_of_opens (by decide +kernel) playable.2.2 opens
    have there : (t.after.form.entry? .phone).isSome = true := by decide +kernel
    obtain ⟨e, he⟩ := Option.isSome_iff_exists.1 there
    rw [he, Option.map_some, inside _ _ _ _ _ (.turn_of_playable playable) finds e he]
    decide +kernel

/-- An error about a file that it cannot have makes a plain text carry one as a whole: by itself, and in
a form. -/
theorem plain_error_reported :
    Kind.phone.canHaveError = false ∧
      ((Entry.blank .phone).applyError ⟨.phone, "bad", .frontSide⟩).error = some "bad" ∧
      ∃ past s, Run .plain past s ∧ ∃ e, s.form.entry? .phone = some e ∧ e.error = some "bad" := by
  have playable : Playable (.fresh .plain .empty) ((3, .reply ⟨⟨3, .errand .availableElements⟩,
      .ok (.availableElements [] [⟨.phone, "bad", .frontSide⟩])⟩) :: asking) := by decide +kernel
  have error : ((play (.fresh .plain .empty) ((3, .reply ⟨⟨3, .errand .availableElements⟩,
      .ok (.availableElements [] [⟨.phone, "bad", .frontSide⟩])⟩) :: asking)).2.form.entry?
        .phone).map Entry.error = some (some "bad") := by decide +kernel
  exact ⟨rfl, by decide +kernel, _, _, .of_playable playable, Option.map_eq_some_iff.1 error⟩

end Run

end IdentityForm
