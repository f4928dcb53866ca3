import IdentityForm.Proofs.Requirements
import IdentityForm.Proofs.Standing.Advance
import IdentityForm.Proofs.Unchanged
import IdentityForm.Proofs.Upkeep

/-! # Unlocking the form that was received

The elements are asked for with the id of the form that the server described, unless the user was
quicker: a password that is typed in before the form has come is checked for no form at all, and what is
there then is filled with the elements. When the form is unlocked, every entry that elements came for
holds the last of them.
-/

namespace IdentityForm

/-! ## The elements of a form -/

/-- The last element of a kind among those that the server returns. -/
def StoredElement.last? (kind : Kind) (elements : List StoredElement) : Option StoredElement :=
  (elements.filter fun x => x.kind = kind).getLast?

namespace Entry

/-- The entry is present with these contents; errors may have been reported for them. -/
def Contains (e : Entry) (c : Contents) : Prop :=
  e.present = true ∧ (∀ key, e.fields.text key = c.fields.text key) ∧
    e.files.map StoredFile.unmarked = c.files.map StoredFile.unmarked

theorem contains_placeError {e : Entry} {c : Contents} (holds : e.Contains c) (message : String)
    (source : ErrorSource) : (e.placeError message source).Contains c := by
  obtain ⟨there, texts, files⟩ := holds
  have unmarked (slot : Slot) : (e.files.modify slot fun f =>
      { f with error := some message }).map StoredFile.unmarked = c.files.map StoredFile.unmarked := by
    refine (Files.map_modify _ _ fun f => ?_).trans files
    rfl
  have marked (slot : Slot) {otherwise : Entry} (h : otherwise.Contains c) :
      (e.setFileError slot message otherwise).Contains c := by
    unfold setFileError
    split
    · exact ⟨there, texts, unmarked slot⟩
    · exact h
  have worded (key : String) : ∀ key', (e.fields.setError key message).text key' = c.fields.text key' :=
    fun key' => (Fields.text_setError ..).trans (texts key')
  cases source with
  | unspecified =>
      simp only [placeError]
      split
      · exact ⟨there, texts, files⟩
      · exact ⟨there, worded _, files⟩
  | dataField field => exact ⟨there, worded field, files⟩
  | files => exact ⟨there, texts, files⟩
  | renditionFiles => exact ⟨there, texts, files⟩
  | frontSide => exact marked _ ⟨there, texts, files⟩
  | reverseSide => exact marked _ ⟨there, texts, files⟩
  | selfie => exact marked _ ⟨there, texts, files⟩
  | file index => exact marked _ ⟨there, texts, files⟩
  | renditionFile index => exact marked _ ⟨there, texts, files⟩

theorem contains_applyError {e : Entry} {c : Contents} (holds : e.Contains c) (x : ElementError) :
    (e.applyError x).Contains c := by
  have placed := contains_placeError holds x.message x.source
  unfold applyError
  dsimp only
  split
  · exact placed
  · exact placed

def filled (e : Entry) (elements : List StoredElement) : Entry :=
  (elements.filter fun x => x.kind = e.kind).foldl (fun e x => e.fill x.contents) e

def withErrors (e : Entry) (errors : List ElementError) : Entry :=
  (errors.filter fun x => x.kind = e.kind).foldl applyError e

@[simp] theorem kind_filled (e : Entry) (elements : List StoredElement) :
    (e.filled elements).kind = e.kind :=
  List.foldlRecOn _ _ (motive := fun e' : Entry => e'.kind = e.kind) rfl fun _ same _ _ => same

@[simp] theorem kind_withErrors (e : Entry) (errors : List ElementError) :
    (e.withErrors errors).kind = e.kind :=
  List.foldlRecOn _ _ (motive := fun e' : Entry => e'.kind = e.kind) rfl
    fun e' same x _ => (e'.applyError_keeps x).1.trans same

/-- Of several elements the last one counts. -/
theorem filled_of_last (e : Entry) {elements : List StoredElement} {x : StoredElement}
    (last : StoredElement.last? e.kind elements = some x) : (e.filled elements).present = true ∧
      (e.filled elements).fields = x.contents.fields ∧ (e.filled elements).files = x.contents.files := by
  obtain ⟨earlier, split⟩ := List.getLast?_eq_some_iff.1 last
  rw [filled, split, List.foldl_append]
  exact ⟨rfl, rfl, rfl⟩

theorem contains_withErrors {e : Entry} {c : Contents} (holds : e.Contains c)
    (errors : List ElementError) : (e.withErrors errors).Contains c :=
  List.foldlRecOn _ _ (motive := fun e' : Entry => e'.Contains c) holds
    fun _ holds x _ => contains_applyError holds x

/-- An entry holds the last element of its kind, and the errors are put on top of that. -/
theorem contains_of_last {e : Entry} {elements : List StoredElement} {x : StoredElement}
    (last : StoredElement.last? e.kind elements = some x) (errors : List ElementError) :
    ((e.filled elements).withErrors errors).Contains x.contents := by
  obtain ⟨present, fields, files⟩ := e.filled_of_last last
  exact contains_withErrors ⟨present, fun key => by rw [fields], by rw [files]⟩ errors

/-- No elements of its kind, and an entry stays as it is. -/
theorem filled_of_others {e : Entry} {elements : List StoredElement}
    (others : ∀ x ∈ elements, x.kind ≠ e.kind) : e.filled elements = e := by
  rw [filled, List.filter_eq_nil_iff.2 fun x hx => by simpa using others x hx]
  rfl

theorem withErrors_of_others {e : Entry} {errors : List ElementError}
    (others : ∀ y ∈ errors, y.kind ≠ e.kind) : e.withErrors errors = e := by
  rw [withErrors, List.filter_eq_nil_iff.2 fun y hy => by simpa using others y hy]
  rfl

end Entry

namespace Form

variable {f : Form} {kind : Kind} {e : Entry} {x : StoredElement}

theorem foldl_fill (f : Form) (elements : List StoredElement) :
    elements.foldl fill f = { f with entries := f.entries.map fun e => e.filled elements } :=
  foldl_modify Element.kind (fun e (x : StoredElement) => e.fill x.contents) (fun _ _ => rfl)
    elements f

theorem foldl_applyError (f : Form) (errors : List ElementError) :
    errors.foldl applyError f = { f with entries := f.entries.map fun e => e.withErrors errors } :=
  foldl_modify ElementError.kind Entry.applyError (fun e x => (e.applyError_keeps x).1) errors f

/-- The elements of its kind fill an entry, and then the errors of its kind are put on it. -/
theorem takeElements_eq (f : Form) (elements : List StoredElement) (errors : List ElementError) :
    f.takeElements elements errors = { f with
      entries := f.entries.map fun e => (e.filled elements).withErrors errors } := by
  rw [takeElements, foldl_applyError, foldl_fill]
  simp only [List.map_map, Function.comp_def]

theorem entry?_takeElements (f : Form) (elements : List StoredElement) (errors : List ElementError)
    (kind : Kind) : Form.entry? (f.takeElements elements errors) kind =
      (f.entry? kind).map fun e => (e.filled elements).withErrors errors := by
  rw [takeElements_eq]
  exact entry?_map _ (fun e => by rw [Entry.kind_withErrors, Entry.kind_filled]) f kind

theorem contains_takeElements {elements : List StoredElement} {errors : List ElementError}
    (last : StoredElement.last? kind elements = some x)
    (he : Form.entry? (f.takeElements elements errors) kind = some e) : e.Contains x.contents ∧
      ((∀ y ∈ errors, y.kind ≠ kind) → e.fields = x.contents.fields ∧ e.files = x.contents.files) := by
  rw [entry?_takeElements] at he
  obtain ⟨before, there, rfl⟩ := Option.map_eq_some_iff.1 he
  obtain rfl := Form.kind_of_entry there
  refine ⟨Entry.contains_of_last last errors, fun others => ?_⟩
  rw [Entry.withErrors_of_others (e := before.filled elements) (by rwa [Entry.kind_filled])]
  exact (before.filled_of_last last).2

/-! ## What a form asks for -/

/-- The id, the rows, the policy and the kinds of a form, without any contents. -/
def outline (f : Form) : Int64 × List (List Kind) × Option String × List Kind :=
  (f.id, f.rows, f.policyUrl, f.entries.map Entry.kind)

theorem outline_of_demands {f g : Form} (same : f.demands = g.demands) : f.outline = g.outline := by
  have kinds (f : Form) : f.entries.map Entry.kind = f.demands.2.2.2.map RequiredKind.kind := by
    rw [demands, List.map_map]
    rfl
  have outline (f : Form) : f.outline = (f.demands.1, f.demands.2.1, f.demands.2.2.1,
      f.demands.2.2.2.map RequiredKind.kind) := by
    rw [← kinds]
    rfl
  rw [outline f, outline g, same]

end Form

/-! ## Along a run -/

namespace Run

open Session

variable {setup : Setup} {past : History} {s : Session} {t : Turn}

/-- The elements are asked for with the id of the form that was received in this session; only a
password that is submitted before that is checked for no form. When the form is unlocked, by the
elements that were waited for, every entry that elements came for is present and holds the last of
them, up to the errors that came along. The form is then the one that was received, or there is no
entry to be filled. -/
theorem unlocked_on_received_form (run : Run setup (t :: past) s) :
    (∀ token id key, .request (.getAvailableElements token id key) ∈ t.effects →
      (∃ form, History.Received form (t :: past) ∧ id = form.id) ∨
        (∀ form, ¬ History.Received form (t :: past)) ∧ id = 0 ∧
          t.action = .submitPassword key.text) ∧
    (.notice .secretReady ∈ t.effects → ∃ token elements errors, past.Outstanding token ∧
      token.pending = .errand .availableElements ∧
      t.action = .reply ⟨token, .ok (.availableElements elements errors)⟩ ∧
      ∀ kind e x, s.form.entry? kind = some e → StoredElement.last? kind elements = some x →
        e.Contains x.contents ∧ ((∀ y ∈ errors, y.kind ≠ kind) →
          e.fields = x.contents.fields ∧ e.files = x.contents.files)) ∧
    (∀ form, History.Received form (t :: past) →
      s.form.outline = (Form.ofAuthorization form).outline) ∧
    ((∀ form, ¬ History.Received form (t :: past)) → s.form.entries = []) := by
  have whole := run
  obtain ⟨known, unknown⟩ := whole.demands_eq
  refine ⟨fun token id key asks => ?_, fun told => ?_,
    fun form h => Form.outline_of_demands (known form h).2, fun h => ?_⟩
  · cases run with
    | @step _ before now action run =>
        cases (before.act_advance now action).reaches run.outbox_eq_nil rfl asks with
        | asks _ password order =>
            by_cases received : (before.act now action).1.formReceived = true
            · obtain ⟨form, h⟩ := whole.received_of_formReceived received
              exact .inl ⟨form, h, congrArg Prod.fst (known form h).2⟩
            · have none_ := whole.not_received (Bool.eq_false_iff.2 received)
              obtain ⟨submitted, -⟩ := order.resolve_left received
              exact .inr ⟨none_, congrArg Prod.fst (unknown none_).2, submitted⟩
  · cases run with
    | @step _ before now action run _ genuine =>
        cases (before.act_advance now action).reaches run.outbox_eq_nil rfl told with
        | unlocks r elements errors reply live awaits pending ok form =>
            obtain ⟨token, _⟩ := r
            subst ok
            have issued : token ∈ _ := genuine token (by rw [reply]; rfl)
            refine ⟨token, elements, errors, run.outstanding_of_awaits live issued awaits, pending,
              reply, fun kind e x he last => ?_⟩
            have he : (before.act now action).1.form.entry? kind = some e := he
            rw [form] at he
            exact Form.contains_takeElements last he
  · exact whole.gated.unasked (unknown h).1

/-- The password settings come before the form. Of two addresses the last one counts, although the
server has an objection to it. -/
theorem unlocked_on_received_form_of_emails :
    let form : AuthorizationForm := ⟨7, [[⟨.email, false, false, false⟩]], none⟩
    let before := play (.fresh .plain .empty) ((opening form []).drop 2)
    let asking : Turn := ⟨before.2, 2, .submitPassword "secret"⟩
    let unlocking : Turn := ⟨asking.after, 3, .reply ⟨⟨3, .errand .availableElements⟩,
      .ok (.availableElements [.email "a@b.c", .email "d@e.f"]
        [⟨.email, "bounced", .dataField Kind.plainField⟩])⟩⟩
    (.request (.getAvailableElements ⟨3, .errand .availableElements⟩ 7 ⟨"secret"⟩) ∈ asking.effects ∧
        ∃ form, History.Received form (asking :: before.1) ∧ form.id = 7) ∧
      .notice .secretReady ∈ unlocking.effects ∧
        ∃ e, unlocking.after.form.entry? .email = some e ∧ e.present = true ∧
          e.fields.text Kind.plainField = "d@e.f" := by
  intro form before asking unlocking
  have playable : Playable (.fresh .plain .empty) ((unlocking.now, unlocking.action) ::
      (asking.now, asking.action) :: (opening form []).drop 2) := by decide +kernel
  have asks : .request (.getAvailableElements ⟨3, .errand .availableElements⟩ 7 ⟨"secret"⟩) ∈
      asking.effects := by decide +kernel
  have told : .notice .secretReady ∈ unlocking.effects := by decide +kernel
  have run : Run .plain (unlocking :: asking :: before.1) unlocking.after := .of_playable playable
  refine ⟨⟨asks, ?_⟩, told, ?_⟩
  · have asked : Run .plain (asking :: before.1) asking.after := .of_playable playable.1
    rcases (unlocked_on_received_form asked).1 _ _ _ asks with ⟨form, received, same⟩ | ⟨-, zero, -⟩
    · exact ⟨form, received, same.symm⟩
    · exact absurd zero (by decide)
  · obtain ⟨token, elements, errors, -, -, reply, filled⟩ := (unlocked_on_received_form run).2.1 told
    cases reply
    have there : (unlocking.after.form.entry? .email).isSome = true := by decide +kernel
    obtain ⟨e, he⟩ := Option.isSome_iff_exists.1 there
    obtain ⟨⟨present, texts, -⟩, -⟩ := filled .email e (.email "d@e.f") he (by decide)
    exact ⟨e, he, present, (texts Kind.plainField).trans (by decide +kernel)⟩

/-- A password that is submitted before the form has come is checked for no form, and the elements come
to nothing. The form that comes after that is taken for unlocked, and what the server has is missing. -/
theorem asked_without_form :
    let form : AuthorizationForm := ⟨7, [[⟨.email, false, false, false⟩]], none⟩
    let early := play (.fresh .plain .empty) [(0, .display)]
    let asking : Turn := ⟨early.2, 1, .submitPassword "secret"⟩
    let unlocked := (play asking.after
      [(3, .reply ⟨⟨1, .errand .form⟩, .ok (.authorizationForm form)⟩),
        (2, .reply ⟨⟨3, .errand .availableElements⟩,
          .ok (.availableElements [.email "a@b.c"] [])⟩)]).2
    (∃ past, Run .plain past unlocked) ∧
      (∀ form, ¬ History.Received form (asking :: early.1)) ∧
      .request (.getAvailableElements ⟨3, .errand .availableElements⟩ 0 ⟨"secret"⟩) ∈
        asking.effects ∧
      unlocked.secretReady = true ∧ unlocked.form.id = 7 ∧
        unlocked.form.entry? .email = some (.blank .email) := by
  intro form early asking unlocked
  let replies : List (Nat × Session.Action) := [
    (3, .reply ⟨⟨1, .errand .form⟩, .ok (.authorizationForm form)⟩),
    (2, .reply ⟨⟨3, .errand .availableElements⟩, .ok (.availableElements [.email "a@b.c"] [])⟩)]
  have playable : Playable (.fresh .plain .empty)
      (replies ++ [(1, .submitPassword "secret"), (0, .display)]) := by decide +kernel
  have run := Run.of_playable playable
  rw [play_append] at run
  have asked : Run .plain (asking :: early.1) asking.after := .turn_of_playable (by decide +kernel)
  have unreceived : asking.after.formReceived = false := by decide +kernel
  exact ⟨⟨_, run⟩, asked.not_received unreceived, by decide +kernel, by decide +kernel,
    by decide +kernel, by decide +kernel⟩

end Run

end IdentityForm
