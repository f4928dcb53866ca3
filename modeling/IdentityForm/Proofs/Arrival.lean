import IdentityForm.Proofs.Password
import IdentityForm.Proofs.Received
import IdentityForm.Proofs.Spots

/-! # Elements and errors in any order

The elements that unlock a form come in a list, and so do the errors that the server has found. Elements
of different kinds fill different entries, and an error is put on what the elements have filled, so that
only the order of errors in one spot matters. Elements and errors of kinds that the form does not ask for
do not count.
-/

namespace IdentityForm

/-! ## What errors make different -/

theorem Fields.eq_of_errors {m m' : Fields} (texts : ∀ key, m.text key = m'.text key)
    (names : ∀ key, (m.get? key).isSome = (m'.get? key).isSome)
    (errors : ∀ key, (m.get? key).bind (·.error) = (m'.get? key).bind (·.error)) : m = m' := by
  refine eq_of_get?_eq fun key => ?_
  have name := names key
  have text := texts key
  have error := errors key
  unfold Fields.text at text
  cases hf : m.get? key with
  | none =>
      cases hf' : m'.get? key with
      | none => rfl
      | some field' => simp [hf, hf'] at name
  | some field =>
      cases hf' : m'.get? key with
      | none => simp [hf, hf'] at name
      | some field' =>
          simp only [hf, hf', Option.map_some, Option.getD_some, Option.bind_some] at text error
          exact congrArg some (congrArg₂ Field.mk text error)

theorem Files.eq_of_errors {f f' : Files StoredFile}
    (same : f.map StoredFile.unmarked = f'.map StoredFile.unmarked)
    (errors : ∀ spot slot, Spot.slot? spot = some slot →
      (f.get? slot).bind (·.error) = (f'.get? slot).bind (·.error)) : f = f' := by
  refine ext_get? fun slot => ?_
  have unmarked := congrArg (Files.get? · slot) same
  simp only [get?_map] at unmarked
  cases hf : f.get? slot with
  | none =>
      cases hf' : f'.get? slot with
      | none => rfl
      | some g' => simp [hf, hf'] at unmarked
  | some g =>
      cases hf' : f'.get? slot with
      | none => simp [hf, hf'] at unmarked
      | some g' =>
          obtain ⟨spot, place, hs, here⟩ := Spot.exists_of_get? hf
          have error := errors spot place hs
          rw [← get?_congr f here, ← get?_congr f' here] at error
          simp only [hf, hf', Option.map_some, Option.some.injEq, Option.bind_some] at unmarked error
          let restore (g : StoredFile) (error : Option String) : StoredFile := { g with error }
          have restored : restore g.unmarked g.error = restore g'.unmarked g'.error :=
            congrArg₂ restore unmarked error
          exact congrArg some restored

/-! ## One entry -/

namespace Entry

variable {e e' : Entry} {spot : Spot} {errors errors' : List ElementError}

theorem hits_eq_iff : (∀ spot, e.hits spot errors = e.hits spot errors') ↔
    ∀ x ∈ errors ++ errors',
      e.hits (e.spotOf x.source) errors = e.hits (e.spotOf x.source) errors' := by
  refine ⟨fun same x _ => same _, fun same spot => ?_⟩
  by_cases named : ∃ x ∈ errors ++ errors', e.spotOf x.source = spot
  · obtain ⟨x, hx, rfl⟩ := named
    exact same x hx
  · have missed {list : List ElementError} (part : list ⊆ errors ++ errors') :
        e.hits spot list = [] :=
      List.filter_eq_nil_iff.2 fun x hx => by simpa using fun here => named ⟨x, part hx, here⟩
    rw [missed (List.subset_append_left _ _), missed (List.subset_append_right _ _)]

theorem text_applyErrors (errors : List ElementError) (e : Entry) (key : String) :
    (errors.foldl applyError e).fields.text key = e.fields.text key := by
  induction errors generalizing e with
  | nil => rfl
  | cons x rest ih => exact (ih _).trans (e.text_applyError x key)

/-- The fields that are there after some errors are those that were, and those with an error. -/
theorem isSome_applyErrors (errors : List ElementError) (e : Entry) (key : String) :
    ((errors.foldl applyError e).fields.get? key).isSome =
      ((e.hits (.field key) errors).getLast?.map fun _ => true).getD (e.fields.get? key).isSome :=
  last_hit (fun e => (e.fields.get? key).isSome) (fun e x => by
    rw [get?_applyError]
    split <;> rfl) errors e

theorem draftFields_applyErrors (errors : List ElementError) (e : Entry) :
    (errors.foldl applyError e).draftFields =
      if errors ≠ [] ∧ e.editors = 0 ∧ e.isBusy = false then (errors.foldl applyError e).fields
      else e.draftFields := by
  induction errors generalizing e with
  | nil => simp
  | cons x rest ih =>
      simp only [List.foldl_cons, ih, idle_applyError, draftFields_applyError]
      by_cases idle : e.editors = 0 ∧ e.isBusy = false
      · cases rest <;> simp [idle]
      · simp [idle]

theorem applyErrors_congr (same : ∀ spot, e.hits spot errors = e.hits spot errors') :
    errors.foldl applyError e = errors'.foldl applyError e := by
  have empty {list : List ElementError} (none_ : ∀ spot, e.hits spot list = []) : list = [] :=
    List.eq_nil_iff_forall_not_mem.2 fun x hx =>
      List.filter_eq_nil_iff.1 (none_ (e.spotOf x.source)) x hx (by simp)
  have nonempty : errors ≠ [] ↔ errors' ≠ [] := not_congr
    ⟨fun h => empty fun spot => by rw [← same, h]; rfl,
      fun h => empty fun spot => by rw [same, h]; rfl⟩
  have shown (spot : Spot) :
      (errors.foldl applyError e).errorAt spot = (errors'.foldl applyError e).errorAt spot := by
    rw [errorAt_applyErrors, errorAt_applyErrors, same]
  have unmarked : (errors.foldl applyError e).unmarked = (errors'.foldl applyError e).unmarked := by
    rw [unmarked_applyErrors, unmarked_applyErrors]
  have fields : (errors.foldl applyError e).fields = (errors'.foldl applyError e).fields := by
    refine Fields.eq_of_errors (fun key => ?_) (fun key => ?_) fun key => shown (.field key)
    · rw [text_applyErrors, text_applyErrors]
    · rw [isSome_applyErrors, isSome_applyErrors, same]
  have files : (errors.foldl applyError e).files = (errors'.foldl applyError e).files := by
    refine Files.eq_of_errors (congrArg Entry.files unmarked) fun spot slot hs => ?_
    rw [← errorAt_of_slot hs, ← errorAt_of_slot hs, shown]
  have drafts : (errors.foldl applyError e).draftFields =
      (errors'.foldl applyError e).draftFields := by
    rw [draftFields_applyErrors, draftFields_applyErrors, fields]
    simp only [nonempty]
  have whole := shown .whole
  have scans := shown .scans
  have renditions := shown .renditions
  generalize errors.foldl applyError e = x at *
  generalize errors'.foldl applyError e = x' at *
  cases x
  cases x'
  simp_all [Entry.unmarked, errorAt]

end Entry

/-! ## A form -/

/-- Two lists of errors agree on a form: those that go to one spot of one entry are the same and come in
the same order. Those that go to different spots may come in any order, and those that go to none may be
left out. -/
def Form.HitAlike (f : Form) (errors errors' : List ElementError) : Prop :=
  ∀ e ∈ f.entries, ∀ spot, e.hits spot (errors.filter fun x => x.kind = e.kind) =
    e.hits spot (errors'.filter fun x => x.kind = e.kind)

instance (f : Form) (errors errors' : List ElementError) : Decidable (f.HitAlike errors errors') :=
  decidable_of_iff (∀ e ∈ f.entries, ∀ x ∈ errors.filter (fun x => x.kind = e.kind) ++
      errors'.filter fun x => x.kind = e.kind,
    e.hits (e.spotOf x.source) (errors.filter fun x => x.kind = e.kind) =
      e.hits (e.spotOf x.source) (errors'.filter fun x => x.kind = e.kind))
    (forall₂_congr fun _ _ => Entry.hits_eq_iff.symm)

/-- Elements of different kinds: of each kind there is at most one. -/
theorem StoredElement.filter_kind_eq {elements elements' : List StoredElement}
    (distinct : (elements.map Element.kind).Nodup) (reordered : elements.Perm elements')
    (kind : Kind) :
    (elements.filter fun x => x.kind = kind) = elements'.filter fun x => x.kind = kind := by
  have perm := reordered.filter fun x => decide (x.kind = kind)
  have kinds : ((elements.filter fun x => x.kind = kind).map Element.kind).Nodup :=
    distinct.sublist (List.filter_sublist.map _)
  have here : ∀ x ∈ elements.filter fun x => x.kind = kind, x.kind = kind := fun x hx => by
    simpa using (List.mem_filter.1 hx).2
  generalize (elements.filter fun x => decide (x.kind = kind)) = list at perm kinds here ⊢
  match list with
  | [] => exact (List.nil_perm.1 perm).symm
  | [x] => exact List.singleton_perm.1 perm
  | x :: y :: rest =>
      have same : x.kind = y.kind :=
        (here x List.mem_cons_self).trans (here y (List.mem_cons_of_mem x List.mem_cons_self)).symm
      simp [same] at kinds

theorem StoredElement.last?_of_mem {elements : List StoredElement}
    (distinct : (elements.map Element.kind).Nodup) {x : StoredElement} (hx : x ∈ elements) :
    last? x.kind elements = some x := by
  have first : elements.Perm (x :: elements.erase x) := List.perm_cons_erase hx
  have alone := List.nodup_cons.1 ((first.map Element.kind).nodup_iff.1 distinct)
  have others : (elements.erase x).filter (fun y => y.kind = x.kind) = [] :=
    List.filter_eq_nil_iff.2 fun y hy same =>
      alone.1 (List.mem_map.2 ⟨y, hy, by simpa using same⟩)
  rw [last?, filter_kind_eq distinct first, List.filter_cons_of_pos (by simp), others]
  rfl

theorem Entry.hasErrors_withErrors {e : Entry} {errors : List ElementError} {x : ElementError}
    (hx : x ∈ errors) (own : x.kind = e.kind) : (e.withErrors errors).hasErrors = true :=
  hasErrors_applyErrors (List.mem_filter.2 ⟨hx, by simp [own]⟩)

namespace Form

variable {f : Form} {elements elements' : List StoredElement} {errors errors' : List ElementError}

/-- Elements that are the same for each kind, and errors that agree on what they fill, come to the same
form. -/
theorem takeElements_congr (fills : ∀ e ∈ f.entries, (elements.filter fun x => x.kind = e.kind) =
      elements'.filter fun x => x.kind = e.kind)
    (alike : (elements.foldl fill f).HitAlike errors errors') :
    f.takeElements elements errors = f.takeElements elements' errors' := by
  rw [takeElements_eq, takeElements_eq]
  congr 1
  refine List.map_congr_left fun e he => ?_
  have filled : e.filled elements' = e.filled elements := by
    rw [Entry.filled, Entry.filled, fills e he]
  rw [filled]
  refine Entry.applyErrors_congr (alike (e.filled elements) ?_)
  rw [foldl_fill]
  exact List.mem_map_of_mem he

/-- What is of no kind that the form asks for may be left out. -/
theorem takeElements_filter {asked : Kind → Bool} (known : ∀ e ∈ f.entries, asked e.kind = true)
    (elements : List StoredElement) (errors : List ElementError) :
    f.takeElements (elements.filter fun x => asked x.kind) (errors.filter fun x => asked x.kind) =
      f.takeElements elements errors := by
  have kept {α : Type} (kindOf : α → Kind) {kind : Kind} (h : asked kind = true) (xs : List α) :
      ((xs.filter fun x => asked (kindOf x)).filter fun x => kindOf x = kind) =
        xs.filter fun x => kindOf x = kind := by
    rw [List.filter_filter]
    refine List.filter_congr fun x _ => ?_
    by_cases here : kindOf x = kind <;> simp [here, h]
  refine takeElements_congr (fun e he => kept _ (known e he) elements) fun e he spot => ?_
  rw [foldl_fill] at he
  obtain ⟨before, hb, rfl⟩ := List.mem_map.1 he
  rw [kept ElementError.kind (by rw [Entry.kind_filled]; exact known before hb)]

end Form

/-! ## A session -/

namespace Session

/-- Elements and errors count for an unlocked session as what they make of the form. -/
theorem unlock_congr {s : Session} {now : Nat} {password : String}
    {elements elements' : List StoredElement} {errors errors' : List ElementError}
    (same : s.form.takeElements elements errors = s.form.takeElements elements' errors') :
    s.unlock now password elements errors = s.unlock now password elements' errors' := by
  simp only [unlock, schedule, disarm, same]

end Session

namespace Run

open Session

variable {setup : Setup} {past : History} {s : Session} {id : Nat}

/-- Elements that are waited for unlock the form, whatever they are. -/
theorem unlock_of_outstanding (run : Run setup past s) (live : s.cancelled = false)
    (outstanding : past.Outstanding ⟨id, .errand .availableElements⟩) (now : Nat) :
    ∃ password, ∀ elements errors, (s.act now (.reply ⟨⟨id, .errand .availableElements⟩,
        .ok (.availableElements elements errors)⟩)).1 =
      { s with awaited := s.awaited.set .availableElements none }.unlock now password
        elements errors := by
  have waiting : s.awaited.get .availableElements = some id :=
    run.awaits_of_outstanding live outstanding
  have checking : s.checking.isSome = true := by
    rw [← (run.checked live).paired]
    exact Option.isSome_of_mem waiting
  obtain ⟨password, checking⟩ := Option.isSome_iff_exists.1 checking
  refine ⟨password, fun elements errors => (handleReply_of_errand live waiting _).trans ?_⟩
  simp only [errandDone, availableElementsDone, checking]

/-- Of a form that is unlocked, the elements may come in any order if there are not two of a kind, and so
may the errors as long as those in one spot keep their order. Every element that is asked for is there
then, and every entry that there is an error about is not ready. What is not asked for does not count,
and an entry that nothing is said about stays as it was. -/
theorem unlocked_in_any_order (run : Run setup past s) (live : s.cancelled = false)
    (outstanding : past.Outstanding ⟨id, .errand .availableElements⟩)
    {elements elements' : List StoredElement} {errors errors' : List ElementError}
    (distinct : (elements.map Element.kind).Nodup) (reordered : elements.Perm elements')
    (alike : (elements.foldl Form.fill s.form).HitAlike errors errors') (now : Nat) :
    let opened (elements : List StoredElement) (errors : List ElementError) : Session :=
      (s.act now (.reply ⟨⟨id, .errand .availableElements⟩,
        .ok (.availableElements elements errors)⟩)).1
    let asked (kind : Kind) : Bool := (s.entry? kind).isSome
    opened elements' errors' = opened elements errors ∧
    (opened elements errors).secretReady = true ∧
    (∀ x ∈ elements, ∀ e, s.entry? x.kind = some e →
      ∃ e', Session.entry? (opened elements errors) x.kind = some e' ∧ e'.Contains x.contents) ∧
    (∀ x ∈ errors, ∀ e, s.entry? x.kind = some e →
      ∃ e', Session.entry? (opened elements errors) x.kind = some e' ∧
        e'.hasErrors = true ∧ e'.isReady = false) ∧
    opened (elements.filter fun x => asked x.kind) (errors.filter fun x => asked x.kind) =
      opened elements errors ∧
    ∀ kind e, s.entry? kind = some e → (∀ x ∈ elements, x.kind ≠ kind) →
      (∀ x ∈ errors, x.kind ≠ kind) → Session.entry? (opened elements errors) kind = some e := by
  intro opened asked
  obtain ⟨password, unlocks⟩ := run.unlock_of_outstanding live outstanding now
  have congr {elements elements' : List StoredElement} {errors errors' : List ElementError}
      (same : s.form.takeElements elements errors = s.form.takeElements elements' errors') :
      opened elements errors = opened elements' errors' := by
    simp only [opened, unlocks]
    exact unlock_congr same
  have known : ∀ e ∈ s.form.entries, asked e.kind = true := fun e he =>
    List.find?_isSome.2 ⟨e, he, by simp⟩
  have form : (opened elements errors).form = s.form.takeElements elements errors := by
    simp only [opened, unlocks]
    rfl
  have after {kind : Kind} {e : Entry} (he : s.entry? kind = some e) :
      Session.entry? (opened elements errors) kind = some ((e.filled elements).withErrors errors) := by
    rw [ Session.entry?, form, Form.entry?_takeElements, show s.form.entry? kind = some e from he]
    rfl
  refine ⟨congr ?_, ?_, fun x hx e he => ⟨_, after he, ?_⟩, fun x hx e he => ⟨_, after he, ?_⟩,
    congr (Form.takeElements_filter known elements errors), fun kind e he fills marks => ?_⟩
  · exact (Form.takeElements_congr
      (fun e _ => StoredElement.filter_kind_eq distinct reordered e.kind) alike).symm
  · simp only [opened, unlocks]
    rfl
  · obtain own := Form.kind_of_entry he
    exact Entry.contains_of_last (own ▸ StoredElement.last?_of_mem distinct hx) errors
  · have own : x.kind = (e.filled elements).kind := by rw [Entry.kind_filled, Form.kind_of_entry he]
    have shown := Entry.hasErrors_withErrors hx own
    exact ⟨shown, Entry.isReady_of_hasErrors shown⟩
  · obtain rfl := Form.kind_of_entry he
    rw [after he, Entry.filled_of_others fills, Entry.withErrors_of_others marks]

/-- A passport and an address come in either order, and so do the errors about them; what is wrong with
the reverse side that the passport lacks goes to the whole of it, and the second error there is shown. -/
theorem unlocked_in_any_order_of_passport :
    let passport : Kind := .identity .passport
    let form : AuthorizationForm :=
      ⟨7, [[⟨passport, false, false, false⟩], [⟨.email, false, false, false⟩]], none⟩
    let s := (play (.fresh .plain .empty) ((opening form []).drop 1)).2
    let front : DatedFile := ⟨⟨7, 10, 0⟩, 1⟩
    let elements : List StoredElement :=
      [.identity .passport ⟨"AB1", none, some front, none, none, []⟩, .email "a@b.c", .phone "1"]
    let missing : ElementError := ⟨passport, "missing", .reverseSide⟩
    let unclear : ElementError := ⟨passport, "unclear", .unspecified⟩
    let bounced : ElementError := ⟨.email, "bounced", .unspecified⟩
    let opened (elements : List StoredElement) (errors : List ElementError) : Session :=
      (s.act 3 (.reply ⟨⟨3, .errand .availableElements⟩,
        .ok (.availableElements elements errors)⟩)).1
    let opened' := opened elements.reverse [bounced, missing, unclear]
    opened' = opened elements [missing, unclear, bounced] ∧ opened'.secretReady = true ∧
      (∃ e, opened'.entry? .email = some e ∧ e.fields.text Kind.plainField = "a@b.c") ∧
      (∃ e, opened'.entry? passport = some e ∧ e.isReady = false) ∧
      ((opened'.entry? passport).bind fun e => e.errorAt .whole) = some "unclear" := by
  intro passport form s front elements missing unclear bounced opened opened'
  let asking := (play (.fresh .plain .empty) ((opening form []).drop 1)).1
  have run : Run .plain asking s := .of_playable (by decide +kernel)
  have live : s.cancelled = false := by decide +kernel
  have outstanding : asking.Outstanding ⟨3, .errand .availableElements⟩ := by decide +kernel
  have distinct : (elements.map Element.kind).Nodup := by decide
  have reordered : elements.Perm elements.reverse := elements.reverse_perm.symm
  have alike : (elements.foldl Form.fill s.form).HitAlike [missing, unclear, bounced]
      [bounced, missing, unclear] := by decide +kernel
  have there (kind : Kind) (asked : (s.entry? kind).isSome = true) : ∃ e, s.entry? kind = some e :=
    Option.isSome_iff_exists.1 asked
  obtain ⟨same, ready, committed, marked, -⟩ :=
    unlocked_in_any_order run live outstanding distinct reordered alike 3
  have same : opened' = opened elements [missing, unclear, bounced] := same
  rw [same]
  refine ⟨rfl, ready, ?_, ?_, by decide +kernel⟩
  · obtain ⟨before, known⟩ := there .email (by decide +kernel)
    obtain ⟨e, he, -, texts, -⟩ := committed (.email "a@b.c") (by decide) before known
    exact ⟨e, he, (texts Kind.plainField).trans (by decide)⟩
  · obtain ⟨before, known⟩ := there passport (by decide +kernel)
    obtain ⟨e, he, -, unready⟩ := marked missing (by decide) before known
    exact ⟨e, he, unready⟩

end Run

end IdentityForm
