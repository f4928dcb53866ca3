import IdentityForm.Proofs.Reading

/-! # Where errors stand

An entry shows errors in several places: on the whole of it, on each of its two lists of files, on a
field, and on a file. The source of an error names one of them, and where the file is missing that it is
about, the error goes to the list or to the whole. It replaces the error that stands there and leaves all
other places alone, so that of several errors the last one in each place is shown and none is lost.
-/

namespace IdentityForm

/-- A place where an entry shows an error. -/
inductive Spot where
  | whole
  | scans
  | renditions
  | field (name : String)
  | scan (index : Nat)
  | rendition (index : Nat)
  | frontSide
  | reverseSide
  | selfie
  deriving DecidableEq, Repr

def Spot.slot? : Spot → Option Slot
  | .scan index => some ⟨.scan, some index⟩
  | .rendition index => some ⟨.rendition, some index⟩
  | .frontSide => some ⟨.frontSide, none⟩
  | .reverseSide => some ⟨.reverseSide, none⟩
  | .selfie => some ⟨.selfie, none⟩
  | _ => none

namespace Entry

def errorAt (e : Entry) : Spot → Option String
  | .whole => e.error
  | .scans => e.scanError
  | .renditions => e.renditionError
  | .field name => (e.fields.get? name).bind (·.error)
  | .scan index => e.files.scans[index]?.bind (·.error)
  | .rendition index => e.files.renditions[index]?.bind (·.error)
  | .frontSide => e.files.frontSide.bind (·.error)
  | .reverseSide => e.files.reverseSide.bind (·.error)
  | .selfie => e.files.selfie.bind (·.error)

/-- The spot that the source of an error names. -/
def spotOf (e : Entry) : ErrorSource → Spot
  | .unspecified => if e.kind.canHaveError then .whole else .field Kind.plainField
  | .dataField name => .field name
  | .frontSide => if e.files.frontSide.isSome then .frontSide else .whole
  | .reverseSide => if e.files.reverseSide.isSome then .reverseSide else .whole
  | .selfie => if e.files.selfie.isSome then .selfie else .whole
  | .file index => if index.toNat < e.files.scans.length then .scan index.toNat else .scans
  | .files => .scans
  | .renditionFile index =>
    if index.toNat < e.files.renditions.length then .rendition index.toNat else .renditions
  | .renditionFiles => .renditions

def mark (e : Entry) (message : String) (spot : Spot) : Entry :=
  match spot with
  | .whole => { e with error := some message }
  | .scans => { e with scanError := some message }
  | .renditions => { e with renditionError := some message }
  | .field name => { e with fields := e.fields.setError name message }
  | spot =>
    match spot.slot? with
    | some slot =>
      { e with files := e.files.modify slot fun f => { f with error := some message } }
    | none => e

/-- An entry without its errors, its committed fields and what is shown of them in the edit buffer. -/
def unmarked (e : Entry) : Entry :=
  { e with
    fields := .empty
    draftFields := .empty
    files := e.files.map StoredFile.unmarked
    error := none
    scanError := none
    renditionError := none }

/-- Those among some errors that go to a spot of the entry, in their order. -/
def hits (e : Entry) (spot : Spot) (errors : List ElementError) : List ElementError :=
  errors.filter fun x => e.spotOf x.source = spot

end Entry

/-! ## Errors on fields -/

namespace Fields

variable {m : Fields}

theorem hasErrors_iff : m.hasErrors = true ↔
    ∃ name, ((m.get? name).bind (·.error)).isSome = true := by
  simp only [hasErrors, List.any_eq_true]
  constructor
  · rintro ⟨⟨name, field⟩, there, shown⟩
    have found : m.get? name = some field := get?_eq_some_iff.2 there
    exact ⟨name, by simpa [found] using shown⟩
  · rintro ⟨name, shown⟩
    cases found : m.get? name with
    | none => simp [found] at shown
    | some field => exact ⟨(name, field), get?_eq_some_iff.1 found, by simpa [found] using shown⟩

end Fields

/-! ## One error -/

theorem Spot.eq_of_same {spot other : Spot} {slot place : Slot} (hs : spot.slot? = some slot)
    (ho : other.slot? = some place) (same : slot.Same place) : spot = other := by
  obtain ⟨roles, index⟩ := same
  cases spot <;> cases hs <;> cases other <;> cases ho <;> simp_all [Role.isSpecial]

theorem Spot.exists_of_get? {α : Type} {f : Files α} {slot : Slot} {a : α}
    (hf : f.get? slot = some a) : ∃ spot place, Spot.slot? spot = some place ∧ slot.Same place := by
  obtain ⟨role, index⟩ := slot
  cases role with
  | scan =>
      cases index with
      | none => simp [Files.get?] at hf
      | some i => exact ⟨.scan i, _, rfl, rfl, .inr rfl⟩
  | rendition =>
      cases index with
      | none => simp [Files.get?] at hf
      | some i => exact ⟨.rendition i, _, rfl, rfl, .inr rfl⟩
  | frontSide => exact ⟨.frontSide, _, rfl, rfl, .inl rfl⟩
  | reverseSide => exact ⟨.reverseSide, _, rfl, rfl, .inl rfl⟩
  | selfie => exact ⟨.selfie, _, rfl, rfl, .inl rfl⟩

namespace Entry

variable {e : Entry} {message : String} {spot other : Spot} {slot : Slot}

theorem errorAt_of_slot (hs : spot.slot? = some slot) :
    e.errorAt spot = (e.files.get? slot).bind (·.error) := by
  cases spot <;> cases hs <;> rfl

theorem mark_of_slot (hs : spot.slot? = some slot) : e.mark message spot =
    { e with files := e.files.modify slot fun f => { f with error := some message } } := by
  cases spot <;> cases hs <;> rfl

/-- An error that is put in a spot stands there, and nowhere else. -/
theorem errorAt_mark (there : ∀ slot, spot.slot? = some slot → (e.files.get? slot).isSome = true) :
    (e.mark message spot).errorAt other = if other = spot then some message else e.errorAt other := by
  cases hs : spot.slot? with
  | none =>
      cases spot with
      | whole | scans | renditions => cases other <;> simp [mark, errorAt]
      | field name =>
          cases other with
          | field key => by_cases here : key = name <;> simp [mark, errorAt, Fields.get?_setError, here]
          | _ => simp [mark, errorAt]
      | _ => cases hs
  | some slot =>
      rw [mark_of_slot hs]
      cases ho : other.slot? with
      | none =>
          have apart : other ≠ spot := fun same => by simp [← same, ho] at hs
          rw [if_neg apart]
          cases other <;> cases ho <;> rfl
      | some place =>
          rw [errorAt_of_slot ho, errorAt_of_slot ho, Files.get?_modify]
          by_cases here : slot.Same place
          · obtain ⟨f, hf⟩ := Option.isSome_iff_exists.1 (there slot hs)
            have hp : e.files.get? place = some f := (Files.get?_congr _ here).symm.trans hf
            rw [if_pos here, if_pos (Spot.eq_of_same hs ho here).symm, hp]
            rfl
          · have apart : other ≠ spot := by
              rintro rfl
              cases hs.symm.trans ho
              exact here ⟨rfl, .inr rfl⟩
            rw [if_neg here, if_neg apart]

/-- An error is put in the spot that its source names. -/
theorem placeError_eq_mark (e : Entry) (message : String) (source : ErrorSource) :
    e.placeError message source = e.mark message (e.spotOf source) := by
  cases source with
  | unspecified =>
      simp only [placeError, spotOf]
      split <;> rfl
  | dataField name => rfl
  | files => rfl
  | renditionFiles => rfl
  | frontSide =>
      cases there : e.files.frontSide <;>
        simp [placeError, setFileError, spotOf, mark, Spot.slot?, Files.get?, there]
  | reverseSide =>
      cases there : e.files.reverseSide <;>
        simp [placeError, setFileError, spotOf, mark, Spot.slot?, Files.get?, there]
  | selfie =>
      cases there : e.files.selfie <;>
        simp [placeError, setFileError, spotOf, mark, Spot.slot?, Files.get?, there]
  | file index =>
      by_cases there : index.toNat < e.files.scans.length
      · simp [placeError, setFileError, spotOf, mark, Spot.slot?, Files.get?, there]
      · simp [placeError, setFileError, spotOf, mark, Files.get?, there]
  | renditionFile index =>
      by_cases there : index.toNat < e.files.renditions.length
      · simp [placeError, setFileError, spotOf, mark, Spot.slot?, Files.get?, there]
      · simp [placeError, setFileError, spotOf, mark, Files.get?, there]

theorem there_of_spotOf {source : ErrorSource} (hs : (e.spotOf source).slot? = some slot) :
    (e.files.get? slot).isSome = true := by
  cases source <;> simp only [spotOf] at hs
  all_goals first | cases hs | (split at hs <;> cases hs)
  all_goals simp_all [Files.get?]

theorem spotOf_unmarked (e : Entry) (source : ErrorSource) :
    e.unmarked.spotOf source = e.spotOf source := by
  cases source with
  | unspecified => rfl
  | _ => simp [spotOf, unmarked, Files.map]

theorem errorAt_draftFields (e : Entry) (fields : Fields) (spot : Spot) :
    { e with draftFields := fields }.errorAt spot = e.errorAt spot := by
  cases spot <;> rfl

/-- An error of the server stands in the spot that it is about, and nowhere else. -/
theorem errorAt_applyError (e : Entry) (x : ElementError) (spot : Spot) :
    (e.applyError x).errorAt spot =
      if spot = e.spotOf x.source then some x.message else e.errorAt spot := by
  have marked : (e.mark x.message (e.spotOf x.source)).errorAt spot =
      if spot = e.spotOf x.source then some x.message else e.errorAt spot :=
    errorAt_mark fun slot hs => there_of_spotOf hs
  rw [← marked, ← placeError_eq_mark, applyError]
  split
  · exact errorAt_draftFields _ _ spot
  · rfl

/-- An error changes neither a text nor anything else than errors. -/
theorem unmarked_applyError (e : Entry) (x : ElementError) :
    (e.applyError x).unmarked = e.unmarked := by
  obtain ⟨_, _, _, _, _, _, applied, same⟩ := e.applyError_eq x
  simp only [applied, unmarked, same]

theorem spotOf_applyError (e : Entry) (x : ElementError) (source : ErrorSource) :
    (e.applyError x).spotOf source = e.spotOf source := by
  rw [← spotOf_unmarked, unmarked_applyError, spotOf_unmarked]

theorem get?_applyError (e : Entry) (x : ElementError) (key : String) :
    (e.applyError x).fields.get? key =
      if e.spotOf x.source = .field key then some ⟨e.fields.text key, some x.message⟩
      else e.fields.get? key := by
  have fields : (e.applyError x).fields = (e.mark x.message (e.spotOf x.source)).fields := by
    rw [← placeError_eq_mark, applyError]
    split <;> rfl
  rw [fields]
  cases e.spotOf x.source with
  | field name =>
      refine (Fields.get?_setError ..).trans ?_
      by_cases here : key = name
      · simp [here]
      · simp [here, Ne.symm here]
  | _ => simp [mark, Spot.slot?]

theorem text_applyError (e : Entry) (x : ElementError) (key : String) :
    (e.applyError x).fields.text key = e.fields.text key := by
  rw [Fields.text, get?_applyError]
  split <;> rfl

theorem draftFields_applyError (e : Entry) (x : ElementError) : (e.applyError x).draftFields =
    if e.editors = 0 ∧ e.isBusy = false then (e.applyError x).fields else e.draftFields := by
  obtain ⟨fields, files, error, scanError, renditionError, placed, -⟩ :=
    e.placeError_eq x.message x.source
  have busy : { e with fields, files, error, scanError, renditionError }.isBusy = e.isBusy := rfl
  simp only [applyError, placed, busy]
  by_cases idle : e.editors = 0 ∧ e.isBusy = false
  · simp [idle]
  · have going : ¬ (e.editors = 0 ∧ ¬ e.isBusy = true) := by simpa using idle
    simp only [if_neg idle, if_neg going]

theorem idle_applyError (e : Entry) (x : ElementError) :
    ((e.applyError x).editors = 0 ∧ (e.applyError x).isBusy = false) ↔
      (e.editors = 0 ∧ e.isBusy = false) := by
  obtain ⟨_, _, _, _, _, _, applied, -⟩ := e.applyError_eq x
  rw [applied]
  exact Iff.rfl

/-! ## What an entry tells of its errors -/

/-- One of the files has an error if a spot that is on a file has. -/
theorem any_files_iff : (e.files.toList.any fun f => f.error.isSome) = true ↔
    ∃ spot slot, spot.slot? = some slot ∧ (e.errorAt spot).isSome = true := by
  simp only [List.any_eq_true, Files.mem_toList_iff]
  constructor
  · rintro ⟨f, ⟨slot, hf⟩, shown⟩
    obtain ⟨spot, place, hs, same⟩ := Spot.exists_of_get? hf
    refine ⟨spot, place, hs, ?_⟩
    rwa [errorAt_of_slot hs, ← Files.get?_congr _ same, hf]
  · rintro ⟨spot, slot, hs, shown⟩
    rw [errorAt_of_slot hs] at shown
    cases hf : e.files.get? slot with
    | none => simp [hf] at shown
    | some f => exact ⟨f, ⟨slot, hf⟩, by simpa [hf] using shown⟩

/-- An entry has errors if there is one in a spot. -/
theorem hasErrors_iff : e.hasErrors = true ↔ ∃ spot, (e.errorAt spot).isSome = true := by
  simp only [hasErrors, Bool.or_eq_true, Fields.hasErrors_iff, any_files_iff]
  constructor
  · rintro ((((shown | shown) | shown) | ⟨name, shown⟩) | ⟨spot, -, -, shown⟩)
    · exact ⟨.whole, shown⟩
    · exact ⟨.scans, shown⟩
    · exact ⟨.renditions, shown⟩
    · exact ⟨.field name, shown⟩
    · exact ⟨spot, shown⟩
  · rintro ⟨spot, shown⟩
    cases spot with
    | whole => exact .inl (.inl (.inl (.inl shown)))
    | scans => exact .inl (.inl (.inl (.inr shown)))
    | renditions => exact .inl (.inl (.inr shown))
    | field name => exact .inl (.inr ⟨name, shown⟩)
    | _ => exact .inr ⟨_, _, rfl, shown⟩

theorem isReady_of_hasErrors (h : e.hasErrors = true) : e.isReady = false := by
  simp [isReady, h]

/-! ## Several errors -/

theorem last_hit {α : Type} (view : Entry → α) {left : ElementError → α}
    (step : ∀ e x, view (applyError e x) = if e.spotOf x.source = spot then left x else view e)
    (errors : List ElementError) (e : Entry) :
    view (errors.foldl applyError e) = ((e.hits spot errors).getLast?.map left).getD (view e) := by
  induction errors generalizing e with
  | nil => rfl
  | cons x rest ih =>
      have later : (e.applyError x).hits spot rest = e.hits spot rest := by
        simp only [hits, spotOf_applyError]
      rw [List.foldl_cons, ih, later, step]
      by_cases here : e.spotOf x.source = spot
      · have first : e.hits spot (x :: rest) = x :: e.hits spot rest :=
          List.filter_cons_of_pos (by simp [here])
        rw [first, if_pos here, List.getLast?_cons]
        cases (e.hits spot rest).getLast? <;> rfl
      · have first : e.hits spot (x :: rest) = e.hits spot rest :=
          List.filter_cons_of_neg (by simp [here])
        rw [first, if_neg here]

/-- Of several errors the last one in a spot is shown. -/
theorem errorAt_applyErrors (errors : List ElementError) (e : Entry) (spot : Spot) :
    (errors.foldl applyError e).errorAt spot =
      ((e.hits spot errors).getLast?.map fun x => some x.message).getD (e.errorAt spot) :=
  last_hit (fun e => e.errorAt spot) (fun e x => by
    rw [errorAt_applyError]
    simp only [eq_comm]) errors e

theorem unmarked_applyErrors (errors : List ElementError) (e : Entry) :
    (errors.foldl applyError e).unmarked = e.unmarked := by
  induction errors generalizing e with
  | nil => rfl
  | cons x rest ih => exact (ih _).trans (e.unmarked_applyError x)

theorem hasErrors_applyErrors {errors : List ElementError} {x : ElementError} (h : x ∈ errors) :
    (errors.foldl applyError e).hasErrors = true := by
  refine hasErrors_iff.2 ⟨e.spotOf x.source, ?_⟩
  have hit : x ∈ e.hits (e.spotOf x.source) errors := List.mem_filter.2 ⟨h, by simp⟩
  have ends := List.getLast?_isSome.2 (List.ne_nil_of_mem hit)
  obtain ⟨last, found⟩ := Option.isSome_iff_exists.1 ends
  rw [errorAt_applyErrors, found]
  rfl

/-- An error of the server lands in one spot, the one that its source names. That spot shows it, and all
others show what they did. A field that is not there is made for it, without a text; besides that the
entry keeps its texts and everything else that is not an error, and its edit buffer shows the committed
fields anew if there is no editor and nothing under way. From then on the entry has errors and is not
ready, whatever errors follow, and shows this one until another one lands in the same spot. -/
theorem error_lands (e : Entry) (x : ElementError) (later : List ElementError) :
    (∀ spot, (e.applyError x).errorAt spot =
      if spot = e.spotOf x.source then some x.message else e.errorAt spot) ∧
    (∀ key, (e.applyError x).fields.get? key =
      if e.spotOf x.source = .field key then some ⟨e.fields.text key, some x.message⟩
      else e.fields.get? key) ∧
    (∀ key, (e.applyError x).fields.text key = e.fields.text key) ∧
    (e.applyError x).unmarked = e.unmarked ∧
    (e.applyError x).draftFields =
      (if e.editors = 0 ∧ e.isBusy = false then (e.applyError x).fields else e.draftFields) ∧
    ((x :: later).foldl applyError e).hasErrors = true ∧
    ((x :: later).foldl applyError e).isReady = false ∧
    ((∀ y ∈ later, e.spotOf y.source ≠ e.spotOf x.source) →
      ((x :: later).foldl applyError e).errorAt (e.spotOf x.source) = some x.message) := by
  have shown : ((x :: later).foldl applyError e).hasErrors = true :=
    hasErrors_applyErrors List.mem_cons_self
  refine ⟨e.errorAt_applyError x, e.get?_applyError x, e.text_applyError x, e.unmarked_applyError x,
    e.draftFields_applyError x, shown, isReady_of_hasErrors shown, fun apart => ?_⟩
  have alone : e.hits (e.spotOf x.source) (x :: later) = [x] := by
    have none_ : e.hits (e.spotOf x.source) later = [] :=
      List.filter_eq_nil_iff.2 fun y hy => by simpa using apart y hy
    rw [hits, List.filter_cons_of_pos (by simp), ← hits, none_]
  rw [errorAt_applyErrors, alone]
  rfl

/-- A passport with a front side only. What is wrong with its reverse side is said of the whole, what is
wrong with a scan is said of the list, and what is wrong with the front side after that hides neither. -/
theorem error_lands_of_missing_files :
    let error (message : String) (source : ErrorSource) : ElementError :=
      ⟨.identity .passport, message, source⟩
    let front : DatedFile := ⟨⟨7, 10, 0⟩, 1⟩
    let element : StoredElement := .identity .passport ⟨"AB1", none, some front, none, none, []⟩
    let e := (blank (.identity .passport)).fill element.contents
    let missing := error "missing" .reverseSide
    let later := [error "no scan" (.file 0), error "blurry" .frontSide,
      error "past" (.dataField "until")]
    let e' := (missing :: later).foldl applyError e
    (∀ y ∈ later, e.spotOf y.source ≠ e.spotOf missing.source) ∧
      e'.errorAt .whole = some "missing" ∧ e'.hasErrors = true ∧ e'.isReady = false ∧
      e'.errorAt .scans = some "no scan" ∧ e'.errorAt .frontSide = some "blurry" ∧
      e'.fields.get? "until" = some ⟨"", some "past"⟩ := by
  intro error front element e missing later e'
  have apart : ∀ y ∈ later, e.spotOf y.source ≠ e.spotOf missing.source := by decide
  obtain ⟨-, -, -, -, -, shown, unready, stands⟩ := error_lands e missing later
  exact ⟨apart, stands apart, shown, unready, by decide, by decide, by decide⟩

end Entry

end IdentityForm
