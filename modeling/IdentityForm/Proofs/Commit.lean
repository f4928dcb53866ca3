import IdentityForm.Proofs.Replies
import IdentityForm.Proofs.Requirements
import IdentityForm.Proofs.Shown.Run
import IdentityForm.Proofs.Spots
import IdentityForm.Proofs.Unreported

/-! # What a save commits

The reply to a save is the element that the server has now. That is what is committed then, with the
pictures that the edit buffer had of its files, and the buffer shows it if an editor is open. A reply
that is no element of the kind commits nothing, and the save counts as failed.
-/

namespace IdentityForm

/-! ## Elements of the server -/

theorem Fields.error_ofTexts {texts : List (String × String)} {key : String} {field : Field}
    (h : (ofTexts texts).get? key = some field) : field.error = none := by
  have clean : ∀ key field, (ofTexts texts).get? key = some field → field.error = none := by
    refine List.foldlRecOn _ _ (motive := fun m : Fields =>
      ∀ key field, m.get? key = some field → field.error = none) nofun ?_
    intro m clean p hp key field h
    obtain ⟨pair, -, rfl⟩ := List.mem_map.1 hp
    rw [get?_set] at h
    split at h
    · cases h
      rfl
    · exact clean key field h
  exact clean key field h

namespace StoredElement

variable {element : StoredElement}

theorem error_field {key : String} {field : Field}
    (h : element.contents.fields.get? key = some field) : field.error = none := by
  cases element with
  | residence => cases h
  | _ => exact Fields.error_ofTexts h

theorem error_file {slot : Slot} {f : StoredFile}
    (h : element.contents.files.get? slot = some f) : f.error = none := by
  obtain ⟨file, rfl⟩ := element.exists_stored h
  rfl

end StoredElement

/-! ## Pictures -/

def StoredFile.unloaded (f : StoredFile) : StoredFile :=
  { f with preview := none, download := .notStarted }

namespace Entry

/-- In the edit buffer there is a file with this id and this picture. -/
def Pictures (e : Entry) (id : UInt64) (picture : Preview) : Prop :=
  ∃ slot d, e.draftFiles.get? slot = some d ∧ d.file.id = id ∧ d.file.preview = some picture

variable {e : Entry} {id : UInt64} {picture : Preview}

theorem mem_previews : (id, picture) ∈ e.previews ↔ e.Pictures id picture := by
  simp only [previews, List.mem_reverse, List.mem_filterMap, Files.mem_toList_iff,
    Option.map_eq_some_iff, Prod.mk.injEq]
  constructor
  · rintro ⟨d, ⟨slot, hd⟩, _, hp, rfl, rfl⟩
    exact ⟨slot, d, hd, rfl, hp⟩
  · rintro ⟨slot, d, hd, rfl, hp⟩
    exact ⟨d, ⟨slot, hd⟩, picture, hp, rfl, rfl⟩

theorem pictures_of_lookup (h : e.previews.lookup id = some picture) : e.Pictures id picture := by
  obtain ⟨before, after, previews, -⟩ := List.lookup_eq_some_iff.1 h
  exact mem_previews.1 (previews ▸ List.mem_append_right _ List.mem_cons_self)

theorem not_pictures_of_lookup (h : e.previews.lookup id = none) : ¬ e.Pictures id picture :=
  fun pictured => by
    simpa using List.lookup_eq_none_iff.1 h _ (mem_previews.2 pictured)

/-! ## A commit -/

/-- What the server has returned is committed: the fields and the files of the element, in their order
and without errors. A file has a picture if the edit buffer had one of it, and counts as downloaded
then. The edit buffer is filled anew if an editor is open, and else it is emptied. Nothing is required
of the entry that was not, and its editors stay open. -/
structure Commits (e : Entry) (c : Contents) (e' : Entry) : Prop where
  required : e'.required = e.required
  editors : e'.editors = e.editors
  verification : e'.verification = e.verification
  write : e'.write = .idle
  present : e'.present = true
  fields : e'.fields = c.fields
  files : e'.files.map StoredFile.unloaded = c.files
  flawless : ∀ spot, e'.errorAt spot = none
  pictured : ∀ slot f, e'.files.get? slot = some f →
    (f.preview.isSome = true ↔ ∃ picture, e.Pictures f.id picture) ∧
      (∀ picture, f.preview = some picture → e.Pictures f.id picture) ∧
      f.download = if f.preview.isSome = true then .done else .notStarted
  draftFields : e'.draftFields = e'.fields
  draftFiles : e'.draftFiles = if e.editors = 0 then .empty else e'.files.map Draft.ofStored

theorem commit_eq (e : Entry) (c : Contents) : e.commit c = { e with
    fields := c.fields
    files := c.files.map (withPreview e.previews)
    error := none
    scanError := none
    renditionError := none
    present := true
    draftFields := c.fields
    draftFiles := if e.editors = 0 then .empty
      else (c.files.map (withPreview e.previews)).map Draft.ofStored } := by
  simp only [commit, fill]
  split <;> rename_i editors
  · simp [clearDraft, editors]
  · simp [snapshot]

theorem withPreview_eq (known : List (UInt64 × Preview)) (f : StoredFile) :
    withPreview known f = { f with
      preview := (known.lookup f.id).or f.preview
      download := if (known.lookup f.id).isSome = true then .done else f.download } := by
  unfold withPreview
  split <;> rename_i found <;> simp [found]

theorem unloaded_withPreview {known : List (UInt64 × Preview)} {f : StoredFile}
    (idle : f.download = .notStarted) (blank : f.preview = none) :
    (withPreview known f).unloaded = f := by
  rw [withPreview_eq, StoredFile.unloaded, ← idle, ← blank]

/-- The echo of a save is committed. -/
theorem commits_commit (e : Entry) (element : StoredElement) :
    e.Commits element.contents ({ e with write := .idle }.commit element.contents) := by
  have previews : previews { e with write := .idle } = e.previews := rfl
  rw [commit_eq, previews]
  have shown {slot : Slot} {f : StoredFile}
      (h : (element.contents.files.map (withPreview e.previews)).get? slot = some f) :
      ∃ f', element.contents.files.get? slot = some f' ∧ f = { f' with
        preview := e.previews.lookup f'.id
        download := if (e.previews.lookup f'.id).isSome = true then .done else .notStarted } := by
    obtain ⟨f', hf', rfl⟩ := Option.map_eq_some_iff.1 ((Files.get?_map ..).symm.trans h)
    obtain ⟨idle, blank⟩ := element.untouched hf'
    exact ⟨f', hf', by rw [withPreview_eq, idle, blank, Option.or_none]⟩
  refine { required := rfl, editors := rfl, verification := rfl, write := rfl, present := rfl,
           fields := rfl, files := ?_, flawless := ?_, pictured := ?_, draftFields := rfl,
           draftFiles := rfl }
  · refine Files.ext_get? fun slot => ?_
    rw [Files.get?_map, Files.get?_map, Option.map_map]
    cases hf : element.contents.files.get? slot with
    | none => rfl
    | some f =>
        obtain ⟨idle, blank⟩ := element.untouched hf
        exact congrArg some (unloaded_withPreview idle blank)
  · intro spot
    cases hs : spot.slot? with
    | some slot =>
        rw [errorAt_of_slot hs]
        refine Option.bind_eq_none_iff.2 fun f hf => ?_
        obtain ⟨f', hf', rfl⟩ := shown hf
        exact (element.error_file hf' : f'.error = none)
    | none =>
        cases spot with
        | field key => exact Option.bind_eq_none_iff.2 fun _ hf => element.error_field hf
        | whole | scans | renditions => rfl
        | _ => cases hs
  · intro slot f hf
    obtain ⟨f', -, rfl⟩ := shown hf
    refine ⟨⟨fun seen => ?_, ?_⟩, fun picture => pictures_of_lookup, rfl⟩
    · obtain ⟨picture, found⟩ := Option.isSome_iff_exists.1 seen
      exact ⟨picture, pictures_of_lookup found⟩
    · rintro ⟨picture, pictured⟩
      exact Option.isSome_iff_ne_none.2 fun missing => not_pictures_of_lookup missing pictured

end Entry

/-! ## A reply to a save -/

/-- That a reply is no element of the kind has no meaning of its own for a save. -/
theorem SaveFailure.ofCode_of_fault {code : String} (kind : Kind)
    (fault : code = Code.kindMismatch ∨ ∃ response : Response, code = response.unexpected.code) :
    ofCode kind code = .other code := by
  rcases fault with rfl | ⟨response, rfl⟩
  · cases kind <;> rfl
  · cases kind <;> rfl

namespace Session

variable {s : Session} {kind : Kind} {e : Entry}

theorem saveDone_of_kind (distinct : (s.form.entries.map Entry.kind).Nodup)
    (he : s.entry? kind = some e) {element : StoredElement} (same : element.kind = kind) :
    s.saveDone kind (.ok (.element element)) =
      (s.put ({ e with write := .idle }.commit element.contents)).notify (.saveFinished kind) := by
  obtain rfl := Form.kind_of_entry he
  have committed := Form.modify_eq_put (g := fun e => { e with write := .idle }.commit element.contents)
    distinct (Form.mem_of_entry he)
  simp only [saveDone, same, if_true, Session.modify, put, committed, Entry.kind_commit]

/-- What is no element of the kind makes a save fail. -/
theorem saveDone_of_other {response : Response}
    (other : ∀ element, response = .element element → element.kind ≠ kind) :
    ∃ code, SaveFailure.ofCode kind code = .other code ∧
      s.saveDone kind (.ok response) = s.saveFailed kind ⟨code⟩ := by
  cases response with
  | element element =>
      exact ⟨_, SaveFailure.ofCode_of_fault kind (.inl rfl), if_neg (other element rfl)⟩
  | _ => exact ⟨_, SaveFailure.ofCode_of_fault kind (.inr ⟨.ok, rfl⟩), rfl⟩

theorem saveFailed_of_other (distinct : (s.form.entries.map Entry.kind).Nodup)
    (he : s.entry? kind = some e) {code : String} (other : SaveFailure.ofCode kind code = .other code) :
    s.saveFailed kind ⟨code⟩ = ((s.put { e with write := .idle }.clearIfIdle).notify
      (.errorBox code)).notify (.editFailed kind) := by
  obtain rfl := Form.kind_of_entry he
  have settled : (s.form.modify e.kind fun e => { e with write := .idle }).modify e.kind
      Entry.clearIfIdle = s.form.modify e.kind fun _ => { e with write := .idle }.clearIfIdle :=
    Form.modify_modify_eq_put distinct (Form.mem_of_entry he) fun _ => rfl
  unfold saveFailed
  rw [other]
  simp only [editFailed, clearIfIdle, notify, Session.modify, put, settled, Entry.kind_clearIfIdle]

end Session

/-- An entry without its edit buffer, and with nothing to be written. -/
def Entry.unedited (e : Entry) : Entry :=
  { e with draftFields := .empty, draftFiles := .empty, write := .idle }

/-! ## Along a run -/

namespace Run

open Session

variable {setup : Setup} {past : History} {s : Session} {kind : Kind} {id : Nat}

/-- An entry that is being written is not among those whose saves are still to be reported. -/
theorem unlisted_of_awaits (run : Run setup past s) (live : s.cancelled = false) {e : Entry}
    (he : s.entry? kind = some e) (waiting : e.awaits? .save = some id) : kind ∉ s.unreported := by
  have written : s.write? kind ≠ some .unchanged := by
    have known : s.form.entry? kind = some e := he
    rw [Session.write?, known, Option.map_some, ne_eq, Option.some.injEq]
    intro unchanged
    simp [Entry.awaits?, unchanged] at waiting
  have count := (run.count_unreported live kind).1
  rw [if_neg written] at count
  exact List.count_eq_zero.1 count

/-- A save that is answered with an element of its kind commits that element and reports it, and nothing
else. Whatever else answers it changes nothing but the edit buffer: the save is over, and it is told
that it has failed, not that it is through. -/
theorem save_commits_echo (run : Run setup past s) (live : s.cancelled = false)
    (outstanding : past.Outstanding ⟨id, .task .save kind⟩) (now : Nat) :
    let replied (response : Response) : Session :=
      (s.act now (.reply ⟨⟨id, .task .save kind⟩, .ok response⟩)).1
    ∃ e, s.entry? kind = some e ∧
      (∀ element : StoredElement, element.kind = kind → ∃ e', e.Commits element.contents e' ∧
        replied (.element element) = (s.put e').notify (.saveFinished kind) ∧
        (replied (.element element)).outbox = [.notice (.saveFinished kind)]) ∧
      ∀ response, (∀ element, response = .element element → element.kind ≠ kind) →
        ∃ e' code, e'.unedited = e.unedited ∧ e'.write = .idle ∧
          replied response = ((s.put e').notify (.errorBox code)).notify (.editFailed kind) ∧
          (replied response).outbox = [.notice (.errorBox code), .notice (.editFailed kind)] ∧
          kind ∉ (replied response).unreported := by
  intro replied
  obtain ⟨e, he, waiting⟩ : ∃ e, s.entry? kind = some e ∧ e.awaits? .save = some id :=
    run.awaits_of_outstanding live outstanding
  have distinct := run.gated.distinct
  have taken (response : Response) : replied response = s.saveDone kind (.ok response) :=
    handleReply_of_task live he waiting _
  refine ⟨e, he, fun element same => ?_, fun response other => ?_⟩
  · have committed := (taken _).trans (saveDone_of_kind distinct he same)
    refine ⟨_, e.commits_commit element, committed, ?_⟩
    rw [committed, outbox_notify]
    exact congrArg (· ++ _) run.outbox_eq_nil
  · obtain ⟨code, meaning, failed⟩ := saveDone_of_other (s := s) other
    have failed := (taken response).trans (failed.trans (saveFailed_of_other distinct he meaning))
    have kept : Entry.unedited ({ e with write := .idle }.clearIfIdle) = e.unedited := by
      unfold Entry.clearIfIdle
      split <;> rfl
    refine ⟨_, code, kept, Entry.write_clearIfIdle _, failed, ?_, ?_⟩
    · rw [failed, outbox_notify, outbox_notify]
      exact congrArg (· ++ _ ++ _) run.outbox_eq_nil
    · rw [failed]
      exact run.unlisted_of_awaits live he waiting

/-- A front side was uploaded, and the save of it is through: its picture is committed with it, and the
editor shows both. An email in its place would have been no answer. -/
theorem save_commits_echo_of_upload :
    let kind : Kind := .identity .passport
    let front : DatedFile := ⟨⟨9, 10, 0⟩, 1⟩
    let actions := [(7, .save kind (.ofTexts [("document_no", "AB2")])), (6, .file (.uploadDone 1 9)),
      (5, .upload kind .frontSide 1 0 pixel), (4, .startEdit kind)] ++ opening passportForm []
    let s := (play (.fresh .plain .empty) actions).2
    let replied (response : Response) : Session :=
      (s.act 8 (.reply ⟨⟨4, .task .save kind⟩, .ok response⟩)).1
    let saved := replied (.element (.identity .passport ⟨"AB2", none, some front, none, none, []⟩))
    saved.outbox = [.notice (.saveFinished kind)] ∧
      (∃ e ∈ saved.entry? kind,
        (∃ f ∈ e.files.frontSide, f.id = 9 ∧ f.preview.isSome = true ∧ f.download = .done) ∧
        ∃ d ∈ e.draftFiles.frontSide, d.upload = none ∧ d.file.preview.isSome = true) ∧
      ∃ code, (replied (.element (.email "a@b.c"))).outbox =
        [.notice (.errorBox code), .notice (.editFailed kind)] := by
  intro kind front actions s replied saved
  let past := (play (.fresh .plain .empty) actions).1
  have run : Run .plain past s := .of_playable (by decide +kernel)
  have live : s.cancelled = false := by decide +kernel
  have outstanding : past.Outstanding ⟨4, .task .save kind⟩ := by decide +kernel
  obtain ⟨e, he, commits, fails⟩ := save_commits_echo run live outstanding 8
  obtain ⟨_, -, -, outbox⟩ :=
    commits (.identity .passport ⟨"AB2", none, some front, none, none, []⟩) rfl
  obtain ⟨_, code, -, -, -, failed, -⟩ := fails (.element (.email "a@b.c")) fun _ same => by
    cases same
    decide
  exact ⟨outbox, by decide +kernel, code, failed⟩

end Run

end IdentityForm
