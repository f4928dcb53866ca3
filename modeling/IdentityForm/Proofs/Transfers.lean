import IdentityForm.Proofs.Uploads.News

/-! # What news of transfers reach

News of an upload reach the one draft that holds it, and news of a download every file that shows what
is downloaded, whether it is committed or in the edit buffer. The view is told of each of these places
once, and everything else stays as it was.
-/

namespace IdentityForm

/-! ## News of downloads -/

/-- A downloaded file is as far as the news of it say, and has the picture that they bring, or else the
one that it had. -/
def StoredFile.loaded (status : Transfer) (picture : Option Preview) (f : StoredFile) : StoredFile :=
  { f with download := status, preview := picture.or f.preview }

/-- The download that an event is about, how far it has come, and the picture that it has brought. -/
def FileEvent.download? : FileEvent → Option (UInt64 × Transfer × Option Preview)
  | .downloadProgress id offset => some (id, .inProgress offset, none)
  | .downloadDone id bytes =>
    match Preview.decode? bytes with
    | some picture => some (id, .done, some picture)
    | none => some (id, .failed, none)
  | .downloadFailed id => some (id, .failed, none)
  | _ => none

theorem FileEvent.fileChange?_of_download {event : FileEvent} {id : UInt64} {status : Transfer}
    {picture : Option Preview} (h : event.download? = some (id, status, picture)) :
    event.fileChange? = some (id, StoredFile.loaded status picture) := by
  cases event with
  | downloadProgress | downloadFailed => cases h; rfl
  | downloadDone key bytes =>
      have told : Session.withDownload (Preview.decode? bytes) = StoredFile.loaded status picture ∧
          key = id := by
        simp only [download?] at h
        split at h <;> rename_i decoded <;> cases h <;> rw [decoded] <;> exact ⟨rfl, rfl⟩
      rw [fileChange?, told.1, told.2]
  | _ => cases h

/-! ## The places that show a file -/

/-- These are the places where a form shows a file, committed or in the edit buffer: all of them, and
each of them once. -/
structure Form.ShowsAt (f : Form) (id : UInt64) (places : List Place) : Prop where
  shown : ∀ place ∈ places, ∃ e, f.entry? place.kind = some e ∧ e.shows id place.slot = true
  complete : ∀ e ∈ f.entries, ∀ slot, e.shows id slot = true →
    ∃ place ∈ places, place.kind = e.kind ∧ slot.Same place.slot
  once : places.Pairwise fun p q => p.kind = q.kind → ¬ p.slot.Same q.slot

theorem Form.showsAt_findFile {f : Form} (distinct : (f.entries.map Entry.kind).Nodup) (id : UInt64) :
    f.ShowsAt id (f.findFile id) where
  shown place listed := by
    obtain ⟨e, he, hk, -, shows⟩ := Session.mem_findFile.1 listed
    exact ⟨e, hk ▸ entry?_of_mem distinct he, shows⟩
  complete e he slot shows := by
    obtain ⟨place, filled, same, shows⟩ := Entry.exists_of_shows shows
    exact ⟨⟨e.kind, place⟩, Session.mem_findFile.2 ⟨e, he, rfl, filled, shows⟩, rfl, same⟩
  once := by
    refine List.pairwise_flatMap.2 ⟨fun e _ => ?_, ?_⟩
    · have listed := (Files.nodup_slots e.files e.draftFiles).filter (e.shows id)
      refine List.pairwise_map.2 (listed.imp_of_mem fun hs hs' apart _ same => apart ?_)
      exact Files.eq_of_same_of_mem_slots (List.mem_filter.1 hs).1 (List.mem_filter.1 hs').1 same
    · refine (List.pairwise_map.1 distinct).imp fun apart p hp q hq same => ?_
      obtain ⟨_, -, rfl⟩ := List.mem_map.1 hp
      obtain ⟨_, -, rfl⟩ := List.mem_map.1 hq
      exact absurd same apart

namespace Session

variable {s : Session} {key : UInt64} {change : Draft → Draft} {e : Entry} {slot : Slot}
  {log : List UInt64}

/-- News of an upload that no draft holds come to nothing. -/
theorem updateUpload_of_unheld (unheld : ∀ e ∈ s.form.entries, ∀ slot, ¬ e.Holds slot key)
    (change : Draft → Draft) : s.updateUpload key change = s := by
  have lost : s.form.findUpload? key = none := by
    rw [Option.eq_none_iff_forall_ne_some]
    intro place found
    obtain ⟨e, he, -, -, held⟩ := Form.holds_of_findUpload? found
    exact unheld e he _ held
  unfold updateUpload
  rw [lost]

/-- The draft that holds an upload hears the news of it. -/
theorem updateUpload_of_holds (distinct : (s.form.entries.map Entry.kind).Nodup)
    (tracks : s.form.Tracks log) (he : e ∈ s.form.entries) (filled : slot ∈ e.slots)
    (held : e.Holds slot key) (change : Draft → Draft) :
    s.updateUpload key change =
      (s.put (e.hear slot change)).notify (.scanUpdated ⟨e.kind, slot⟩) := by
  obtain ⟨place, found, unique⟩ := tracks.holdsOnce he held
  obtain rfl := unique e he slot filled held
  have heard : (s.form.modify e.kind fun e =>
      { e with draftFiles := e.draftFiles.modify slot change }).modify e.kind Entry.clearIfIdle =
        s.form.modify e.kind fun _ => e.hear slot change :=
    Form.modify_modify_eq_put distinct he fun _ => rfl
  unfold updateUpload
  rw [found]
  simp only [clearIfIdle, notify, put, Session.modify, heard, Entry.kind_hear]

end Session

/-! ## Along a run -/

namespace Run

open Session

variable {setup : Setup} {past : History} {s : Session}

/-- News of an upload come to nothing if no draft holds it, and otherwise one draft does: that one is
changed, and the edit buffer it is in is emptied if nobody needs it any more; the view is told of its
slot. News of a download reach all files that show it, committed and in edit buffers: they are all as
far as the news say and get the picture that they bring; the view is told of each of their places. All
else stays as it was, but that a download that has ended is not on its way any more. -/
theorem news_reach_files (run : Run setup past s) (live : s.cancelled = false)
    (distinct : past.uploads.Nodup) (now : Nat) (event : FileEvent) :
    let s' := (s.act now (.file event)).1
    (∀ key change, event.draftChange? = some (key, change) →
      (∀ e ∈ s.form.entries, ∀ slot, ¬ e.Holds slot key) ∧ s' = s ∨
      ∃ e slot, s.entry? e.kind = some e ∧ slot ∈ e.slots ∧ e.Holds slot key ∧
        (∀ x ∈ s.form.entries, ∀ place, x.Holds place key → x = e ∧ slot.Same place) ∧
        s' = (s.put (e.hear slot change)).notify (.scanUpdated ⟨e.kind, slot⟩)) ∧
    ∀ id status picture, event.download? = some (id, status, picture) →
      ∃ places, s.form.ShowsAt id places ∧ s' = { s with
        form := { s.form with
          entries := s.form.entries.map (Entry.download id (StoredFile.loaded status picture)) }
        downloads := s.downloads.filter fun key => event.landed? ≠ some key
        outbox := s.outbox ++ places.map fun place => .notice (.scanUpdated place) } := by
  intro s'
  have kinds := run.gated.distinct
  have tracks := run.tracks distinct
  refine ⟨fun key change news => ?_, fun id status picture news => ?_⟩
  · have told : s' = s.updateUpload key change := handleFileEvent_of_news live news
    rw [told]
    by_cases held : ∃ e ∈ s.form.entries, ∃ slot, e.Holds slot key
    · obtain ⟨e, he, slot, held⟩ := held
      obtain ⟨d, u, hd, hu, hkey⟩ := held
      obtain ⟨place, filled, same⟩ := Files.mem_slots_of_get? (f := e.files) hd
      have held : e.Holds place key := Entry.Holds.congr same ⟨d, u, hd, hu, hkey⟩
      refine .inr ⟨e, place, Form.entry?_of_mem kinds he, filled, held, fun x hx other held' => ?_,
        updateUpload_of_holds kinds tracks he filled held change⟩
      obtain ⟨kind, same⟩ := tracks.once e he x hx place other key held held'
      exact ⟨Form.eq_of_kind_eq kinds hx he kind.symm, same⟩
    · have unheld : ∀ e ∈ s.form.entries, ∀ slot, ¬ e.Holds slot key :=
        fun e he slot here => held ⟨e, he, slot, here⟩
      exact .inl ⟨unheld, updateUpload_of_unheld unheld change⟩
  · exact ⟨s.form.findFile id, Form.showsAt_findFile kinds id,
      handleFileEvent_of_download live (FileEvent.fileChange?_of_download news)⟩

/-- The front side of a passport is translated by itself, so that its picture comes to four files in two
places. The translation that is uploading after that one is told about alone. -/
theorem news_reach_files_of_passport :
    let kind : Kind := .identity .passport
    let front : DatedFile := ⟨⟨7, 10, 0⟩, 1⟩
    let passport : StoredElement := .identity .passport ⟨"AB1", none, some front, none, none, [front]⟩
    let s := (play (.fresh .plain .empty)
      ([(6, .upload kind .rendition 1 0 [0]), (5, .startEdit kind)] ++
        opening passportForm [passport])).2
    let uploaded := (s.act 7 (.file (.uploadDone 1 9))).1
    let downloaded := (s.act 7 (.file (.downloadDone 7 pixel))).1
    (∃ e slot, s.entry? e.kind = some e ∧ e.Holds slot 1 ∧
        uploaded = (s.put (e.hear slot fun d => d.finish 9)).notify (.scanUpdated ⟨e.kind, slot⟩)) ∧
      uploaded.outbox = [.notice (.scanUpdated ⟨kind, ⟨.rendition, some 1⟩⟩)] ∧
      (∃ places, s.form.ShowsAt 7 places ∧ places.length = 2 ∧
        downloaded.outbox = places.map fun place => .notice (.scanUpdated place)) ∧
      ∃ e, downloaded.entry? kind = some e ∧
        e.files.toList.all (fun f => f.preview.isSome) = true ∧
        e.draftFiles.toList.map (fun d => d.file.preview.isSome) = [true, false, true] := by
  intro kind front passport s uploaded downloaded
  let past := (play (.fresh .plain .empty)
    ([(6, .upload kind .rendition 1 0 [0]), (5, .startEdit kind)] ++
      opening passportForm [passport])).1
  have run : Run .plain past s := .of_playable (by decide +kernel)
  have live : s.cancelled = false := by decide +kernel
  have distinct : past.uploads.Nodup := by decide +kernel
  refine ⟨?_, by decide +kernel, ?_, by decide +kernel⟩
  · have found : s.form.findUpload? 1 = some ⟨kind, ⟨.rendition, some 1⟩⟩ := by decide +kernel
    obtain ⟨x, hx, -, -, held⟩ := Form.holds_of_findUpload? found
    rcases (news_reach_files run live distinct 7 (.uploadDone 1 9)).1 1 _ rfl with
      ⟨unheld, -⟩ | ⟨e, slot, he, -, held, -, told⟩
    · exact absurd held (unheld x hx _)
    · exact ⟨e, slot, he, held, told⟩
  · obtain ⟨picture, decoded⟩ : ∃ picture, Preview.decode? pixel = some picture :=
      Option.isSome_iff_exists.1 (by decide +kernel)
    have news : FileEvent.download? (.downloadDone 7 pixel) = some (7, .done, some picture) := by
      rw [FileEvent.download?, decoded]
    obtain ⟨places, shown, told⟩ :=
      (news_reach_files run live distinct 7 (.downloadDone 7 pixel)).2 _ _ _ news
    have outbox : downloaded.outbox = places.map fun place => .notice (.scanUpdated place) := by
      rw [show downloaded = _ from told, run.outbox_eq_nil]
      rfl
    have two : downloaded.outbox.length = 2 := by decide +kernel
    exact ⟨places, shown, by rwa [outbox, List.length_map] at two, outbox⟩

end Run

end IdentityForm
