import IdentityForm.Proofs.Committed
import IdentityForm.Proofs.Drafts

/-! # Replaced files

An upload into the slot of a special role keeps the committed file that stood there, and passes it on
to the next upload that takes its place; when the last of them fails, that file comes back. A file
that was uploaded and has not been saved yet is not kept by the upload that replaces it.
-/

namespace IdentityForm

/-! ## Uploads into one slot -/

namespace History

/-- The upload into the slot of a special role that is under way according to a history: the latest
one, unless an open session was told that it has failed. -/
def attempt? (kind : Kind) (role : Role) : History → Option UInt64
  | [] => none
  | t :: past =>
    match t.action with
    | .upload kind' role' key _ _ =>
      if kind' = kind ∧ role' = role then some key else attempt? kind role past
    | .file (.uploadFailed key) =>
      if t.before.cancelled = false ∧ attempt? kind role past = some key then none
      else attempt? kind role past
    | _ => attempt? kind role past

/-- Nothing happens but uploads into one slot and news of uploads, and the upload under way is not
reported to be done. -/
def Retries (kind : Kind) (role : Role) : History → Prop
  | [] => True
  | t :: past => Retries kind role past ∧ (t.action.Uploads kind role ∨
      ∃ event key, t.action = .file event ∧ event.upload? = some key ∧
        ∀ fileId, attempt? kind role past = some key → event ≠ .uploadDone key fileId)

variable {kind : Kind} {role : Role} {t : Turn} {past : History}

theorem attempt?_of_upload {key : UInt64} {date : Int64} {bytes : List UInt8}
    (ha : t.action = .upload kind role key date bytes) :
    attempt? kind role (t :: past) = some key := by
  simp [attempt?, ha]

/-- Only the failure of the upload under way ends it. -/
theorem attempt?_of_file {event : FileEvent} (ha : t.action = .file event)
    (unended : ∀ key, event = .uploadFailed key → t.before.cancelled = false →
      attempt? kind role past ≠ some key) :
    attempt? kind role (t :: past) = attempt? kind role past := by
  cases event with
  | uploadFailed key =>
      rw [attempt?, ha]
      exact if_neg fun h => unended key rfl h.1 h.2
  | _ => simp [attempt?, ha]

end History

/-! ## The draft in the slot -/

/-- A draft that stands in a slot after uploads into it were tried. The committed file that is kept
comes back when they have failed; if none is kept, the last of them stays. -/
structure Draft.Tried (kind : Kind) (role : Role) (kept : Option Twin) (turns : History) (d : Draft) :
    Prop where
  keeps : d.twin? = kept
  started : ∀ u, d.upload = some u →
    ∃ t ∈ turns, ∃ date bytes, t.action = .upload kind role u.key date bytes
  trying : ∀ key, turns.attempt? kind role = some key →
    ∃ u, d.upload = some u ∧ u.key = key ∧ u.transfer.isRunning = true
  failed : turns.attempt? kind role = none → d.upload ≠ none → kept = none

namespace Draft.Tried

variable {kind : Kind} {role : Role} {kept : Option Twin} {turns : History} {d : Draft} {t : Turn}
  {e : Entry} {key : UInt64} {date : Int64} {bytes : List UInt8} {event : FileEvent}

theorem of_upload (ha : t.action = .upload kind role key date bytes)
    (held : (e.draftFiles.get? (e.draftFiles.nextSlot role)).bind Draft.twin? = kept) :
    (e.newDraft role key date bytes).Tried kind role kept (t :: turns) where
  keeps := held
  started := by
    intro u hu
    obtain rfl := Option.some.inj hu
    exact ⟨t, List.mem_cons_self, date, bytes, ha⟩
  trying := by
    intro key' attempt
    rw [History.attempt?_of_upload ha] at attempt
    obtain rfl := Option.some.inj attempt
    exact ⟨_, rfl, rfl, rfl⟩
  failed := by
    intro attempt
    rw [History.attempt?_of_upload ha] at attempt
    cases attempt

theorem started_cons (h : d.Tried kind role kept turns) {u : Upload} (hu : d.upload = some u) :
    ∃ t' ∈ t :: turns, ∃ date bytes, t'.action = .upload kind role u.key date bytes := by
  obtain ⟨t', ht', date, bytes, ha⟩ := h.started u hu
  exact ⟨t', List.mem_cons_of_mem t ht', date, bytes, ha⟩

theorem of_file (h : d.Tried kind role kept turns) (ha : t.action = .file event)
    (unended : ∀ key, event = .uploadFailed key → t.before.cancelled = false →
      turns.attempt? kind role ≠ some key) : d.Tried kind role kept (t :: turns) where
  keeps := h.keeps
  started := fun _ => h.started_cons
  trying := by
    rw [History.attempt?_of_file ha unended]
    exact h.trying
  failed := by
    rw [History.attempt?_of_file ha unended]
    exact h.failed

theorem of_news (h : d.Tried kind role kept turns) (ha : t.action = .file event)
    (live : t.before.cancelled = false) {u : Upload} {change : Draft → Draft} (hu : d.upload = some u)
    (news : event.draftChange? = some (u.key, change))
    (undone : ∀ fileId, turns.attempt? kind role = some u.key → event ≠ .uploadDone u.key fileId) :
    (change d).Tried kind role kept (t :: turns) := by
  have keeps : u.replaced = kept := (twin?_of_upload hu).symm.trans h.keeps
  have mine {key : UInt64} (attempt : turns.attempt? kind role = some key) : u.key = key := by
    obtain ⟨u', hu', hkey, -⟩ := h.trying key attempt
    cases hu.symm.trans hu'
    exact hkey
  have started (u' : Upload) (hu' : (change d).upload = some u') :
      ∃ t' ∈ t :: turns, ∃ date bytes, t'.action = .upload kind role u'.key date bytes := by
    obtain ⟨u₀, hu₀, hkey⟩ := FileEvent.key_draftChange news d hu'
    exact hkey ▸ h.started_cons hu₀
  have unkept (idle : turns.attempt? kind role = none) : kept = none := h.failed idle (by simp [hu])
  cases event with
  | uploadProgress key offset =>
      cases news
      have same : History.attempt? kind role (t :: turns) = turns.attempt? kind role :=
        History.attempt?_of_file ha (by simp)
      have progressed : (d.progress offset).upload = some { u with transfer := .inProgress offset } :=
        congrArg (Option.map _) hu
      refine ⟨?_, started, fun key attempt => ?_, fun idle _ => unkept (same ▸ idle)⟩
      · exact (twin?_of_upload progressed).trans keeps
      · exact ⟨_, progressed, mine (same ▸ attempt), rfl⟩
  | uploadDone key fileId =>
      cases news
      have same : History.attempt? kind role (t :: turns) = turns.attempt? kind role :=
        History.attempt?_of_file ha (by simp)
      have idle : turns.attempt? kind role = none := by
        cases attempt : turns.attempt? kind role with
        | none => rfl
        | some key => exact absurd rfl (undone fileId (mine attempt ▸ attempt))
      have finished : (d.finish fileId).upload =
          some { u with bytes := none, transfer := .done, replaced := none } :=
        congrArg (Option.map _) hu
      refine ⟨?_, started, fun key attempt => ?_, fun _ _ => unkept idle⟩
      · exact (twin?_of_upload finished).trans (unkept idle).symm
      · cases idle.symm.trans (same ▸ attempt)
  | uploadFailed key =>
      cases news
      have ended : History.attempt? kind role (t :: turns) = none := by
        cases attempt : turns.attempt? kind role with
        | none =>
            rw [History.attempt?_of_file ha (by simp [attempt])]
            exact attempt
        | some key =>
            rw [History.attempt?, ha]
            exact if_pos ⟨live, mine attempt ▸ attempt⟩
      cases hr : u.replaced with
      | some twin =>
          have back : d.fail = ofTwin twin := by simp only [fail, hu, hr]
          rw [back]
          exact ⟨hr.symm.trans keeps, back ▸ started, by simp [ended], by simp [ofTwin]⟩
      | none =>
          have stays : d.fail.upload = some { u with bytes := none, transfer := .failed } := by
            simp only [fail, hu, hr]
          refine ⟨?_, started, by simp [ended], fun _ _ => keeps.symm.trans hr⟩
          exact (twin?_of_upload stays).trans keeps
  | _ => cases news

end Draft.Tried

/-- An entry with editors open and a draft in the slot into which uploads were tried. -/
def Entry.Tries (role : Role) (kept : Option Twin) (editors : Nat) (turns : History) (e : Entry) :
    Prop :=
  e.editors = editors ∧
    ∃ d, e.draftFiles.get? ⟨role, none⟩ = some d ∧ d.Tried e.kind role kept turns

/-! ## Along a run -/

namespace Run

variable {setup : Setup} {past later turns : History} {s : Session} {t : Turn} {kind : Kind}
  {role : Role} {kept : Option Twin} {e : Entry} {d : Draft}

theorem tries_of_upload {now : Nat} {key : UInt64} {date : Int64} {bytes : List UInt8}
    (he : s.form.entry? kind = some e) (editing : e.editors ≠ 0) (special : role.isSpecial = true)
    (held : (e.draftFiles.get? ⟨role, none⟩).bind Draft.twin? = kept) (turns : History) :
    let t : Turn := ⟨s, now, .upload kind role key date bytes⟩
    ∃ e', t.after.form.entry? kind = some e' ∧ e'.Tries role kept e.editors (t :: turns) := by
  intro t
  obtain rfl := Form.kind_of_entry he
  have here := Files.nextSlot_same special e.draftFiles none
  let e' := { e with draftFiles := e.draftFiles.add role (e.newDraft role key date bytes) }
  have after : t.after.form = s.form.modify e.kind fun _ => e' :=
    Session.form_upload_of_room he editing (e.hasRoom_of_special special _) key date bytes
  have there : Form.entry? t.after.form e.kind = some e' := by
    rw [after]
    exact Form.entry?_modify he rfl
  refine ⟨e', there, rfl, e.newDraft role key date bytes, ?_, .of_upload rfl ?_⟩
  · rw [Files.get?_add, if_pos here]
  · rw [Files.get?_congr _ here]
    exact held

theorem tries_of_file {now : Nat} {event : FileEvent} {key : UInt64} (run : Run setup past s)
    (distinct : past.uploads.Nodup) (he : s.form.entry? kind = some e) (editing : e.editors ≠ 0)
    (tries : e.Tries role kept e.editors turns) (about : event.upload? = some key)
    (undone : ∀ fileId, turns.attempt? kind role = some key → event ≠ .uploadDone key fileId) :
    let t : Turn := ⟨s, now, .file event⟩
    ∃ e', t.after.form.entry? kind = some e' ∧ e'.Tries role kept e.editors (t :: turns) := by
  intro t
  obtain rfl := Form.kind_of_entry he
  obtain ⟨-, d, hd, tried⟩ := tries
  have unended (unheld : ¬ e.Holds ⟨role, none⟩ key) (other : UInt64)
      (failed : event = .uploadFailed other) (_ : t.before.cancelled = false) :
      turns.attempt? e.kind role ≠ some other := by
    intro attempt
    obtain rfl : other = key := by simpa [failed, FileEvent.upload?, FileEvent.draftChange?] using about
    obtain ⟨u, hu, hkey, -⟩ := tried.trying other attempt
    exact unheld ⟨d, u, hd, hu, hkey⟩
  by_cases live : s.cancelled = false
  · obtain ⟨⟨other, change⟩, news, same⟩ := Option.map_eq_some_iff.1 about
    obtain rfl : other = key := same
    have tracks := run.tracks distinct
    rcases Session.hears live run.gated tracks news he with ⟨slot, held, heard⟩ | ⟨unheld, same⟩
    · have open_ : e.hear slot change = { e with draftFiles := e.draftFiles.modify slot change } :=
        if_neg fun idle => editing idle.1
      refine ⟨_, heard, ?_⟩
      rw [open_]
      by_cases here : slot.Same ⟨role, none⟩
      · obtain ⟨d', u, hd', hu, hkey⟩ := held.congr here
        cases hd.symm.trans hd'
        refine ⟨rfl, change d, ?_, tried.of_news rfl live hu (hkey ▸ news) (hkey ▸ undone)⟩
        rw [Files.get?_modify_of_same here, hd, Option.map_some]
      · refine ⟨rfl, d, ?_, tried.of_file rfl (unended fun there => here ?_)⟩
        · rw [Files.get?_modify_of_not_same here, hd]
        · exact (tracks.once e (Form.mem_of_entry he) e (Form.mem_of_entry he) _ _ _ held there).2
    · exact ⟨e, same, rfl, d, hd, tried.of_file rfl (unended (unheld _))⟩
  · have dropped : t.after.form = s.form := by
      show (s.handleFileEvent event).form = s.form
      unfold Session.handleFileEvent
      rw [if_pos (eq_true_of_ne_false live)]
    refine ⟨e, by rw [dropped]; exact he, rfl, d, hd, tried.of_file rfl fun _ _ open_ => ?_⟩
    exact absurd open_ live

/-- What uploads into a slot that were tried from some turn on have come to. -/
theorem tries_of_retries (run : Run setup (later ++ t :: past) s)
    (distinct : (later ++ t :: past).uploads.Nodup) (special : role.isSpecial = true)
    (began : t.action.Uploads kind role) (retries : (later ++ [t]).Retries kind role)
    (he : t.before.form.entry? kind = some e) (editing : e.editors ≠ 0)
    (held : (e.draftFiles.get? ⟨role, none⟩).bind Draft.twin? = kept) :
    ∃ e', s.form.entry? kind = some e' ∧ e'.Tries role kept e.editors (later ++ [t]) := by
  induction later generalizing s with
  | nil =>
      obtain ⟨key, date, bytes, ha⟩ := began
      cases run with
      | step now action run =>
          cases ha
          exact tries_of_upload he editing special held []
  | cons t' later ih =>
      cases run with
      | @step _ before now action run =>
          rw [List.cons_append, History.uploads_cons] at distinct
          have earlier := (List.nodup_append.1 distinct).1
          obtain ⟨e', he', tries⟩ := ih run earlier retries.1
          obtain ⟨editors, d, hd, tried⟩ := tries
          have editing' : e'.editors ≠ 0 := editors ▸ editing
          obtain rfl := Form.kind_of_entry he'
          rcases retries.2 with ⟨key, date, bytes, rfl⟩ | ⟨event, key, rfl, about, undone⟩
          · rw [← editors]
            exact tries_of_upload he' editing' special (by rw [hd]; exact tried.keeps) _
          · rw [← editors]
            exact run.tries_of_file earlier he' editing' ⟨rfl, d, hd, tried⟩ about undone

/-- After uploads into the slot of a special role that holds a file: while the latest one is under
way, it is what the slot holds. When it has failed, the slot holds what it held before if that is a
committed file, or the committed file that the upload before was to replace. A file that has been
uploaded does not come back; the slot keeps an upload that was started since. -/
theorem replacement_undone (run : Run setup (later ++ t :: past) s)
    (distinct : (later ++ t :: past).uploads.Nodup) (special : role.isSpecial = true)
    (began : t.action.Uploads kind role) (retries : (later ++ [t]).Retries kind role)
    (he : t.before.form.entry? kind = some e) (editing : e.editors ≠ 0)
    (hd : e.draftFiles.get? ⟨role, none⟩ = some d) :
    ∃ e' d', s.form.entry? kind = some e' ∧ e'.editors = e.editors ∧
      e'.draftFiles.get? ⟨role, none⟩ = some d' ∧
      (∀ key, (later ++ [t]).attempt? kind role = some key →
        ∃ u, d'.upload = some u ∧ u.key = key ∧ u.transfer.isRunning = true) ∧
      ((later ++ [t]).attempt? kind role = none →
        (d.upload = none → d' = d) ∧
        (∀ u twin, d.upload = some u → u.replaced = some twin → d' = .ofTwin twin) ∧
        ∀ u, d.upload = some u → u.transfer = .done ∨ u.replaced = none →
          ∃ u', d'.upload = some u' ∧ u'.replaced = none ∧
            ∃ t' ∈ later ++ [t], ∃ date bytes, t'.action = .upload kind role u'.key date bytes) := by
  have regular := run.before.regular e (Form.mem_of_entry he) ⟨role, none⟩
  obtain ⟨e', he', editors, d', hd', tried⟩ :=
    run.tries_of_retries distinct special began retries he editing rfl
  obtain rfl := Form.kind_of_entry he'
  rw [hd, Option.bind_some] at tried
  have back {twin : Twin} (failed : (later ++ [t]).attempt? e'.kind role = none)
      (kept : d.twin? = some twin) : d' = .ofTwin twin := by
    cases hu : d'.upload with
    | none =>
        have same := tried.keeps.trans kept
        rw [Draft.twin?_of_committed hu] at same
        obtain rfl := Option.some.inj same
        rw [Draft.ofTwin, ← hu]
    | some u => exact absurd ((tried.failed failed (by simp [hu])).symm.trans kept) (by simp)
  refine ⟨e', d', he', editors, hd', tried.trying, fun failed => ⟨fun committed => ?_,
    fun u twin hu kept => back failed ((Draft.twin?_of_upload hu).trans kept), fun u hu lost => ?_⟩⟩
  · rw [back failed (Draft.twin?_of_committed committed), Draft.ofTwin, ← committed]
  · have unkept : u.replaced = none := lost.elim
      (fun done => (regular u ⟨d, hd, hu⟩).ended (by rw [done]; rfl)) id
    have nothing : d'.twin? = none :=
      tried.keeps.trans ((Draft.twin?_of_upload hu).trans unkept)
    cases hu' : d'.upload with
    | none => cases (Draft.twin?_of_committed hu').symm.trans nothing
    | some u' =>
        exact ⟨u', rfl, (Draft.twin?_of_upload hu').symm.trans nothing, tried.started u' hu'⟩

/-- The front side of a passport was to be replaced by one file and then by another one. The second
upload has failed, and the front side is the stored one again. -/
theorem replacement_undone_twice :
    let actions := (4, .startEdit (.identity .passport)) :: opening passportForm [scannedPassport]
    let t : Turn :=
      ⟨(play (.fresh .plain .empty) actions).2, 5, .upload (.identity .passport) .frontSide 50 0 []⟩
    let later : List (Nat × Session.Action) := [(8, .file (.uploadFailed 51)),
      (7, .upload (.identity .passport) .frontSide 51 0 []), (6, .file (.uploadProgress 50 3))]
    ∃ e e' d, t.before.form.entry? (.identity .passport) = some e ∧
      (play t.after later).2.form.entry? (.identity .passport) = some e' ∧
      e.draftFiles.get? ⟨.frontSide, none⟩ = some d ∧ d.file.id = 7 ∧
      e'.draftFiles.get? ⟨.frontSide, none⟩ = some d := by
  intro actions t later
  let past := (play (.fresh .plain .empty) actions).1
  have playable : Playable (.fresh .plain .empty) (later ++ (5, t.action) :: actions) := by
    decide +kernel
  have run : Run .plain ((play t.after later).1 ++ t :: past) (play t.after later).2 :=
    .of_playable playable
  have distinct : ((play t.after later).1 ++ t :: past).uploads.Nodup := by decide +kernel
  have retries : ((play t.after later).1 ++ [t]).Retries (.identity .passport) .frontSide := by
    refine ⟨⟨⟨⟨trivial, .inl ⟨50, 0, [], rfl⟩⟩, .inr ⟨_, 50, rfl, rfl, by simp⟩⟩,
      .inl ⟨51, 0, [], rfl⟩⟩,
      .inr ⟨_, 51, rfl, rfl, by simp⟩⟩
  have held : ∃ e ∈ t.before.form.entry? (.identity .passport), e.editors ≠ 0 ∧
      ∃ d ∈ e.draftFiles.get? ⟨.frontSide, none⟩, d.file.id = 7 ∧ d.upload = none := by
    decide +kernel
  obtain ⟨e, he, editing, d, hd, hid, committed⟩ := held
  have ended : ((play t.after later).1 ++ [t]).attempt? (.identity .passport) .frontSide = none := by
    decide +kernel
  obtain ⟨e', d', he', -, hd', -, undone⟩ :=
    replacement_undone run distinct rfl ⟨50, 0, [], rfl⟩ retries he editing hd
  obtain rfl := (undone ended).1 committed
  exact ⟨e, e', d', he, he', hd, hid, hd'⟩

/-- A front side was uploaded, and so it is on the server. Another one that is to replace it fails, and
the slot is left with the failure. -/
theorem replacement_lost :
    let actions := [(6, .file (.uploadDone 50 9)),
        (5, .upload (.identity .passport) .frontSide 50 0 []),
        (4, .startEdit (.identity .passport))] ++ opening passportForm [scannedPassport]
    let later := [(8, .file (.uploadFailed 51)),
        (7, .upload (.identity .passport) .frontSide 51 0 [])] ++ actions
    let front (s : Session) :=
      (s.form.entry? (.identity .passport)).bind fun e => e.draftFiles.get? ⟨.frontSide, none⟩
    Run .plain (play (.fresh .plain .empty) later).1 (play (.fresh .plain .empty) later).2 ∧
      (∃ d ∈ front (play (.fresh .plain .empty) actions).2,
        d.file.id = 9 ∧ d.upload.map (·.transfer) = some .done) ∧
      ∃ d ∈ front (play (.fresh .plain .empty) later).2,
        d.upload.map (fun u => (u.key, u.transfer)) = some (51, .failed) := by
  intro actions later front
  have playable : Playable (.fresh .plain .empty) later := by decide +kernel
  refine ⟨.of_playable playable, ?_, ?_⟩ <;> decide +kernel

end Run

end IdentityForm
