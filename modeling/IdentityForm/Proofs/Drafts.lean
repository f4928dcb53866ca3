import IdentityForm.Proofs.Uploads.News

/-! # Uploads in edit buffers

An open editor takes a new file wherever there is room. The upload is begun when it is made. While it
runs in the slot of a special role it may keep the committed file that stood there; with the end of
its transfer, and in a list, it keeps none.
-/

namespace IdentityForm

/-! ## Adding a file -/

/-- There is always room for a file of a special role. -/
theorem Entry.hasRoom_of_special {role : Role} (special : role.isSpecial = true) (e : Entry)
    (settings : Settings) : e.hasRoom role (settings.limit? role) = true := by
  cases role <;> first | rfl | cases special

theorem Files.nextSlot_same {α : Type} {role : Role} (special : role.isSpecial = true)
    (f : Files α) (index : Option Nat) : (f.nextSlot role).Same ⟨role, index⟩ :=
  ⟨f.role_nextSlot role, .inl ((f.role_nextSlot role).symm ▸ special)⟩

namespace Session

variable {s : Session} {kind : Kind} {e : Entry} {role : Role}

theorem form_upload_of_room (he : s.entry? kind = some e) (editing : e.editors ≠ 0)
    (room : e.hasRoom role (s.setup.settings.limit? role) = true) (key : UInt64)
    (date : Int64) (bytes : List UInt8) :
    (s.upload kind role key date bytes).1.form = s.form.modify e.kind fun _ =>
      { e with draftFiles := e.draftFiles.add role (e.newDraft role key date bytes) } := by
  rw [upload_of_room he editing room]
  show (s.sendAll (.uploadFile key role bytes :: e.displaced role)).core.form.modify _ _ = _
  rw [core_sendAll]
  rfl

end Session

/-! ## What an upload keeps -/

/-- An upload that has begun, and what it may keep. -/
structure Upload.Regular (role : Role) (u : Upload) : Prop where
  begun : u.transfer ≠ .notStarted
  ended : u.transfer.isRunning = false → u.replaced = none
  listed : role.isSpecial = false → u.replaced = none

namespace Upload.Regular

variable {role : Role} {u u' : Upload}

theorem of_newDraft {e : Entry} {slot : Slot} {key : UInt64} {date : Int64} {bytes : List UInt8}
    (here : (e.draftFiles.nextSlot role).Same slot)
    (hu : (e.newDraft role key date bytes).upload = some u) : u.Regular slot.role := by
  obtain rfl := Option.some.inj hu
  have same : role = slot.role := (Files.role_nextSlot _ _).symm.trans here.1
  refine ⟨by simp [Upload.started], by simp [Upload.started, Transfer.isRunning], fun list => ?_⟩
  simp [Files.get?_nextSlot (same ▸ list)]

theorem draftChange {event : FileEvent} {key : UInt64} {change : Draft → Draft} {d : Draft}
    (h : u.Regular role) (news : event.draftChange? = some (key, change)) (hu : d.upload = some u)
    (hu' : (change d).upload = some u') : u'.Regular role := by
  cases event <;> cases news
  · simp only [Draft.progress, hu, Option.map_some, Option.some.injEq] at hu'
    subst hu'
    exact ⟨by simp, by simp [Transfer.isRunning], h.listed⟩
  · simp only [Draft.finish, hu, Option.map_some, Option.some.injEq] at hu'
    subst hu'
    exact ⟨by simp, fun _ => rfl, fun _ => rfl⟩
  · cases hr : u.replaced with
    | none =>
        simp only [Draft.fail, hu, hr, Option.some.injEq] at hu'
        subst hu'
        exact ⟨by simp, fun _ => rfl, fun _ => rfl⟩
    | some twin => simp [Draft.fail, hu, hr, Draft.ofTwin] at hu'

end Upload.Regular

def Entry.Regular (e : Entry) : Prop := ∀ slot u, e.Bears slot u → u.Regular slot.role

theorem Entry.regular_of_empty {e : Entry} (h : e.draftFiles = .empty) : e.Regular :=
  fun _ _ borne => absurd borne.holds (Entry.not_holds_empty h)

theorem Form.regular_takeElements {f : Form} {elements : List StoredElement}
    {errors : List ElementError} (h : ∀ e ∈ f.entries, e.Regular) :
    ∀ e ∈ (f.takeElements elements errors).entries, e.Regular := by
  intro e he slot u borne
  obtain ⟨x, hx, -, drafts⟩ := Form.exists_of_drafts_eq (f.drafts_takeElements elements errors) he
  exact h x hx slot u (borne.of_eq drafts.symm)

namespace Session

variable {s : Session} {now : Nat} {a : Action} {e e' : Entry} {es : List Effect}

theorem Change.regular (h : s.Change now a e es e') (before : e.Regular) : e'.Regular := by
  intro slot u borne
  rcases h.bears_cases borne with old | ⟨role, key, date, bytes, -, here, new⟩ |
    ⟨event, key, change, d, -, news, hd, hu'⟩
  · exact before slot u old
  · exact .of_newDraft here new
  · obtain ⟨u₀, hu, -⟩ := FileEvent.key_draftChange news d hu'
    exact (before slot u₀ ⟨d, hd, hu⟩).draftChange news hu hu'

theorem Uptake.regular {task : Task} {outcome : Outcome} (h : s.Uptake now e task outcome es e')
    (before : e.Regular) : e'.Regular :=
  fun slot u borne => before slot u (h.bears borne)

end Session

namespace Run

variable {setup : Setup} {past : History} {s : Session}

theorem regular (run : Run setup past s) : ∀ e ∈ s.form.entries, e.Regular := by
  induction run with
  | start credentials => exact fun e he => absurd he List.not_mem_nil
  | @step past s now action run _ _ ih =>
      refine (run.acts now action).forall_entries run.gated (fun _ _ _ _ change => change.regular)
        (fun _ _ _ _ _ _ _ uptake => uptake.regular) ?_ ?_ (fun e before => before) ih
      · intro form e he
        obtain ⟨kind, rfl⟩ := Form.mem_ofAuthorization he
        exact Entry.regular_of_empty rfl
      · exact fun _ _ _ _ _ _ => Form.regular_takeElements ih

end Run

end IdentityForm
