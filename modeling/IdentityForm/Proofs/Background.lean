import IdentityForm.Proofs.Edits
import IdentityForm.Proofs.Replies
import IdentityForm.Proofs.Run
import Mathlib.Logic.Relation

/-! # What goes on behind the entries

A session is more than its entries: timers run, files are downloaded, and the session as a whole gets
on from stage to stage. Most operations are about one entry and leave all of that alone. Here that is
said once for each of them; what is known of timers, downloads and stages rests on it.
-/

namespace IdentityForm

/-- An effect by which a session gets on: the elements are asked for, the form is unlocked with them, or
it is submitted. -/
def Effect.isStage : Effect → Bool
  | .request (.getAvailableElements _ _ _) | .request (.sendForm _ _ _) => true
  | .notice .secretReady => true
  | _ => false

def Effect.isTraffic : Effect → Bool
  | .request (.downloadFile _ _ _) | .request (.cancelDownload _) => true
  | _ => false

/-- An effect that the session as a whole is known by. -/
def Effect.isMark (x : Effect) : Bool := x.isStage || x.isTraffic

/-- What runs by itself: the timers and the downloads. -/
structure Gear where
  setup : Setup
  cancelled : Bool
  timers : List (Nat × Timer)
  downloads : List UInt64
  /-- The downloads that began and those that were stopped, in order. -/
  traffic : List Effect

structure Background extends Gear where
  submitted : Bool
  /-- The effects by which it got on. -/
  stages : List Effect

def Gear.stop (g : Gear) : Gear :=
  { g with
    timers := []
    downloads := []
    traffic := g.traffic ++ g.downloads.map fun id => .request (.cancelDownload id) }

namespace Background

def disarm (timer : Timer) (b : Background) : Background :=
  { b with timers := b.timers.filter fun t => t.2 ≠ timer }

def load (b : Background) (id size : UInt64) : Background :=
  { b with
    downloads := Session.insertId id b.downloads
    traffic := b.traffic ++ [.request (.downloadFile id id size)] }

/-- Some downloads begin, none of a file that is being downloaded. -/
def Loads : Background → Background → Prop :=
  Relation.ReflTransGen fun b b' => ∃ id size, id ∉ b.downloads ∧ b' = b.load id size

end Background

def FileEvent.landed? : FileEvent → Option UInt64
  | .downloadDone id _ | .downloadFailed id => some id
  | _ => none

/-- The seconds until a call that are announced when a code was sent. -/
def Outcome.countdown? (kind : Kind) : Outcome → Option Nat
  | .ok response => (Session.codeSent? kind response).bind (·.2)
  | .failed _ => none

namespace Session

def gear (s : Session) : Gear :=
  ⟨s.setup, s.cancelled, s.timers, s.downloads, s.outbox.filter Effect.isTraffic⟩

def background (s : Session) : Background :=
  ⟨s.gear, s.submitted, s.outbox.filter Effect.isStage⟩

variable {s s' : Session} {now : Nat}

theorem gear_of_background (same : s'.background = s.background) : s'.gear = s.gear :=
  congrArg Background.toGear same

/-! ## Sending and reporting -/

theorem background_push {x : Effect} (h : x.isMark = false) :
    background { s with outbox := s.outbox ++ [x] } = s.background := by
  obtain ⟨stage, traffic⟩ := Bool.or_eq_false_iff.1 h
  simp [background, gear, List.filter_append, stage, traffic]

theorem gear_push {x : Effect} (h : x.isTraffic = false) :
    gear { s with outbox := s.outbox ++ [x] } = s.gear := by
  simp [gear, List.filter_append, h]

theorem background_send {r : Request} (h : Effect.isMark (.request r) = false) :
    (s.send r).background = s.background := background_push h

theorem background_notify {x : Notice} (h : Effect.isMark (.notice x) = false) :
    (s.notify x).background = s.background := background_push h

theorem gear_notify (x : Notice) : (s.notify x).gear = s.gear := gear_push rfl

theorem background_clearIfIdle (kind : Kind) : (s.clearIfIdle kind).background = s.background := rfl

theorem background_sendAll {rs : List Request}
    (h : ∀ r ∈ rs, Effect.isMark (.request r) = false) :
    (s.sendAll rs).background = s.background :=
  foldl_keeps background fun _ r hr => background_send (h r hr)

theorem background_notifyAll {xs : List Notice}
    (h : ∀ x ∈ xs, Effect.isMark (.notice x) = false) :
    (s.notifyAll xs).background = s.background :=
  foldl_keeps background fun _ x hx => background_notify (h x hx)

theorem background_ask {p : Pending} {make : Token → Request}
    (h : ∀ t, Effect.isMark (.request (make t)) = false) :
    (s.ask p make).background = s.background := (background_send (h _)).trans rfl

theorem background_run {errand : Errand} {make : Token → Request}
    (h : ∀ t, Effect.isMark (.request (make t)) = false) :
    (s.run errand make).background = s.background := (background_ask h).trans rfl

theorem background_cancelAll {ids : List Nat} :
    (s.sendAll (ids.map .cancel)).background = s.background :=
  background_sendAll fun r hr => by
    obtain ⟨id, -, rfl⟩ := List.mem_map.1 hr
    rfl

/-! ## Opening -/

theorem background_requestPasswordState : s.requestPasswordState.background = s.background := by
  unfold requestPasswordState
  split
  · rfl
  · exact background_run fun _ => rfl

theorem background_display : s.display.background = s.background := by
  unfold display
  split
  · rfl
  · refine background_requestPasswordState.trans ?_
    split
    · rfl
    · exact background_run fun _ => rfl

theorem background_failForm (error : ServerError) : (s.failForm error).background = s.background := by
  unfold failForm
  dsimp only
  split
  · exact background_notify rfl
  · exact background_notify rfl

theorem background_failPasswordState (error : ServerError) :
    (s.failPasswordState error).background = s.background := by
  unfold failPasswordState
  split
  · exact background_failForm error
  · rfl

theorem background_passwordCheckFailed (error : ServerError) :
    (s.passwordCheckFailed error).background = s.background := by
  unfold passwordCheckFailed
  dsimp only
  split
  · split
    · exact background_notify rfl
    · exact background_notify rfl
  · exact background_requestPasswordState
  · exact background_notify rfl
  · exact background_notify rfl
  · exact background_notify rfl

theorem background_clearUnconfirmedPassword :
    s.clearUnconfirmedPassword.background = s.background := by
  unfold clearUnconfirmedPassword
  split
  · rfl
  · exact background_run fun _ => rfl

theorem background_clearPasswordDone (outcome : Outcome) :
    (s.clearPasswordDone outcome).background = s.background := by
  cases outcome with
  | ok response => exact background_requestPasswordState
  | failed error => exact background_notify rfl

theorem background_recoverPassword : s.recoverPassword.background = s.background := by
  unfold recoverPassword
  split
  · rfl
  · exact background_run fun _ => rfl

theorem background_recoveryDone (outcome : Outcome) :
    (s.recoveryDone outcome).background = s.background := by
  unfold recoveryDone
  split <;> exact background_notify rfl

theorem background_suggestRestart : s.suggestRestart.background = s.background := by
  unfold suggestRestart
  split
  · rfl
  · exact background_notify rfl

/-! ## Files -/

theorem background_upload (kind : Kind) (role : Role) (key : UInt64) (date : Int64)
    (bytes : List UInt8) :
    (s.upload kind role key date bytes).1.background = s.background := by
  have outcome := s.uploading kind role key date bytes
  generalize (s.upload kind role key date bytes).1 = t at outcome
  cases outcome with
  | refused => rfl
  | full => exact background_notify rfl
  | taken =>
      refine (background_notify rfl).trans (background_sendAll (s := s) fun r hr => ?_)
      rcases List.mem_cons.1 hr with rfl | hr
      · rfl
      · obtain ⟨u, -, rfl⟩ := List.mem_map.1 hr
        rfl

theorem background_setDeleted (kind : Kind) (slot : Slot) (deleted : Bool) :
    (s.setDeleted kind slot deleted).1.background = s.background := by
  have outcome := s.marking kind slot deleted
  generalize (s.setDeleted kind slot deleted).1 = t at outcome
  cases outcome with
  | nothing => rfl
  | full | marked => exact background_notify rfl

theorem background_updateUpload (key : UInt64) (change : Draft → Draft) :
    (s.updateUpload key change).background = s.background := by
  unfold updateUpload
  cases s.form.findUpload? key with
  | none => rfl
  | some place => exact (background_clearIfIdle place.kind).trans (background_notify rfl)

theorem background_updateDownload (id : UInt64) (change : StoredFile → StoredFile) :
    (s.updateDownload id change).background = s.background := by
  unfold updateDownload
  exact foldl_keeps background fun s place _ => background_notify rfl

/-! ## Editing -/

theorem background_stopEdit (kind : Kind) : (s.stopEdit kind).1.background = s.background := by
  unfold stopEdit
  cases s.entry? kind with
  | none => rfl
  | some e =>
      dsimp only
      split <;> rfl

theorem background_sendSave (kind : Kind) : (s.sendSave kind).1.background = s.background := by
  unfold sendSave
  cases s.password with
  | none => rfl
  | some password =>
      cases s.entry? kind with
      | none => rfl
      | some e => exact background_ask fun _ => rfl

theorem background_save (kind : Kind) (changes : Fields) :
    (s.save kind changes).1.background = s.background := by
  have outcome := s.saving kind changes
  generalize (s.save kind changes).1 = t at outcome
  cases outcome with
  | nothing | spared | unkeyed => rfl
  | blocked | misdated =>
      exact background_notifyAll (by simp [Effect.isMark, Effect.isStage, Effect.isTraffic])
  | sent => exact background_ask fun _ => rfl

theorem background_finishUnchanged (kind : Kind) :
    (s.finishUnchanged kind).background = s.background := by
  unfold finishUnchanged
  cases s.entry? kind with
  | none => rfl
  | some e =>
      dsimp only
      split
      · exact background_notify rfl
      · rfl

theorem background_reportUnchanged : s.reportUnchanged.background = s.background := by
  unfold reportUnchanged
  split
  · rfl
  · exact foldl_keeps background (s := { s with unreported := [] }) fun _ kind _ =>
      background_finishUnchanged kind

theorem background_editFailed (kind : Kind) : (s.editFailed kind).background = s.background :=
  background_notify rfl

theorem background_delete (kind : Kind) : (s.delete kind).1.background = s.background := by
  rcases s.delete_cases kind with same | ⟨e, -, -, -, -, same⟩ <;> rw [same]
  exact background_ask fun _ => rfl

theorem background_deleteDone (kind : Kind) (outcome : Outcome) :
    (s.deleteDone kind outcome).background = s.background := by
  cases outcome with
  | ok response => exact background_notify rfl
  | failed error => exact (background_editFailed kind).trans (background_notify rfl)

/-! ## Verification -/

theorem background_sendCode {make : Token → String → Request} (kind : Kind)
    (h : ∀ t target, Effect.isMark (.request (make t target)) = false) :
    (s.sendCode kind make).background = s.background := by
  unfold sendCode
  cases s.entry? kind with
  | none => rfl
  | some e => exact background_ask fun t => h t e.target

theorem background_sendCodeFailed (kind : Kind) (error : ServerError) :
    (s.sendCodeFailed kind error).background = s.background :=
  (background_editFailed kind).trans (background_notify rfl)

theorem background_verify (kind : Kind) (code : String) :
    (s.verify kind code).1.background = s.background := by
  unfold verify
  cases s.entry? kind with
  | none => rfl
  | some e =>
      dsimp only
      cases e.verification.codeLength with
      | none => rfl
      | some length =>
          dsimp only
          split
          · rfl
          · split
            · exact background_notify rfl
            · refine background_ask fun t => ?_
              split <;> rfl

theorem background_resendCallDone (kind : Kind) (outcome : Outcome) :
    (s.resendCallDone kind outcome).background = s.background := background_notify rfl

theorem background_saveFailed (kind : Kind) (error : ServerError) :
    (s.saveFailed kind error).background = s.background := by
  unfold saveFailed
  dsimp only
  split
  · exact (background_editFailed kind).trans (background_notify rfl)
  · exact background_sendCode kind fun _ _ => rfl
  · exact background_sendCode kind fun _ _ => rfl
  · exact background_notify rfl
  · exact background_suggestRestart
  · exact (background_editFailed kind).trans (background_notify rfl)

theorem background_saveDone (kind : Kind) (outcome : Outcome) :
    (s.saveDone kind outcome).background = s.background := by
  unfold saveDone
  split
  · split
    · exact background_notify rfl
    · exact background_saveFailed kind _
  · exact background_saveFailed kind _
  · exact background_saveFailed kind _

/-! ## Stages -/

theorem gear_checkPassword (password : String) : (s.checkPassword password).gear = s.gear :=
  (gear_push rfl).trans rfl

theorem gear_submitPassword (password : String) : (s.submitPassword password).gear = s.gear := by
  unfold submitPassword
  split
  · rfl
  · split
    · exact gear_notify _
    · exact gear_checkPassword password

theorem gear_showForm (now : Nat) : (s.showForm now).gear = s.gear := by
  rcases s.showForm_cases now with
    same | ⟨-, -, ⟨_, n, -, told⟩ | ⟨_, asked⟩ | ⟨-, credentials, password, -, checked⟩⟩
  · rw [same]
  · rw [told]
    exact gear_notify n
  · rw [asked]
    exact gear_notify _
  · rw [checked]
    exact gear_checkPassword (s := { s with credentials }) password

theorem gear_submit : s.submit.1.gear = s.gear := by
  unfold submit
  split
  · rfl
  · dsimp only
    split
    · exact (gear_push rfl).trans rfl
    · rfl

/-! ## Timers -/

theorem gear_unlock (password : String) (elements : List StoredElement)
    (errors : List ElementError) : (s.unlock now password elements errors).gear =
      (s.schedule (now + s.setup.settings.rememberFor) .forgetPassword).gear := by
  have told (u : Session) : (u.notifyAll [.secretReady, .showForm]).gear = u.gear :=
    (gear_notify _).trans (gear_notify _)
  exact (told _).trans rfl

theorem gear_submitDone_ok (response : Response) : (s.submitDone now (.ok response)).gear =
    (s.schedule (now + s.setup.settings.closeDelay) .closeAfterSubmit).gear := by
  have told : (notify { s with submitted := true } (.toast Phrase.submitted)).gear = s.gear :=
    (gear_notify _).trans rfl
  exact congrArg (fun g : Gear => { g with
    timers := (s.schedule (now + s.setup.settings.closeDelay) .closeAfterSubmit).timers }) told

theorem background_submitDone_failed (now : Nat) (error : ServerError) :
    (s.submitDone now (.failed error)).background = s.background := by
  unfold submitDone
  dsimp only
  split
  · exact background_notify rfl
  · exact background_suggestRestart
  · exact background_notify rfl

theorem background_sendCodeDone_of_none {kind : Kind} {outcome : Outcome}
    (h : outcome.countdown? kind = none) :
    (s.sendCodeDone now kind outcome).background = s.background := by
  cases outcome with
  | failed error => exact background_sendCodeFailed kind error
  | ok response =>
      unfold sendCodeDone
      dsimp only
      split
      · exact background_sendCodeFailed kind _
      · rename_i length timeout sent
        have silent : timeout = none := by simpa [Outcome.countdown?, sent] using h
        rw [silent]
        exact background_notify rfl

/-- A countdown begins with the first tick of it. -/
theorem background_sendCodeDone_of_some {kind : Kind} {outcome : Outcome} {t : Nat}
    (h : outcome.countdown? kind = some t) : (s.sendCodeDone now kind outcome).background =
      (s.schedule (now + s.setup.settings.callTick) (.callTick kind)).background := by
  cases outcome with
  | failed error => cases h
  | ok response =>
      unfold sendCodeDone
      dsimp only
      split
      · rename_i unsent
        simp [Outcome.countdown?, unsent] at h
      · rename_i length timeout sent
        have announced : timeout = some t := by simpa [Outcome.countdown?, sent] using h
        rw [announced]
        exact (background_notify rfl).trans rfl

theorem background_checkCodeDone_failed (kind : Kind) (error : ServerError) :
    (s.checkCodeDone kind (.failed error)).background = s.background := by
  unfold checkCodeDone
  cases s.entry? kind with
  | none => rfl
  | some e => exact background_notify rfl

theorem background_checkCodeDone_ok {kind : Kind} {e : Entry} (he : s.entry? kind = some e)
    (response : Response) :
    (s.checkCodeDone kind (.ok response)).background = (s.disarm (.callTick kind)).background := by
  unfold checkCodeDone
  rw [he]
  dsimp only
  generalize hq : (((s.sendAll (e.verification.callRequest?.toList.map .cancel)).put
    { e with verification := .none }).disarm (.callTick kind)).notify
      (.verificationUpdate kind) = quiet
  have same : quiet.background = (s.disarm (.callTick kind)).background := by
    rw [← hq]
    refine (background_notify rfl).trans ?_
    exact congrArg (Background.disarm (.callTick kind)) background_cancelAll
  have sent := background_sendSave (s := quiet) kind
  split
  · rename_i s' saved
    rw [saved] at sent
    exact sent.trans same
  · rename_i s' _ saved
    rw [saved] at sent
    exact (background_editFailed kind).trans (sent.trans same)

theorem background_cancelVerification {kind : Kind} {e : Entry} (he : s.entry? kind = some e) :
    (s.cancelVerification kind).1.background = (s.disarm (.callTick kind)).background := by
  unfold cancelVerification
  rw [he]
  dsimp only
  generalize hq : ((s.sendAll _).put _).disarm _ = quiet
  have same : quiet.background = (s.disarm (.callTick kind)).background := by
    rw [← hq]
    exact congrArg (Background.disarm (.callTick kind)) background_cancelAll
  have told : (if e.verification.codeLength.isSome then
      quiet.notify (.verificationUpdate kind) else quiet).background =
        (s.disarm (.callTick kind)).background := by
    split
    · exact (background_notify rfl).trans same
    · exact same
  split
  · exact told
  · exact (background_editFailed kind).trans told

/-- Before the time of the call has come, the next tick of the countdown is armed. -/
theorem background_callTick_of_early {kind : Kind} {e : Entry} {due : Nat}
    (he : s.entry? kind = some e) (waiting : e.verification.call = some (.waiting due))
    (early : now < due) : (s.callTick now kind).background =
      (s.schedule (now + s.setup.settings.callTick) (.callTick kind)).background := by
  unfold callTick
  rw [he]
  dsimp only
  rw [waiting]
  dsimp only
  rw [if_neg (Nat.not_le.2 early)]
  exact background_notify rfl

/-- Otherwise the countdown is over. -/
theorem background_callTick_of_late {kind : Kind}
    (late : ∀ e due, s.entry? kind = some e → e.verification.call = some (.waiting due) → due ≤ now) :
    (s.callTick now kind).background = s.background := by
  unfold callTick
  cases he : s.entry? kind with
  | none => rfl
  | some e =>
      dsimp only
      split
      · rename_i due waiting
        rw [if_pos (late e due he waiting)]
        exact (background_notify rfl).trans (background_ask fun _ => rfl)
      · rfl

/-! ## Downloads -/

theorem background_startDownload (id size : UInt64) : (s.startDownload id size).background =
    if id ∈ s.downloads then s.background else s.background.load id size := by
  unfold startDownload
  split
  · rfl
  · have sent : (s.outbox ++ [Effect.request (.downloadFile id id size)]).filter Effect.isTraffic =
        s.outbox.filter Effect.isTraffic ++ [.request (.downloadFile id id size)] := by
      simp [List.filter_append, Effect.isTraffic]
    have staged : (s.outbox ++ [Effect.request (.downloadFile id id size)]).filter Effect.isStage =
        s.outbox.filter Effect.isStage := by
      simp [List.filter_append, Effect.isStage]
    exact congrArg₂ (fun traffic stages => Background.mk ⟨_, _, _, _, traffic⟩ _ stages) sent staged

theorem background_loadFile (kind : Kind) (slot : Slot) :
    s.background.Loads (s.loadFile kind slot).1.background := by
  unfold loadFile
  cases s.entry? kind with
  | none => exact .refl
  | some e =>
      dsimp only
      cases e.files.get? slot with
      | none => exact .refl
      | some f =>
          dsimp only
          split
          · exact .refl
          · rw [background_startDownload]
            split
            · exact .refl
            · rename_i free
              exact .single ⟨f.id, f.size, free, rfl⟩

theorem background_loadScans (kind : Kind) : s.background.Loads (s.loadScans kind).background := by
  unfold loadScans
  cases s.entry? kind with
  | none => exact .refl
  | some e =>
      dsimp only
      induction e.slots.filter fun slot => (e.files.get? slot).isSome generalizing s with
      | nil => exact .refl
      | cons slot rest ih => exact (background_loadFile kind slot).trans ih

theorem background_startEdit (kind : Kind) : s.background.Loads (s.startEdit kind).1.background := by
  unfold startEdit
  cases s.entry? kind with
  | none => exact .refl
  | some e =>
      dsimp only
      split
      · exact background_loadScans (s := s.put _) kind
      · exact .refl

theorem background_handleFileEvent (live : s.cancelled = false) (event : FileEvent) :
    (s.handleFileEvent event).background = match event.landed? with
      | some id => (s.endDownload id).background
      | none => s.background := by
  unfold handleFileEvent
  rw [if_neg (by simp [live])]
  cases event with
  | uploadProgress key offset => exact background_updateUpload _ _
  | uploadDone key fileId => exact background_updateUpload _ _
  | uploadFailed key => exact background_updateUpload _ _
  | downloadProgress key offset => exact background_updateDownload _ _
  | downloadDone key bytes => exact background_updateDownload _ _
  | downloadFailed key => exact background_updateDownload _ _
end Session

end IdentityForm
