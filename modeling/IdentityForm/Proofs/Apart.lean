import IdentityForm.Proofs.Elsewhere
import IdentityForm.Proofs.Move.Step

/-! # Apart from the entries

What concerns the entries, their files or the order of the timers leaves the rest of a session alone: what
was asked for on behalf of the whole session, the password and its settings, and how the session stands.
-/

namespace IdentityForm.Session

/-- A session apart from its entries, its transfers, its timers and what it sends and tells. -/
def apart (s : Session) : Session :=
  { s with
    form := .empty
    issued := 0
    suggestingRestart := false
    downloads := []
    unreported := []
    timers := []
    outbox := [] }

variable {s s' : Session} {kind : Kind}

theorem apart_of_elsewhere (same : s'.elsewhere kind = s.elsewhere kind) : s'.apart = s.apart := by
  have apart : (s'.elsewhere kind).apart = (s.elsewhere kind).apart := by rw [same]
  exact apart

theorem apart_sendAll (rs : List Request) : (s.sendAll rs).apart = s.apart :=
  foldl_keeps apart fun _ _ _ => rfl

theorem apart_suggestRestart : s.suggestRestart.apart = s.apart := by
  unfold suggestRestart
  split <;> rfl

theorem apart_reportUnchanged : s.reportUnchanged.apart = s.apart := by
  unfold reportUnchanged
  split
  · rfl
  · exact (foldl_keeps apart (s := { s with unreported := [] })
      fun _ kind _ => apart_of_elsewhere (elsewhere_finishUnchanged kind)).trans rfl

/-! ## Events of transfers -/

theorem apart_updateUpload (key : UInt64) (change : Draft → Draft) :
    (s.updateUpload key change).apart = s.apart := by
  unfold updateUpload
  split <;> rfl

theorem apart_updateDownload (id : UInt64) (change : StoredFile → StoredFile) :
    (s.updateDownload id change).apart = s.apart := by
  unfold updateDownload
  exact foldl_keeps apart fun _ _ _ => rfl

theorem apart_handleFileEvent (event : FileEvent) :
    (s.handleFileEvent event).apart = s.apart := by
  unfold handleFileEvent
  split
  · rfl
  · cases event with
    | uploadProgress | uploadDone | uploadFailed => exact apart_updateUpload _ _
    | downloadProgress => exact apart_updateDownload _ _
    | downloadDone | downloadFailed => exact (apart_updateDownload _ _).trans rfl

end IdentityForm.Session
