import IdentityForm.Proofs.Background

/-! # How far a session has got

A form is unlocked, submitted, and closed after a while. What an operation does to that shows in few
places: whether the form was submitted, when the session is to close for it, and the effects that lead
from one stage to the next. Whatever leaves the background of a session alone leaves these alone.
-/

namespace IdentityForm

/-- How far a session has got. -/
structure Standing where
  setup : Setup
  submitted : Bool
  cancelled : Bool
  /-- When the session is to close because the form was submitted. -/
  closing : List Nat
  /-- The effects by which it got on. -/
  stages : List Effect

def Standing.reach (d : Standing) (x : Effect) : Standing := { d with stages := d.stages ++ [x] }

def Background.standing (b : Background) : Standing :=
  ⟨b.setup, b.submitted, b.cancelled,
    b.timers.filterMap fun t => if t.2 = .closeAfterSubmit then some t.1 else none, b.stages⟩

namespace Session

/-- When a timer that closes the session is due. -/
def closings (s : Session) : List Nat :=
  s.timers.filterMap fun t => if t.2 = .closeAfterSubmit then some t.1 else none

def standing (s : Session) : Standing :=
  ⟨s.setup, s.submitted, s.cancelled, s.closings, s.outbox.filter Effect.isStage⟩

variable {s s' : Session} {now : Nat}

theorem standing_of_background (same : s'.background = s.background) : s'.standing = s.standing :=
  congrArg Background.standing same

theorem standing_of_loads (h : s.background.Loads s'.background) : s'.standing = s.standing := by
  suffices kept : ∀ b, s.background.Loads b → b.standing = s.standing from kept _ h
  intro b loads
  induction loads with
  | refl => rfl
  | tail _ load ih =>
      obtain ⟨id, size, -, rfl⟩ := load
      exact ih

/-! ## Sending, reporting and timers -/

theorem standing_send {r : Request} (h : Effect.isStage (.request r) = false) :
    (s.send r).standing = s.standing := by
  have same : (s.outbox ++ [Effect.request r]).filter Effect.isStage =
      s.outbox.filter Effect.isStage := by
    simp [List.filter_append, h]
  exact congrArg (Standing.mk _ _ _ _) same

theorem standing_notify {x : Notice} (h : Effect.isStage (.notice x) = false) :
    (s.notify x).standing = s.standing := by
  have same : (s.outbox ++ [Effect.notice x]).filter Effect.isStage =
      s.outbox.filter Effect.isStage := by
    simp [List.filter_append, h]
  exact congrArg (Standing.mk _ _ _ _) same

theorem standing_send_of_stage {r : Request} (h : Effect.isStage (.request r) = true) :
    (s.send r).standing = s.standing.reach (.request r) := by
  have more : (s.outbox ++ [Effect.request r]).filter Effect.isStage =
      s.outbox.filter Effect.isStage ++ [.request r] := by
    simp [List.filter_append, h]
  exact congrArg (Standing.mk _ _ _ _) more

theorem standing_notify_of_stage {x : Notice} (h : Effect.isStage (.notice x) = true) :
    (s.notify x).standing = s.standing.reach (.notice x) := by
  have more : (s.outbox ++ [Effect.notice x]).filter Effect.isStage =
      s.outbox.filter Effect.isStage ++ [.notice x] := by
    simp [List.filter_append, h]
  exact congrArg (Standing.mk _ _ _ _) more

theorem standing_sendAll {rs : List Request}
    (h : ∀ r ∈ rs, Effect.isStage (.request r) = false) :
    (s.sendAll rs).standing = s.standing :=
  foldl_keeps standing fun _ r hr => standing_send (h r hr)

theorem closings_disarm {timer : Timer} (h : timer ≠ .closeAfterSubmit) :
    (s.disarm timer).closings = s.closings := by
  simp only [closings, disarm, List.filterMap_filter]
  congr
  funext t
  split
  · rfl
  · rename_i same
    have same : t.2 = timer := by simpa using same
    rw [if_neg (same ▸ h)]

theorem closings_schedule {due : Nat} {timer : Timer} (h : timer ≠ .closeAfterSubmit) :
    (s.schedule due timer).closings = s.closings := by
  have armed : (s.schedule due timer).closings = (s.disarm timer).closings ++ [] := by
    simp [closings, schedule, h]
  rw [armed, List.append_nil, closings_disarm h]

theorem standing_disarm {timer : Timer} (h : timer ≠ .closeAfterSubmit) :
    (s.disarm timer).standing = s.standing :=
  congrArg (Standing.mk _ _ _ · _) (closings_disarm h)

theorem standing_schedule {due : Nat} {timer : Timer} (h : timer ≠ .closeAfterSubmit) :
    (s.schedule due timer).standing = s.standing :=
  congrArg (Standing.mk _ _ _ · _) (closings_schedule h)

/-! ## Operations with timers of their own -/

theorem standing_cancelVerification (kind : Kind) :
    (s.cancelVerification kind).1.standing = s.standing := by
  cases he : s.entry? kind with
  | none =>
      unfold cancelVerification
      rw [he]
  | some e =>
      have given_up := standing_of_background (background_cancelVerification he)
      exact given_up.trans (standing_disarm nofun)

theorem standing_callTick (kind : Kind) : (s.callTick now kind).standing = s.standing := by
  by_cases early : ∃ e due, s.entry? kind = some e ∧ e.verification.call = some (.waiting due) ∧
      now < due
  · obtain ⟨e, due, he, waiting, early⟩ := early
    have armed := standing_of_background (background_callTick_of_early he waiting early)
    exact armed.trans (standing_schedule nofun)
  · refine standing_of_background (background_callTick_of_late fun e due he waiting => ?_)
    exact Nat.not_lt.1 fun before => early ⟨e, due, he, waiting, before⟩

theorem standing_sendCodeDone (kind : Kind) (outcome : Outcome) :
    (s.sendCodeDone now kind outcome).standing = s.standing := by
  cases announced : outcome.countdown? kind with
  | none => exact standing_of_background (background_sendCodeDone_of_none announced)
  | some t =>
      exact (standing_of_background (background_sendCodeDone_of_some announced)).trans
        (standing_schedule nofun)

theorem standing_checkCodeDone (kind : Kind) (outcome : Outcome) :
    (s.checkCodeDone kind outcome).standing = s.standing := by
  cases outcome with
  | failed error => exact standing_of_background (background_checkCodeDone_failed kind error)
  | ok response =>
      cases he : s.entry? kind with
      | none =>
          unfold checkCodeDone
          rw [he]
      | some e =>
          have disarmed := standing_of_background (background_checkCodeDone_ok he response)
          exact disarmed.trans (standing_disarm nofun)

theorem standing_taskDone (task : Task) (kind : Kind) (outcome : Outcome) :
    (s.taskDone now task kind outcome).standing = s.standing := by
  cases task with
  | save => exact standing_of_background (background_saveDone kind outcome)
  | delete => exact standing_of_background (background_deleteDone kind outcome)
  | sendCode => exact standing_sendCodeDone kind outcome
  | checkCode => exact standing_checkCodeDone kind outcome
  | resendCall => exact standing_of_background (background_resendCallDone kind outcome)

end Session

end IdentityForm
