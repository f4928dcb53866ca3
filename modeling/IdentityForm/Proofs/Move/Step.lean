import IdentityForm.Proofs.Move.Unlock
import IdentityForm.Proofs.Move.Verifying

/-! # Actions as moves

Closing and starting over cancel whatever is waited for. With that every action comes to moves,
after a reply that is taken in, or before closing.
-/

namespace IdentityForm.Session

variable {s s' : Session} {now : Nat} {a : Action} {r : Reply}

/-! ## Stopping what is under way -/

def stops (s : Session) : List Request :=
  s.awaited.ids.map .cancel ++
    (s.form.entries.flatMap Entry.cancellations ++ s.downloads.map .cancelDownload)

theorem token_of_mem_cancellations {e : Entry} {r : Request} (hr : r ∈ e.cancellations) :
    r.token? = none := by
  simp only [Entry.cancellations, List.mem_append, List.mem_map, List.mem_filterMap] at hr
  rcases hr with hr | ⟨id, -, rfl⟩ | ⟨id, -, rfl⟩ | ⟨d, -, hr⟩
  · cases hw : e.write with
    | pending id => simp only [hw, List.mem_singleton] at hr; subst hr; rfl
    | idle => simp [hw] at hr
    | unchanged => simp [hw] at hr
  · rfl
  · rfl
  · split at hr
    · obtain ⟨u, -, rfl⟩ := Option.map_eq_some_iff.1 hr
      rfl
    · cases hr

theorem token_of_mem_stops {r : Request} (hr : r ∈ s.stops) : r.token? = none := by
  simp only [stops, List.mem_append, List.mem_map, List.mem_flatMap] at hr
  rcases hr with ⟨id, -, rfl⟩ | ⟨e, -, hr⟩ | ⟨id, -, rfl⟩
  · rfl
  · exact token_of_mem_cancellations hr
  · rfl

theorem tokensOf_stops : tokensOf (s.stops.map .request) = [] := by
  rw [tokensOf_requests]
  exact List.filterMap_eq_nil_iff.2 fun r hr => token_of_mem_stops hr

theorem cancelsOf_cancellations (e : Entry) :
    cancelsOf (e.cancellations.map .request) = e.awaitedIds := by
  have uploads : cancelsOf ((e.draftFiles.toList.filterMap fun d =>
      if d.isUploading then d.upload.map fun u => Request.cancelUpload u.key else none).map
        .request) = [] := by
    apply cancelsOf_of_calm
    intro x hx
    obtain ⟨r, hr, rfl⟩ := List.mem_map.1 hx
    obtain ⟨d, -, hd⟩ := List.mem_filterMap.1 hr
    split at hd
    · obtain ⟨u, -, rfl⟩ := Option.map_eq_some_iff.1 hd
      rfl
    · cases hd
  unfold Entry.cancellations Entry.awaitedIds
  simp only [List.map_append, cancelsOf_append, cancelsOf_requests, uploads, List.append_nil]
  cases e.write <;> rfl

theorem cancelsOf_stops : cancelsOf (s.stops.map .request) = s.core.awaitedIds := by
  have entries : cancelsOf ((s.form.entries.flatMap Entry.cancellations).map .request) =
      s.form.entries.flatMap Entry.awaitedIds := by
    induction s.form.entries with
    | nil => rfl
    | cons e rest ih =>
        rw [List.flatMap_cons, List.map_append, cancelsOf_append, ih, cancelsOf_cancellations]
        rfl
  have downloads : cancelsOf ((s.downloads.map Request.cancelDownload).map .request) = [] := by
    apply cancelsOf_of_calm
    intro x hx
    simp only [List.map_map, List.mem_map] at hx
    obtain ⟨id, -, rfl⟩ := hx
    rfl
  unfold stops
  rw [List.map_append, List.map_append, cancelsOf_append, cancelsOf_append, cancelsOf_requests,
    entries, downloads, List.append_nil]
  rfl

theorem core_abort : s.abort.core = { s.core with
    form := { s.form with entries := s.form.entries.map Entry.stopped }, awaited := .none } := by
  have same : (s.sendAll s.stops).core = s.core := core_sendAll _
  have parts := congrArg (fun c : Core => { c with
    form := { s.form with entries := s.form.entries.map Entry.stopped }, awaited := .none }) same
  exact parts

theorem outbox_abort : s.abort.outbox = s.outbox ++ s.stops.map .request := outbox_sendAll _

theorem no_saveFinished_stops (kind : Kind) :
    .notice (.saveFinished kind) ∉ s.stops.map Effect.request := by
  simp

theorem no_uploadFile_stops (key : UInt64) (role : Role) (bytes : List UInt8) :
    .request (.uploadFile key role bytes) ∉ s.stops.map Effect.request := by
  intro hx
  obtain ⟨r, hr, same⟩ := List.mem_map.1 hx
  cases same
  simp only [stops, List.mem_append, List.mem_map, List.mem_flatMap] at hr
  rcases hr with ⟨id, -, same⟩ | ⟨e, -, hr⟩ | ⟨id, -, same⟩
  · cases same
  · simp only [Entry.cancellations, List.mem_append, List.mem_map, List.mem_filterMap] at hr
    rcases hr with hr | ⟨id, -, same⟩ | ⟨id, -, same⟩ | ⟨d, -, hr⟩
    · cases hw : e.write <;> simp [hw] at hr
    · cases same
    · cases same
    · split at hr
      · obtain ⟨u, -, same⟩ := Option.map_eq_some_iff.1 hr
        cases same
      · cases hr
  · cases same

/-- Every upload that is running is stopped. -/
theorem cancelUpload_mem_stops {e : Entry} (he : e ∈ s.form.entries) {key : UInt64}
    (running : key ∈ e.runningKeys) : .request (.cancelUpload key) ∈ s.stops.map Effect.request := by
  obtain ⟨d, hd, hkey⟩ := List.mem_filterMap.1 running
  apply List.mem_map_of_mem
  apply List.mem_append_right
  apply List.mem_append_left
  refine List.mem_flatMap.2 ⟨e, he, ?_⟩
  simp only [Entry.cancellations, List.mem_append, List.mem_filterMap]
  refine .inr (.inr (.inr ⟨d, hd, ?_⟩))
  split at hkey
  · rename_i uploading
    obtain ⟨u, hu, rfl⟩ := Option.map_eq_some_iff.1 hkey
    rw [if_pos uploading, hu]
    rfl
  · cases hkey

theorem cancelSurely_close (live : s.cancelled = false) : Close s s.cancelSurely := by
  let stopped := { s with cancelled := true }.abort
  have closed : s.cancelSurely = stopped.notify (.close stopped.callbackUrl?) := by
    unfold cancelSurely
    rw [if_neg (by simp [live])]
  have outbox : (stopped.notify (.close stopped.callbackUrl?)).outbox =
      s.outbox ++ (s.stops.map .request ++ [.notice (.close stopped.callbackUrl?)]) := by
    rw [outbox_notify, outbox_abort, List.append_assoc]
    rfl
  rw [closed]
  constructor
  · exact live
  · exact ⟨_, _, outbox⟩
  · exact core_abort
  · refine ⟨s.stops.map .request ++ [.notice (.close stopped.callbackUrl?)], ?_, ?_, ?_, ?_⟩
    · exact outbox
    · rw [tokensOf_append, tokensOf_stops]
      rfl
    · rw [cancelsOf_append, cancelsOf_stops]
      exact List.append_nil _
    · simp

theorem restart_moves (ha : a = .restart) : Moves now a s s.restart := by
  unfold restart
  split
  · exact .refl
  · refine Moves.trans (Move.moves ?_) display_moves
    refine .abandon (s.stops.map .request) ha ?_ outbox_abort tokensOf_stops cancelsOf_stops
      no_saveFinished_stops rfl no_uploadFile_stops (fun _ he _ => cancelUpload_mem_stops he)
      (by simp)
    exact congrArg (fun c : Core => { c with
      form := .empty, formReceived := false, password := none, secretReady := false }) core_abort

/-! ## Time -/

theorem reportUnchanged_moves (ha : a = .tick) : Moves now a s s.reportUnchanged := by
  unfold reportUnchanged
  split
  · exact moves_of_core_eq rfl rfl rfl
  · have taken : Moves now a s { s with unreported := [] } := moves_of_core_eq rfl rfl rfl
    exact taken.trans (foldl_moves _ (fun _ kind => finishUnchanged_moves kind ha) _)

/-- Timers that are due are made of moves, up to the one that closes. -/
theorem fire_acts (ha : a = .tick) (timer : Timer) (live : s.cancelled = false) :
    Moves now a s (s.fire now timer) ∨ Close s (s.fire now timer) := by
  cases timer with
  | closeAfterSubmit => exact .inr (cancelSurely_close live)
  | shortPoll => exact .inl requestPasswordState_moves
  | forgetPassword => exact .inl (moves_of_core_eq rfl rfl rfl)
  | callTick kind => exact .inl (callTick_moves kind ha)

def fires (s : Session) (now : Nat) (due : List (Nat × Timer)) : Session :=
  due.foldl (fun s t => if s.cancelled then s else s.fire now t.2) s

theorem fires_of_cancelled (due : List (Nat × Timer)) (closed : s.cancelled = true) :
    s.fires now due = s := by
  unfold fires
  induction due with
  | nil => rfl
  | cons t rest ih => rw [List.foldl_cons, if_pos closed, ih]

theorem fires_cons (t : Nat × Timer) (rest : List (Nat × Timer)) (live : s.cancelled = false) :
    s.fires now (t :: rest) = (s.fire now t.2).fires now rest := by
  unfold fires
  rw [List.foldl_cons, if_neg (by simp [live])]

theorem fires_induction (now : Nat) {P : List (Nat × Timer) → Session → Prop}
    {due : List (Nat × Timer)}
    (fire : ∀ t rest u, u.cancelled = false → P (t :: rest) u → P rest (u.fire now t.2))
    (closed : ∀ t rest u, u.cancelled = true → P (t :: rest) u → P rest u) (start : P due s) :
    P [] (s.fires now due) := by
  induction due generalizing s with
  | nil => exact start
  | cons t rest ih =>
      cases live : s.cancelled with
      | true =>
          have ended : s.fires now (t :: rest) = s.fires now rest :=
            (fires_of_cancelled _ live).trans (fires_of_cancelled _ live).symm
          rw [ended]
          exact ih (closed t rest s live start)
      | false =>
          rw [fires_cons t rest live]
          exact ih (fire t rest s live start)

theorem fires_acts (ha : a = .tick) (due : List (Nat × Timer)) : Acts now a s (s.fires now due) := by
  have fired : Moves now a s (s.fires now due) ∨
      ∃ mid, Moves now a s mid ∧ Close mid (s.fires now due) := by
    refine fires_induction now
      (P := fun _ u => Moves now a s u ∨ ∃ mid, Moves now a s mid ∧ Close mid u) ?_ ?_ (.inl .refl)
    · rintro t rest u live (moves | ⟨mid, -, close⟩)
      · rcases fire_acts ha t.2 live with moves' | close
        · exact .inl (moves.trans moves')
        · exact .inr ⟨u, moves, close⟩
      · exact absurd (live.symm.trans (congrArg Core.cancelled close.core)) (by simp)
    · exact fun t rest u _ kept => kept
  rcases fired with moves | ⟨mid, moves, close⟩
  · exact .moves (by simp [ha]) moves
  · exact .close (by simp [ha]) moves close

theorem Acts.after {mid : Session} (first : Moves now a s mid) (ha : ∀ r, a ≠ .reply r)
    (h : Acts now a mid s') : Acts now a s s' := by
  cases h with
  | moves _ moves => exact .moves ha (first.trans moves)
  | close _ moves close => exact .close ha (first.trans moves) close
  | dropped hr => exact absurd hr (ha _)
  | reply hr => exact absurd hr (ha _)

theorem tick_acts (ha : a = .tick) : Acts now a s (s.tick now) := by
  unfold tick
  have reported : Moves now a s s.reportUnchanged := reportUnchanged_moves ha
  have rest : Moves now a s { s.reportUnchanged with
      timers := s.reportUnchanged.timers.filter fun t => ¬ t.1 ≤ now } :=
    reported.trans (moves_of_core_eq rfl rfl rfl)
  exact .after rest (by simp [ha]) (fires_acts ha _)

/-! ## Actions -/

theorem handleReply_acts (ha : a = .reply r) : Acts now a s (s.handleReply now r) := by
  unfold handleReply
  split
  · rename_i closed
    exact .dropped ha (fun h => by simp [closed] at h) rfl
  · rename_i live
    have live : s.cancelled = false := eq_false_of_ne_true live
    split
    · rename_i errand ht
      split
      · rename_i hw
        have awaits : s.core.Awaits r.token := by
          unfold Core.Awaits
          rw [ht]
          exact hw
        exact .reply ha live awaits (errandDone_settles ht hw)
      · rename_i hw
        refine .dropped ha (fun h => hw ?_) rfl
        have awaits := h.2
        unfold Core.Awaits at awaits
        rw [ht] at awaits
        exact awaits
    · rename_i task kind ht
      cases he : s.entry? kind with
      | none =>
          refine .dropped ha (fun h => ?_) rfl
          have awaits := h.2
          unfold Core.Awaits at awaits
          rw [ht] at awaits
          obtain ⟨e, he', -⟩ := awaits
          exact absurd (he.symm.trans he') nofun
      | some e =>
          obtain rfl := kind_of_entry he
          simp only
          split
          · rename_i hw
            have awaits : s.core.Awaits r.token := by
              unfold Core.Awaits
              rw [ht]
              exact ⟨e, he, hw⟩
            exact .reply ha live awaits (taskDone_settles ht he hw)
          · rename_i hw
            refine .dropped ha (fun h => hw ?_) rfl
            have awaits := h.2
            unfold Core.Awaits at awaits
            rw [ht] at awaits
            obtain ⟨e', he', hw'⟩ := awaits
            cases Option.some.inj (he.symm.trans he')
            exact hw'

theorem cancel_acts (ha : ∀ r, a ≠ .reply r) : Acts now a s s.cancel := by
  unfold cancel
  split
  · exact .moves ha .refl
  · rename_i live
    split
    · exact .close ha .refl (cancelSurely_close (eq_false_of_ne_true live))
    · exact .moves ha (notify_moves _ rfl)

theorem cancelSurely_acts (ha : ∀ r, a ≠ .reply r) : Acts now a s s.cancelSurely := by
  by_cases live : s.cancelled = true
  · have same : s.cancelSurely = s := if_pos live
    rw [same]
    exact .moves ha .refl
  · exact .close ha .refl (cancelSurely_close (eq_false_of_ne_true live))

/-- Every action comes to moves, after a reply that is taken in or before closing. -/
theorem act_acts (sound : s.core.Sound) : Acts now a s (s.act now a).1 := by
  cases h : a with
  | display => exact .moves (by simp) display_moves
  | submitPassword password => exact .moves (by simp) (submitPassword_moves password)
  | reloadPassword => exact .moves (by simp) reloadPassword_moves
  | clearUnconfirmedPassword => exact .moves (by simp) clearUnconfirmedPassword_moves
  | recoverPassword => exact .moves (by simp) recoverPassword_moves
  | startEdit kind => exact .moves (by simp) (startEdit_moves kind rfl)
  | stopEdit kind => exact .moves (by simp) (stopEdit_moves kind rfl)
  | save kind changes => exact .moves (by simp) (save_moves sound kind changes rfl)
  | delete kind => exact .moves (by simp) (delete_moves kind rfl)
  | upload kind role key date bytes =>
      exact .moves (by simp) (upload_moves kind role key date bytes rfl)
  | deleteScan kind slot => exact .moves (by simp) (setDeleted_moves kind slot true rfl)
  | restoreScan kind slot => exact .moves (by simp) (setDeleted_moves kind slot false rfl)
  | loadFile kind slot => exact .moves (by simp) (loadFile_moves kind slot (.inr rfl))
  | verify kind code => exact .moves (by simp) (verify_moves kind code rfl)
  | cancelVerification kind => exact .moves (by simp) (cancelVerification_moves kind rfl)
  | submit => exact .moves (by simp) (submit_moves rfl)
  | cancel => exact cancel_acts (by simp)
  | cancelSurely => exact cancelSurely_acts (by simp)
  | suggestRestart => exact .moves (by simp) suggestRestart_moves
  | dismissRestart => exact .moves (by simp) (moves_of_core_eq rfl rfl rfl)
  | restart => exact .moves (by simp) (restart_moves rfl)
  | reply r => exact handleReply_acts rfl
  | file event => exact .moves (by simp) (handleFileEvent_moves sound event rfl)
  | tick => exact tick_acts rfl
  | remember password expires => exact .moves (by simp) (moves_of_core_eq rfl rfl rfl)
  | forget => exact .moves (by simp) (moves_of_core_eq rfl rfl rfl)

end IdentityForm.Session
