import IdentityForm.Proofs.Elsewhere
import IdentityForm.Proofs.Uploads.News

/-! # Isolation

The entries of a form do not get into each other's way. What a call, a reply to a task, the news of an
upload or a countdown does for one kind leaves all that the session has of another kind as it was.
-/

namespace IdentityForm

/-- All that a session has of one kind: the entry with its edit buffer, its write and its verification,
the timers of its countdown, and its saves that are still to be reported. -/
structure Share where
  entry? : Option Entry
  timers : List (Nat × Timer)
  unreported : List Kind
  deriving DecidableEq

namespace Session

def share (s : Session) (kind : Kind) : Share where
  entry? := s.entry? kind
  timers := s.timers.filter fun t => t.2 = .callTick kind
  unreported := s.unreported.filter (· = kind)

/-- An action is about a kind: it names the kind, or it is the news of an upload that the edit buffer of
the kind holds. -/
inductive Concerns (s : Session) (kind : Kind) : Action → Prop
  | named {a : Action} : a.kind? = some kind → Concerns s kind a
  | news {event : FileEvent} {key : UInt64} {change : Draft → Draft} {e : Entry} {slot : Slot} :
      event.draftChange? = some (key, change) → s.entry? kind = some e → e.Holds slot key →
        Concerns s kind (.file event)

variable {s s' : Session} {now : Nat} {a : Action} {kind other : Kind} {log : List UInt64}

/-! ## The share of another kind -/

theorem share_elsewhere (apart : kind ≠ other) : (s.elsewhere kind).share other = s.share other := by
  have timers (t : Nat × Timer) (ht : t.2 = .callTick other) : t.2 ≠ .callTick kind := by
    rw [ht]
    simpa using apart.symm
  have kinds (k : Kind) (hk : k = other) : k ≠ kind := hk ▸ apart.symm
  unfold share elsewhere entry?
  rw [Form.entry?_without apart, List.filter_filter, List.filter_filter]
  congr 1
  · refine List.filter_congr fun t _ => ?_
    simpa using timers t
  · refine List.filter_congr fun k _ => ?_
    simpa using kinds k

theorem share_of_elsewhere (apart : kind ≠ other)
    (same : s'.elsewhere kind = s.elsewhere kind) : s'.share other = s.share other := by
  rw [← share_elsewhere apart, same, share_elsewhere apart]

/-- An upload is in one edit buffer only, so that its news are news of one kind. -/
theorem share_news {event : FileEvent} {key : UInt64} {change : Draft → Draft} {e : Entry}
    {slot : Slot} (apart : kind ≠ other) (tracks : s.form.Tracks log)
    (news : event.draftChange? = some (key, change)) (he : s.entry? kind = some e)
    (held : e.Holds slot key) : (s.handleFileEvent event).share other = s.share other := by
  cases live : s.cancelled with
  | true =>
      unfold handleFileEvent
      rw [if_pos live]
  | false =>
      rw [handleFileEvent_of_news live news]
      obtain ⟨place, found⟩ :=
        Option.isSome_iff_exists.1 (Form.findUpload?_isSome (Form.mem_of_entry he) held)
      obtain ⟨x, hx, hk, -, here⟩ := Form.holds_of_findUpload? found
      have owner : place.kind = kind := by
        rw [← hk, (tracks.once x hx e (Form.mem_of_entry he) _ _ key here held).1]
        exact kind_of_entry he
      exact share_of_elsewhere (owner ▸ apart) (elsewhere_updateUpload change found)

theorem Concerns.share_act (h : s.Concerns kind a) (apart : kind ≠ other)
    (tracks : s.form.Tracks log) (now : Nat) : (s.act now a).1.share other = s.share other := by
  cases h with
  | named about => exact share_of_elsewhere apart (elsewhere_act about)
  | news news he held => exact share_news apart tracks news he held

/-! ## The passing of time -/

theorem share_callTick (apart : kind ≠ other) (s : Session) (now : Nat) :
    (s.fire now (.callTick kind)).share other = s.share other :=
  share_of_elsewhere apart (elsewhere_callTick now kind)

/-- Of all timers only those of its countdown, and the one that closes the session, touch a kind. -/
theorem share_fire {timer : Timer} (stays : timer ≠ .closeAfterSubmit)
    (apart : timer ≠ .callTick other) (s : Session) (now : Nat) :
    (s.fire now timer).share other = s.share other := by
  cases timer with
  | closeAfterSubmit => exact absurd rfl stays
  | shortPoll =>
      show s.requestPasswordState.share other = s.share other
      unfold requestPasswordState
      split <;> rfl
  | forgetPassword => rfl
  | callTick kind => exact share_callTick (fun same => apart (congrArg Timer.callTick same)) s now

theorem share_finishAll {kinds : List Kind} (saved : other ∉ kinds) (s : Session) :
    (kinds.foldl finishUnchanged s).share other = s.share other := by
  induction kinds generalizing s with
  | nil => rfl
  | cons kind rest ih =>
      have apart : kind ≠ other := fun same => saved (same ▸ List.mem_cons_self)
      have rest_saved : other ∉ rest := fun h => saved (List.mem_cons_of_mem kind h)
      exact (ih rest_saved _).trans (share_of_elsewhere apart (elsewhere_finishUnchanged kind))

theorem share_unreported {kinds : List Kind} (saved : other ∉ s.unreported)
    (saved' : other ∉ kinds) : share { s with unreported := kinds } other = s.share other := by
  have none {kinds : List Kind} (h : other ∉ kinds) : kinds.filter (· = other) = [] :=
    List.filter_eq_nil_iff.2 fun k hk => by simpa using ne_of_mem_of_not_mem hk h
  unfold share
  dsimp only
  rw [none saved', none saved]
  rfl

theorem share_reportUnchanged (saved : other ∉ s.unreported) :
    s.reportUnchanged.share other = s.share other := by
  unfold reportUnchanged
  split
  · exact share_unreported saved fun h => saved (List.mem_of_mem_tail h)
  · exact (share_finishAll saved _).trans (share_unreported saved List.not_mem_nil)

theorem share_tick (saved : other ∉ s.unreported)
    (idle : ∀ t ∈ s.timers, t.1 ≤ now → t.2 ≠ .callTick other ∧ t.2 ≠ .closeAfterSubmit) :
    (s.tick now).share other = s.share other := by
  have later : (s.later now).share other = s.share other := by
    refine Eq.trans ?_ (share_reportUnchanged saved)
    have same : s.reportUnchanged.timers = s.timers :=
      congrArg Gear.timers (gear_of_background background_reportUnchanged)
    unfold share later
    dsimp only
    rw [same, List.filter_filter]
    congr 1
    refine List.filter_congr fun t ht => ?_
    by_cases come : t.1 ≤ now
    · simp [(idle t ht come).1]
    · simp [come]
  rw [tick_eq_fires]
  refine (fires_induction now (P := fun rest u => u.share other = s.share other ∧
    ∀ t ∈ rest, t.2 ≠ .callTick other ∧ t.2 ≠ .closeAfterSubmit) ?_ ?_ ⟨later, ?_⟩).1
  · rintro t rest u - ⟨same, idle⟩
    have here := idle t List.mem_cons_self
    exact ⟨(share_fire here.2 here.1 u now).trans same,
      fun t' ht' => idle t' (List.mem_cons_of_mem t ht')⟩
  · rintro t rest u - ⟨same, idle⟩
    exact ⟨same, fun t' ht' => idle t' (List.mem_cons_of_mem t ht')⟩
  · intro t ht
    obtain ⟨ht, come⟩ := List.mem_filter.1 ht
    exact idle t ht (by simpa using come)

end Session

/-! ## In a run -/

namespace Run

variable {setup : Setup} {past : History} {s : Session} {kind other : Kind}

/-- Entries are isolated. With distinct keys of uploads, a call that names one kind, a reply to a task
of its entry, and the news of an upload that its edit buffer holds leave alone all that the session has
of another kind, and so does its countdown, in whatever session it goes on. The passing of time leaves a
kind alone as long as it has no save to be reported, and neither its countdown nor closing is due. -/
theorem entries_isolated (run : Run setup past s) (distinct : past.uploads.Nodup)
    (apart : kind ≠ other) (now : Nat) :
    (∀ a, s.Concerns kind a → (s.act now a).1.share other = s.share other) ∧
    (∀ u : Session, (u.fire now (.callTick kind)).share other = u.share other) ∧
    (other ∉ s.unreported →
      (∀ t ∈ s.timers, t.1 ≤ now → t.2 ≠ .callTick other ∧ t.2 ≠ .closeAfterSubmit) →
      (s.act now .tick).1.share other = s.share other) :=
  ⟨fun _ concerns => concerns.share_act apart (run.tracks distinct) now,
    fun u => Session.share_callTick apart u now, Session.share_tick⟩

/-- A front side is uploaded while an email is being saved. The news that the upload is done change what
there is of the passport and nothing of the email. -/
theorem entries_isolated_of_upload :
    let kind : Kind := .identity .passport
    let actions := [(5, .save .email (.ofTexts [(Kind.plainField, "a@b.c")])), (5, .startEdit .email),
        (4, .upload kind .frontSide 1 0 []), (4, .startEdit kind)] ++
      opening ⟨1, [[⟨kind, false, false, false⟩], [⟨.email, false, false, false⟩]], none⟩ []
    let s := (play (.fresh .plain .empty) actions).2
    let done : Session.Action := .file (.uploadDone 1 7)
    (s.act 6 done).1.share .email = s.share .email ∧
      (s.act 6 .tick).1.share .email = s.share .email ∧
      (s.entry? .email).any (·.isBusy) = true ∧
      (s.act 6 done).1.share kind ≠ s.share kind := by
  intro kind actions s done
  have run : Run .plain (play (.fresh .plain .empty) actions).1 s :=
    .of_playable (by decide +kernel)
  have distinct : (play (.fresh .plain .empty) actions).1.uploads.Nodup := by decide +kernel
  have apart : kind ≠ .email := by decide
  have isolated := entries_isolated run distinct apart 6
  have there : ((s.entry? kind).bind fun e =>
      ((e.draftFiles.get? ⟨.frontSide, none⟩).bind (·.upload)).map (·.key)) = some 1 := by
    decide +kernel
  obtain ⟨e, he, there⟩ := Option.bind_eq_some_iff.1 there
  obtain ⟨u, there, key⟩ := Option.map_eq_some_iff.1 there
  obtain ⟨d, hd, hu⟩ := Option.bind_eq_some_iff.1 there
  have concerns : s.Concerns kind done := .news rfl he ⟨d, u, hd, hu, key⟩
  refine ⟨isolated.1 done concerns, isolated.2.2 ?_ ?_, ?_, ?_⟩ <;> decide +kernel

end Run

end IdentityForm
