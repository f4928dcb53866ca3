import IdentityForm.Proofs.Background.Drive
import IdentityForm.Proofs.Outstanding

/-! # The replies to an opening

A form and the password settings are asked for side by side, and the replies may come in either order.
What the two orders lead to is compared here for every pair of outcomes: it is the same session, unless
both requests fail, or the form was shown on old settings while new ones were on their way.
-/

namespace IdentityForm

def Errand.Opens (errand : Errand) : Prop := errand = .form ∨ errand = .passwordState

namespace Session

variable {s : Session} {now : Nat} {settings old new : PasswordSettings} {outcome : Outcome}

/-! ## What a reply does not look at -/

/-- A session that is waiting for other replies to the opening and has sent something before. -/
def beside (s : Session) (form passwordState : Option Nat) (sent : List Effect) : Session :=
  { s with
    awaited := { s.awaited with form, passwordState }
    outbox := sent ++ s.outbox }

section Beside

variable (s : Session) (now : Nat) (form passwordState : Option Nat) (sent : List Effect)

theorem present_beside (settings : PasswordSettings) :
    (s.beside form passwordState sent).present now settings =
      (s.present now settings).beside form passwordState sent := by
  refine present_comm (beside · form passwordState sent) ?_ (fun _ _ => rfl) ?_ rfl rfl
  · intro u n
    simp [beside, notify]
  · intro u credentials password
    simp [beside, checkPassword, run, ask, send, nextId, Awaited.set]

theorem showForm_beside : (s.beside form passwordState sent).showForm now =
    (s.showForm now).beside form passwordState sent := by
  by_cases showable : s.Showable
  · cases known : s.passwordSettings with
    | none => rw [showForm_of_unknown known, showForm_of_unknown (by exact known)]
    | some settings =>
        have showable' : (s.beside form passwordState sent).Showable := showable
        have known' : (s.beside form passwordState sent).passwordSettings = some settings := known
        rw [showForm_of_showable showable known, showForm_of_showable showable' known']
        exact present_beside _ _ _ _ _ _
  · rw [showForm_of_not_showable showable, showForm_of_not_showable (by exact showable)]

theorem failForm_beside (error : ServerError) : (s.beside form passwordState sent).failForm error =
    (s.failForm error).beside form passwordState sent := by
  simp [failForm_eq, beside, notify]

theorem formDone_beside (outcome : Outcome) :
    (s.beside form passwordState sent).formDone now outcome =
      (s.formDone now outcome).beside form passwordState sent := by
  cases fault : outcome.formFault? with
  | some error =>
      rw [formDone_of_fault fault, formDone_of_fault fault]
      exact failForm_beside _ _ _ _ _
  | none =>
      obtain ⟨a, rfl⟩ := exists_of_no_formFault fault
      exact showForm_beside { s with form := .ofAuthorization a, formReceived := true } _ _ _ _

theorem passwordStateDone_beside (outcome : Outcome) :
    (s.beside form passwordState sent).passwordStateDone now outcome =
      (s.passwordStateDone now outcome).beside form passwordState sent := by
  cases fault : outcome.settingsFault? with
  | some error =>
      rw [passwordStateDone_of_fault fault, passwordStateDone_of_fault fault]
      unfold failPasswordState
      show (if s.passwordSettings.isNone then _ else _) = _
      split
      · exact failForm_beside _ _ _ _ _
      · rfl
  | none =>
      obtain ⟨settings, rfl⟩ := exists_of_no_settingsFault fault
      rw [passwordStateDone_ok, passwordStateDone_ok]
      show (if s.passwordSettings ≠ some settings ∨ s.forceShow = true then
        ((s.learn now settings).beside form passwordState sent).showForm now else _) = _
      split
      · exact showForm_beside _ _ _ _ _
      · rfl

end Beside

/-! ## Both replies -/

/-- Showing the form on the old settings has a consequence that is not undone on the new ones: it tells
something, or it checks a password that the new settings stand in the way of. -/
def Remains (s : Session) (now : Nat) (old new : PasswordSettings) : Prop :=
  old.objection? ≠ none ∨ s.awaited.availableElements = none ∧
    ((s.credentials.get now).1 = none ∨ new.objection? ≠ none)

/-- A form that comes first is shown on the old settings, and then again on the new ones. -/
def Overtaken (s : Session) (now : Nat) (old new : PasswordSettings) : Prop :=
  s.secretReady = false ∧ s.serviceError = none ∧ (old ≠ new ∨ s.forceShow = true) ∧
    s.Remains now old new

instance (s : Session) (now : Nat) (old new : PasswordSettings) :
    Decidable (s.Overtaken now old new) :=
  inferInstanceAs (Decidable (_ ∧ _ ∧ _ ∧ (_ ∨ _ ∧ (_ ∨ _))))

/-- A session apart from the prompt for a password and the check of one. -/
def unprompted (s : Session) : Session :=
  { s with
    checking := none
    issued := 0
    awaited := { s.awaited with availableElements := none }
    promptShown := false
    credentials := .empty
    outbox := [] }

theorem unprompted_present : (s.present now settings).unprompted = s.unprompted := by
  obtain ⟨_, _, _, _, _, same⟩ := s.present_eq now settings
  rw [same]
  rfl

theorem present_learn (new : PasswordSettings) :
    (s.learn now new).present now settings = (s.present now settings).learn now new :=
  present_comm (learn · now new) (fun _ _ => rfl) (fun _ _ => rfl) (fun _ _ _ => rfl) rfl rfl

theorem passwordStateDone_of_not_showable (h : ¬ s.Showable) :
    s.passwordStateDone now (.ok (.passwordState settings)) = s.learn now settings := by
  have unshown : ¬ (s.learn now settings).Showable := h
  rw [passwordStateDone_ok, showForm_of_not_showable unshown, ite_self]

theorem failPasswordState_of_unknown (unknown : s.passwordSettings = none) (error : ServerError) :
    s.failPasswordState error = s.failForm error := if_pos (by simp [unknown])

theorem failPasswordState_of_known (known : s.passwordSettings = some old) (error : ServerError) :
    s.failPasswordState error = s := if_neg (by simp [known])

def opened (s : Session) (form : AuthorizationForm) : Session :=
  { s with form := .ofAuthorization form, formReceived := true }

theorem formDone_ok (s : Session) (now : Nat) (form : AuthorizationForm) :
    s.formDone now (.ok (.authorizationForm form)) = (s.opened form).showForm now := rfl

section Both

variable {form state : Outcome} {error error' : ServerError} {a : AuthorizationForm}
  (unreceived : s.formReceived = false)

include unreceived

theorem not_showable_of_unreceived : ¬ s.Showable :=
  fun showable => absurd (showable.1.symm.trans unreceived) (by simp)

omit unreceived in
/-- Neither can be had: both failures are told, and the later one stays. -/
theorem both_fail (now : Nat) (unknown : s.passwordSettings = none)
    (fault : form.formFault? = some error) (fault' : state.settingsFault? = some error') :
    (s.formDone now form).passwordStateDone now state =
        { s with
          serviceError := some error'.code
          outbox := s.outbox ++ [.notice error.formNotice, .notice error'.formNotice] } ∧
      (s.passwordStateDone now state).formDone now form =
        { s with
          serviceError := some error.code
          outbox := s.outbox ++ [.notice error'.formNotice, .notice error.formNotice] } := by
  have unknown' : (s.failForm error).passwordSettings = none := by
    rw [failForm_eq]
    exact unknown
  rw [formDone_of_fault fault, formDone_of_fault fault, passwordStateDone_of_fault fault',
    passwordStateDone_of_fault fault', failPasswordState_of_unknown unknown,
    failPasswordState_of_unknown unknown']
  simp [failForm_eq, notify]

theorem commute_of_formFault (fault : form.formFault? = some error)
    (settled : state.settingsFault? = none ∨ s.passwordSettings ≠ none) :
    (s.formDone now form).passwordStateDone now state =
      (s.passwordStateDone now state).formDone now form := by
  have failed : (s.failForm error).formReceived = false ∧
      (s.failForm error).passwordSettings = s.passwordSettings := by
    rw [failForm_eq]
    exact ⟨unreceived, rfl⟩
  rw [formDone_of_fault fault, formDone_of_fault fault]
  cases fault' : state.settingsFault? with
  | none =>
      obtain ⟨settings, rfl⟩ := exists_of_no_settingsFault fault'
      rw [passwordStateDone_of_not_showable (not_showable_of_unreceived failed.1),
        passwordStateDone_of_not_showable (not_showable_of_unreceived unreceived), failForm_eq,
        failForm_eq]
      rfl
  | some error' =>
      obtain ⟨old, known⟩ := Option.ne_none_iff_exists'.1 (settled.resolve_left (by simp [fault']))
      rw [passwordStateDone_of_fault fault', passwordStateDone_of_fault fault',
        failPasswordState_of_known (failed.2.trans known), failPasswordState_of_known known]

omit unreceived in
theorem commute_of_settingsFault (fault : state.settingsFault? = some error) :
    (s.formDone now (.ok (.authorizationForm a))).passwordStateDone now state =
      (s.passwordStateDone now state).formDone now (.ok (.authorizationForm a)) := by
  rw [formDone_ok, formDone_ok, passwordStateDone_of_fault fault, passwordStateDone_of_fault fault]
  cases known : s.passwordSettings with
  | none =>
      have unshown : ¬ ((s.failForm error).opened a).Showable := by
        rw [failForm_eq]
        rintro ⟨-, -, sound⟩
        cases sound
      rw [showForm_of_unknown (s := s.opened a) known, failPasswordState_of_unknown known,
        failPasswordState_of_unknown (s := s.opened a) known, showForm_of_not_showable unshown,
        failForm_eq, failForm_eq]
      rfl
  | some old =>
      obtain ⟨_, _, _, _, _, _, shown⟩ := (s.opened a).showForm_eq now
      have known' : ((s.opened a).showForm now).passwordSettings = some old := by
        rw [shown]
        exact known
      rw [failPasswordState_of_known known', failPasswordState_of_known known]

/-- The settings come, and then the form. -/
theorem formDone_passwordStateDone (new : PasswordSettings) :
    (s.passwordStateDone now (.ok (.passwordState new))).formDone now
      (.ok (.authorizationForm a)) = ((s.opened a).learn now new).showForm now := by
  rw [passwordStateDone_of_not_showable (not_showable_of_unreceived unreceived)]
  rfl

omit unreceived in
/-- The form comes and is shown on the old settings, and then the new ones. -/
theorem passwordStateDone_formDone (new : PasswordSettings) (known : s.passwordSettings = some old)
    (showable : (s.opened a).Showable) :
    (s.formDone now (.ok (.authorizationForm a))).passwordStateDone now
      (.ok (.passwordState new)) =
        if old ≠ new ∨ s.forceShow = true then
          (((s.opened a).learn now new).present now old).present now new
        else ((s.opened a).learn now new).present now old := by
  have there : (s.opened a).passwordSettings = some old := known
  obtain ⟨_, _, _, _, _, shown⟩ := (s.opened a).present_eq now old
  have kept : ((s.opened a).present now old).passwordSettings = some old ∧
      ((s.opened a).present now old).forceShow = s.forceShow := by
    rw [shown]
    exact ⟨known, rfl⟩
  obtain ⟨_, _, _, _, _, shown⟩ := ((s.opened a).learn now new).present_eq now old
  have again : (((s.opened a).learn now new).present now old).Showable ∧
      (((s.opened a).learn now new).present now old).passwordSettings = some new := by
    rw [shown]
    exact ⟨showable, rfl⟩
  rw [formDone_ok, showForm_of_showable showable there, passwordStateDone_ok, kept.1, kept.2,
    ← present_learn, showForm_of_showable again.1 again.2]
  simp

end Both

/-! ## Two showings -/

theorem present_of_unopposed (unopposed : settings.objection? = none) :
    s.present now settings = s.prompt now := by
  unfold present
  rw [unopposed]

theorem prompt_of_remembered {password : String} {credentials : Credentials}
    (idle : s.awaited.availableElements = none)
    (found : s.credentials.get now = (some password, credentials)) :
    s.prompt now = { s with credentials }.checkPassword password := by
  unfold prompt
  rw [if_neg (by simp [idle]), found]

theorem prompt_of_expired {credentials : Credentials} (idle : s.awaited.availableElements = none)
    (found : s.credentials.get now = (none, credentials)) :
    s.prompt now = { s with credentials, promptShown := true }.notify .askPassword := by
  unfold prompt
  rw [if_neg (by simp [idle]), found]

theorem shown?_of_opposed {n : Notice} (opposed : settings.objection? = some n) :
    s.shown? now settings = some (.notice n) := by
  unfold shown?
  rw [opposed]

theorem shown?_of_unopposed (unopposed : settings.objection? = none)
    (idle : s.awaited.availableElements = none) : s.shown? now settings = some (
      match (s.credentials.get now).1 with
      | some password => .request
          (.getAvailableElements ⟨s.nextId, .errand .availableElements⟩ s.form.id ⟨password⟩)
      | none => .notice .askPassword) := by
  unfold shown?
  rw [unopposed]
  dsimp only
  rw [if_neg (by simp [idle])]
  cases (s.credentials.get now).1 <;> rfl

theorem present_present (h : ¬ s.Remains now old new) :
    (s.present now old).present now new = s.present now new := by
  unfold Remains at h
  simp only [not_or, not_and, Classical.not_not] at h
  obtain ⟨unopposed, checked⟩ := h
  rw [present_of_unopposed unopposed]
  by_cases idle : s.awaited.availableElements = none
  · obtain ⟨remembered, unopposed'⟩ := checked idle
    obtain ⟨password, remembered⟩ := Option.ne_none_iff_exists'.1 remembered
    have found : s.credentials.get now = (some password, (s.credentials.get now).2) :=
      Prod.ext remembered rfl
    rw [present_of_unopposed unopposed', present_of_unopposed unopposed',
      prompt_of_remembered idle found]
    exact if_pos rfl
  · rw [prompt, if_pos (Option.isSome_iff_ne_none.2 idle)]

theorem get_get_of_expired {credentials : Credentials} (expired : (credentials.get now).1 = none) :
    ((credentials.get now).2.get now).1 = none := by
  obtain ⟨_ | remembered⟩ := credentials
  · rfl
  · unfold Credentials.get at expired ⊢
    dsimp only at expired ⊢
    split at expired
    · cases expired
    · rename_i expired'
      rw [if_neg expired']
      rfl

/-- The first showing has one consequence, and that of the second one is the same as without it. -/
theorem shown?_present (h : s.Remains now old new) : ∃ x, s.shown? now old = some x ∧
    (s.present now old).shown? now new = s.shown? now new := by
  cases opposed : old.objection? with
  | some n =>
      refine ⟨_, shown?_of_opposed opposed, ?_⟩
      unfold present
      rw [opposed]
      rfl
  | none =>
      obtain ⟨idle, h⟩ := h.resolve_left (by simp [opposed])
      refine ⟨_, shown?_of_unopposed opposed idle, ?_⟩
      rw [present_of_unopposed opposed]
      cases opposed' : new.objection? with
      | some n => rw [shown?_of_opposed opposed', shown?_of_opposed opposed']
      | none =>
          have expired : (s.credentials.get now).1 = none := h.resolve_right (by simp [opposed'])
          have found : s.credentials.get now = (none, (s.credentials.get now).2) :=
            Prod.ext expired rfl
          rw [prompt_of_expired idle found, shown?_of_unopposed opposed' (by exact idle),
            shown?_of_unopposed opposed' idle, expired]
          show some (match ((s.credentials.get now).2.get now).1 with
            | some password => _ | none => _) = _
          rw [get_get_of_expired expired]

/-- Both can be had, and nothing comes of the old settings. -/
theorem commute_of_not_overtaken {a : AuthorizationForm} (unreceived : s.formReceived = false)
    (h : ∀ old, s.passwordSettings = some old → ¬ s.Overtaken now old new) :
    (s.formDone now (.ok (.authorizationForm a))).passwordStateDone now (.ok (.passwordState new)) =
      (s.passwordStateDone now (.ok (.passwordState new))).formDone now
        (.ok (.authorizationForm a)) := by
  rw [formDone_passwordStateDone unreceived]
  by_cases showable : (s.opened a).Showable
  · have shown : (((s.opened a).learn now new).showForm now) =
        ((s.opened a).learn now new).present now new :=
      showForm_of_showable (by exact showable) rfl
    by_cases unknown : s.passwordSettings = none
    · have changed : (s.opened a).passwordSettings ≠ some new := by
        rw [show (s.opened a).passwordSettings = none from unknown]
        simp
      rw [formDone_ok, showForm_of_unknown (s := s.opened a) unknown, passwordStateDone_ok,
        if_pos (.inl changed)]
    · obtain ⟨old, known⟩ := Option.ne_none_iff_exists'.1 unknown
      rw [passwordStateDone_formDone new known showable, shown]
      split
      · rename_i again
        refine present_present fun remains => h old known ?_
        exact ⟨showable.2.1, showable.2.2, again, remains⟩
      · rename_i same
        simp only [not_or, Classical.not_not] at same
        rw [same.1]
  · rw [formDone_ok, showForm_of_not_showable showable, passwordStateDone_of_not_showable showable,
      showForm_of_not_showable (by exact showable)]

/-- Both can be had, and the form that comes first is shown on the old settings as well. -/
theorem both_of_overtaken {a : AuthorizationForm} (unreceived : s.formReceived = false)
    (known : s.passwordSettings = some old) (overtaken : s.Overtaken now old new) :
    ∃ x, (s.opened a).shown? now old = some x ∧
      ((s.formDone now (.ok (.authorizationForm a))).passwordStateDone now
          (.ok (.passwordState new))).unprompted =
        ((s.passwordStateDone now (.ok (.passwordState new))).formDone now
          (.ok (.authorizationForm a))).unprompted ∧
      ∃ rest, ((s.formDone now (.ok (.authorizationForm a))).passwordStateDone now
          (.ok (.passwordState new))).outbox = s.outbox ++ x :: rest ∧
        ((s.passwordStateDone now (.ok (.passwordState new))).formDone now
          (.ok (.authorizationForm a))).outbox = s.outbox ++ rest := by
  obtain ⟨locked, sound, again, remains⟩ := overtaken
  let u := (s.opened a).learn now new
  have showable : (s.opened a).Showable := ⟨rfl, locked, sound⟩
  have remains : u.Remains now old new := remains
  obtain ⟨x, first, second⟩ := shown?_present remains
  have shown : ((s.opened a).learn now new).showForm now =
      ((s.opened a).learn now new).present now new := showForm_of_showable (by exact showable) rfl
  rw [formDone_passwordStateDone unreceived, passwordStateDone_formDone new known showable,
    if_pos again, shown]
  refine ⟨x, first, ?_, (u.shown? now new).toList, ?_, ?_⟩
  · rw [unprompted_present, unprompted_present, unprompted_present]
  · rw [outbox_present, outbox_present, second, first, List.append_assoc]
    rfl
  · exact outbox_present _ _ _

/-! ## One reply after the other -/

theorem cancelled_errandDone (s : Session) (now : Nat) (errand : Errand) (outcome : Outcome) :
    (s.errandDone now errand outcome).cancelled = s.cancelled := by
  have same : (s.errandDone now errand outcome).gear =
      s.gear.rearm (s.errandAlarm? now errand outcome) := gear_errandDone errand outcome
  exact (congrArg Gear.cancelled same).trans (by unfold Gear.rearm; split <;> rfl)

theorem errandDone_beside {errand : Errand} (opens : errand.Opens) (s : Session) (now : Nat)
    (form passwordState : Option Nat) (sent : List Effect) (outcome : Outcome) :
    (s.beside form passwordState sent).errandDone now errand outcome =
      (s.errandDone now errand outcome).beside form passwordState sent := by
  rcases opens with rfl | rfl
  · exact formDone_beside _ _ _ _ _ _
  · exact passwordStateDone_beside _ _ _ _ _ _

theorem play_replies (now : Nat) {first second : Errand} {i j : Nat} (opens : first.Opens)
    (opens' : second.Opens) (apart : first ≠ second) (live : s.cancelled = false)
    (waiting : s.awaited.get first = some i)
    (waiting' : s.awaited.get second = some j) (outcome outcome' : Outcome) :
    let both := ((s.beside none none []).errandDone now first outcome).errandDone now second outcome'
    let played := play s [(now, .reply ⟨⟨j, .errand second⟩, outcome'⟩),
      (now, .reply ⟨⟨i, .errand first⟩, outcome⟩)]
    played.1.log = both.outbox ∧ played.2 = both.drain.2 := by
  intro both played
  let mid := (s.beside none none []).errandDone now first outcome
  let left := mid.drain.2
  have settled : mid.beside none none [] = mid := (errandDone_beside opens _ _ _ _ _ _).symm
  have settled' : left.beside none none [] = left := congrArg (fun u => (drain u).2) settled
  obtain ⟨form, passwordState, others, kept, freed⟩ : ∃ form passwordState,
      { s with awaited := s.awaited.set first none } =
        (s.beside none none []).beside form passwordState [] ∧
      (∀ u : Session, (u.beside form passwordState []).awaited.get second = some j) ∧
      ∀ u : Session, { u.beside form passwordState [] with
        awaited := (u.beside form passwordState []).awaited.set second none } =
          u.beside none none [] := by
    rcases opens with rfl | rfl <;> rcases opens' with rfl | rfl
    · exact absurd rfl apart
    · exact ⟨none, some j, by rw [← waiting']; rfl, fun _ => rfl, fun _ => rfl⟩
    · exact ⟨some j, none, by rw [← waiting']; rfl, fun _ => rfl, fun _ => rfl⟩
    · exact absurd rfl apart
  have one : s.handleReply now ⟨⟨i, .errand first⟩, outcome⟩ =
      mid.beside form passwordState [] := by
    rw [handleReply_of_errand live waiting, others]
    exact errandDone_beside opens _ _ _ _ _ _
  have between : Turn.after ⟨s, now, .reply ⟨⟨i, .errand first⟩, outcome⟩⟩ =
      left.beside form passwordState [] := congrArg (fun u => (drain u).2) one
  have still : (left.beside form passwordState []).cancelled = false :=
    (cancelled_errandDone (s.beside none none []) now first outcome).trans live
  have two : (left.beside form passwordState []).handleReply now
      ⟨⟨j, .errand second⟩, outcome'⟩ = left.errandDone now second outcome' := by
    rw [handleReply_of_errand still (kept left), freed, settled']
  have resumed : left.beside none none mid.outbox = mid := by
    refine Eq.trans ?_ settled
    show { mid with awaited := _, outbox := mid.outbox ++ [] } = _
    rw [List.append_nil]
    rfl
  have both_eq : both = (left.errandDone now second outcome').beside none none mid.outbox := by
    rw [← errandDone_beside opens', resumed]
  have settled'' : (left.errandDone now second outcome').beside none none [] =
      left.errandDone now second outcome' := by
    rw [← errandDone_beside opens', settled']
  constructor
  · show ([] ++ (s.handleReply now _).outbox) ++ ((Turn.after ⟨s, now, _⟩).handleReply now _).outbox =
      both.outbox
    rw [between, two, one, both_eq]
    rfl
  · show ((Turn.after ⟨s, now, _⟩).handleReply now _).drain.2 = both.drain.2
    rw [between, two, both_eq, ← settled'']
    rfl

end Session

namespace Run

variable {setup : Setup} {past : History} {s : Session}

/-- The replies to an opening in either order. The session and what it sends and tells are the same,
with two exceptions. If both requests fail while no settings are known, both failures are told, and the
service error is that of the later reply. If the form comes before the settings are read again and is
shown on the old ones, there is one effect more, that of this showing; and the sessions differ in the
prompt and the check of a password at most. -/
theorem opening_order (run : Run setup past s) (live : s.cancelled = false) {i j : Nat}
    (asked : past.Outstanding ⟨i, .errand .form⟩)
    (asked' : past.Outstanding ⟨j, .errand .passwordState⟩) (now : Nat) (form state : Outcome) :
    let formReply := Session.Action.reply ⟨⟨i, .errand .form⟩, form⟩
    let stateReply := Session.Action.reply ⟨⟨j, .errand .passwordState⟩, state⟩
    let formFirst := play s [(now, stateReply), (now, formReply)]
    let stateFirst := play s [(now, formReply), (now, stateReply)]
    (¬ (s.passwordSettings = none ∧ form.formFault? ≠ none ∧ state.settingsFault? ≠ none) →
      (∀ old new, s.passwordSettings = some old → form.formFault? = none →
        state = .ok (.passwordState new) → ¬ s.Overtaken now old new) →
      formFirst.2 = stateFirst.2 ∧ formFirst.1.log = stateFirst.1.log) ∧
    (∀ error error', s.passwordSettings = none → form.formFault? = some error →
      state.settingsFault? = some error' →
      formFirst.2 = { stateFirst.2 with serviceError := some error'.code } ∧
        stateFirst.2.serviceError = some error.code ∧
        formFirst.1.log.Perm stateFirst.1.log) ∧
    ∀ old new a, s.passwordSettings = some old → form = .ok (.authorizationForm a) →
      state = .ok (.passwordState new) → s.Overtaken now old new →
      formFirst.2.unprompted = stateFirst.2.unprompted ∧
        formFirst.2.callbackUrl? = stateFirst.2.callbackUrl? ∧
        ∃ x, (s.opened a).shown? now old = some x ∧
          formFirst.1.log = x :: stateFirst.1.log := by
  intro formReply stateReply formFirst stateFirst
  have waiting : s.awaited.get .form = some i := run.awaits_of_outstanding live asked
  have waiting' : s.awaited.get .passwordState = some j := run.awaits_of_outstanding live asked'
  have unreceived : s.formReceived = false :=
    run.gated.asked (by rw [show s.core.awaited.form = some i from waiting]; simp)
  let u := s.beside none none []
  have quiet : u.outbox = [] := run.outbox_eq_nil
  have form_first := Session.play_replies now (.inl rfl) (.inr rfl) (by simp) live waiting
    waiting' form state
  have state_first := Session.play_replies now (.inr rfl) (.inl rfl) (by simp) live waiting'
    waiting state form
  refine ⟨fun sound unshown => ?_, fun error error' unknown fault fault' => ?_, ?_⟩
  · have same : (u.formDone now form).passwordStateDone now state =
        (u.passwordStateDone now state).formDone now form := by
      cases fault : form.formFault? with
      | some error =>
          refine Session.commute_of_formFault unreceived fault ?_
          by_contra failing
          rw [not_or, Classical.not_not] at failing
          exact sound ⟨failing.2, by simp [fault], failing.1⟩
      | none =>
          obtain ⟨a, rfl⟩ := Session.exists_of_no_formFault fault
          cases fault' : state.settingsFault? with
          | some error => exact Session.commute_of_settingsFault fault'
          | none =>
              obtain ⟨new, rfl⟩ := Session.exists_of_no_settingsFault fault'
              exact Session.commute_of_not_overtaken unreceived fun old known =>
                unshown old new known fault rfl
    rw [form_first.1, form_first.2, state_first.1, state_first.2]
    exact ⟨congrArg (fun u => (Session.drain u).2) same, congrArg Session.outbox same⟩
  · have both := Session.both_fail (s := u) now unknown fault fault'
    rw [form_first.1, form_first.2, state_first.1, state_first.2]
    dsimp only [Session.errandDone]
    rw [both.1, both.2]
    exact ⟨rfl, rfl, (List.Perm.swap _ _ _).append_left _⟩
  · rintro old new a known rfl rfl overtaken
    obtain ⟨x, shown, same, rest, outbox, outbox'⟩ :=
      Session.both_of_overtaken (s := u) (a := a) unreceived known overtaken
    have url := congrArg Session.callbackUrl? same
    rw [form_first.1, form_first.2, state_first.1, state_first.2]
    refine ⟨same, url, x, shown, ?_⟩
    exact (outbox.trans (by rw [quiet, List.nil_append])).trans
      (congrArg (x :: ·) (outbox'.trans (by rw [quiet, List.nil_append])).symm)

/-- Both replies to the first opening are as they should be: the user is asked for the password. -/
theorem opening_order_undisturbed :
    let s := (play (.fresh .plain .empty) [(0, .display)]).2
    let form : Session.Action :=
      .reply ⟨⟨1, .errand .form⟩, .ok (.authorizationForm ⟨1, [[⟨.email, false, false, false⟩]], none⟩)⟩
    let state : Session.Action := .reply ⟨⟨2, .errand .passwordState⟩,
      .ok (.passwordState ⟨true, true, "hint", none, none, false, none⟩)⟩
    let formFirst := play s [(1, state), (1, form)]
    let stateFirst := play s [(1, form), (1, state)]
    formFirst.2 = stateFirst.2 ∧ formFirst.1.log = stateFirst.1.log ∧
      stateFirst.1.log = [.notice .askPassword] := by
  intro s form state formFirst stateFirst
  have playable : Playable (.fresh .plain .empty) [(0, .display)] := by decide +kernel
  have unknown : s.passwordSettings = none := by decide +kernel
  have ordered := opening_order (.of_playable playable) (s := s) (by decide +kernel) (i := 1) (j := 2)
    (by decide +kernel) (by decide +kernel) 1
    (.ok (.authorizationForm ⟨1, [[⟨.email, false, false, false⟩]], none⟩))
    (.ok (.passwordState ⟨true, true, "hint", none, none, false, none⟩))
  have same := ordered.1 (fun failing => failing.2.1 rfl)
    fun old new known => absurd (known.symm.trans unknown) (by simp)
  exact ⟨same.1, same.2, by decide +kernel⟩

/-- Both requests fail, with a code that the service is told about and one that it is not: it depends on
the order what the user is sent back with. And settings that are read again while the form is on its way
make the user be asked twice if the form is first. -/
theorem opening_order_noticed :
    let start : Session := .fresh
      ⟨.standard, ⟨1, "null", some "https://bot.example/back", "key", "nonce"⟩, none⟩ .empty
    let form : Session.Action := .reply ⟨⟨1, .errand .form⟩, .failed ⟨"BOT_INVALID"⟩⟩
    let state : Session.Action := .reply ⟨⟨2, .errand .passwordState⟩, .failed ⟨"TIMEOUT"⟩⟩
    let settings (hint : String) : Response :=
      .passwordState ⟨true, true, hint, none, none, false, none⟩
    let earlier : List (Nat × Session.Action) := [(2, .display),
      (1, .reply ⟨⟨2, .errand .passwordState⟩, .ok (settings "old")⟩), (0, .display)]
    let form' : Session.Action :=
      .reply ⟨⟨1, .errand .form⟩, .ok (.authorizationForm ⟨1, [], none⟩)⟩
    let state' : Session.Action := .reply ⟨⟨3, .errand .passwordState⟩, .ok (settings "new")⟩
    (Playable start [(1, state), (1, form), (0, .display)] ∧
      Playable start [(1, form), (1, state), (0, .display)]) ∧
    (play start [(1, state), (1, form), (0, .display)]).2.callbackUrl? = none ∧
    (play start [(1, form), (1, state), (0, .display)]).2.callbackUrl? =
      some "https://bot.example/back?tg_passport=error&error=BOT_INVALID" ∧
    (Playable start ((3, state') :: (3, form') :: earlier) ∧
      Playable start ((3, form') :: (3, state') :: earlier)) ∧
    (play start ((3, state') :: (3, form') :: earlier)).1.log =
      (play start earlier).1.log ++ [.notice .askPassword, .notice .askPassword] ∧
    (play start ((3, form') :: (3, state') :: earlier)).1.log =
      (play start earlier).1.log ++ [.notice .askPassword] := by
  refine ⟨⟨?_, ?_⟩, ?_, ?_, ⟨?_, ?_⟩, ?_, ?_⟩ <;> decide +kernel

end Run

end IdentityForm
