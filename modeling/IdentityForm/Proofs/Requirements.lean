import IdentityForm.Proofs.Upkeep
import IdentityForm.Proofs.Password

/-! # What a form requires

The rows of a form, its entries and what is required of each are fixed by its description. From when the
form was received until the session starts over they stay: an entry may be filled, edited, saved and
deleted, but what it has to include is handed on by everything that builds an entry anew.
-/

namespace IdentityForm

/-! ## One entry -/

namespace Entry

def required (e : Entry) : RequiredKind :=
  ⟨e.kind, e.selfieRequired, e.renditionRequired, e.nativeNames⟩

variable {e : Entry}

theorem required_clearIfIdle (e : Entry) : e.clearIfIdle.required = e.required := by
  unfold clearIfIdle
  split <;> rfl

theorem required_atSave (e : Entry) : e.atSave.required = e.required := by
  unfold atSave
  split <;> rfl

theorem required_spared (e : Entry) : e.spared.required = e.required := by
  simp only [spared]
  split <;> rfl

theorem required_commit (e : Entry) (c : Contents) : (e.commit c).required = e.required := by
  simp only [commit]
  split <;> rfl

theorem required_reset (e : Entry) : e.reset.required = e.required := by
  simp only [reset]
  split <;> rfl

theorem required_applyError (e : Entry) (x : ElementError) :
    (e.applyError x).required = e.required := by
  obtain ⟨_, _, _, _, _, _, applied, -⟩ := e.applyError_eq x
  rw [applied]
  rfl

end Entry

namespace Session

variable {s : Session} {now : Nat} {a : Action} {e e' : Entry} {es : List Effect}

theorem Change.required_eq (h : s.Change now a e es e') : e'.required = e.required := by
  cases h with
  | cleared => exact e.required_clearIfIdle
  | blocked => exact e.required_atSave
  | spared => exact e.atSave.required_spared.trans e.required_atSave
  | misdated => exact e.required_atSave
  | saved _ _ _ _ _ _ hsent =>
      subst hsent
      exact e.required_atSave
  | reported => exact Entry.required_clearIfIdle _
  | _ => rfl

theorem Uptake.required_eq {task : Task} {outcome : Outcome}
    (h : s.Uptake now e task outcome es e') : e'.required = e.required := by
  cases h with
  | saved => exact Entry.required_commit _ _
  | deleted => exact e.required_reset
  | _ => rfl

end Session

/-! ## The whole form -/

namespace Form

variable {f : Form} {e : Entry}

/-- What a form asks for: its id, its rows, its policy, and what is required of each entry. -/
def demands (f : Form) : Int64 × List (List Kind) × Option String × List RequiredKind :=
  (f.id, f.rows, f.policyUrl, f.entries.map Entry.required)

theorem demands_modify {g : Entry → Entry} (distinct : (f.entries.map Entry.kind).Nodup)
    (he : f.entry? e.kind = some e) (same : (g e).required = e.required) :
    (f.modify e.kind g).demands = f.demands :=
  congrArg (fun required => (f.id, f.rows, f.policyUrl, required)) (map_modify distinct he same)

theorem demands_takeElements (elements : List StoredElement) (errors : List ElementError) :
    (f.takeElements elements errors).demands = f.demands := by
  have required : (f.takeElements elements errors).entries.map Entry.required =
      f.entries.map Entry.required :=
    takeElements_map (fun _ _ => rfl) Entry.required_applyError
  have rest : (f.takeElements elements errors).id = f.id ∧
      (f.takeElements elements errors).rows = f.rows ∧
      (f.takeElements elements errors).policyUrl = f.policyUrl :=
    takeElements_induction (Q := fun g => g.id = f.id ∧ g.rows = f.rows ∧ g.policyUrl = f.policyUrl)
      (fun _ _ h => h) (fun _ _ h => h) ⟨rfl, rfl, rfl⟩
  unfold demands
  rw [required, rest.1, rest.2.1, rest.2.2]

theorem demands_stopped : demands { f with entries := f.entries.map Entry.stopped } = f.demands := by
  have required : (f.entries.map Entry.stopped).map Entry.required = f.entries.map Entry.required := by
    rw [List.map_map]
    rfl
  exact congrArg (fun required => (f.id, f.rows, f.policyUrl, required)) required

end Form

/-! ## The form as described -/

namespace AuthorizationForm

variable {form form' : AuthorizationForm} {kind : Kind} {flag : RequiredKind → Bool}

/-- A row offers a kind as an alternative, with what it must include there. -/
def Mentions (form : AuthorizationForm) (r : RequiredKind) : Prop := ∃ row ∈ form.rows, r ∈ row

def asks (form : AuthorizationForm) (flag : RequiredKind → Bool) (kind : Kind) : Bool :=
  (form.rows.flatten.filter fun r => r.kind = kind).any flag

theorem asks_iff :
    form.asks flag kind = true ↔ ∃ r, form.Mentions r ∧ r.kind = kind ∧ flag r = true := by
  simp only [asks, Mentions, List.any_eq_true, List.mem_filter, List.mem_flatten, decide_eq_true_eq,
    and_assoc]

/-- What is required of each kind that is mentioned, in the order of the kinds. -/
def requirements (form : AuthorizationForm) : List RequiredKind :=
  (Kind.all.filter (form.asks fun _ => true)).map fun kind =>
    ⟨kind, form.asks (·.selfie) kind, form.asks (·.rendition) kind, form.asks (·.nativeNames) kind⟩

/-- It does not matter where a kind is mentioned, nor how often. -/
theorem requirements_congr (same : ∀ r, form.Mentions r ↔ form'.Mentions r) :
    form.requirements = form'.requirements := by
  have asks (flag : RequiredKind → Bool) : form.asks flag = form'.asks flag := by
    funext kind
    rw [Bool.eq_iff_iff, asks_iff, asks_iff]
    simp only [same]
  simp only [requirements, asks]

end AuthorizationForm

namespace Form

theorem required_ofAuthorization (form : AuthorizationForm) :
    (ofAuthorization form).entries.map Entry.required = form.requirements := by
  have mentioned : (form.asks fun _ => true) = fun k => form.rows.flatten.any (·.kind = k) := by
    funext k
    simp only [AuthorizationForm.asks, List.any_filter, Bool.and_true]
  rw [AuthorizationForm.requirements, mentioned, ofAuthorization_eq]
  exact List.map_map

theorem foldl_seen (kinds seen : List Kind) :
    kinds.foldl (fun seen k => if k ∈ seen then seen else seen ++ [k]) seen =
      seen ++ (kinds.filter (· ∉ seen)).eraseDups := by
  induction kinds generalizing seen with
  | nil => simp
  | cons k rest ih =>
      rw [List.foldl_cons]
      by_cases known : k ∈ seen
      · rw [if_pos known, ih, List.filter_cons_of_neg (by simpa using known)]
      · have later : rest.filter (· ∉ seen ++ [k]) =
            (rest.filter (· ∉ seen)).filter fun x => !x == k := by
          rw [List.filter_filter]
          refine List.filter_congr fun x _ => ?_
          by_cases here : x = k <;> simp [here, known]
        rw [if_neg known, ih, List.filter_cons_of_pos (by simpa using known), List.eraseDups_cons,
          later, List.append_assoc]
        rfl

theorem rowKinds_eq (row : List RequiredKind) : rowKinds row = (row.map (·.kind)).eraseDups := by
  refine (foldl_seen _ []).trans ?_
  simp

theorem mem_requirements {f : Form} {form : AuthorizationForm} {e : Entry}
    (same : f.entries.map Entry.required = form.requirements) (he : e ∈ f.entries) :
    (e.selfieRequired = true ↔ ∃ r, form.Mentions r ∧ r.kind = e.kind ∧ r.selfie = true) ∧
      (e.renditionRequired = true ↔ ∃ r, form.Mentions r ∧ r.kind = e.kind ∧ r.rendition = true) ∧
      (e.nativeNames = true ↔ ∃ r, form.Mentions r ∧ r.kind = e.kind ∧ r.nativeNames = true) := by
  have there : e.required ∈ form.requirements := same ▸ List.mem_map_of_mem he
  obtain ⟨kind, -, required⟩ := List.mem_map.1 there
  obtain ⟨kinds, selfie, rendition, names⟩ := RequiredKind.mk.inj required
  rw [← selfie, ← rendition, ← names, ← kinds]
  exact ⟨AuthorizationForm.asks_iff, AuthorizationForm.asks_iff, AuthorizationForm.asks_iff⟩

/-- There are entries of the mentioned kinds and no others. -/
theorem entry?_isSome_iff {f : Form} {form : AuthorizationForm} {kind : Kind}
    (same : f.entries.map Entry.required = form.requirements) :
    (f.entry? kind).isSome = true ↔ ∃ r, form.Mentions r ∧ r.kind = kind := by
  have kinds : f.entries.map Entry.kind = Kind.all.filter (form.asks fun _ => true) := by
    have kinds : f.entries.map Entry.kind = form.requirements.map RequiredKind.kind := by
      rw [← same, List.map_map]
      rfl
    rw [kinds, AuthorizationForm.requirements, List.map_map]
    exact List.map_id _
  have mentioned : (∃ e ∈ f.entries, e.kind = kind) ↔ kind ∈ f.entries.map Entry.kind :=
    List.mem_map.symm
  unfold entry?
  rw [List.find?_isSome]
  simp only [decide_eq_true_eq]
  rw [mentioned, kinds, List.mem_filter, AuthorizationForm.asks_iff]
  simp [Kind.mem_all]

end Form

/-! ## The form of a session -/

namespace Turn

/-- The server describes the form, and the session waits for that. -/
def Receives (past : History) (form : AuthorizationForm) (t : Turn) : Prop :=
  t.before.cancelled = false ∧ ∃ id, past.Outstanding ⟨id, .errand .form⟩ ∧
    t.action = .reply ⟨⟨id, .errand .form⟩, .ok (.authorizationForm form)⟩

end Turn

/-- The form of the current session was received. -/
def History.Received (form : AuthorizationForm) : History → Prop
  | [] => False
  | t :: past => t.Receives past form ∨ Received form past ∧ t.startsOver = false

namespace Session

variable {s s' : Session} {now : Nat} {a : Action} {r : Reply}

/-- Only starting over lets go of a form, -/
theorem Move.formReceived_eq (h : Move now a s s') (ha : a ≠ .restart) :
    s'.formReceived = s.formReceived := by
  cases h with
  | rest _ core => exact congrArg Core.formReceived core
  | ask _ _ _ _ _ _ _ _ core => exact congrArg Core.formReceived core
  | entry _ _ _ _ _ core => exact congrArg Core.formReceived core
  | abandon _ restart => exact absurd restart ha

theorem Moves.formReceived_eq (h : Moves now a s s') (ha : a ≠ .restart) :
    s'.formReceived = s.formReceived := by
  induction h with
  | refl => rfl
  | tail _ move ih => exact (move.formReceived_eq ha).trans ih

/-- and only starting over changes what is asked for. -/
theorem Move.demands_eq (h : Move now a s s') (gated : s.core.Gated) (ha : a ≠ .restart) :
    s'.form.demands = s.form.demands := by
  cases h with
  | rest _ core => exact congrArg (fun c : Core => c.form.demands) core
  | ask _ _ _ _ _ _ _ _ core => exact congrArg (fun c : Core => c.form.demands) core
  | entry e g _ he change core =>
      exact (congrArg (fun c : Core => c.form.demands) core).trans
        (Form.demands_modify gated.distinct he change.required_eq)
  | abandon _ restart => exact absurd restart ha

theorem Moves.demands_eq (h : Moves now a s s') (gated : s.core.Gated) (ha : a ≠ .restart) :
    s'.form.demands = s.form.demands := by
  induction h with
  | refl => rfl
  | tail earlier move ih => exact (move.demands_eq (Moves.gated earlier gated) ha).trans ih

def Describes (s : Session) (form : AuthorizationForm) (r : Reply) : Prop :=
  r.token.pending = .errand .form ∧ s.awaited.form = some r.token.id ∧
    r.outcome = .ok (.authorizationForm form)

/-- An action brings the form, or leaves what is asked for as it is. -/
theorem Acts.demands_cases (h : Acts now a s s') (gated : s.core.Gated) (ha : a ≠ .restart) :
    (∃ r form, a = .reply r ∧ s.cancelled = false ∧ s.Describes form r) ∨
      s'.formReceived = s.formReceived ∧ s'.form.demands = s.form.demands := by
  cases h with
  | moves _ moves => exact .inr ⟨moves.formReceived_eq ha, moves.demands_eq gated ha⟩
  | close _ moves close =>
      refine .inr ⟨(congrArg Core.formReceived close.core).trans (moves.formReceived_eq ha), ?_⟩
      exact (congrArg (fun c : Core => c.form.demands) close.core).trans
        (Form.demands_stopped.trans (moves.demands_eq gated ha))
  | dropped _ _ same => exact .inr (same ▸ ⟨rfl, rfl⟩)
  | @reply r hr live _ settles =>
      obtain ⟨mid, settle, moves⟩ := settles
      rw [moves.formReceived_eq ha, moves.demands_eq (settle.gated gated) ha]
      cases settle with
      | errand _ _ _ _ core =>
          exact .inr ⟨congrArg Core.formReceived core, congrArg (fun c : Core => c.form.demands) core⟩
      | form form _ pending waiting sent => exact .inl ⟨r, form, hr, live, pending, waiting, sent⟩
      | unlock _ elements errors _ _ _ _ core =>
          exact .inr ⟨congrArg Core.formReceived core,
            (congrArg (fun c : Core => c.form.demands) core).trans (Form.demands_takeElements _ _)⟩
      | task _ e g _ _ he _ uptake core =>
          exact .inr ⟨congrArg Core.formReceived core,
            (congrArg (fun c : Core => c.form.demands) core).trans
              (Form.demands_modify gated.distinct he uptake.required_eq)⟩

theorem received_of_describes (now : Nat) {form : AuthorizationForm} (live : s.cancelled = false)
    (describes : s.Describes form r) : (s.act now (.reply r)).1.formReceived = true ∧
      (s.act now (.reply r)).1.form.demands = (Form.ofAuthorization form).demands := by
  obtain ⟨⟨id, _⟩, _⟩ := r
  obtain ⟨rfl, waiting, rfl⟩ := describes
  let freed := { s with awaited := s.awaited.set .form none }
  let opened := { freed with form := .ofAuthorization form, formReceived := true }
  have waiting : s.awaited.get .form = some id := waiting
  have taken : s.handleReply now ⟨⟨id, .errand .form⟩, .ok (.authorizationForm form)⟩ =
      opened.showForm now := handleReply_of_errand live waiting _
  show (s.handleReply now _).formReceived = true ∧ (s.handleReply now _).form.demands = _
  rw [taken]
  have shown : Moves now .display opened (opened.showForm now) := showForm_moves
  exact ⟨shown.formReceived_eq (by simp), congrArg (fun d => Form.demands d.1) desk_showForm⟩

theorem demands_restart (live : s.cancelled = false) :
    s.restart.formReceived = false ∧ s.restart.form.demands = Form.empty.demands := by
  unfold restart
  rw [if_neg (by simp [live])]
  have shown (u : Session) : Moves 0 .display u u.display := display_moves
  exact ⟨(shown _).formReceived_eq (by simp), congrArg (fun d => Form.demands d.1) desk_display⟩

end Session

/-! ## Along a run -/

namespace Run

open Session

variable {setup : Setup} {past : History} {s : Session} {t : Turn} {form : AuthorizationForm}

theorem receives_iff (run : Run setup past s) {now : Nat} {action : Session.Action}
    (genuine : past.Genuine action) : Turn.Receives past form ⟨s, now, action⟩ ↔
      s.cancelled = false ∧ ∃ r, action = .reply r ∧ s.Describes form r := by
  constructor
  · rintro ⟨live, id, outstanding, reply⟩
    have waiting : s.awaited.form = some id := run.awaits_of_outstanding live outstanding
    exact ⟨live, _, reply, rfl, waiting, rfl⟩
  · rintro ⟨live, ⟨⟨id, _⟩, _⟩, rfl, rfl, waiting, rfl⟩
    exact ⟨live, id, run.outstanding_of_awaits live (genuine _ rfl) waiting, rfl⟩

/-- A turn that does not start over brings the form that is waited for, or leaves what is asked for as it
is. -/
theorem demands_after (run : Run setup past s) {now : Nat} {action : Session.Action}
    (genuine : past.Genuine action) (goes_on : Turn.startsOver ⟨s, now, action⟩ = false) :
    (∃ form, Turn.Receives past form ⟨s, now, action⟩ ∧ s.formReceived = false ∧
      ∀ form, Turn.Receives past form ⟨s, now, action⟩ → (s.act now action).1.formReceived = true ∧
        (s.act now action).1.form.demands = (Form.ofAuthorization form).demands) ∨
    (∀ form, ¬ Turn.Receives past form ⟨s, now, action⟩) ∧
      (s.act now action).1.formReceived = s.formReceived ∧
      (s.act now action).1.form.demands = s.form.demands := by
  by_cases came : s.cancelled = false ∧ ∃ form r, action = .reply r ∧ s.Describes form r
  · obtain ⟨live, form, r, rfl, describes⟩ := came
    have waiting : s.awaited.get .form ≠ none := by simp [Awaited.get, describes.2.1]
    refine .inl ⟨form, (run.receives_iff genuine).2 ⟨live, r, rfl, describes⟩,
      run.gated.asked waiting, fun form' there => ?_⟩
    obtain ⟨-, _, reply, describes'⟩ := (run.receives_iff genuine).1 there
    cases reply
    exact received_of_describes now live describes'
  · refine .inr ⟨fun form here => ?_, ?_⟩
    · obtain ⟨live, r, reply, describes⟩ := (run.receives_iff genuine).1 here
      exact came ⟨live, form, r, reply, describes⟩
    · by_cases restart : action = .restart
      · subst restart
        have closed : s.cancelled = true := by simpa [Turn.startsOver] using goes_on
        have same : (s.act now .restart).1 = s := if_pos closed
        rw [same]
        exact ⟨rfl, rfl⟩
      · rcases (run.acts now action).demands_cases run.gated restart with
          ⟨r, form, reply, live, describes⟩ | same
        · exact absurd ⟨live, form, r, reply, describes⟩ came
        · exact same

/-- The form of a session is the one that was received in it, and as long as none was received there is
none. -/
theorem demands_eq (run : Run setup past s) :
    (∀ form, past.Received form → s.formReceived = true ∧
      s.form.demands = (Form.ofAuthorization form).demands) ∧
    ((∀ form, ¬ past.Received form) → s.formReceived = false ∧
      s.form.demands = Form.empty.demands) := by
  induction run with
  | start => exact ⟨fun _ received => received.elim, fun _ => ⟨rfl, rfl⟩⟩
  | @step past s now action run ordered genuine ih =>
      let t : Turn := ⟨s, now, action⟩
      show (∀ form, History.Received form (t :: past) → (s.act now action).1.formReceived = true ∧
          (s.act now action).1.form.demands = _) ∧
        (_ → (s.act now action).1.formReceived = false ∧ (s.act now action).1.form.demands = _)
      cases anew : t.startsOver with
      | true =>
          obtain ⟨restart, live⟩ := Turn.startsOver_iff.1 anew
          have restart : action = .restart := restart
          subst restart
          refine ⟨?_, fun _ => demands_restart live⟩
          rintro form (⟨-, id, -, reply⟩ | ⟨-, kept⟩)
          · cases reply
          · exact absurd (anew.symm.trans kept) (by simp)
      | false =>
          rcases run.demands_after genuine anew with
            ⟨form, here, unreceived, taken⟩ | ⟨apart, received, demands⟩
          · refine ⟨?_, fun none_ => absurd (.inl here) (none_ form)⟩
            rintro form' (there | ⟨before, -⟩)
            · exact taken form' there
            · exact absurd ((ih.1 form' before).1.symm.trans unreceived) (by simp)
          · rw [received, demands]
            refine ⟨?_, fun none_ => ih.2 fun form before => none_ form (.inr ⟨before, anew⟩)⟩
            rintro form (here | ⟨before, -⟩)
            · exact absurd here (apart form)
            · exact ih.1 form before

theorem received_of_formReceived (run : Run setup past s) (received : s.formReceived = true) :
    ∃ form, past.Received form := by
  by_contra none_
  have unreceived := (run.demands_eq.2 (not_exists.1 none_)).1
  exact absurd (received.symm.trans unreceived) (by simp)

theorem not_received (run : Run setup past s) (unreceived : s.formReceived = false)
    (form : AuthorizationForm) : ¬ past.Received form := fun received =>
  absurd ((run.demands_eq.1 form received).1.symm.trans unreceived) (by simp)

/-- What is required stays. From when a form was received until the session starts over there is one entry
for each kind that a row mentions, and no other one; an entry requires what any mention of its kind asks
for, in whatever rows and order they stand; and the rows are those of the description, each kind where it
is first mentioned, without the empty ones. -/
theorem requirements_stand (run : Run setup past s) (received : past.Received form) :
    (∀ kind, (s.entry? kind).isSome = true ↔ ∃ r, form.Mentions r ∧ r.kind = kind) ∧
    (s.form.entries.map Entry.kind).Nodup ∧
    (∀ kind e, s.entry? kind = some e → e.kind = kind ∧
      (e.selfieRequired = true ↔ ∃ r, form.Mentions r ∧ r.kind = kind ∧ r.selfie = true) ∧
      (e.renditionRequired = true ↔ ∃ r, form.Mentions r ∧ r.kind = kind ∧ r.rendition = true) ∧
      (e.nativeNames = true ↔ ∃ r, form.Mentions r ∧ r.kind = kind ∧ r.nativeNames = true)) ∧
    (∀ form', (∀ r, form.Mentions r ↔ form'.Mentions r) →
      s.form.entries.map Entry.required =
        (Form.ofAuthorization form').entries.map Entry.required) ∧
    s.form.rows =
      (form.rows.map fun row => (row.map RequiredKind.kind).eraseDups).filter (· ≠ []) := by
  have demands := (run.demands_eq.1 form received).2
  have required : s.form.entries.map Entry.required = form.requirements :=
    (congrArg (·.2.2.2) demands).trans (Form.required_ofAuthorization form)
  refine ⟨fun kind => Form.entry?_isSome_iff required, run.gated.distinct, fun kind e he => ?_,
    fun form' same => ?_, ?_⟩
  · obtain rfl := kind_of_entry he
    exact ⟨rfl, Form.mem_requirements required (Form.mem_of_entry he)⟩
  · rw [required, Form.required_ofAuthorization, AuthorizationForm.requirements_congr same]
  · have rows : s.form.rows = (form.rows.map Form.rowKinds).filter (· ≠ []) :=
      (congrArg (·.2.1) demands).trans (congrArg Form.rows (Form.ofAuthorization_eq form))
    rw [rows, funext Form.rowKinds_eq]

/-- A passport is mentioned three times. It was deleted, and takes with it what the server had of it, but
not what is required. -/
theorem requirements_stand_after_deletion :
    let kind : Kind := .identity .passport
    let form : AuthorizationForm := ⟨1, [[⟨kind, true, false, false⟩, ⟨.email, false, false, false⟩,
      ⟨kind, false, false, true⟩], [], [⟨kind, false, false, false⟩]], none⟩
    let actions := [(5, .reply ⟨⟨4, .task .delete kind⟩, .ok .ok⟩), (4, .delete kind)] ++
      opening form [.identity .passport ⟨"AB1", none, none, none, none, []⟩]
    let s := (play (.fresh .plain .empty) actions).2
    s.form.rows = [[kind, .email], [kind]] ∧ ∃ e, s.entry? kind = some e ∧ e.present = false ∧
      e.selfieRequired = true ∧ e.renditionRequired = false ∧ e.nativeNames = true := by
  intro kind form actions s
  have playable : Playable (.fresh .plain .empty) actions := by decide +kernel
  have run : Run .plain (play (.fresh .plain .empty) actions).1 s := .of_playable playable
  have received : (play (.fresh .plain .empty) actions).1.Received form := by
    refine .inr ⟨.inr ⟨.inr ⟨.inr ⟨.inl ⟨?_, 1, ?_, rfl⟩, ?_⟩, ?_⟩, ?_⟩, ?_⟩ <;> decide +kernel
  obtain ⟨-, -, needs, -, rows⟩ := requirements_stand run received
  have gone : (s.entry? kind).map Entry.present = some false := by decide +kernel
  obtain ⟨e, he, gone⟩ := Option.map_eq_some_iff.1 gone
  obtain ⟨-, selfie, rendition, names⟩ := needs kind e he
  have first : form.Mentions ⟨kind, true, false, false⟩ := ⟨_, .head _, .head _⟩
  have third : form.Mentions ⟨kind, false, false, true⟩ := ⟨_, .head _, .tail _ (.tail _ (.head _))⟩
  have unasked : form.rows.flatten.all (! ·.rendition) = true := by decide
  refine ⟨rows.trans (by decide +kernel), e, he, gone, selfie.2 ⟨_, first, rfl, rfl⟩, ?_,
    names.2 ⟨_, third, rfl, rfl⟩⟩
  refine Bool.eq_false_iff.2 fun asked => ?_
  obtain ⟨r, ⟨row, hrow, hr⟩, -, asks⟩ := rendition.1 asked
  have calm := List.all_eq_true.1 unasked r (List.mem_flatten.2 ⟨row, hrow, hr⟩)
  simp [asks] at calm

end Run

end IdentityForm
