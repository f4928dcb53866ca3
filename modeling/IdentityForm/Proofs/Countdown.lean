import IdentityForm.Proofs.Background.Drive
import IdentityForm.Proofs.Standing.Advance
import IdentityForm.Proofs.Unreported

/-! # The countdown to a voice call

The time of the call stands with the verification of an entry, and the timer that counts down to it
among the timers of the session. Every action that touches one of them touches the other: a timer is
armed exactly as long as a call is waited for.
-/

namespace IdentityForm

/-! ## What is read off a verification -/

namespace Verification

/-- When the voice call is due, as long as it is counted down to. -/
def due? (v : Verification) : Option Nat :=
  match v.call with
  | some (.waiting due) => some due
  | _ => Option.none

/-- The id of the request to send a code, as long as no code was sent. -/
def asked? (v : Verification) : Option Nat :=
  if v.codeLength = Option.none then v.request else Option.none

end Verification

theorem Form.bind_modify {α : Type} {f : Form} {kind other : Kind} {g : Entry → Entry}
    {q : Entry → Option α} (hk : ∀ e, (g e).kind = e.kind) (hq : ∀ e, q (g e) = q e) :
    (Form.entry? (f.modify other g) kind).bind q = (f.entry? kind).bind q := by
  by_cases here : other = kind
  · subst here
    rw [Form.entry?_modify_self fun e he => (hk e).trans he, Option.bind_map]
    exact congrArg _ (funext hq)
  · rw [Form.entry?_modify_ne (fun e he => (hk e).trans he) here]

namespace Session

def read (s : Session) (kind : Kind) (p : Verification → Option Nat) : Option Nat :=
  (s.form.entry? kind).bind fun e => p e.verification

def due? (s : Session) (kind : Kind) : Option Nat := s.read kind Verification.due?

def asked? (s : Session) (kind : Kind) : Option Nat := s.read kind Verification.asked?

variable {s s' : Session} {now : Nat} {a : Action} {r : Reply} {kind : Kind} {e e' : Entry}
  {es : List Effect} {p : Verification → Option Nat} {task : Task} {outcome : Outcome}
  {tokens : List Token}

theorem read_of_entry (he : s.form.entry? kind = some e) : s.read kind p = p e.verification := by
  rw [read, he, Option.bind_some]

theorem read_of_form (same : s'.form = s.form) : s'.read kind p = s.read kind p := by
  rw [read, read, same]

theorem read_of_absent (absent : s.form.entry? kind = none) : s.read kind p = none := by
  rw [read, absent, Option.bind_none]

/-! ## Moves -/

/-- Only a tick ends a countdown, and giving the verification up. -/
theorem Change.due?_eq (h : s.Change now a e es e') (given : a ≠ .cancelVerification e.kind)
    (time : a ≠ .tick) : e'.verification.due? = e.verification.due? := by
  cases h with
  | givenUp ha => exact absurd ha given
  | calling ha => exact absurd ha time
  | saved _ _ _ _ _ _ sent => simp [sent]
  | _ => first | rfl | simp

/-- A request for a code stands until its reply comes or the verification is given up. -/
theorem Change.asked?_eq (h : s.Change now a e es e') (given : a ≠ .cancelVerification e.kind) :
    e'.verification.asked? = e.verification.asked? := by
  cases h with
  | givenUp ha => exact absurd ha given
  | checked _ coded => simp [Verification.asked?, coded]
  | saved _ _ _ _ _ _ sent => simp [sent]
  | _ => first | rfl | simp

/-- Moves leave what is read off a verification alone if every change of its entry does. -/
theorem Moves.read_eq (h : Moves now a s s') (gated : s.core.Gated) (stays : a ≠ .restart)
    (change : ∀ (t : Session) (e e' : Entry) (es : List Effect), e.kind = kind →
      t.Change now a e es e' → p e'.verification = p e.verification) :
    s'.read kind p = s.read kind p := by
  suffices kept : s'.core.Gated ∧ s'.read kind p = s.read kind p from kept.2
  induction h with
  | refl => exact ⟨gated, rfl⟩
  | @tail t t' _ move ih =>
      obtain ⟨gated, same⟩ := ih
      refine ⟨move.gated gated, Eq.trans ?_ same⟩
      cases move with
      | rest es core => exact read_of_form (congrArg Core.form core)
      | ask errand r _ _ _ _ _ _ core => exact read_of_form (congrArg Core.form core)
      | entry e g es he moved core =>
          have form : t'.form = t.form.modify e.kind g := congrArg Core.form core
          by_cases here : e.kind = kind
          · subst here
            rw [read_of_entry he, read, form, Form.entry?_modify he moved.kind_eq, Option.bind_some]
            exact change t e (g e) es rfl moved
          · have same := Form.entry?_modify_other gated.distinct he moved.kind_eq here
            rw [read, form]
            exact congrArg (Option.bind · _) same
      | abandon es ha => exact absurd ha stays

/-! ## Replies -/

/-- A reply is about the verification of a kind only if it answers a task of that kind. -/
theorem Settle.read_cases (h : Settle now r s s') (gated : s.core.Gated) (kind : Kind) :
    (∀ task, r.token.pending ≠ .task task kind) ∧
        (∀ p : Verification → Option Nat, p .none = none → s'.read kind p = s.read kind p) ∨
      ∃ task e e' es, r.token.pending = .task task kind ∧ s.form.entry? kind = some e ∧
        e.awaits? task = some r.token.id ∧ s.Uptake now e task r.outcome es e' ∧
        s'.form.entry? kind = some e' ∧ s'.outbox = s.outbox ++ es := by
  cases h with
  | errand errand es ht _ core =>
      exact .inl ⟨by simp [ht], fun p _ => read_of_form (congrArg Core.form core)⟩
  | form received es ht waiting _ core =>
      refine .inl ⟨by simp [ht], fun p blank => ?_⟩
      have empty : s.form.entries = [] := gated.empty_of_awaits waiting
      have absent : s.form.entry? kind = none := by simp [Form.entry?, empty]
      have form : s'.form = .ofAuthorization received := congrArg Core.form core
      rw [read_of_absent absent, read, form]
      cases he : Form.entry? (.ofAuthorization received) kind with
      | none => rfl
      | some e =>
          rw [Option.bind_some, (Form.blank_of_mem_ofAuthorization (Form.mem_of_entry he)).2, blank]
  | unlock password elements errors es ht _ _ core =>
      refine .inl ⟨by simp [ht], fun p _ => ?_⟩
      have form : s'.form = s.form.takeElements elements errors := congrArg Core.form core
      rw [read, form]
      refine Form.takeElements_induction
        (Q := fun f => (f.entry? kind).bind (fun e => p e.verification) = s.read kind p)
        (fun f element same => ?_) (fun f x same => ?_) rfl
      · let fill (e : Entry) : Entry := e.fill element.contents
        exact (Form.bind_modify (g := fill) (fun _ => rfl) fun _ => rfl).trans same
      · refine (Form.bind_modify (fun e => (e.applyError_keeps x).1) fun e => ?_).trans same
        rw [(e.applyError_keeps x).2.2]
  | task task e g es ht he waiting uptake core outbox =>
      have form : s'.form = s.form.modify e.kind g := congrArg Core.form core
      by_cases here : e.kind = kind
      · subst here
        refine .inr ⟨task, e, g e, es, ht, he, waiting, uptake, ?_, outbox⟩
        rw [form]
        exact Form.entry?_modify he uptake.kind_eq
      · refine .inl ⟨by simp [ht, here], fun p _ => ?_⟩
        have same := Form.entry?_modify_other gated.distinct he uptake.kind_eq here
        rw [read, form]
        exact congrArg (Option.bind · _) same

/-- What the answer to a task does to a countdown: one begins, or the verification is over. -/
theorem Uptake.due?_cases (h : s.Uptake now e task outcome es e') (kept : e.Kept tokens)
    (fits : e.Fits task) {id : Nat} (waiting : e.awaits? task = some id) :
    s.taskAlarm? now e.kind task outcome = none ∧
        e'.verification.due? = e.verification.due? ∨
      (∃ t, task = .sendCode ∧ outcome.countdown? e.kind = some t ∧
        e'.verification.due? = some (now + 1000 * t)) ∨
      task = .checkCode ∧ (∃ response, outcome = .ok response) ∧ e'.verification.due? = none := by
  have uncalled (coded : e.verification.codeLength = none) : e.verification.due? = none := by
    rw [Verification.due?, (kept.uncoded coded).1]
  have unverified {id : Nat} (writing : e.write = .pending id) : e.verification.due? = none := by
    have none_ : e.verification = .none := kept.exclusive.resolve_left (by simp [writing])
    exact uncalled (by rw [none_]; rfl)
  cases h with
  | saved => exact .inl ⟨rfl, by simp⟩
  | unsaved => exact .inl ⟨rfl, rfl⟩
  | misfilled => exact .inl ⟨rfl, rfl⟩
  | undeleted => exact .inl ⟨rfl, rfl⟩
  | unverifiedPhone =>
      exact .inl ⟨rfl, (unverified (write_of_awaits waiting (.inl rfl))).symm⟩
  | unverifiedEmail =>
      exact .inl ⟨rfl, (unverified (write_of_awaits waiting (.inl rfl))).symm⟩
  | deleted =>
      refine .inl ⟨rfl, ?_⟩
      rw [unverified (write_of_awaits waiting (.inr rfl)), Entry.verification_reset]
      rfl
  | @codeSent response length timeout sent =>
      cases timeout with
      | none => exact .inl ⟨by simp [taskAlarm?, Outcome.countdown?, sent], rfl⟩
      | some t => exact .inr (.inl ⟨t, rfl, by simp [Outcome.countdown?, sent], rfl⟩)
  | codeNotSent unsent =>
      refine .inl ⟨?_, (uncalled (fits.1 rfl)).symm⟩
      cases outcome with
      | failed error => rfl
      | ok response => simp [taskAlarm?, Outcome.countdown?, unsent response rfl]
  | accepted => exact .inr (.inr ⟨rfl, ⟨_, rfl⟩, rfl⟩)
  | acceptedLocked => exact .inr (.inr ⟨rfl, ⟨_, rfl⟩, rfl⟩)
  | refused => exact .inl ⟨rfl, rfl⟩
  | called =>
      have calling := callRequest?_eq_some.1 waiting
      exact .inl ⟨rfl, by simp [Verification.due?, calling]⟩
  | notCalled =>
      have calling := callRequest?_eq_some.1 waiting
      exact .inl ⟨rfl, by simp [Verification.due?, calling]⟩

/-! ## Giving up and starting over -/

/-- A verification that is given up leaves nothing behind. -/
theorem verification_cancelVerification
    (there : Form.entry? (s.cancelVerification kind).1.form kind = some e') :
    e'.verification = .none := by
  unfold cancelVerification at there
  cases he : s.entry? kind with
  | none =>
      rw [he] at there
      exact absurd (he.symm.trans there) (by simp)
  | some e =>
      obtain rfl := kind_of_entry he
      let quiet := { e with verification := .none }
      let ids := e.verification.request.toList ++ e.verification.callRequest?.toList
      let given := ((s.sendAll (ids.map .cancel)).put quiet).disarm (.callTick e.kind)
      let told := if e.verification.codeLength.isSome then
        given.notify (.verificationUpdate e.kind) else given
      have form : told.form = s.form.modify e.kind fun _ => quiet := by
        have same : given.form = s.form.modify e.kind fun _ => quiet :=
          congrArg (fun c : Core => c.form.modify e.kind fun _ => quiet) (core_sendAll _)
        simp only [told]
        split
        · exact same
        · exact same
      have found : Form.entry? told.form e.kind = some quiet := by
        rw [form]
        exact Form.entry?_modify he rfl
      rw [he] at there
      replace there : Form.entry? (if quiet.isBusy then told else told.editFailed e.kind).form
          e.kind = some e' := there
      split at there
      · rw [← Option.some.inj (found.symm.trans there)]
      · have cleared : Form.entry? (told.editFailed e.kind).form e.kind = some quiet.clearIfIdle :=
          Form.entry?_modify found (Entry.kind_clearIfIdle quiet)
        rw [← Option.some.inj (cleared.symm.trans there)]
        exact Entry.verification_clearIfIdle quiet

theorem read_restart (live : s.cancelled = false) : s.restart.read kind p = none := by
  have form : s.restart.form = .empty := congrArg Prod.fst (desk_restart live)
  exact read_of_absent (by rw [form]; rfl)

end Session

/-! ## Timers -/

def Gear.ticks (g : Gear) (kind : Kind) : List (Nat × Timer) :=
  g.timers.filter fun t => t.2 = .callTick kind

namespace Gear

variable {g : Gear} {kind : Kind} {timer : Timer} {due? : Option Nat}

theorem ticks_rearm_self : (g.rearm (some (.callTick kind, due?))).ticks kind =
    (due?.map (·, .callTick kind)).toList := by
  cases due? <;> simp [rearm, ticks, List.filter_filter]

theorem ticks_rearm_other (other : timer ≠ .callTick kind) :
    (g.rearm (some (timer, due?))).ticks kind = g.ticks kind :=
  filter_rearm fun _ here => other (Prod.mk.inj (Option.some.inj here)).1

end Gear

namespace Session

variable {s s' : Session} {now : Nat} {a : Action} {kind : Kind}

/-- A timer counts down to the call of a kind exactly as long as the call is waited for: one timer, which
is not due later than one step after the call. -/
def Counted (s : Session) (kind : Kind) : Prop :=
  match s.due? kind with
  | some due => ∃ time, s.gear.ticks kind = [(time, .callTick kind)] ∧
      time ≤ due + s.setup.settings.callTick
  | none => s.gear.ticks kind = []

/-- What an action does to the countdown of a kind. -/
inductive Tolls (now : Nat) (a : Action) (kind : Kind) (s s' : Session) : Prop
  | stays : s'.due? kind = s.due? kind → s'.gear.ticks kind = s.gear.ticks kind →
      Tolls now a kind s s'
  | begins (r : Reply) (t : Nat) : a = .reply r → s.core.Awaits r.token →
      r.token.pending = .task .sendCode kind → r.outcome.countdown? kind = some t →
      s'.due? kind = some (now + 1000 * t) →
      s'.gear.ticks kind = [(now + s.setup.settings.callTick, .callTick kind)] →
      Tolls now a kind s s'
  | goesOn (due : Nat) : a = .tick → s.due? kind = some due → now < due →
      s'.due? kind = some due →
      s'.gear.ticks kind = [(now + s.setup.settings.callTick, .callTick kind)] →
      Tolls now a kind s s'
  | ends : s'.due? kind = none → s'.gear.ticks kind = [] → Tolls now a kind s s'

theorem Tolls.counted (h : Tolls now a kind s s') (setup : s'.setup = s.setup)
    (counted : s.Counted kind) : s'.Counted kind := by
  unfold Counted at counted ⊢
  rw [setup]
  cases h with
  | stays due ticks =>
      rw [due, ticks]
      exact counted
  | begins r t _ _ _ _ due ticks =>
      rw [due]
      exact ⟨_, ticks, by omega⟩
  | goesOn d _ _ early due ticks =>
      rw [due]
      exact ⟨_, ticks, by omega⟩
  | ends due ticks =>
      rw [due]
      exact ticks

/-! ## Ticks -/

theorem due?_later (now : Nat) (kind : Kind) (live : s.cancelled = false) :
    (s.later now).due? kind = s.due? kind := by
  have form : (s.later now).form = s.reportUnchanged.form := rfl
  have reported (e : Entry) : e.reported.verification = e.verification := by
    unfold Entry.reported
    split <;> simp
  rw [due?, read, form, reportUnchanged_of_live live, entry?_finishAll]
  split
  · rw [Option.bind_map]
    exact congrArg _ (funext fun e => congrArg Verification.due? (reported e))
  · rfl

inductive Step (now : Nat) (kind : Kind) (s s' : Session) : Prop
  | idle : s.due? kind = none → s' = s → Step now kind s s'
  | goesOn (due : Nat) : s.due? kind = some due → now < due → s'.form = s.form →
      s'.gear = s.gear.rearm (some (.callTick kind, some (now + s.setup.settings.callTick))) →
      s'.outbox = s.outbox ++ [.notice (.verificationUpdate kind)] → Step now kind s s'
  | calls (due : Nat) (target : String) : s.due? kind = some due → due ≤ now →
      s'.due? kind = none → (∀ other, other ≠ kind → s'.due? other = s.due? other) →
      s'.gear = s.gear →
      s'.outbox = s.outbox ++ [.request (.resendPhoneCode ⟨s.nextId, .task .resendCall kind⟩ target),
        .notice (.verificationUpdate kind)] → Step now kind s s'

theorem callTick_step (s : Session) (now : Nat) (kind : Kind) :
    Step now kind s (s.callTick now kind) := by
  cases he : s.entry? kind with
  | none =>
      refine .idle (read_of_absent he) ?_
      unfold callTick
      rw [he]
  | some e =>
      obtain rfl := kind_of_entry he
      have due : s.due? e.kind = e.verification.due? := read_of_entry he
      unfold callTick
      rw [he]
      dsimp only
      split
      · rename_i time waiting
        have due : s.due? e.kind = some time := due.trans (by rw [Verification.due?, waiting])
        let calling := { e with
          verification := { e.verification with call := some (.calling s.nextId) } }
        let placed := ((s.put calling).ask (.task .resendCall e.kind) fun t =>
          .resendPhoneCode t e.target).notify (.verificationUpdate e.kind)
        split
        · rename_i late
          have found : Form.entry? placed.form e.kind = some calling := Form.entry?_modify he rfl
          have ended : placed.due? e.kind = none := read_of_entry found
          refine .calls time e.target due late ended (fun other apart => ?_) ?_ ?_
          · have same : Form.entry? (s.form.modify e.kind fun _ => calling) other =
                s.form.entry? other := Form.entry?_modify_ne (fun _ _ => rfl) (Ne.symm apart)
            exact congrArg (Option.bind · fun e => e.verification.due?) same
          · have same : placed.background = s.background :=
              (background_notify rfl).trans (background_ask fun _ => rfl)
            exact gear_of_background same
          · exact List.append_assoc _ _ _
        · rename_i early
          exact .goesOn time due (Nat.lt_of_not_le early) rfl
            (gear_of_background (background_notify rfl)) rfl
      · rename_i idle
        refine .idle (due.trans ?_) rfl
        rw [Verification.due?]
        split
        · rename_i time waiting
          exact absurd waiting (idle time)
        · rfl

/-- A timer that counts down to no call of a kind leaves its countdown alone. -/
theorem fire_other (s : Session) (now : Nat) {timer : Timer} (other : timer ≠ .callTick kind) :
    (s.fire now timer).cancelled = true ∨ (s.fire now timer).due? kind = s.due? kind ∧
      (s.fire now timer).gear.ticks kind = s.gear.ticks kind := by
  cases timer with
  | closeAfterSubmit => exact .inl (cancelled_cancelSurely s)
  | shortPoll =>
      have same := gear_of_background (background_requestPasswordState (s := s))
      refine .inr ⟨read_of_form (congrArg Prod.fst desk_requestPasswordState), ?_⟩
      exact congrArg (Gear.ticks · kind) same
  | forgetPassword => exact .inr ⟨rfl, rfl⟩
  | callTick k =>
      have apart : kind ≠ k := fun same => other (congrArg Timer.callTick same.symm)
      cases callTick_step s now k with
      | idle _ same => exact .inr ⟨congrArg (due? · kind) same, congrArg (fun s => s.gear.ticks kind) same⟩
      | goesOn due _ _ form gear =>
          exact .inr ⟨read_of_form form,
            (congrArg (Gear.ticks · kind) gear).trans (Gear.ticks_rearm_other other)⟩
      | calls due target _ _ _ others gear =>
          exact .inr ⟨others kind apart, congrArg (Gear.ticks · kind) gear⟩

theorem Tolls.congr {t : Session} (h : Tolls now a kind s t) (due : s'.due? kind = t.due? kind)
    (ticks : s'.gear.ticks kind = t.gear.ticks kind) : Tolls now a kind s s' := by
  cases h with
  | stays due' ticks' => exact .stays (due.trans due') (ticks.trans ticks')
  | begins r t ha awaits pending announced due' ticks' =>
      exact .begins r t ha awaits pending announced (due.trans due') (ticks.trans ticks')
  | goesOn d ha waiting early due' ticks' =>
      exact .goesOn d ha waiting early (due.trans due') (ticks.trans ticks')
  | ends due' ticks' => exact .ends (due.trans due') (ticks.trans ticks')

/-- In the middle of a tick: the timer of a countdown is still to be fired, or what it does is done. -/
inductive Midway (now : Nat) (kind : Kind) (s : Session) (rest : List (Nat × Timer)) (u : Session) :
    Prop
  | closed : u.cancelled = true → Midway now kind s rest u
  | done : (∀ t ∈ rest, t.2 ≠ .callTick kind) → u.setup = s.setup → Tolls now .tick kind s u →
      Midway now kind s rest u
  | ahead (time due : Nat) :
      (rest.filter fun t => t.2 = .callTick kind) = [(time, .callTick kind)] →
      u.setup = s.setup → s.due? kind = some due → u.due? kind = some due →
      u.gear.ticks kind = [] → Midway now kind s rest u

theorem later_midway (live : s.cancelled = false) (counted : s.Counted kind) :
    Midway now kind s (s.timers.filter fun t => t.1 ≤ now) (s.later now) := by
  have due := due?_later now kind live
  have setup : (s.later now).setup = s.setup := congrArg Gear.setup (gear_later s now)
  have fired : ((s.timers.filter fun t => t.1 ≤ now).filter fun t => t.2 = .callTick kind) =
      (s.gear.ticks kind).filter fun t => t.1 ≤ now := List.filter_comm _ _ _
  have left : (s.later now).gear.ticks kind =
      (s.gear.ticks kind).filter fun t => ¬ t.1 ≤ now := by
    rw [gear_later]
    exact List.filter_comm _ _ _
  have none_fired (empty : ((s.timers.filter fun t => t.1 ≤ now).filter
      fun t => t.2 = .callTick kind) = []) :
      ∀ t ∈ s.timers.filter fun t => t.1 ≤ now, t.2 ≠ .callTick kind := fun t ht here =>
    List.not_mem_nil (empty ▸ List.mem_filter.2 ⟨ht, by simpa using here⟩)
  unfold Counted at counted
  cases waiting : s.due? kind with
  | none =>
      rw [waiting] at counted due
      rw [counted] at fired left
      exact .done (none_fired fired) setup (.ends due left)
  | some d =>
      rw [waiting] at counted due
      obtain ⟨time, ticks, -⟩ := counted
      rw [ticks] at fired left
      by_cases come : time ≤ now
      · refine .ahead time d ?_ setup waiting due ?_
        · simpa [come] using fired
        · simpa [come] using left
      · refine .done (none_fired ?_) setup (.stays (due.trans waiting.symm) ?_)
        · simpa [come] using fired
        · rw [ticks]
          simpa [Nat.lt_of_not_le come] using left

theorem Midway.fire {t : Nat × Timer} {rest : List (Nat × Timer)} {u : Session}
    (h : Midway now kind s (t :: rest) u) (live : u.cancelled = false) :
    Midway now kind s rest (u.fire now t.2) := by
  have setup : (u.fire now t.2).setup = u.setup := by
    rcases gear_fire now live t.2 with same | ⟨-, same⟩ | ⟨kind, same⟩ <;>
      exact congrArg Gear.setup same
  cases h with
  | closed closed => exact absurd (closed.symm.trans live) (by simp)
  | done others setup' tolls =>
      obtain ⟨other, others⟩ := List.forall_mem_cons.1 others
      rcases fire_other u now other with closed | ⟨due, ticks⟩
      · exact .closed closed
      · exact .done others (setup.trans setup') (tolls.congr due ticks)
  | ahead time d mine setup' waiting due ticks =>
      by_cases here : t.2 = .callTick kind
      · have none_left : ∀ t ∈ rest, t.2 ≠ .callTick kind := by
          rw [List.filter_cons_of_pos (by simpa using here)] at mine
          simpa [List.filter_eq_nil_iff] using (List.cons.inj mine).2
        rw [here] at setup ⊢
        refine .done none_left (setup.trans setup') ?_
        cases callTick_step u now kind with
        | idle idle => exact absurd (idle.symm.trans due) (by simp)
        | goesOn d' due' early form gear =>
            cases Option.some.inj (due.symm.trans due')
            have armed := (congrArg (Gear.ticks · kind) gear).trans Gear.ticks_rearm_self
            rw [setup'] at armed
            exact .goesOn d rfl waiting early ((read_of_form form).trans due) armed
        | calls d' target _ _ ended _ gear =>
            exact .ends ended ((congrArg (Gear.ticks · kind) gear).trans ticks)
      · rw [List.filter_cons_of_neg (by simpa using here)] at mine
        rcases fire_other u now here with closed | ⟨due', ticks'⟩
        · exact .closed closed
        · exact .ahead time d mine (setup.trans setup') waiting (due'.trans due) (ticks'.trans ticks)

/-- A tick counts on, places the call, or leaves a countdown alone. -/
theorem tick_tolls (live : s.cancelled = false) (live' : (s.tick now).cancelled = false)
    (counted : s.Counted kind) : Tolls now .tick kind s (s.tick now) := by
  have finish : Midway now kind s [] (s.tick now) := by
    rw [tick_eq_fires]
    exact fires_induction now (P := Midway now kind s) (fun _ _ _ live midway => midway.fire live)
      (fun _ _ _ closed _ => .closed closed) (later_midway live counted)
  cases finish with
  | closed closed => exact absurd (closed.symm.trans live') (by simp)
  | done _ _ tolls => exact tolls
  | ahead time due mine => cases mine

/-! ## Actions -/

/-- A reply that is not about a kind arms no timer for its call. -/
theorem ticks_rearm_reply {r : Reply} (other : ∀ task, r.token.pending ≠ .task task kind) :
    (s.gear.rearm (s.alarm? now (.reply r))).ticks kind = s.gear.ticks kind := by
  refine Gear.filter_rearm fun due? alarm => ?_
  cases ht : r.token.pending with
  | errand errand =>
      rw [alarm?_errand ht] at alarm
      unfold errandAlarm? at alarm
      split at alarm <;> simp at alarm
  | task task k =>
      have apart : k ≠ kind := fun same => other task (same ▸ ht)
      rw [alarm?_task ht] at alarm
      unfold taskAlarm? at alarm
      split at alarm <;> simp [apart] at alarm

/-- Nor does any other action, unless it gives the verification of that kind up. -/
theorem Drives.ticks_eq (h : Drives now a s s') (given : a ≠ .cancelVerification kind)
    (replies : ∀ r, a ≠ .reply r) (stays : a ≠ .restart) (time : a ≠ .tick) :
    s'.gear.ticks kind = s.gear.ticks kind := by
  refine h.filter_timers stays time fun due? alarm => ?_
  cases a with
  | reply r => exact absurd rfl (replies r)
  | cancelVerification k =>
      obtain ⟨here, -⟩ := Prod.mk.inj (Option.some.inj alarm)
      exact given (congrArg _ (Timer.callTick.inj here))
  | _ => cases alarm

theorem reply_tolls {r : Reply} {log : List Effect} {settled : List Nat} {mid : Session}
    (settle : Settle now r s mid) (moves : Moves now (.reply r) mid s')
    (gear : s'.gear = s.gear.rearm (s.alarm? now (.reply r))) (books : s.core.Books log settled)
    (issued : r.token ∈ tokensOf log) (awaits : s.core.Awaits r.token) :
    Tolls now (.reply r) kind s s' := by
  have kept : s'.due? kind = mid.due? kind := moves.read_eq (settle.gated books.toGated) (by simp)
    fun _ _ _ _ _ change => change.due?_eq (by simp) (by simp)
  rcases settle.read_cases books.toGated kind with ⟨other, same⟩ | ⟨task, e, e', es, ht, he, waiting,
    uptake, there, -⟩
  · exact .stays (kept.trans (same _ rfl)) ((congrArg (Gear.ticks · kind) gear).trans
      (ticks_rearm_reply other))
  · obtain rfl := Form.kind_of_entry he
    have held := books.entries e (Form.mem_of_entry he)
    have fits : e.Fits task := held.fits books.unique issued ht waiting
    have due' : s'.due? e.kind = e'.verification.due? := kept.trans (read_of_entry there)
    have due : s.due? e.kind = e.verification.due? := read_of_entry he
    rw [alarm?_task ht] at gear
    rcases uptake.due?_cases held fits waiting with ⟨silent, same⟩ | ⟨t, rfl, announced, begun⟩ |
      ⟨rfl, ⟨response, ok⟩, ended⟩
    · rw [silent] at gear
      exact .stays (due'.trans (same.trans due.symm)) (congrArg (Gear.ticks · e.kind) gear)
    · have alarm : s.taskAlarm? now e.kind .sendCode r.outcome =
          some (.callTick e.kind, some (now + s.setup.settings.callTick)) := by
        rw [taskAlarm?_sendCode, announced, Option.map_some]
      rw [alarm] at gear
      exact .begins r t rfl awaits ht announced (due'.trans begun)
        ((congrArg (Gear.ticks · e.kind) gear).trans Gear.ticks_rearm_self)
    · rw [ok] at gear
      exact .ends (due'.trans ended)
        ((congrArg (Gear.ticks · e.kind) gear).trans Gear.ticks_rearm_self)

end Session

namespace Run

variable {setup : Setup} {past : History} {s : Session}

theorem act_tolls {now : Nat} {action : Session.Action} (run : Run setup past s)
    (genuine : past.Genuine action) (live : (s.act now action).1.cancelled = false) {kind : Kind}
    (counted : s.Counted kind) : Session.Tolls now action kind s (s.act now action).1 := by
  have acts := run.acts now action
  have before := acts.live live
  have drives := Session.act_drives before live
  have moved (moves : Session.Moves now action s (s.act now action).1)
      (given : action ≠ .cancelVerification kind) (replies : ∀ r, action ≠ .reply r)
      (stays : action ≠ .restart) (time : action ≠ .tick) :
      Session.Tolls now action kind s (s.act now action).1 :=
    .stays (moves.read_eq run.gated stays fun _ _ _ _ here change =>
      change.due?_eq (here ▸ given) time) (drives.ticks_eq given replies stays time)
  by_cases time : action = .tick
  · subst time
    exact Session.tick_tolls before live counted
  by_cases stays : action = .restart
  · subst stays
    exact .ends (Session.read_restart before)
      (congrArg (Gear.ticks · kind) (Session.gear_restart before))
  by_cases given : action = .cancelVerification kind
  · subst given
    cases he : s.entry? kind with
    | none =>
        have same : (s.cancelVerification kind).1 = s := by
          unfold Session.cancelVerification
          rw [he]
        exact .stays (congrArg (Session.due? · kind) same)
          (congrArg (fun s => s.gear.ticks kind) same)
    | some e =>
        have disarmed := Session.gear_of_background (Session.background_cancelVerification he)
        refine .ends ?_ ((congrArg (Gear.ticks · kind)
          (disarmed.trans (Session.gear_disarm _))).trans Gear.ticks_rearm_self)
        cases there : Form.entry? (s.cancelVerification kind).1.form kind with
        | none => exact Session.read_of_absent there
        | some e' =>
            have ended := Session.verification_cancelVerification there
            exact (Session.read_of_entry there).trans (by rw [ended]; rfl)
  cases acts with
  | moves replies moves => exact moved moves given replies stays time
  | close _ _ close =>
      exact absurd (live.symm.trans (congrArg Core.cancelled close.core)) (by simp)
  | dropped _ _ same =>
      rw [same]
      exact .stays rfl rfl
  | @reply r ha _ awaits settles =>
      subst ha
      obtain ⟨mid, settle, moves⟩ := settles
      rcases Session.gear_handleReply now r with same | gear
      · have same : (s.act now (.reply r)).1 = s := same
        rw [same]
        exact .stays rfl rfl
      · exact Session.reply_tolls settle moves gear (run.books before) (genuine _ rfl) awaits

theorem counted (run : Run setup past s) (live : s.cancelled = false) (kind : Kind) :
    s.Counted kind := by
  induction run with
  | start => rfl
  | @step past s now action run _ genuine ih =>
      have acts := run.acts now action
      have before := acts.live live
      have setup : (s.act now action).1.setup = s.setup := (s.act_advance now action).lasting.1
      exact (run.act_tolls genuine live (ih before)).counted setup (ih before)

end Run

end IdentityForm
