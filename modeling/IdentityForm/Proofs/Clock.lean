import IdentityForm.Proofs.Countdown
import IdentityForm.Proofs.Credentials.Calls
import IdentityForm.Session.Clock

/-! # Deadlines that a clock has no time for

A session runs on a clock as long as every deadline that it sets is a time on that clock. All that it
sets are sums of the present time and of an amount from the settings or from the server. Those from the
settings that are milliseconds fit for ages, and so no tick can fail. The two amounts that are seconds
do not fit: a password may be remembered and a call announced for longer than any clock runs, and the
answer that brings this about fails.
-/

namespace IdentityForm

/-! ## Amounts from the environment -/

namespace Settings

theorem number?_lt {text : String} {n : Nat} (h : number? text = some n) : n < UInt64.size := by
  obtain ⟨m, -, h⟩ := Option.bind_eq_some_iff.1 h
  obtain ⟨small, same⟩ := Option.ite_none_right_eq_some.1 h
  cases same
  exact small

/-- Every interval is a number of milliseconds in a word of 64 bits, and the time that a password is
remembered a number of seconds. -/
theorem ofEnvironment_lt (env : String → Option String) :
    (ofEnvironment env).shortPoll < UInt64.size ∧ (ofEnvironment env).closeDelay < UInt64.size ∧
      (ofEnvironment env).callTick < UInt64.size ∧
        (ofEnvironment env).rememberFor < 1000 * UInt64.size := by
  have number {text : Option String} {n : Nat} (h : text.bind number? = some n) : n < UInt64.size := by
    obtain ⟨text, -, h⟩ := Option.bind_eq_some_iff.1 h
    exact number?_lt h
  have chosen {text : Option String} {n : Nat} (std : n < UInt64.size) :
      (text.bind number?).getD n < UInt64.size := by
    cases given : text.bind number? with
    | none => exact std
    | some m => exact number given
  have positive {text : Option String} {n : Nat} (std : n < UInt64.size) :
      ((text.bind number?).filter (0 < ·)).getD n < UInt64.size := by
    cases given : (text.bind number?).filter (0 < ·) with
    | none => exact std
    | some m => exact number (Option.filter_eq_some_iff.1 given).1
  refine ⟨positive (by decide), chosen (by decide), positive (by decide), ?_⟩
  show Option.getD (Option.map _ ((env "PASSPORT_REMEMBER_PASSWORD_SECS").bind number?)) _ < _
  cases given : (env "PASSPORT_REMEMBER_PASSWORD_SECS").bind number? with
  | none => decide
  | some m => exact Nat.mul_lt_mul_of_pos_left (number given) (by decide)

end Settings

namespace Session

variable {s s' : Session} {now d : Nat} {a : Action} {r : Reply} {kind : Kind} {outcome : Outcome}

/-! ## Who sets a deadline -/

/-- The answer that a code was sent is waited for, and announces a call. -/
def Announces (s : Session) (a : Action) (code : PhoneCode) : Prop :=
  s.cancelled = false ∧ code.next.map CodeDelivery.isCall = some true ∧ 0 < code.timeout.toNat ∧
    ∃ e id, s.entry? .phone = some e ∧ e.verification.request = some id ∧
      a = .reply ⟨⟨id, .task .sendCode .phone⟩, .ok (.phoneCode code)⟩

/-- The answer to the check of a password is waited for, and accepts it. -/
def Accepts (s : Session) (a : Action) : Prop :=
  s.cancelled = false ∧ s.checking ≠ none ∧
    ∃ id elements errors, s.awaited.availableElements = some id ∧
      a = .reply ⟨⟨id, .errand .availableElements⟩, .ok (.availableElements elements errors)⟩

theorem countdown?_eq_some {seconds : Nat} : outcome.countdown? kind = some seconds ↔
    kind = .phone ∧ ∃ code : PhoneCode, outcome = .ok (.phoneCode code) ∧
      code.next.map CodeDelivery.isCall = some true ∧ 0 < seconds ∧ seconds = code.timeout.toNat := by
  cases outcome with
  | failed error => simp [Outcome.countdown?]
  | ok response =>
      cases response with
      | phoneCode code =>
          by_cases phone : kind = .phone
          · cases next : code.next with
            | none => simp [Outcome.countdown?, codeSent?, phone, next]
            | some delivery =>
                simp only [Outcome.countdown?, codeSent?, phone, next]
                grind
          · simp [Outcome.countdown?, codeSent?, phone]
      | emailCode code =>
          by_cases email : kind = .email <;> simp [Outcome.countdown?, codeSent?, email]
      | _ => simp [Outcome.countdown?, codeSent?]

theorem mem_codeDeadlines : d ∈ s.codeDeadlines now kind outcome ↔
    ∃ seconds, outcome.countdown? kind = some seconds ∧
      (d = now + 1000 * seconds ∨ d = now + s.setup.settings.callTick) := by
  cases outcome with
  | failed error => simp [codeDeadlines, Outcome.countdown?]
  | ok response =>
      unfold codeDeadlines Outcome.countdown?
      dsimp only
      cases sent : codeSent? kind response with
      | none => simp
      | some p =>
          obtain ⟨length, seconds⟩ := p
          cases seconds <;> simp

/-- What a reply sets, it sets where it is waited for. -/
theorem mem_replyDeadlines (live : s.cancelled = false) : d ∈ s.replyDeadlines now r ↔
    (∃ errand, r.token.pending = .errand errand ∧ s.awaited.get errand = some r.token.id ∧
      d ∈ s.errandDeadlines now errand r.outcome) ∨
    ∃ kind e, r.token.pending = .task .sendCode kind ∧ s.entry? kind = some e ∧
      e.awaits? .sendCode = some r.token.id ∧ d ∈ s.codeDeadlines now kind r.outcome := by
  unfold replyDeadlines
  rw [if_neg (by simp [live])]
  cases ht : r.token.pending with
  | errand errand => simp
  | task task kind =>
      cases task with
      | sendCode =>
          dsimp only
          cases he : s.entry? kind <;> simp [he]
      | _ => simp

theorem errandDeadlines_cases {errand : Errand} (h : d ∈ s.errandDeadlines now errand outcome) :
    errand = .passwordState ∧ d = now + s.setup.settings.shortPoll ∨
    errand = .submit ∧ d = now + s.setup.settings.closeDelay ∨
    errand = .availableElements ∧ s.checking ≠ none ∧
      (∃ elements errors, outcome = .ok (.availableElements elements errors)) ∧
      d = now + s.setup.settings.rememberFor := by
  unfold errandDeadlines at h
  split at h
  · split at h
    · exact .inl ⟨rfl, List.mem_singleton.1 h⟩
    · cases h
  · split at h
    · rename_i checking
      exact .inr (.inr ⟨rfl, Option.isSome_iff_ne_none.1 checking, ⟨_, _, rfl⟩,
        List.mem_singleton.1 h⟩)
    · cases h
  · exact .inr (.inl ⟨rfl, List.mem_singleton.1 h⟩)
  · cases h

/-! ## Time -/

theorem setup_fire (live : s.cancelled = false) (now : Nat) (timer : Timer) :
    (s.fire now timer).setup = s.setup := by
  rcases gear_fire now live timer with same | ⟨-, same⟩ | ⟨kind, same⟩ <;>
    exact congrArg Gear.setup same

theorem tickDeadlines_eq (s : Session) (now : Nat) : s.tickDeadlines now =
    (s.later now).firedDeadlines now (s.timers.filter fun t => t.1 ≤ now) := by
  have same : s.reportUnchanged.timers = s.timers :=
    congrArg Gear.timers (gear_of_background background_reportUnchanged)
  simp only [tickDeadlines, later, same]

/-- A timer sets a deadline if it is that of a countdown which is not over. -/
theorem mem_timerDeadlines {timer : Timer} : d ∈ s.timerDeadlines now timer ↔
    ∃ kind e due, timer = .callTick kind ∧ s.entry? kind = some e ∧
      e.verification.call = some (.waiting due) ∧ now < due ∧
        d = now + s.setup.settings.callTick := by
  cases timer with
  | callTick kind =>
      unfold timerDeadlines
      dsimp only
      cases he : s.entry? kind with
      | none => simp [he]
      | some e =>
          rw [Option.bind_some]
          cases stage : e.verification.call with
          | none => simp [he, stage]
          | some call =>
              cases call with
              | waiting due =>
                  by_cases late : due ≤ now
                  · simp [he, stage, late, Nat.not_lt.2 late]
                  · simp [he, stage, late, Nat.not_le.1 late]
              | _ => simp [he, stage]
  | _ => simp [timerDeadlines]

theorem mem_firedDeadlines_cons {t : Nat × Timer} {rest : List (Nat × Timer)} :
    d ∈ s.firedDeadlines now (t :: rest) ↔ s.cancelled = false ∧
      (d ∈ s.timerDeadlines now t.2 ∨ d ∈ (s.fire now t.2).firedDeadlines now rest) := by
  rw [firedDeadlines]
  split <;> simp [*]

/-- A tick looks at countdowns again, and sets no other deadline. -/
theorem eq_of_mem_firedDeadlines {due : List (Nat × Timer)} (h : d ∈ s.firedDeadlines now due) :
    d = now + s.setup.settings.callTick := by
  induction due generalizing s with
  | nil => cases h
  | cons t rest ih =>
      obtain ⟨live, h | h⟩ := mem_firedDeadlines_cons.1 h
      · obtain ⟨-, -, -, -, -, -, -, sum⟩ := mem_timerDeadlines.1 h
        exact sum
      · rw [ih h, setup_fire live]

/-! ## All deadlines -/

/-- A deadline is one of the intervals away, or the expiry of a password or the time of a call. -/
theorem deadline_cases (h : d ∈ s.deadlines now a) :
    (∃ amount ∈ [s.setup.settings.shortPoll, s.setup.settings.closeDelay,
        s.setup.settings.callTick], d = now + amount) ∨
      (s.Accepts a ∧ d = now + s.setup.settings.rememberFor) ∨
      ∃ code, s.Announces a code ∧ d = now + 1000 * code.timeout.toNat := by
  cases a with
  | tick =>
      have h : d ∈ s.tickDeadlines now := h
      rw [tickDeadlines_eq] at h
      have setup : (s.later now).setup = s.setup := congrArg Gear.setup (gear_later s now)
      exact .inl ⟨_, by simp, setup ▸ eq_of_mem_firedDeadlines h⟩
  | reply r =>
      have h : d ∈ s.replyDeadlines now r := h
      cases live : s.cancelled with
      | true =>
          rw [replyDeadlines, if_pos live] at h
          cases h
      | false =>
          rcases (mem_replyDeadlines live).1 h with
            ⟨errand, ht, waiting, hd⟩ | ⟨kind, e, ht, he, waiting, hd⟩
          · rcases errandDeadlines_cases hd with
              ⟨-, sum⟩ | ⟨-, sum⟩ | ⟨rfl, checking, ⟨elements, errors, ok⟩, sum⟩
            · exact .inl ⟨_, by simp, sum⟩
            · exact .inl ⟨_, by simp, sum⟩
            · obtain ⟨⟨id, pending⟩, outcome⟩ := r
              cases ht
              cases ok
              exact .inr (.inl ⟨⟨live, checking, id, elements, errors, waiting, rfl⟩, sum⟩)
          · obtain ⟨seconds, announced, sum⟩ := mem_codeDeadlines.1 hd
            obtain ⟨rfl, code, ok, call, positive, rfl⟩ := countdown?_eq_some.1 announced
            rcases sum with sum | sum
            · obtain ⟨⟨id, pending⟩, outcome⟩ := r
              cases ht
              cases ok
              exact .inr (.inr ⟨code, ⟨live, call, positive, e, id, he, waiting, rfl⟩, sum⟩)
            · exact .inl ⟨_, by simp, sum⟩
  | _ => cases h

theorem Accepts.mem_deadlines (h : s.Accepts a) :
    now + s.setup.settings.rememberFor ∈ s.deadlines now a := by
  obtain ⟨live, checking, id, elements, errors, waiting, rfl⟩ := h
  let r : Reply := ⟨⟨id, .errand .availableElements⟩, .ok (.availableElements elements errors)⟩
  show _ ∈ s.replyDeadlines now r
  refine (mem_replyDeadlines live).2 (.inl ⟨.availableElements, rfl, waiting, ?_⟩)
  simp [r, errandDeadlines, Option.isSome_iff_ne_none.2 checking]

theorem Announces.mem_deadlines {code : PhoneCode} (h : s.Announces a code) :
    now + 1000 * code.timeout.toNat ∈ s.deadlines now a := by
  obtain ⟨live, call, positive, e, id, he, waiting, rfl⟩ := h
  let r : Reply := ⟨⟨id, .task .sendCode .phone⟩, .ok (.phoneCode code)⟩
  show _ ∈ s.replyDeadlines now r
  refine (mem_replyDeadlines live).2 (.inr ⟨.phone, e, rfl, he, waiting, ?_⟩)
  exact mem_codeDeadlines.2
    ⟨_, countdown?_eq_some.2 ⟨rfl, code, rfl, call, positive, rfl⟩, .inl rfl⟩

theorem attempt_eq_none : s.attempt now a = none ↔ ∃ d ∈ s.deadlines now a, Clock.limit ≤ d := by
  simp [attempt]

theorem attempt_eq_some {t : Session × Answer} : s.attempt now a = some t ↔
    (∀ d ∈ s.deadlines now a, d < Clock.limit) ∧ s.act now a = t := by
  simp [attempt]

/-- Where the intervals fit, only the expiry of a password and the time of a call can be too far. -/
theorem attempt_eq_none_iff (fits : ∀ amount ∈ [s.setup.settings.shortPoll,
      s.setup.settings.closeDelay, s.setup.settings.callTick], now + amount < Clock.limit) :
    s.attempt now a = none ↔
      (s.Accepts a ∧ Clock.limit ≤ now + s.setup.settings.rememberFor) ∨
        ∃ code, s.Announces a code ∧ Clock.limit ≤ now + 1000 * code.timeout.toNat := by
  rw [attempt_eq_none]
  constructor
  · rintro ⟨d, hd, far⟩
    rcases deadline_cases hd with ⟨amount, ha, rfl⟩ | ⟨accepts, rfl⟩ | ⟨code, announces, rfl⟩
    · exact absurd (fits amount ha) (Nat.not_lt.2 far)
    · exact .inl ⟨accepts, far⟩
    · exact .inr ⟨code, announces, far⟩
  · rintro (⟨accepts, far⟩ | ⟨code, announces, far⟩)
    · exact ⟨_, accepts.mem_deadlines, far⟩
    · exact ⟨_, announces.mem_deadlines, far⟩

end Session

end IdentityForm
