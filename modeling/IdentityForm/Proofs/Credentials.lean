import IdentityForm.Credentials
import Mathlib.Data.List.Basic

/-! # The register of the password

Calls come to the register one after the other, and what it holds is told by them alone: the password
of the last write, as long as nobody has looked at it after it had expired. A look at an expired
password drops it. As time does not run backwards, nobody can see whether that has happened: a password
is given out exactly if it was the last one written and has not expired.
-/

namespace IdentityForm.Credentials

/-- What is asked of the register. -/
inductive Call where
  | remember (password : String) (expires : Nat)
  | get
  | forget
  | forgetIfExpired
  | expires
  deriving DecidableEq, Repr

def Call.writes : Call → Bool
  | .remember _ _ | .forget => true
  | _ => false

/-- The call drops what has expired. -/
def Call.looks : Call → Bool
  | .get | .forgetIfExpired => true
  | _ => false

def perform (c : Credentials) (now : Nat) : Call → Credentials
  | .remember password expires => c.remember password expires
  | .get => (c.get now).2
  | .forget => c.forget
  | .forgetIfExpired => (c.forgetIfExpired now).2
  | .expires => c

def performAll (c : Credentials) (now : Nat) (calls : List Call) : Credentials :=
  calls.foldl (fun c call => c.perform now call) c

/-- Calls with their times, the last one first. -/
abbrev Log := List (Nat × Call)

def after : Log → Credentials
  | [] => empty
  | (now, call) :: log => (after log).perform now call

def Log.Until (log : Log) (now : Nat) : Prop := ∀ c ∈ log, c.1 ≤ now

/-- A password was written, and nothing was since. -/
def Log.Wrote (log : Log) (r : Remembered) : Prop :=
  ∃ since now before, log = since ++ (now, .remember r.password r.expires) :: before ∧
    ∀ c ∈ since, c.2.writes = false

/-- A password was written, nothing was since, and nobody has looked at it after it had expired. -/
def Log.Holds (log : Log) (r : Remembered) : Prop :=
  ∃ since now before, log = since ++ (now, .remember r.password r.expires) :: before ∧
    ∀ c ∈ since, c.2.writes = false ∧ (c.2.looks = true → c.1 < r.expires)

/-- Somebody has looked at the password after it had expired, and it has not been written again. -/
def Log.Refused (log : Log) (password : String) : Prop :=
  ∃ since now call before expires, log = since ++ (now, call) :: before ∧ call.looks = true ∧
    Log.Holds before ⟨password, expires⟩ ∧ expires ≤ now ∧
    ∀ c ∈ since, ∀ expires, c.2 ≠ .remember password expires

variable {c : Credentials} {now : Nat} {call : Call} {calls : List Call} {log : Log}
  {r : Remembered} {password : String}

/-! ## One call -/

@[simp] theorem performAll_nil (c : Credentials) (now : Nat) : c.performAll now [] = c := rfl

theorem get_eq_some : (c.get now).1 = some password ↔
    ∃ expires, c.slot = some ⟨password, expires⟩ ∧ now < expires := by
  unfold get
  cases held : c.slot with
  | none => simp
  | some r =>
      obtain ⟨password', expires'⟩ := r
      by_cases valid : now < expires'
      · simp [valid]
      · simp [valid]

theorem forgetIfExpired_eq_true : (c.forgetIfExpired now).1 = true ↔
    ∃ r, c.slot = some r ∧ r.expires ≤ now := by
  unfold forgetIfExpired
  cases held : c.slot with
  | none => simp
  | some r =>
      by_cases expired : r.expires ≤ now
      · simp [expired]
      · simp [expired]

theorem slot_forgetIfExpired (expired : (c.forgetIfExpired now).1 = true) :
    (c.forgetIfExpired now).2.slot = none := by
  obtain ⟨r, held, past⟩ := forgetIfExpired_eq_true.1 expired
  simp only [forgetIfExpired, held, if_pos past]
  rfl

theorem expires?_eq_some {expires : Nat} :
    c.expires? = some expires ↔ ∃ password, c.slot = some ⟨password, expires⟩ := by
  unfold expires?
  cases c.slot with
  | none => simp
  | some r =>
      obtain ⟨password', expires'⟩ := r
      simp

/-- A look keeps what has not expired. -/
theorem slot_perform_of_looks (looks : call.looks = true) :
    (c.perform now call).slot = some r ↔ c.slot = some r ∧ now < r.expires := by
  cases call with
  | get =>
      unfold perform get
      cases held : c.slot with
      | none => simp [held]
      | some r' => grind [empty]
  | forgetIfExpired =>
      unfold perform forgetIfExpired
      cases held : c.slot with
      | none => simp [held]
      | some r' => grind [empty]
  | _ => cases looks

/-! ## A log -/

theorem Log.holds_cons : Log.Holds ((now, call) :: log) r ↔
    call = .remember r.password r.expires ∨
      call.writes = false ∧ (call.looks = true → now < r.expires) ∧ log.Holds r := by
  constructor
  · rintro ⟨since, now', before, same, kept⟩
    cases since with
    | nil =>
        obtain ⟨rfl, rfl⟩ := List.cons.inj same |>.imp (congrArg Prod.snd) id
        exact .inl rfl
    | cons c since =>
        obtain ⟨rfl, rfl⟩ := List.cons.inj same
        obtain ⟨⟨silent, valid⟩, kept⟩ := List.forall_mem_cons.1 kept
        exact .inr ⟨silent, valid, since, now', before, rfl, kept⟩
  · rintro (rfl | ⟨silent, valid, since, now', before, rfl, kept⟩)
    · exact ⟨[], now, log, rfl, fun _ h => absurd h List.not_mem_nil⟩
    · exact ⟨(now, call) :: since, now', before, rfl, List.forall_mem_cons.2 ⟨⟨silent, valid⟩, kept⟩⟩

/-- The register holds what the log says. -/
theorem slot_after (log : Log) : (after log).slot = some r ↔ log.Holds r := by
  induction log with
  | nil =>
      refine iff_of_false nofun ?_
      rintro ⟨since, now, before, same, -⟩
      cases since <;> cases same
  | cons c log ih =>
      obtain ⟨now, call⟩ := c
      rw [after, Log.holds_cons, ← ih]
      cases call with
      | remember password expires =>
          obtain ⟨password', expires'⟩ := r
          simp [perform, remember, Call.writes]
      | forget => simp [perform, forget, empty, Call.writes]
      | expires => simp [perform, Call.writes, Call.looks]
      | get =>
          rw [slot_perform_of_looks rfl]
          simp [Call.writes, Call.looks, and_comm]
      | forgetIfExpired =>
          rw [slot_perform_of_looks rfl]
          simp [Call.writes, Call.looks, and_comm]

theorem Log.Holds.wrote (h : log.Holds r) : log.Wrote r := by
  obtain ⟨since, now, before, same, kept⟩ := h
  exact ⟨since, now, before, same, fun c hc => (kept c hc).1⟩

/-- Nobody can have looked too late at a password that has not expired even now. -/
theorem Log.Wrote.holds (h : log.Wrote r) (past : log.Until now) (valid : now < r.expires) :
    log.Holds r := by
  obtain ⟨since, earlier, before, rfl, kept⟩ := h
  refine ⟨since, earlier, before, rfl, fun c hc => ⟨kept c hc, fun _ => ?_⟩⟩
  exact Nat.lt_of_le_of_lt (past c (List.mem_append_left _ hc)) valid

/-- The password that is given out is the last one that was written, until it expires. -/
theorem get_after (past : log.Until now) :
    ((after log).get now).1 = some password ↔
      ∃ expires, log.Wrote ⟨password, expires⟩ ∧ now < expires := by
  simp only [get_eq_some, slot_after]
  constructor
  · rintro ⟨expires, held, valid⟩
    exact ⟨expires, held.wrote, valid⟩
  · rintro ⟨expires, wrote, valid⟩
    exact ⟨expires, wrote.holds past valid, valid⟩

theorem Log.Holds.unique {r' : Remembered} (h : log.Holds r) (h' : log.Holds r') : r = r' :=
  Option.some.inj (((slot_after log).2 h).symm.trans ((slot_after log).2 h'))

/-- A password that was refused as expired is not held until it is written again. -/
theorem Log.Refused.not_holds (h : log.Refused password) (expires : Nat) :
    ¬ log.Holds ⟨password, expires⟩ := by
  obtain ⟨since, now, call, before, expired, rfl, looks, held, past, unwritten⟩ := h
  induction since with
  | nil =>
      intro holds
      rcases Log.holds_cons.1 holds with rfl | ⟨-, valid, held'⟩
      · cases looks
      · cases held.unique held'
        exact absurd (valid looks) (Nat.not_lt.2 past)
  | cons c since ih =>
      obtain ⟨other, unwritten⟩ := List.forall_mem_cons.1 unwritten
      intro holds
      rcases Log.holds_cons.1 holds with written | ⟨-, -, held'⟩
      · exact other expires written
      · exact ih unwritten held'

theorem after_append (now : Nat) (calls : List Call) (log : Log) :
    after ((calls.map (now, ·)).reverse ++ log) = (after log).performAll now calls := by
  induction calls generalizing log with
  | nil => rfl
  | cons call calls ih =>
      rw [List.map_cons, List.reverse_cons, List.append_assoc]
      exact ih ((now, call) :: log)

end IdentityForm.Credentials
