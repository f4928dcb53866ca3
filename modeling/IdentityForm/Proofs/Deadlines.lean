import IdentityForm.Proofs.Background.Drive
import IdentityForm.Proofs.Submitted
import IdentityForm.Proofs.Unreported
import IdentityForm.Session.Pump

/-! # Deadlines

The next deadline tells exactly when a tick has something to do. A tick before it changes nothing, and
a tick leaves nothing that is due at its own time. So whoever ticks at every deadline misses nothing,
and never ticks twice at one time.
-/

namespace IdentityForm

namespace Session

variable {s s' : Session} {now : Nat} {a : Action}

/-- Nothing is due: there is no deadline, or it is still to come. -/
def Rests (s : Session) (now : Nat) : Prop := ∀ due ∈ s.nextDeadline? now, now < due

theorem rests_iff : s.Rests now ↔ s.unreported = [] ∧ ∀ t ∈ s.timers, now < t.1 := by
  unfold Rests nextDeadline?
  cases queue : s.unreported with
  | cons kind rest => simp
  | nil =>
      simp only [List.isEmpty_nil, if_true, true_and]
      constructor
      · intro first t ht
        cases least : (s.timers.map (·.1)).min? with
        | none =>
            rw [List.min?_eq_none_iff, List.map_eq_nil_iff] at least
            exact absurd (least ▸ ht) List.not_mem_nil
        | some due =>
            have before := (List.min?_eq_some_iff.1 least).2 t.1 (List.mem_map_of_mem ht)
            exact Nat.lt_of_lt_of_le (first due least) before
      · intro early due least
        obtain ⟨t, ht, rfl⟩ := List.mem_map.1 (List.min?_eq_some_iff.1 least).1
        exact early t ht

/-! ## One tick -/

theorem reportUnchanged_of_nil (queue : s.unreported = []) : s.reportUnchanged = s := by
  have same : { s with unreported := [] } = s := by
    rw [← queue]
  unfold reportUnchanged
  split
  · rw [queue]
    exact same
  · rw [queue]
    exact same

/-- A tick with nothing due changes nothing. -/
theorem tick_of_rests (rests : s.Rests now) : s.tick now = s := by
  obtain ⟨queue, early⟩ := rests_iff.1 rests
  have none_due : s.timers.filter (fun t => t.1 ≤ now) = [] := by
    simpa [List.filter_eq_nil_iff] using fun time timer ht => early (time, timer) ht
  have all_later : s.timers.filter (fun t => ¬ t.1 ≤ now) = s.timers := by
    simpa [List.filter_eq_self] using fun time timer ht => early (time, timer) ht
  rw [tick_eq_fires, none_due]
  show s.later now = s
  unfold later
  rw [reportUnchanged_of_nil queue, all_later]

theorem unreported_cancelSurely (live : s.cancelled = false) : s.cancelSurely.unreported = [] := by
  unfold cancelSurely
  rw [if_neg (by simp [live])]
  rfl

theorem early_after_fire (ticking : 0 < s.setup.settings.callTick) (live : s.cancelled = false)
    (timer : Timer) (early : ∀ t ∈ s.timers, now < t.1) :
    ∀ t ∈ (s.fire now timer).timers, now < t.1 := by
  have timers {g : Gear} (same : (s.fire now timer).gear = g) :
      (s.fire now timer).timers = g.timers := congrArg Gear.timers same
  rcases gear_fire now live timer with same | ⟨-, closed⟩ | ⟨kind, armed⟩
  · rw [timers same]
    exact early
  · rw [timers closed]
    exact List.forall_mem_nil _
  · rw [timers armed]
    intro t ht
    simp only [Gear.rearm, Option.map_some, Option.toList_some, List.mem_append,
      List.mem_singleton] at ht
    rcases ht with ht | rfl
    · exact early t (List.mem_of_mem_filter ht)
    · exact Nat.lt_add_of_pos_right ticking

/-- A tick leaves nothing that is due. -/
theorem rests_tick (ticking : 0 < s.setup.settings.callTick) (live : s.cancelled = false) :
    (s.tick now).Rests now := by
  have kept : (s.tick now).setup = s.setup ∧ (∀ t ∈ (s.tick now).timers, now < t.1) ∧
      ((s.tick now).cancelled = true → (s.tick now).unreported = []) := by
    rw [tick_eq_fires]
    refine fires_induction now (P := fun _ u => u.setup = s.setup ∧
      (∀ t ∈ u.timers, now < t.1) ∧ (u.cancelled = true → u.unreported = [])) ?_ ?_ ⟨?_, ?_, ?_⟩
    · rintro t rest u live ⟨setup, early, -⟩
      refine ⟨?_, early_after_fire (setup ▸ ticking) live t.2 early, fun closed => ?_⟩
      · rcases gear_fire now live t.2 with same | ⟨-, same⟩ | ⟨kind, same⟩ <;>
          exact (congrArg Gear.setup same).trans setup
      · rcases gear_fire now live t.2 with same | ⟨closing, -⟩ | ⟨kind, same⟩
        · exact absurd ((congrArg Gear.cancelled same).symm.trans closed) (by simp [gear, live])
        · rw [closing]
          exact unreported_cancelSurely live
        · exact absurd ((congrArg Gear.cancelled same).symm.trans closed)
            (by simp [gear, Gear.rearm, live])
    · exact fun t rest u _ kept => kept
    · exact congrArg Gear.setup (gear_later s now)
    · intro t ht
      have later : t ∈ s.timers.filter fun t => ¬ t.1 ≤ now := ht
      simpa using (List.mem_filter.1 later).2
    · intro closed
      have still := congrArg Gear.cancelled (gear_later s now)
      exact absurd (still.symm.trans closed) (by simp [gear, live])
  obtain ⟨-, early, emptied⟩ := kept
  refine rests_iff.2 ⟨?_, early⟩
  cases closed : (s.tick now).cancelled with
  | true => exact emptied closed
  | false => exact unreported_tick closed

end Session

/-! ## Timers that are armed once -/

def Gear.Distinct (g : Gear) : Prop := (g.timers.map Prod.snd).Nodup

theorem Gear.Distinct.filter {g : Gear} (distinct : g.Distinct) (p : Nat × Timer → Bool) :
    Gear.Distinct { g with timers := g.timers.filter p } :=
  distinct.sublist (List.filter_sublist.map Prod.snd)

theorem Gear.Distinct.rearm {g : Gear} (distinct : g.Distinct) (alarm? : Option (Timer × Option Nat)) :
    (g.rearm alarm?).Distinct := by
  cases alarm? with
  | none => exact distinct
  | some alarm =>
      obtain ⟨timer, due?⟩ := alarm
      have others := distinct.filter fun t => t.2 ≠ timer
      cases due? with
      | none => simpa [Gear.rearm] using others
      | some due =>
          show List.Nodup _
          rw [Gear.rearm, List.map_append]
          refine List.nodup_append.2 ⟨others, List.nodup_singleton timer, ?_⟩
          rintro x hx y hy rfl
          obtain ⟨t, ht, rfl⟩ := List.mem_map.1 hx
          have other := (List.mem_filter.1 ht).2
          have same : t.2 = timer := List.mem_singleton.1 hy
          simp [same] at other

namespace Session

variable {s s' : Session} {now : Nat} {a : Action}

theorem distinct_tick (distinct : s.gear.Distinct) : (s.tick now).gear.Distinct := by
  rw [tick_eq_fires]
  refine fires_induction now (P := fun _ u => u.gear.Distinct) ?_ ?_ ?_
  · rintro t rest u live distinct
    rcases gear_fire now live t.2 with same | ⟨-, closed⟩ | ⟨kind, armed⟩
    · exact same ▸ distinct
    · rw [closed]
      exact List.nodup_nil
    · exact armed ▸ distinct.rearm _
  · exact fun t rest u _ kept => kept
  · exact gear_later s now ▸ distinct.filter _

theorem distinct_act (live : s.cancelled = false) (live' : (s.act now a).1.cancelled = false)
    (distinct : s.gear.Distinct) : (s.act now a).1.gear.Distinct := by
  cases act_drives live live' with
  | rearms gear => exact gear ▸ distinct.rearm _
  | dropped same => exact same.symm ▸ distinct
  | loads kind _ loads =>
      have same : (s.act now a).1.gear.timers = s.gear.timers := loads.timers_eq
      unfold Gear.Distinct
      rw [same]
      exact distinct
  | lands event id _ _ gear => exact gear ▸ distinct
  | restarts _ gear =>
      rw [gear]
      exact List.nodup_nil
  | ticks timers ha gear =>
      subst ha
      exact distinct_tick distinct

end Session

/-! ## The pump -/

namespace Pump

variable {p : Pump} {limit fuel : Nat}

/-- All that is due by a time is done, or the pump has stopped with the session closed. -/
def Settled (p : Pump) (limit : Nat) : Prop :=
  if p.running then
    p.session.cancelled = false ∧ ∀ due ∈ p.session.nextDeadline? p.now, limit < due
  else p.session.cancelled = true

/-- After the first tick every other one is at a later time, so that the milliseconds that are left
are enough. -/
theorem turn_settled (running : p.running = true) (ticking : 0 < p.session.setup.settings.callTick)
    (enough : limit - p.now + 1 ≤ fuel)
    (rested : p.session.Rests p.now ∨ limit - p.now + 2 ≤ fuel) :
    (turn limit fuel p).Settled limit := by
  induction fuel generalizing p with
  | zero => omega
  | succ fuel ih =>
      unfold turn
      rw [if_neg (by simp [running])]
      split
      · rename_i closed
        exact closed
      · rename_i live
        have live : p.session.cancelled = false := eq_false_of_ne_true live
        split
        · rename_i none_left
          simp [Settled, running, live, none_left]
        · rename_i due first
          split
          · rename_i come
            have setup : (p.session.tick (max p.now due)).setup = p.session.setup :=
              (p.session.act_advance (max p.now due) .tick).lasting.1
            have fewer : limit - max p.now due + 1 ≤ fuel := by
              rcases rested with rests | more
              · have later : p.now < due := rests due first
                omega
              · omega
            apply ih
            · exact running
            · exact setup ▸ ticking
            · exact fewer
            · exact .inl (Session.rests_tick ticking live)
          · rename_i ahead
            simp [Settled, running, live, first, Nat.lt_of_not_le ahead]

theorem settle_settled (limit : Nat) (running : p.running = true)
    (ticking : 0 < p.session.setup.settings.callTick) : (p.settle limit).Settled limit :=
  turn_settled running ticking (by omega) (.inr (by omega))

/-- A pump that has settled has nothing more to do. -/
theorem Settled.settle_eq (settled : p.Settled limit) : p.settle limit = p := by
  unfold Settled at settled
  unfold settle turn
  split at settled
  · rename_i running
    obtain ⟨live, ahead⟩ := settled
    rw [if_neg (by simp [running]), if_neg (by simp [live])]
    split
    · rfl
    · rename_i due first
      rw [if_neg (Nat.not_le.2 (ahead due first))]
  · rename_i stopped
    rw [if_pos (by simp [stopped])]

end Pump

namespace Run

variable {setup : Setup} {past : History} {s : Session}

theorem distinct_timers (run : Run setup past s) (live : s.cancelled = false) :
    s.gear.Distinct := by
  induction run with
  | start => exact List.nodup_nil
  | @step past s now action run _ _ ih =>
      have before := (run.acts now action).live live
      exact Session.distinct_act before live (ih before)

/-- Deadlines and ticks agree. As long as nothing is due a tick changes nothing and sends nothing; any
other one leaves nothing that is due. No timer is armed twice. And a pump that ticks at every deadline
settles: all that is due is done, and it has nothing more to do until the next deadline. -/
theorem ticks_at_deadlines (run : Run setup past s) (live : s.cancelled = false)
    (ticking : 0 < setup.settings.callTick) :
    (∀ now, s.Rests now → Turn.effects ⟨s, now, .tick⟩ = [] ∧ Turn.after ⟨s, now, .tick⟩ = s) ∧
      (∀ now, (Turn.after ⟨s, now, .tick⟩).Rests now) ∧
      (s.timers.map Prod.snd).Nodup ∧
      ∀ now limit, (Pump.settle ⟨s, now, true⟩ limit).Settled limit ∧
        (Pump.settle ⟨s, now, true⟩ limit).settle limit = Pump.settle ⟨s, now, true⟩ limit := by
  have ticking : 0 < s.setup.settings.callTick := run.setup_eq ▸ ticking
  refine ⟨fun now rests => ?_, fun now => ?_, run.distinct_timers live, fun now limit => ?_⟩
  · have same : (s.act now .tick).1 = s := Session.tick_of_rests rests
    have silent := run.outbox_eq_nil
    constructor
    · rw [Turn.effects, same, silent]
    · rw [Turn.after, same, Session.drain, ← silent]
  · exact (Session.rests_tick ticking live : (s.tick now).Rests now)
  · have settled : (Pump.settle ⟨s, now, true⟩ limit).Settled limit :=
      Pump.settle_settled limit rfl ticking
    exact ⟨settled, settled.settle_eq⟩

/-- A call is counted down to. A tick before the deadline changes nothing, the one at it arms the timer
for a second later, and a pump that wakes up late settles. -/
theorem ticks_at_deadlines_in_countdown :
    let actions := [(6, .reply ⟨⟨5, .task .sendCode .phone⟩,
          .ok (.phoneCode ⟨.sms 5, some (.call 5), 2⟩)⟩),
        (5, .reply ⟨⟨4, .task .save .phone⟩, .failed ⟨"PHONE_VERIFICATION_NEEDED"⟩⟩),
        (4, .save .phone (.ofTexts [(Kind.plainField, "123")]))] ++
      opening ⟨1, [[⟨.phone, false, false, false⟩]], none⟩ []
    let s := (play (.fresh .plain .empty) actions).2
    s.nextDeadline? 6 = some 1006 ∧ Turn.after ⟨s, 1005, .tick⟩ = s ∧
      (Turn.after ⟨s, 1006, .tick⟩).nextDeadline? 1006 = some 2006 ∧
      (Turn.after ⟨s, 1006, .tick⟩).Rests 1006 ∧ (Pump.settle ⟨s, 2100, true⟩ 2110).Settled 2110 := by
  intro actions s
  have playable : Playable (.fresh .plain .empty) actions := by decide +kernel
  have agree := ticks_at_deadlines (.of_playable playable) (s := s) (by decide +kernel) (by decide)
  obtain ⟨before, after, -, pump⟩ := agree
  have first : s.nextDeadline? 1005 = some 1006 := by decide +kernel
  have rests : s.Rests 1005 := by
    unfold Session.Rests
    rw [first]
    simp
  exact ⟨by decide +kernel, (before 1005 rests).2, by decide +kernel, after 1006, (pump 2100 2110).1⟩

end Run

end IdentityForm
