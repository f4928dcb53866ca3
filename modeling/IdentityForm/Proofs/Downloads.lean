import IdentityForm.Proofs.Background.Drive
import IdentityForm.Proofs.Committed
import IdentityForm.Proofs.Outstanding

/-! # Downloads

The session keeps the ids of the files that are being downloaded. They are those for which the history
tells that a download began, and neither ended nor was stopped since. No file is downloaded twice at
a time, however many slots show it, and closing and starting over stop every download once.
-/

namespace IdentityForm

/-- The downloads that are on their way after one more effect. -/
def Effect.fly (flights : List UInt64) : Effect → List UInt64
  | .request (.downloadFile key _ _) => key :: flights
  | .request (.cancelDownload key) => flights.filter (· ≠ key)
  | _ => flights

def Effect.grounds? : Effect → Option UInt64
  | .request (.cancelDownload key) => some key
  | _ => none

def Session.Action.landed? : Session.Action → Option UInt64
  | .file event => event.landed?
  | _ => none

/-- The downloads that are on their way: each that began and whose end was not told, and that was not
stopped. One that began twice is counted twice. -/
def History.flights : History → List UInt64
  | [] => []
  | t :: past =>
    t.effects.foldl Effect.fly ((flights past).filter fun key => t.action.landed? ≠ some key)

/-! ## The effects that count -/

namespace Effect

variable {x : Effect} {es : List Effect} {flights keys : List UInt64}

theorem fly_of_quiet (quiet : x.isTraffic = false) : fly flights x = flights := by
  cases x with
  | notice n => rfl
  | request r => cases r <;> first | rfl | cases quiet

theorem grounds?_of_quiet (quiet : x.isTraffic = false) : x.grounds? = none := by
  cases x with
  | notice n => rfl
  | request r => cases r <;> first | rfl | cases quiet

/-- Only downloads that begin or are stopped count. -/
theorem foldl_fly_filter (es : List Effect) :
    es.foldl fly flights = (es.filter isTraffic).foldl fly flights := by
  induction es generalizing flights with
  | nil => rfl
  | cons x rest ih =>
      cases traffic : x.isTraffic with
      | true => rw [List.filter_cons_of_pos traffic, List.foldl_cons, List.foldl_cons, ih]
      | false =>
          rw [List.filter_cons_of_neg (by simp [traffic]), List.foldl_cons, fly_of_quiet traffic, ih]

theorem filterMap_grounds?_filter (es : List Effect) :
    es.filterMap grounds? = (es.filter isTraffic).filterMap grounds? := by
  rw [List.filterMap_filter]
  refine List.filterMap_congr fun x _ => ?_
  cases traffic : x.isTraffic with
  | true => rfl
  | false => exact grounds?_of_quiet traffic

theorem foldl_fly_stop (keys : List UInt64) :
    (keys.map fun key => request (.cancelDownload key)).foldl fly flights =
      flights.filter (· ∉ keys) := by
  induction keys generalizing flights with
  | nil => simp
  | cons key rest ih =>
      rw [List.map_cons, List.foldl_cons, ih]
      show (flights.filter (· ≠ key)).filter (· ∉ rest) = _
      rw [List.filter_filter]
      refine List.filter_congr fun other _ => ?_
      simp [Bool.and_comm]

end Effect

namespace Session

variable {s s' : Session} {now : Nat} {a : Action} {id : UInt64} {ids flights : List UInt64}

theorem insertId_perm (free : id ∉ ids) : (insertId id ids).Perm (id :: ids) := by
  induction ids with
  | nil => exact .refl _
  | cons other rest ih =>
      obtain ⟨apart, free⟩ := not_or.1 (List.mem_cons.not.1 free)
      rw [insertId, if_neg apart]
      split
      · exact .refl _
      · exact ((ih free).cons other).trans (.swap id other rest)

/-! ## One action -/

structure Accounts (flights ids : List UInt64) : Prop where
  perm : flights.Perm ids
  nodup : flights.Nodup

theorem Accounts.filter (accounts : Accounts flights ids) (p : UInt64 → Bool) :
    Accounts (flights.filter p) (ids.filter p) :=
  ⟨accounts.perm.filter p, accounts.nodup.filter p⟩

/-- Every download that begins is of a file that none is under way of. -/
theorem Accounts.loads {b b' : Background} (h : b.Loads b')
    (accounts : Accounts (b.traffic.foldl Effect.fly flights) b.downloads) :
    Accounts (b'.traffic.foldl Effect.fly flights) b'.downloads := by
  induction h with
  | refl => exact accounts
  | tail _ load ih =>
      obtain ⟨id, size, free, rfl⟩ := load
      show Accounts ((_ ++ [Effect.request (.downloadFile id id size)]).foldl Effect.fly flights)
        (insertId id _)
      rw [List.foldl_append]
      refine ⟨(ih.perm.cons id).trans (insertId_perm free).symm, List.nodup_cons.2 ⟨?_, ih.nodup⟩⟩
      exact fun flying => free (ih.perm.mem_iff.1 flying)

/-- Nothing is left on its way when all is stopped. -/
theorem Accounts.stop {g : Gear} (quiet : g.traffic = []) (accounts : Accounts flights g.downloads) :
    Accounts (g.stop.traffic.foldl Effect.fly flights) g.stop.downloads := by
  have none_left : g.stop.traffic.foldl Effect.fly flights = [] := by
    show (g.traffic ++ _).foldl Effect.fly flights = []
    rw [quiet, List.nil_append, Effect.foldl_fly_stop, List.filter_eq_nil_iff]
    intro key flying
    simpa using accounts.perm.mem_iff.1 flying
  rw [none_left]
  exact ⟨.refl _, List.nodup_nil⟩

theorem grounds_of_stopped (silent : s.outbox = [])
    (stopped : s'.gear.traffic = s.gear.stop.traffic) :
    s'.outbox.filterMap Effect.grounds? = s.downloads := by
  have traffic : s'.outbox.filter Effect.isTraffic =
      s.downloads.map fun id => .request (.cancelDownload id) := by
    refine Eq.trans stopped ?_
    simp [Gear.stop, gear, silent]
  rw [Effect.filterMap_grounds?_filter, traffic, List.filterMap_map]
  exact List.filterMap_some

theorem Accounts.act (silent : s.outbox = []) (live : s.cancelled = false)
    (live' : (s.act now a).1.cancelled = false) (accounts : Accounts flights s.downloads) :
    Accounts ((s.act now a).1.outbox.foldl Effect.fly
      (flights.filter fun key => a.landed? ≠ some key)) (s.act now a).1.downloads := by
  have quiet : s.gear.traffic = [] := by simp [gear, silent]
  have of_gear {g : Gear} {flights : List UInt64} (same : (s.act now a).1.gear = g)
      (accounts : Accounts (g.traffic.foldl Effect.fly flights) g.downloads) :
      Accounts ((s.act now a).1.outbox.foldl Effect.fly flights) (s.act now a).1.downloads := by
    subst same
    rw [Effect.foldl_fly_filter]
    exact accounts
  have still {g : Gear} (same : (s.act now a).1.gear = g) (traffic : g.traffic = s.gear.traffic)
      (downloads : g.downloads = s.gear.downloads) :
      Accounts ((s.act now a).1.outbox.foldl Effect.fly flights) (s.act now a).1.downloads := by
    refine of_gear same ?_
    rw [traffic, downloads, quiet]
    exact accounts
  cases landed : a.landed? with
  | some key =>
      obtain ⟨event, rfl⟩ : ∃ event, a = .file event := by
        cases a <;> first | exact ⟨_, rfl⟩ | cases landed
      have ended := background_handleFileEvent live event
      rw [show event.landed? = some key from landed] at ended
      refine of_gear (gear_of_background ended) ?_
      show Accounts ((s.outbox.filter Effect.isTraffic).foldl Effect.fly _) _
      rw [silent]
      have left : (flights.filter fun other => some key ≠ some other) =
          flights.filter (· ≠ key) := List.filter_congr fun other _ => by simp [eq_comm]
      rw [left]
      exact accounts.filter _
  | none =>
      have all_left : (flights.filter fun key => (none : Option UInt64) ≠ some key) = flights :=
        List.filter_eq_self.2 fun key _ => by simp
      rw [all_left]
      cases act_drives live live' with
      | rearms gear =>
          refine still gear ?_ ?_ <;> cases s.alarm? now a <;> rfl
      | dropped same => exact still (congrArg Session.gear same) rfl rfl
      | loads kind _ loads =>
          have started : Accounts (s.background.traffic.foldl Effect.fly flights)
              s.background.downloads := by
            rw [show s.background.traffic = [] from quiet]
            exact accounts
          exact of_gear rfl (started.loads loads)
      | lands event key ha ended =>
          subst ha
          exact absurd (landed.symm.trans ended) (by simp)
      | restarts _ gear => exact of_gear gear (accounts.stop quiet)
      | ticks timers _ gear => exact still gear rfl rfl

end Session

namespace Run

variable {setup : Setup} {past : History} {s : Session}

theorem flights_kept (run : Run setup past s) (live : s.cancelled = false) :
    Session.Accounts past.flights s.downloads := by
  induction run with
  | start => exact ⟨.refl _, List.nodup_nil⟩
  | @step past s now action run _ _ ih =>
      have before := (run.acts now action).live live
      exact (ih before).act run.outbox_eq_nil before live

/-- The accounting of downloads. The ids that an open session keeps are those of the downloads on
their way, no two of which are of one file. Closing and starting over stop each of them once. -/
theorem downloads_accounted (run : Run setup past s) (live : s.cancelled = false) :
    past.flights.Perm s.downloads ∧ past.flights.Nodup ∧
      (∀ now, (Turn.effects ⟨s, now, .cancelSurely⟩).filterMap Effect.grounds? = s.downloads) ∧
      ∀ now, (Turn.effects ⟨s, now, .restart⟩).filterMap Effect.grounds? = s.downloads := by
  have accounts := run.flights_kept live
  have closed : s.cancelSurely.gear.traffic = s.gear.stop.traffic := by
    rw [Session.gear_cancelSurely live]
  have restarted : s.restart.gear.traffic = s.gear.stop.traffic :=
    congrArg Gear.traffic (Session.gear_restart live)
  exact ⟨accounts.perm, accounts.nodup,
    fun _ => Session.grounds_of_stopped run.outbox_eq_nil closed,
    fun _ => Session.grounds_of_stopped run.outbox_eq_nil restarted⟩

/-- A file is shown in two slots, and a save rebuilds both while it is being downloaded. Opening the
editor again begins no second download, and closing stops the one. -/
theorem downloads_accounted_after_save :
    let scan : DatedFile := ⟨⟨7, 10, 0⟩, 1⟩
    let passport : StoredElement := .identity .passport ⟨"AB1", none, some scan, none, some scan, []⟩
    let kind : Kind := .identity .passport
    let actions := [(7, .startEdit kind),
        (6, .reply ⟨⟨4, .task .save kind⟩, .ok (.element passport)⟩),
        (5, .save kind (.ofTexts [("document_no", "AB2")])), (4, .startEdit kind)] ++
      opening passportForm [passport]
    let past := (play (.fresh .plain .empty) actions).1
    let s := (play (.fresh .plain .empty) actions).2
    s.downloads = [7] ∧ past.flights.Perm [7] ∧ past.flights.Nodup ∧
      past[0].effects.filter Effect.isTraffic = [] ∧
      (Turn.effects ⟨s, 8, .cancelSurely⟩).filterMap Effect.grounds? = [7] := by
  intro scan passport kind actions past s
  have playable : Playable (.fresh .plain .empty) actions := by decide +kernel
  have kept : s.downloads = [7] := by decide +kernel
  have accounted := downloads_accounted (.of_playable playable) (s := s) (by decide +kernel)
  obtain ⟨perm, nodup, stopped, -⟩ := accounted
  exact ⟨kept, kept ▸ perm, nodup, by decide +kernel, (stopped 8).trans kept⟩

end Run

end IdentityForm
