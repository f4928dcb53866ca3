import IdentityForm.Proofs.Renumbering.Operations
import IdentityForm.Proofs.Submitted

/-! # Starting over

A session that starts over before its form was accepted is a new session, except that it goes on
counting its requests. Whatever comes then, it does what the new session does, under the shifted ids.
The replies to requests from before are all that a new session could not get, and they change nothing.
-/

namespace IdentityForm

/-! ## Renumbered turns -/

namespace Turn

variable {n : Nat}

def answer (t : Turn) : Session.Answer := (t.before.act t.now t.action).2

/-- One turn is like another one, with all ids shifted. -/
structure Renumbers (n : Nat) (t u : Turn) : Prop where
  before : t.before = u.before.shift n
  now : t.now = u.now
  action : t.action = u.action.shift n
  effects : t.effects = u.effects.map (Effect.shift n)
  answer : t.answer = u.answer
  after : t.after = u.after.shift n

theorem renumbers_shift (n : Nat) (u : Turn) : (u.shift n).Renumbers n u := by
  have same := Session.act_shift (n := n) u.before u.now u.action
  exact { before := rfl, now := rfl, action := rfl
          effects := congrArg (fun r => r.1.outbox) same
          answer := congrArg (fun r => r.2) same
          after := congrArg (fun r => r.1.drain.2) same }

theorem eq_shift {t : Turn} {u : Session} {a : Session.Action} (found : t.before = u.shift n)
    (shifted : t.action = a.shift n) : t = shift n ⟨u, t.now, a⟩ := by
  obtain ⟨before, now, action⟩ := t
  cases found
  cases shifted
  rfl

/-- The turn brings an answer to one of the first requests. -/
def isBelated (n : Nat) (t : Turn) : Bool := t.action.answers?.any fun token => token.id ≤ n

end Turn

theorem renumbers_map (n : Nat) (us : History) :
    List.Forall₂ (Turn.Renumbers n) (us.map (Turn.shift n)) us :=
  List.forall₂_map_left_iff.2 (List.forall₂_same.2 fun u _ => u.renumbers_shift n)

theorem play_shift (n : Nat) (start : Session) (actions : List (Nat × Session.Action)) :
    play (start.shift n) (actions.map (Prod.map id (Session.Action.shift n))) =
      ((play start actions).1.map (Turn.shift n), (play start actions).2.shift n) := by
  induction actions with
  | nil => rfl
  | cons x earlier ih =>
      obtain ⟨now, action⟩ := x
      have after := (Turn.renumbers_shift n ⟨(play start earlier).2, now, action⟩).after
      rw [List.map_cons, Prod.map, play, ih]
      exact congrArg (Prod.mk _) after

/-! ## The session after starting over -/

namespace Session

variable {s : Session}

theorem sendAll_eq (s : Session) (rs : List Request) :
    s.sendAll rs = { s with outbox := s.outbox ++ rs.map .request } := by
  induction rs generalizing s with
  | nil => rw [List.map_nil, List.append_nil]; rfl
  | cons r rest ih =>
      refine (ih (s.send r)).trans ?_
      rw [List.map_cons, ← List.singleton_append, ← List.append_assoc]
      rfl

/-- A new session, but for what was counted and sent before. -/
def renewed (s : Session) : Session :=
  { fresh s.setup .empty with issued := s.issued, outbox := s.outbox }

/-- Of the old session nothing else is kept. -/
theorem restart_eq (live : s.cancelled = false) (unsubmitted : s.submitted = false) :
    s.restart =
      { s with outbox := s.outbox ++ s.stops.map Effect.request : Session }.renewed.display := by
  let sent := s.sendAll s.stops
  have kept : s.restart = { sent.renewed with
      cancelled := sent.cancelled, submitted := sent.submitted : Session }.display :=
    if_neg (by simp [live])
  have sent_eq : sent = { s with outbox := s.outbox ++ s.stops.map .request } := sendAll_eq _ _
  rw [kept, sent_eq]
  show { renewed _ with cancelled := s.cancelled, submitted := s.submitted : Session }.display = _
  rw [live, unsubmitted]
  rfl

theorem display_renewed (s : Session) :
    s.renewed.display = { (fresh s.setup .empty).display.shift s.issued with
      outbox := s.outbox ++ (fresh s.setup .empty).display.outbox.map (Effect.shift s.issued) } := by
  have sent : s.renewed.display.outbox = s.outbox ++ _ := List.append_assoc ..
  exact congrArg (fun outbox => { (fresh s.setup .empty).display.shift s.issued with outbox }) sent

/-- What is left behind is the new session, and after the cancellations the same is sent. -/
theorem restart_turn (live : s.cancelled = false) (unsubmitted : s.submitted = false) (now : Nat) :
    let t : Turn := ⟨s, now, .restart⟩
    let born : Turn := ⟨.fresh s.setup .empty, now, .display⟩
    t.after = born.after.shift s.issued ∧
      t.effects = s.outbox ++ s.stops.map .request ++ born.effects.map (Effect.shift s.issued) := by
  have same := (restart_eq live unsubmitted).trans (display_renewed _)
  exact ⟨congrArg (fun s => s.drain.2) same, congrArg Session.outbox same⟩

theorem awaits_of_shift {n : Nat} {token : Token} (h : (s.shift n).core.Awaits token) :
    ∃ own, s.core.Awaits own ∧ token = own.shift n := by
  obtain ⟨id, pending⟩ := token
  cases pending with
  | errand errand =>
      have waiting : (s.awaited.shift n).get errand = some id := h
      rw [Awaited.get_shift] at waiting
      obtain ⟨own, waits, rfl⟩ := Option.map_eq_some_iff.1 waiting
      exact ⟨⟨own, .errand errand⟩, waits, rfl⟩
  | task task kind =>
      obtain ⟨_, found, waiting⟩ := h
      obtain ⟨e, he, rfl⟩ := Option.map_eq_some_iff.1 ((s.form.entry?_shift kind).symm.trans found)
      rw [Entry.awaits?_shift] at waiting
      obtain ⟨own, waits, rfl⟩ := Option.map_eq_some_iff.1 waiting
      exact ⟨⟨own, .task task kind⟩, ⟨e, he, waits⟩, rfl⟩

end Session

/-! ## Runs after starting over -/

theorem Core.Books.one_le {log : List Effect} {settled : List Nat} {c : Core} {id : Nat}
    (books : c.Books log settled) (waiting : id ∈ c.awaitedIds) : 1 ≤ id := by
  have issued := books.balance.symm.subset (List.mem_append_left _ waiting)
  rw [books.numbered, List.mem_range'_1] at issued
  exact issued.1

theorem Session.Action.quiet_or_reply (n : Nat) (a : Session.Action) :
    a.answers? = none ∧ a.shift n = a ∨ ∃ r, a = .reply r := by
  cases a with
  | reply r => exact .inr ⟨r, rfl⟩
  | _ => exact .inl ⟨rfl, rfl⟩

/-- What is not belated answers a shifted request, if it answers one. -/
theorem History.exists_shift {n : Nat} {there here past : History} {t : Turn}
    (tokens : there.tokens = past.tokens ++ here.tokens.map (Token.shift n))
    (earlier : ∀ token ∈ past.tokens, token.id ≤ n) (genuine : there.Genuine t.action)
    (timely : t.isBelated n = false) : ∃ a, t.action = a.shift n ∧ here.Genuine a := by
  rcases t.action.quiet_or_reply n with ⟨quiet, same⟩ | ⟨r, reply⟩
  · exact ⟨t.action, same.symm, fun token answers => by simp [quiet] at answers⟩
  · have late : n < r.token.id := by
      simpa [Turn.isBelated, reply, Session.Action.answers?] using timely
    have issued : r.token ∈ there.tokens := genuine _ (by rw [reply]; rfl)
    rw [tokens] at issued
    rcases List.mem_append.1 issued with before | after
    · exact absurd (earlier _ before) (by omega)
    · obtain ⟨token, issued, same⟩ := List.mem_map.1 after
      refine ⟨.reply ⟨token, r.outcome⟩, ?_, fun _ h => Option.some.inj h ▸ issued⟩
      rw [reply]
      show Session.Action.reply r = .reply ⟨token.shift n, r.outcome⟩
      rw [same]

namespace Run

variable {setup : Setup} {past later : History} {s s' : Session}

theorem token_id_le (run : Run setup past s) (live : s.cancelled = false) :
    ∀ token ∈ past.tokens, token.id ≤ s.issued := fun _ issued => (run.books live).id_le issued

theorem last {t : Turn} (run : Run setup (t :: past) s) : Run setup past t.before ∧
    (∀ u ∈ past, u.now ≤ t.now) ∧ past.Genuine t.action ∧ s = t.after := by
  cases run with
  | step now action run ordered genuine => exact ⟨run, ordered, genuine, rfl⟩

variable {n : Nat} {u : Session}

theorem not_awaits_shift (run : Run setup past u) (live : u.cancelled = false) {token : Token}
    (belated : token.id ≤ n) : ¬ (u.shift n).core.Awaits token := by
  intro waiting
  obtain ⟨own, awaits, same⟩ := Session.awaits_of_shift waiting
  have counted := (run.books live).one_le (Core.Books.mem_of_awaits awaits)
  have number : token.id = n + own.id := congrArg Token.id same
  omega

/-- A belated reply is dropped. -/
theorem handleReply_of_belated (run : Run setup past u) {r : Reply} (belated : r.token.id ≤ n)
    (now : Nat) : (u.shift n).handleReply now r = u.shift n := by
  by_cases closed : u.cancelled = true
  · exact if_pos closed
  · exact Session.handleReply_of_not_awaits
      (run.not_awaits_shift (Bool.eq_false_iff.2 closed) belated)

theorem act_of_belated (run : Run setup past u) {t : Turn} (found : t.before = u.shift n)
    (belated : t.isBelated n = true) : t.effects = [] ∧ t.after = t.before := by
  obtain ⟨_, now, action⟩ := t
  cases found
  rcases action.quiet_or_reply n with ⟨quiet, -⟩ | ⟨r, rfl⟩
  · simp [Turn.isBelated, quiet] at belated
  · have dropped := run.handleReply_of_belated (of_decide_eq_true belated) now
    have silent : (u.shift n).outbox = [] := by
      rw [Session.shift, run.outbox_eq_nil, List.map_nil]
    refine ⟨(congrArg Session.outbox dropped).trans silent, ?_⟩
    show ((u.shift n).handleReply now r).drain.2 = u.shift n
    rw [dropped, Session.drain, ← silent]

theorem ordered_of_shift {afresh : History} {born : Turn} {time : Nat}
    (timely : later.filter (fun t => ¬ t.isBelated n) = afresh.map (Turn.shift n))
    (ordered : ∀ t ∈ later, t.now ≤ time) (begun : born.now ≤ time) :
    ∀ v ∈ afresh ++ [born], v.now ≤ time := by
  intro v hv
  rcases List.mem_append.1 hv with hv | hv
  · have there : v.shift n ∈ afresh.map (Turn.shift n) := List.mem_map_of_mem hv
    rw [← timely] at there
    exact ordered (v.shift n) (List.mem_filter.1 there).1
  · exact List.mem_singleton.1 hv ▸ begun

/-- What comes after starting over is a run of the new session, with belated replies in between that
change nothing. -/
theorem follows_restart (run : Run setup past s) (live : s.cancelled = false)
    (unsubmitted : s.submitted = false) {now : Nat}
    (after : Run setup (later ++ ⟨s, now, .restart⟩ :: past) s') :
    (∀ t ∈ later, t.isBelated s.issued = true → t.effects = [] ∧ t.after = t.before) ∧
    ∃ afresh u, Run setup (afresh ++ [⟨.fresh setup .empty, now, .display⟩]) u ∧
      s' = u.shift s.issued ∧
      later.filter (fun t => ¬ t.isBelated s.issued) = afresh.map (Turn.shift s.issued) ∧
      History.tokens (later ++ ⟨s, now, .restart⟩ :: past) = past.tokens ++
        (History.tokens (afresh ++ [⟨.fresh setup .empty, now, .display⟩])).map
          (Token.shift s.issued) := by
  induction later generalizing s' with
  | nil =>
      let born : Turn := ⟨.fresh setup .empty, now, .display⟩
      obtain ⟨renewed, sent⟩ := Session.restart_turn live unsubmitted now
      rw [run.setup_eq] at renewed sent
      have first : Run setup [born] born.after :=
        .step now .display (.start .empty) (fun _ h => absurd h List.not_mem_nil) nofun
      refine ⟨fun _ h => absurd h List.not_mem_nil, [], born.after, first, ?_, rfl, ?_⟩
      · exact after.last.2.2.2.trans renewed
      · rw [List.nil_append, List.nil_append, History.tokens_cons, sent, run.outbox_eq_nil,
          tokensOf_append, List.nil_append, Session.tokensOf_stops, tokensOf_shift]
        rfl
  | cons t later ih =>
      obtain ⟨before_run, ordered, genuine, rfl⟩ := after.last
      obtain ⟨belated, afresh, u, fresh_run, found, timely, tokens⟩ := ih before_run
      cases due : t.isBelated s.issued with
      | true =>
          obtain ⟨silent, same⟩ := fresh_run.act_of_belated found due
          refine ⟨?_, afresh, u, fresh_run, same.trans found, ?_, ?_⟩
          · rintro t' ht' belated'
            rcases List.mem_cons.1 ht' with rfl | ht'
            · exact ⟨silent, same⟩
            · exact belated t' ht' belated'
          · rw [List.filter_cons_of_neg (by simp [due]), timely]
          · rw [List.cons_append, History.tokens_cons, silent, tokensOf_nil, List.append_nil, tokens]
      | false =>
          obtain ⟨a, shifted, genuine⟩ :=
            History.exists_shift tokens (run.token_id_le live) genuine due
          let own : Turn := ⟨u, t.now, a⟩
          have is_shift : t = own.shift s.issued := Turn.eq_shift found shifted
          have renumbers := own.renumbers_shift s.issued
          rw [← is_shift] at renumbers
          have begun : Turn.now ⟨.fresh setup .empty, now, .display⟩ ≤ t.now :=
            ordered ⟨s, now, .restart⟩ (List.mem_append_right _ List.mem_cons_self)
          have in_order := ordered_of_shift timely
            (fun v hv => ordered v (List.mem_append_left _ hv)) begun
          refine ⟨?_, own :: afresh, own.after, .step t.now a fresh_run in_order genuine,
            renumbers.after, ?_, ?_⟩
          · rintro t' ht' belated'
            rcases List.mem_cons.1 ht' with rfl | ht'
            · exact absurd (due.symm.trans belated') (by simp)
            · exact belated t' ht' belated'
          · rw [List.filter_cons_of_pos (by simp [due]), timely, List.map_cons, ← is_shift]
          · rw [List.cons_append, List.cons_append, History.tokens_cons, History.tokens_cons, tokens,
              renumbers.effects, tokensOf_shift, List.map_append, List.append_assoc]

/-- Starting over is a fresh start. Unless a form was accepted or the session is closed, starting over
cancels what is under way and leaves a new session that has just been displayed, with its ids shifted by
those that were issued.
Whatever is played from there, the two sessions send the same, answer the same and stay the same, up to
that shift. And every run from there is a run of the new session, with replies to earlier requests in
between: they send nothing and change nothing. -/
theorem restart_starts_afresh (run : Run setup past s) (live : s.cancelled = false)
    (unsubmitted : s.submitted = false) (now : Nat) :
    let restarted : Turn := ⟨s, now, .restart⟩
    let born : Turn := ⟨.fresh setup .empty, now, .display⟩
    (restarted.after = born.after.shift s.issued ∧
      restarted.effects = s.stops.map .request ++ born.effects.map (Effect.shift s.issued)) ∧
    (∀ actions,
      let there := play restarted.after (actions.map (Prod.map id (Session.Action.shift s.issued)))
      let here := play born.after actions
      List.Forall₂ (Turn.Renumbers s.issued) there.1 here.1 ∧ there.2 = here.2.shift s.issued) ∧
    (∀ token ∈ past.tokens, token.id ≤ s.issued) ∧
    ∀ later s', Run setup (later ++ restarted :: past) s' →
      (∀ t ∈ later, t.isBelated s.issued = true → t.effects = [] ∧ t.after = t.before) ∧
      ∃ afresh u, Run setup (afresh ++ [born]) u ∧ s' = u.shift s.issued ∧
        List.Forall₂ (Turn.Renumbers s.issued) (later.filter fun t => ¬ t.isBelated s.issued)
          afresh := by
  intro restarted born
  have turn := Session.restart_turn live unsubmitted now
  rw [run.setup_eq, run.outbox_eq_nil, List.nil_append] at turn
  have renewed : restarted.after = born.after.shift s.issued := turn.1
  refine ⟨turn, fun actions => ?_, run.token_id_le live, fun later s' after => ?_⟩
  · intro there here
    have shifted : there = (here.1.map (Turn.shift s.issued), here.2.shift s.issued) := by
      show play restarted.after _ = _
      rw [renewed]
      exact play_shift ..
    rw [shifted]
    exact ⟨renumbers_map _ _, rfl⟩
  · obtain ⟨belated, afresh, u, fresh_run, same, timely, -⟩ :=
      run.follows_restart live unsubmitted after
    refine ⟨belated, afresh, u, fresh_run, same, ?_⟩
    rw [timely]
    exact renumbers_map _ _

/-- A save is under way and the password is remembered when the session starts over. What comes of the
save is of no account after that. -/
theorem restart_starts_afresh_of_save :
    let form : AuthorizationForm := ⟨1, [[⟨.email, false, false, false⟩]], none⟩
    let before := play (.fresh .plain .empty)
      ((4, .save .email (.ofTexts [(Kind.plainField, "d@e.f")])) :: opening form [.email "a@b.c"])
    let restarted : Turn := ⟨before.2, 5, .restart⟩
    let belated : Turn := ⟨restarted.after, 6,
      .reply ⟨⟨4, .task .save .email⟩, .ok (.element (.email "d@e.f"))⟩⟩
    (before.2.core.awaitedIds = [4] ∧ before.2.timers ≠ []) ∧
      restarted.after = (Turn.after ⟨.fresh .plain .empty, 5, .display⟩).shift 4 ∧
      belated.effects = [] ∧ belated.after = restarted.after := by
  intro form before restarted belated
  have playable : Playable (.fresh .plain .empty) ((belated.now, belated.action) ::
      (restarted.now, restarted.action) ::
        (4, .save .email (.ofTexts [(Kind.plainField, "d@e.f")])) :: opening form [.email "a@b.c"]) := by
    decide +kernel
  have run : Run .plain before.1 before.2 := .of_playable playable.1.1
  have after : Run .plain ([belated] ++ restarted :: before.1) belated.after :=
    .of_playable playable
  have issued : before.2.issued = 4 := by decide +kernel
  obtain ⟨⟨renewed, -⟩, -, -, follows⟩ :=
    restart_starts_afresh run (by decide +kernel) (by decide +kernel) 5
  have dropped := (follows [belated] belated.after after).1 belated List.mem_cons_self
  rw [issued] at renewed dropped
  exact ⟨⟨by decide +kernel, by decide +kernel⟩, renewed, dropped rfl⟩

end Run

end IdentityForm
