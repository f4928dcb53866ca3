import IdentityForm.Proofs.Requested
import IdentityForm.Proofs.Run

/-! # Renumbering

A session counts its requests. Nothing in it depends on where the counting began: shifting every id
of a session by the same number commutes with all that the session is made of. What the operations
make of that follows in a module of its own.
-/

namespace IdentityForm

/-! ## Ids in what is sent -/

def Token.shift (n : Nat) (t : Token) : Token := { t with id := n + t.id }

def Request.shift (n : Nat) : Request → Request
  | .getForm t link => .getForm (t.shift n) link
  | .getPasswordState t => .getPasswordState (t.shift n)
  | .getAvailableElements t form password => .getAvailableElements (t.shift n) form password
  | .setElement t element password => .setElement (t.shift n) element password
  | .deleteElement t kind => .deleteElement (t.shift n) kind
  | .sendForm t form kinds => .sendForm (t.shift n) form kinds
  | .sendPhoneCode t phone => .sendPhoneCode (t.shift n) phone
  | .resendPhoneCode t phone => .resendPhoneCode (t.shift n) phone
  | .checkPhoneCode t phone code => .checkPhoneCode (t.shift n) phone code
  | .sendEmailCode t email => .sendEmailCode (t.shift n) email
  | .checkEmailCode t email code => .checkEmailCode (t.shift n) email code
  | .clearPassword t => .clearPassword (t.shift n)
  | .recoverPassword t => .recoverPassword (t.shift n)
  | .cancel id => .cancel (n + id)
  | .uploadFile key role bytes => .uploadFile key role bytes
  | .cancelUpload key => .cancelUpload key
  | .downloadFile key file size => .downloadFile key file size
  | .cancelDownload key => .cancelDownload key

def Effect.shift (n : Nat) : Effect → Effect
  | .request r => .request (r.shift n)
  | .notice x => .notice x

theorem Effect.token?_shift (n : Nat) (x : Effect) :
    (x.shift n).token? = x.token?.map (Token.shift n) := by
  cases x with
  | notice x => rfl
  | request r => cases r <;> rfl

theorem tokensOf_shift (n : Nat) (es : List Effect) :
    tokensOf (es.map (Effect.shift n)) = (tokensOf es).map (Token.shift n) := by
  simp only [tokensOf, List.filterMap_map, List.map_filterMap]
  exact congrArg (List.filterMap · es) (funext (Effect.token?_shift n))

/-! ## Ids in a session -/

def Awaited.shift (n : Nat) (a : Awaited) : Awaited where
  form := a.form.map (n + ·)
  passwordState := a.passwordState.map (n + ·)
  availableElements := a.availableElements.map (n + ·)
  submit := a.submit.map (n + ·)
  clearPassword := a.clearPassword.map (n + ·)
  recovery := a.recovery.map (n + ·)

def WriteState.shift (n : Nat) : WriteState → WriteState
  | .idle => .idle
  | .pending id => .pending (n + id)
  | .unchanged => .unchanged

def VoiceCall.shift (n : Nat) : VoiceCall → VoiceCall
  | .waiting due => .waiting due
  | .calling id => .calling (n + id)
  | .called => .called

def Verification.shift (n : Nat) (v : Verification) : Verification :=
  { v with request := v.request.map (n + ·), call := v.call.map (VoiceCall.shift n) }

def Entry.shift (n : Nat) (e : Entry) : Entry :=
  { e with write := e.write.shift n, verification := e.verification.shift n }

def Form.shift (n : Nat) (f : Form) : Form :=
  { f with entries := f.entries.map (Entry.shift n) }

def Reply.shift (n : Nat) (r : Reply) : Reply := { r with token := r.token.shift n }

namespace Session

def Action.shift (n : Nat) : Action → Action
  | .reply r => .reply (r.shift n)
  | a => a

def shift (n : Nat) (s : Session) : Session :=
  { s with
    form := s.form.shift n
    issued := n + s.issued
    awaited := s.awaited.shift n
    outbox := s.outbox.map (Effect.shift n) }

end Session

def Turn.shift (n : Nat) (t : Turn) : Turn := ⟨t.before.shift n, t.now, t.action.shift n⟩

/-! ## Awaited ids and verifications -/

variable {n : Nat}

theorem WriteState.shift_unchanged {w : WriteState} : w.shift n = .unchanged ↔ w = .unchanged := by
  cases w <;> simp [shift]

namespace Awaited

theorem get_shift (a : Awaited) (errand : Errand) :
    (a.shift n).get errand = (a.get errand).map (n + ·) := by
  cases errand <;> rfl

theorem shift_set (a : Awaited) (errand : Errand) (id : Option Nat) :
    (a.set errand id).shift n = (a.shift n).set errand (id.map (n + ·)) := by
  cases errand <;> rfl

theorem ids_shift (a : Awaited) : (a.shift n).ids = a.ids.map (n + ·) := by
  have toList (id : Option Nat) : (id.map (n + ·)).toList = id.toList.map (n + ·) := by
    cases id <;> rfl
  simp only [ids, shift, toList, List.map_append]

end Awaited

theorem Verification.callRequest?_shift (v : Verification) :
    (v.shift n).callRequest? = v.callRequest?.map (n + ·) := by
  obtain ⟨request, codeLength, call, error⟩ := v
  cases call with
  | none => rfl
  | some call => cases call <;> rfl

/-! ## Entries -/

namespace Entry

theorem isBusy_shift (e : Entry) : (e.shift n).isBusy = e.isBusy := by
  have write : decide (e.write.shift n ≠ .idle) = decide (e.write ≠ .idle) := by
    cases e.write <;> rfl
  show (decide (e.write.shift n ≠ .idle) || (e.verification.request.map (n + ·)).isSome || _ || _) = _
  rw [write, Option.isSome_map]
  rfl

theorem awaits?_shift (e : Entry) (task : Task) :
    (e.shift n).awaits? task = (e.awaits? task).map (n + ·) := by
  have write : (e.shift n).awaits? .save = (e.awaits? .save).map (n + ·) := by
    unfold awaits?
    rw [show (e.shift n).write = e.write.shift n from rfl]
    cases e.write <;> rfl
  cases task with
  | save => exact write
  | delete => exact write
  | sendCode => rfl
  | checkCode => rfl
  | resendCall => exact e.verification.callRequest?_shift

theorem shift_clearIfIdle (e : Entry) : e.clearIfIdle.shift n = (e.shift n).clearIfIdle := by
  unfold clearIfIdle
  rw [isBusy_shift]
  show _ = if e.editors = 0 ∧ ¬ e.isBusy then _ else _
  split <;> rfl

theorem shift_commit (e : Entry) (c : Contents) : (e.commit c).shift n = (e.shift n).commit c := by
  show shift n (if e.editors = 0 then _ else _) = if e.editors = 0 then _ else _
  split <;> rfl

theorem shift_reset (e : Entry) : e.reset.shift n = (e.shift n).reset := by
  show shift n (if 0 < e.editors then _ else _) = if 0 < e.editors then _ else _
  split <;> rfl

theorem shift_setFileError (e otherwise : Entry) (slot : Slot) (message : String) :
    (e.setFileError slot message otherwise).shift n =
      (e.shift n).setFileError slot message (otherwise.shift n) := by
  have same : (e.shift n).files = e.files := rfl
  unfold setFileError
  rw [same]
  split <;> rfl

theorem shift_placeError (e : Entry) (message : String) (source : ErrorSource) :
    (e.placeError message source).shift n = (e.shift n).placeError message source := by
  cases source with
  | unspecified =>
      show shift n (if e.kind.canHaveError then _ else _) = if e.kind.canHaveError then _ else _
      split <;> rfl
  | dataField field => rfl
  | files => rfl
  | renditionFiles => rfl
  | frontSide => exact e.shift_setFileError _ _ _
  | reverseSide => exact e.shift_setFileError _ _ _
  | selfie => exact e.shift_setFileError _ _ _
  | file index => exact e.shift_setFileError _ _ _
  | renditionFile index => exact e.shift_setFileError _ _ _

theorem shift_applyError (e : Entry) (x : ElementError) :
    (e.applyError x).shift n = (e.shift n).applyError x := by
  unfold applyError
  rw [← shift_placeError]
  generalize e.placeError x.message x.source = e
  dsimp only
  rw [isBusy_shift]
  show _ = if e.editors = 0 ∧ ¬ e.isBusy then _ else _
  split <;> rfl

theorem cancellations_shift (e : Entry) :
    (e.shift n).cancellations = e.cancellations.map (Request.shift n) := by
  have call := e.verification.callRequest?_shift (n := n)
  unfold cancellations
  simp only [List.map_append, List.map_map, List.map_filterMap]
  congr 1
  · rw [show (e.shift n).write = e.write.shift n from rfl]
    cases e.write <;> rfl
  · congr 1
    · show ((e.verification.request.map (n + ·)).toList).map Request.cancel = _
      cases e.verification.request <;> rfl
    · congr 1
      · show ((e.verification.shift n).callRequest?.toList).map Request.cancel = _
        rw [call]
        cases e.verification.callRequest? <;> rfl
      · show e.draftFiles.toList.filterMap _ = _
        congr 1
        funext d
        cases d.upload <;> split <;> rfl

end Entry

/-! ## Forms -/

namespace Form

variable {f : Form} {g g' : Entry → Entry}

theorem entry?_shift (f : Form) (kind : Kind) :
    Form.entry? (f.shift n) kind = (f.entry? kind).map (Entry.shift n) := by
  show (f.entries.map (Entry.shift n)).find? _ = _
  rw [List.find?_map]
  rfl

theorem shift_modify (f : Form) (kind : Kind) (h : ∀ e, (g e).shift n = g' (e.shift n)) :
    (f.modify kind g).shift n = (f.shift n).modify kind g' := by
  have same : (f.entries.map fun e => if e.kind = kind then g e else e).map (Entry.shift n) =
      (f.entries.map (Entry.shift n)).map fun e => if e.kind = kind then g' e else e := by
    rw [List.map_map, List.map_map]
    apply List.map_congr_left
    intro e _
    show Entry.shift n (if e.kind = kind then g e else e) =
      if e.kind = kind then g' (e.shift n) else e.shift n
    rw [← h]
    split <;> rfl
  exact congrArg (fun entries => { f with entries }) same

theorem findUpload?_shift (f : Form) (key : UInt64) :
    (f.shift n).findUpload? key = f.findUpload? key := by
  show (f.entries.map (Entry.shift n)).findSome? _ = _
  rw [List.findSome?_map]
  rfl

theorem findFile_shift (f : Form) (id : UInt64) : (f.shift n).findFile id = f.findFile id := by
  show (f.entries.map (Entry.shift n)).flatMap _ = _
  rw [List.flatMap_map]
  rfl

theorem isReady_shift (f : Form) : (f.shift n).isReady = f.isReady := by
  funext kind
  unfold isReady
  rw [entry?_shift]
  cases f.entry? kind <;> rfl

theorem checkScopes_shift (f : Form) : (f.shift n).checkScopes = f.checkScopes := by
  have scopes : (f.shift n).scopes = f.scopes := rfl
  have check : (f.shift n).checkScope = f.checkScope := by
    funext s
    simp only [checkScope, isReady_shift]
  unfold checkScopes
  rw [scopes, check]

theorem shift_takeElements (f : Form) (elements : List StoredElement)
    (errors : List ElementError) :
    (f.takeElements elements errors).shift n = (f.shift n).takeElements elements errors := by
  have fill (f : Form) (element : StoredElement) :
      (f.shift n).fill element = (f.fill element).shift n := by
    refine Eq.symm (f.shift_modify _ fun e => ?_)
    rfl
  have applyError (f : Form) (x : ElementError) :
      (f.shift n).applyError x = (f.applyError x).shift n :=
    (f.shift_modify _ fun e => e.shift_applyError x).symm
  unfold takeElements
  rw [List.foldl_hom (shift n) fill, List.foldl_hom (shift n) applyError]

theorem shift_ofAuthorization (a : AuthorizationForm) :
    (ofAuthorization a).shift n = ofAuthorization a := by
  have same : (ofAuthorization a).entries.map (Entry.shift n) = (ofAuthorization a).entries := by
    refine (List.map_congr_left fun e he => ?_).trans (List.map_id _)
    obtain ⟨kind, rfl⟩ := mem_ofAuthorization he
    rfl
  exact congrArg (fun entries => { ofAuthorization a with entries }) same

end Form

/-! ## What operations are made of -/

namespace Session

theorem entry?_shift (s : Session) (kind : Kind) :
    Session.entry? (s.shift n) kind = (s.entry? kind).map (Entry.shift n) := s.form.entry?_shift kind

theorem shift_send (s : Session) (r : Request) :
    (s.send r).shift n = (s.shift n).send (r.shift n) :=
  congrArg (fun outbox => { s.shift n with outbox }) (List.map_append ..)

theorem shift_notify (s : Session) (x : Notice) :
    (s.notify x).shift n = (s.shift n).notify x :=
  congrArg (fun outbox => { s.shift n with outbox }) (List.map_append ..)

theorem shift_sendAll (s : Session) (rs : List Request) :
    (s.sendAll rs).shift n = (s.shift n).sendAll (rs.map (Request.shift n)) := by
  unfold sendAll
  rw [List.foldl_map]
  exact (List.foldl_hom (shift n) fun s r => (shift_send s r).symm).symm

theorem shift_notifyAll (s : Session) (xs : List Notice) :
    (s.notifyAll xs).shift n = (s.shift n).notifyAll xs :=
  (List.foldl_hom (shift n) fun s x => (shift_notify s x).symm).symm

theorem shift_ask {make make' : Token → Request} (s : Session) (p : Pending)
    (h : ∀ t, (make t).shift n = make' (t.shift n)) :
    (s.ask p make).shift n = (s.shift n).ask p make' := by
  have sent := shift_send (n := n) { s with issued := s.nextId } (make ⟨s.nextId, p⟩)
  rw [h] at sent
  exact sent

theorem shift_run {make make' : Token → Request} (s : Session) (errand : Errand)
    (h : ∀ t, (make t).shift n = make' (t.shift n)) :
    (s.run errand make).shift n = (s.shift n).run errand make' := by
  have asked := shift_ask { s with awaited := s.awaited.set errand (some s.nextId) }
    (.errand errand) h
  refine asked.trans ?_
  exact congrArg (fun awaited => ask { s.shift n with awaited } (.errand errand) make')
    (s.awaited.shift_set errand (some s.nextId))

theorem shift_modify {g g' : Entry → Entry} (s : Session) (kind : Kind)
    (h : ∀ e, (g e).shift n = g' (e.shift n)) :
    (s.modify kind g).shift n = (s.shift n).modify kind g' :=
  congrArg (fun form => { s.shift n with form }) (s.form.shift_modify kind h)

theorem shift_put (s : Session) (e : Entry) : (s.put e).shift n = (s.shift n).put (e.shift n) :=
  s.shift_modify e.kind fun _ => rfl

theorem shift_clearIfIdle (s : Session) (kind : Kind) :
    (s.clearIfIdle kind).shift n = (s.shift n).clearIfIdle kind :=
  s.shift_modify kind Entry.shift_clearIfIdle

end Session

end IdentityForm
