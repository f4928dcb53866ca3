import IdentityForm.Proofs.Run
import Mathlib.Logic.Relation

/-! # Moves

Every action of a session is made of a few kinds of moves: something is asked on behalf of the whole
session, one entry changes, everything is given up, or nothing of weight happens. The relations here
list them with their conditions and with what each sends. What holds of a session is then shown for
the moves once, and no later proof has to open an action again.
-/

namespace IdentityForm

/-! ## What requests depend on -/

/-- The part of a session that its requests and their replies depend on. -/
structure Core where
  form : Form
  formReceived : Bool
  password : Option String
  secretReady : Bool
  issued : Nat
  awaited : Awaited
  cancelled : Bool

def Session.core (s : Session) : Core :=
  ⟨s.form, s.formReceived, s.password, s.secretReady, s.issued, s.awaited, s.cancelled⟩

/-- An effect that carries no token, cancels no request, starts no upload, and reports neither a
finished write nor that the session has closed. -/
def Effect.isCalm : Effect → Bool
  | .request (.cancelUpload _) | .request (.downloadFile _ _ _)
  | .request (.cancelDownload _) => true
  | .request _ => false
  | .notice (.saveFinished _) | .notice (.close _) => false
  | .notice _ => true

def Request.errand? : Request → Option Errand
  | .getForm _ _ => some .form
  | .getPasswordState _ => some .passwordState
  | .getAvailableElements _ _ _ => some .availableElements
  | .sendForm _ _ _ => some .submit
  | .clearPassword _ => some .clearPassword
  | .recoverPassword _ => some .recovery
  | _ => none

def Request.checked? : Request → Option String
  | .getAvailableElements _ _ password => some password.text
  | _ => none

def FileEvent.draftChange? : FileEvent → Option (UInt64 × (Draft → Draft))
  | .uploadProgress key offset => some (key, fun d => d.progress offset)
  | .uploadDone key fileId => some (key, fun d => d.finish fileId)
  | .uploadFailed key => some (key, Draft.fail)
  | _ => none

def FileEvent.fileChange? : FileEvent → Option (UInt64 × (StoredFile → StoredFile))
  | .downloadProgress key offset => some (key, fun f => { f with download := .inProgress offset })
  | .downloadDone key bytes => some (key, Session.withDownload (Preview.decode? bytes))
  | .downloadFailed key => some (key, fun f => { f with download := .failed })
  | _ => none

namespace WriteState

def request? : WriteState → Option Nat
  | .pending id => some id
  | _ => none

end WriteState

namespace Entry

def awaitedIds (e : Entry) : List Nat :=
  e.write.request?.toList ++ (e.verification.request.toList ++ e.verification.callRequest?.toList)

/-- What a save works on: without an editor that is the committed state. -/
def atSave (e : Entry) : Entry := if e.editors = 0 then e.snapshot else e

def spared (e : Entry) : Entry :=
  let e := { e with write := .unchanged }.clearDraft
  if 0 < e.editors then e.snapshot else e

/-- The draft of a new file; it remembers the committed file whose slot it takes. -/
def newDraft (e : Entry) (role : Role) (key : UInt64) (date : Int64) (bytes : List UInt8) : Draft :=
  { Draft.ofBytes key date bytes with
    upload := some { Upload.started key bytes with
      replaced := (e.draftFiles.get? (e.draftFiles.nextSlot role)).bind Draft.twin? } }

def displaced (e : Entry) (role : Role) : List Request :=
  let old := e.draftFiles.get? (e.draftFiles.nextSlot role)
  ((old.filter Draft.isUploading).bind (·.upload)).toList.map fun u => Request.cancelUpload u.key

def runningKeys (e : Entry) : List UInt64 :=
  e.draftFiles.toList.filterMap fun d =>
    if d.isUploading then d.upload.map (·.key) else none

end Entry

def Core.awaitedIds (c : Core) : List Nat :=
  c.awaited.ids ++ c.form.entries.flatMap Entry.awaitedIds

/-- The request of a token is waited for where its reply is taken in. -/
def Core.Awaits (c : Core) (token : Token) : Prop :=
  match token.pending with
  | .errand errand => c.awaited.get errand = some token.id
  | .task task kind => ∃ e, c.form.entry? kind = some e ∧ e.awaits? task = some token.id

namespace Session

/-! ## Moves of one entry -/

/-- What an action does to one entry, and what it sends and reports with it. -/
inductive Change (s : Session) (now : Nat) (a : Action) (e : Entry) : List Effect → Entry → Prop
  | opened : a = .startEdit e.kind → ¬ (e.editors = 0 ∧ e.isBusy = false) →
      Change s now a e [] { e with editors := e.editors + 1 }
  | openedFirst : a = .startEdit e.kind → e.editors = 0 → e.isBusy = false →
      Change s now a e [] { e with editors := 1 }.snapshot
  | closed : a = .stopEdit e.kind → e.editors ≠ 0 →
      Change s now a e [] { e with editors := e.editors - 1 }
  | cleared : Change s now a e [] e.clearIfIdle
  | blocked {changes : Fields} {slot : Slot} : a = .save e.kind changes → e.isBusy = false →
      e.atSave.failedUpload? = some slot →
      Change s now a e [] { e.atSave with
        draftFiles := e.atSave.draftFiles.modify slot fun d =>
          { d with file := { d.file with error := some Phrase.uploadFailed } } }
  | spared {changes : Fields} : a = .save e.kind changes → s.secretReady = true →
      s.awaited.submit = none → e.isBusy = false → e.atSave.failedUpload? = none →
      e.atSave.isChangedBy changes = false →
      Change s now a e [] e.atSave.spared
  | misdated {changes fields : Fields} : a = .save e.kind changes → e.isBusy = false →
      fields = e.atSave.draftFields.overlay changes →
      Change s now a e [] { e.atSave with
        draftFields := (fields.badDates e.kind).foldl
          (fun m key => m.setError key Phrase.badDate) fields }
  | saved {changes : Fields} {password : String} {sent : Entry} : a = .save e.kind changes →
      s.secretReady = true → s.awaited.submit = none → s.password = some password →
      e.isBusy = false → e.atSave.failedUpload? = none →
      sent = { e.atSave with
        draftFields := e.atSave.draftFields.overlay changes, write := .pending s.nextId } →
      sent.draftFields.badDates e.kind = [] →
      Change s now a e
        [.request (.setElement ⟨s.nextId, .task .save e.kind⟩ sent.submission ⟨password⟩)] sent
  | deleted : a = .delete e.kind → s.secretReady = true → s.awaited.submit = none →
      e.isBusy = false →
      Change s now a e [.request (.deleteElement ⟨s.nextId, .task .delete e.kind⟩ e.kind)]
        { e with write := .pending s.nextId }
  | reported : a = .tick → e.write = .unchanged →
      Change s now a e [.notice (.saveFinished e.kind)] { e with write := .idle }.clearIfIdle
  | uploaded {role : Role} {key : UInt64} {date : Int64} {bytes : List UInt8} :
      a = .upload e.kind role key date bytes → e.editors ≠ 0 →
      Change s now a e
        ((Request.uploadFile key role bytes :: e.displaced role).map .request)
        { e with draftFiles := e.draftFiles.add role (e.newDraft role key date bytes) }
  | marked {slot : Slot} {d : Draft} {deleted : Bool} :
      a = (if deleted then .deleteScan e.kind slot else .restoreScan e.kind slot) →
      e.draftFiles.get? slot = some d → d.deleted ≠ deleted →
      Change s now a e [.notice (.scanUpdated ⟨e.kind, slot⟩)]
        { e with draftFiles := e.draftFiles.modify slot fun d => { d with deleted } }
  | loading {slot : Slot} : (a = .startEdit e.kind ∨ a = .loadFile e.kind slot) →
      Change s now a e []
        { e with files := e.files.modify slot fun f => { f with download := .inProgress 0 } }
  | transferred {event : FileEvent} {change : Draft → Draft} {slot : Slot} {d : Draft}
      {u : Upload} : a = .file event → event.draftChange? = some (u.key, change) →
      e.draftFiles.get? slot = some d → d.upload = some u →
      Change s now a e [] { e with draftFiles := e.draftFiles.modify slot change }
  | shown {event : FileEvent} {id : UInt64} {change : StoredFile → StoredFile} {slot : Slot} :
      a = .file event → event.fileChange? = some (id, change) →
      Change s now a e [] (updateFile id change slot e)
  | miscoded {code : String} {length : CodeLength} {error : Option String} :
      a = .verify e.kind code → e.verification.codeLength = some length →
      Change s now a e [] { e with verification := { e.verification with error } }
  | checked {code : String} {length : CodeLength} {r : Request} : a = .verify e.kind code →
      e.verification.codeLength = some length → e.verification.request = none →
      r = (if e.kind = .email then
          .checkEmailCode ⟨s.nextId, .task .checkCode e.kind⟩ e.target (Text.trim code)
        else .checkPhoneCode ⟨s.nextId, .task .checkCode e.kind⟩ e.target (Text.trim code)) →
      Change s now a e [.request r]
        { e with verification := { e.verification with request := some s.nextId, error := none } }
  | givenUp : a = .cancelVerification e.kind →
      Change s now a e
        ((e.verification.request.toList ++ e.verification.callRequest?.toList).map fun id =>
          .request (.cancel id))
        { e with verification := .none }
  | calling {due : Nat} : a = .tick → e.verification.call = some (.waiting due) → due ≤ now →
      Change s now a e
        [.request (.resendPhoneCode ⟨s.nextId, .task .resendCall e.kind⟩ e.target)]
        { e with verification := { e.verification with call := some (.calling s.nextId) } }

/-- What the reply to a task does to the entry that waited for it. -/
inductive Uptake (s : Session) (now : Nat) (e : Entry) :
    Task → Outcome → List Effect → Entry → Prop
  | saved {element : StoredElement} : element.kind = e.kind →
      Uptake s now e .save (.ok (.element element)) [.notice (.saveFinished e.kind)]
        ({ e with write := .idle }.commit element.contents)
  | unsaved {outcome : Outcome} :
      (∀ error, outcome = .failed error → SaveFailure.ofCode e.kind error.code ≠ .verifyPhone ∧
        SaveFailure.ofCode e.kind error.code ≠ .verifyEmail) →
      Uptake s now e .save outcome [] { e with write := .idle }
  | misfilled {outcome : Outcome} {error : ServerError} {field message : String} :
      SaveFailure.ofCode e.kind error.code = .badField field message →
      (∀ error', outcome = .failed error' → error' = error) →
      Uptake s now e .save outcome []
        { e with write := .idle, draftFields := e.draftFields.setError field message }
  | unverifiedPhone {error : ServerError} :
      SaveFailure.ofCode e.kind error.code = .verifyPhone →
      Uptake s now e .save (.failed error)
        [.request (.sendPhoneCode ⟨s.nextId, .task .sendCode e.kind⟩ e.target)]
        { e with write := .idle, verification := { Verification.none with request := some s.nextId } }
  | unverifiedEmail {error : ServerError} :
      SaveFailure.ofCode e.kind error.code = .verifyEmail →
      Uptake s now e .save (.failed error)
        [.request (.sendEmailCode ⟨s.nextId, .task .sendCode e.kind⟩ e.target)]
        { e with write := .idle, verification := { Verification.none with request := some s.nextId } }
  | deleted {response : Response} :
      Uptake s now e .delete (.ok response) [.notice (.saveFinished e.kind)] e.reset
  | undeleted {error : ServerError} :
      Uptake s now e .delete (.failed error) [] { e with write := .idle }
  | codeSent {response : Response} {length : CodeLength} {timeout : Option Nat} :
      codeSent? e.kind response = some (length, timeout) →
      Uptake s now e .sendCode (.ok response) [] { e with
        verification := { e.verification with
          request := none
          codeLength := some length
          call := (timeout.map fun t => VoiceCall.waiting (now + 1000 * t)).or
            e.verification.call } }
  | codeNotSent {outcome : Outcome} :
      (∀ response, outcome = .ok response → codeSent? e.kind response = none) →
      Uptake s now e .sendCode outcome [] { e with verification := .none }
  | accepted {response : Response} {password : String} : s.password = some password →
      Uptake s now e .checkCode (.ok response)
        (e.verification.callRequest?.toList.map (fun id => .request (.cancel id)) ++
          [.notice (.verificationUpdate e.kind),
            .request (.setElement ⟨s.nextId, .task .save e.kind⟩ e.submission ⟨password⟩)])
        { e with verification := .none, write := .pending s.nextId }
  | acceptedLocked {response : Response} : s.password = none →
      Uptake s now e .checkCode (.ok response)
        (e.verification.callRequest?.toList.map fun id => .request (.cancel id))
        { e with verification := .none }
  | refused {error : ServerError} {text : String} :
      Uptake s now e .checkCode (.failed error) []
        { e with verification := { e.verification with request := none, error := some text } }
  | called {response : Response} :
      Uptake s now e .resendCall (.ok response) []
        { e with verification := { e.verification with call := some .called } }
  | notCalled {error : ServerError} :
      Uptake s now e .resendCall (.failed error) []
        { e with verification := { e.verification with call := none, error := some error.code } }

/-! ## Moves of a session -/

/-- One part of an action. -/
inductive Move (now : Nat) (a : Action) (s s' : Session) : Prop
  | rest (es : List Effect) : s'.core = s.core → s'.outbox = s.outbox ++ es →
      (∀ x ∈ es, x.isCalm = true) → s'.checking = s.checking → Move now a s s'
  | ask (errand : Errand) (r : Request) : s.awaited.get errand = none →
      r.errand? = some errand → r.token? = some ⟨s.nextId, .errand errand⟩ →
      (errand = .form → s.formReceived = false) →
      (errand = .availableElements → s.secretReady = false) →
      (errand = .submit → s.secretReady = true) →
      s'.core = { s.core with
        issued := s.nextId, awaited := s.awaited.set errand (some s.nextId) } →
      s'.outbox = s.outbox ++ [.request r] → s'.checking = r.checked?.or s.checking →
      (errand = .submit → a = .submit) → Move now a s s'
  | entry (e : Entry) (g : Entry → Entry) (es : List Effect) : s.entry? e.kind = some e →
      s.Change now a e es (g e) →
      s'.core = { s.core with
        form := s.form.modify e.kind g, issued := s.issued + (tokensOf es).length } →
      s'.outbox = s.outbox ++ es → s'.checking = s.checking → Move now a s s'
  | abandon (es : List Effect) : a = .restart →
      s'.core = { s.core with
        form := .empty, formReceived := false, password := none, secretReady := false
        awaited := .none } →
      s'.outbox = s.outbox ++ es → tokensOf es = [] → cancelsOf es = s.core.awaitedIds →
      (∀ kind, .notice (.saveFinished kind) ∉ es) → s'.checking = none →
      (∀ key role bytes, .request (.uploadFile key role bytes) ∉ es) →
      (∀ e ∈ s.form.entries, ∀ key ∈ e.runningKeys, .request (.cancelUpload key) ∈ es) →
      (∀ url, .notice (.close url) ∉ es) → Move now a s s'

def Moves (now : Nat) (a : Action) : Session → Session → Prop :=
  Relation.ReflTransGen (Move now a)

/-- Taking in a reply that is waited for. -/
inductive Settle (now : Nat) (r : Reply) (s s' : Session) : Prop
  | errand (errand : Errand) (es : List Effect) : r.token.pending = .errand errand →
      s.awaited.get errand = some r.token.id →
      s'.core = { s.core with awaited := s.awaited.set errand none } →
      s'.outbox = s.outbox ++ es → (∀ x ∈ es, x.isCalm = true) →
      s'.checking = (if errand = .availableElements then none else s.checking) →
      (errand = .availableElements → ∀ elements errors,
        r.outcome = .ok (.availableElements elements errors) → s.checking = none) →
      Settle now r s s'
  | form (a : AuthorizationForm) (es : List Effect) : r.token.pending = .errand .form →
      s.awaited.form = some r.token.id → r.outcome = .ok (.authorizationForm a) →
      s'.core = { s.core with
        form := .ofAuthorization a, formReceived := true
        awaited := s.awaited.set .form none } →
      s'.outbox = s.outbox ++ es → (∀ x ∈ es, x.isCalm = true) → s'.checking = s.checking →
      Settle now r s s'
  | unlock (password : String) (elements : List StoredElement) (errors : List ElementError)
      (es : List Effect) : r.token.pending = .errand .availableElements →
      s.awaited.availableElements = some r.token.id →
      r.outcome = .ok (.availableElements elements errors) →
      s'.core = { s.core with
        form := s.form.takeElements elements errors, password := some password
        secretReady := true, awaited := s.awaited.set .availableElements none } →
      s'.outbox = s.outbox ++ es → (∀ x ∈ es, x.isCalm = true) → s.checking = some password →
      s'.checking = none → Settle now r s s'
  | task (task : Task) (e : Entry) (g : Entry → Entry) (es : List Effect) :
      r.token.pending = .task task e.kind → s.entry? e.kind = some e →
      e.awaits? task = some r.token.id → s.Uptake now e task r.outcome es (g e) →
      s'.core = { s.core with
        form := s.form.modify e.kind g, issued := s.issued + (tokensOf es).length } →
      s'.outbox = s.outbox ++ es → s'.checking = s.checking → Settle now r s s'

/-- A reply is taken in, and moves follow. -/
def Settles (now : Nat) (a : Action) (r : Reply) (s s' : Session) : Prop :=
  ∃ mid, Settle now r s mid ∧ Moves now a mid s'

/-- Closing: everything that is waited for is cancelled, and at last the view is told. -/
structure Close (s s' : Session) : Prop where
  live : s.cancelled = false
  told : ∃ (rs : List Request) (url : Option String),
    s'.outbox = s.outbox ++ (rs.map .request ++ [.notice (.close url)])
  core : s'.core = { s.core with
    form := { s.form with entries := s.form.entries.map Entry.stopped }
    awaited := .none, cancelled := true }
  effects : ∃ es, s'.outbox = s.outbox ++ es ∧ tokensOf es = [] ∧
    cancelsOf es = s.core.awaitedIds ∧ ∀ kind, .notice (.saveFinished kind) ∉ es

/-- What an action comes to. -/
inductive Acts (now : Nat) (a : Action) (s s' : Session) : Prop
  | moves : (∀ r, a ≠ .reply r) → Moves now a s s' → Acts now a s s'
  | close {mid : Session} : (∀ r, a ≠ .reply r) → Moves now a s mid → Close mid s' → Acts now a s s'
  | dropped {r : Reply} : a = .reply r → ¬ (s.cancelled = false ∧ s.core.Awaits r.token) →
      s' = s → Acts now a s s'
  | reply {r : Reply} : a = .reply r → s.cancelled = false → s.core.Awaits r.token →
      Settles now a r s s' → Acts now a s s'

end Session

end IdentityForm
