import IdentityForm.Session.Closing

/-! # Steps of a session

Everything that can happen to a session: calls of the view, replies, events of transfers, and the
passing of time. A run is a list of these, each with its time.
-/

namespace IdentityForm

namespace Entry

/-- The id of the request that a task of the entry is waiting for. -/
def awaits? (e : Entry) : Task → Option Nat
  | .save | .delete =>
    match e.write with
    | .pending id => some id
    | _ => none
  | .sendCode | .checkCode => e.verification.request
  | .resendCall => e.verification.callRequest?

end Entry

namespace Session

/-! ## Replies -/

def errandDone (s : Session) (now : Nat) (errand : Errand) (outcome : Outcome) : Session :=
  match errand with
  | .form => s.formDone now outcome
  | .passwordState => s.passwordStateDone now outcome
  | .availableElements => s.availableElementsDone now outcome
  | .submit => s.submitDone now outcome
  | .clearPassword => s.clearPasswordDone outcome
  | .recovery => s.recoveryDone outcome

def taskDone (s : Session) (now : Nat) (task : Task) (kind : Kind) (outcome : Outcome) : Session :=
  match task with
  | .save => s.saveDone kind outcome
  | .delete => s.deleteDone kind outcome
  | .sendCode => s.sendCodeDone now kind outcome
  | .checkCode => s.checkCodeDone kind outcome
  | .resendCall => s.resendCallDone kind outcome

/-- Takes a reply in. One that nothing is waiting for is dropped. -/
def handleReply (s : Session) (now : Nat) (r : Reply) : Session :=
  if s.cancelled then s
  else
    match r.token.pending with
    | .errand errand =>
      if s.awaited.get errand = some r.token.id then
        { s with awaited := s.awaited.set errand none }.errandDone now errand r.outcome
      else s
    | .task task kind =>
      match s.entry? kind with
      | none => s
      | some e =>
        if e.awaits? task = some r.token.id then s.taskDone now task kind r.outcome else s

/-! ## Time -/

/-- Reports the saves that had nothing to write. -/
def reportUnchanged (s : Session) : Session :=
  if s.cancelled then { s with unreported := s.unreported.tail }
  else s.unreported.foldl finishUnchanged { s with unreported := [] }

def fire (s : Session) (now : Nat) : Timer → Session
  | .closeAfterSubmit => s.cancelSurely
  | .shortPoll => s.requestPasswordState
  | .forgetPassword => { s with credentials := (s.credentials.forgetIfExpired now).2 }
  | .callTick kind => s.callTick now kind

/-- Does the work that was put off, and what every timer that is due asks for. -/
def tick (s : Session) (now : Nat) : Session :=
  let s := s.reportUnchanged
  let due := s.timers.filter fun t => t.1 ≤ now
  let s := { s with timers := s.timers.filter fun t => ¬ t.1 ≤ now }
  due.foldl (fun s t => if s.cancelled then s else s.fire now t.2) s

/-! ## Actions -/

inductive Action where
  | display
  | submitPassword (password : String)
  | reloadPassword
  | clearUnconfirmedPassword
  | recoverPassword
  | startEdit (kind : Kind)
  | stopEdit (kind : Kind)
  | save (kind : Kind) (changes : Fields)
  | delete (kind : Kind)
  | upload (kind : Kind) (role : Role) (key : UInt64) (date : Int64) (bytes : List UInt8)
  | deleteScan (kind : Kind) (slot : Slot)
  | restoreScan (kind : Kind) (slot : Slot)
  | loadFile (kind : Kind) (slot : Slot)
  | verify (kind : Kind) (code : String)
  | cancelVerification (kind : Kind)
  | submit
  | cancel
  | cancelSurely
  | suggestRestart
  | dismissRestart
  | restart
  | reply (reply : Reply)
  | file (event : FileEvent)
  | tick
  /-- Another session has a password remembered. -/
  | remember (password : String) (expires : Nat)
  /-- Another session has the password forgotten. -/
  | forget

/-- What a call returns. -/
inductive Answer where
  | done
  | refused (error : CallError)
  | toFix (kinds : List Kind)
  deriving DecidableEq

def Answer.ofError : Option CallError → Answer
  | none => .done
  | some error => .refused error

/-- One action at a time. -/
def act (s : Session) (now : Nat) (action : Action) : Session × Answer :=
  let quiet (s : Session) : Session × Answer := (s, .done)
  let checked (r : Session × Option CallError) : Session × Answer := (r.1, .ofError r.2)
  match action with
  | .display => quiet s.display
  | .submitPassword password => quiet (s.submitPassword password)
  | .reloadPassword => quiet s.reloadPassword
  | .clearUnconfirmedPassword => quiet s.clearUnconfirmedPassword
  | .recoverPassword => quiet s.recoverPassword
  | .startEdit kind => checked (s.startEdit kind)
  | .stopEdit kind => checked (s.stopEdit kind)
  | .save kind changes => checked (s.save kind changes)
  | .delete kind => checked (s.delete kind)
  | .upload kind role key date bytes => checked (s.upload kind role key date bytes)
  | .deleteScan kind slot => checked (s.setDeleted kind slot true)
  | .restoreScan kind slot => checked (s.setDeleted kind slot false)
  | .loadFile kind slot => checked (s.loadFile kind slot)
  | .verify kind code => checked (s.verify kind code)
  | .cancelVerification kind => checked (s.cancelVerification kind)
  | .submit => (s.submit.1, .toFix s.submit.2)
  | .cancel => quiet s.cancel
  | .cancelSurely => quiet s.cancelSurely
  | .suggestRestart => quiet s.suggestRestart
  | .dismissRestart => quiet s.dismissRestart
  | .restart => quiet s.restart
  | .reply reply => quiet (s.handleReply now reply)
  | .file event => quiet (s.handleFileEvent event)
  | .tick => quiet (s.tick now)
  | .remember password expires =>
    quiet { s with credentials := s.credentials.remember password expires }
  | .forget => quiet { s with credentials := s.credentials.forget }

end Session

end IdentityForm
