import IdentityForm.Session.Editing

/-! # Verification

A new phone or email is verified before it is saved: a code is sent there, the user types it in, and
once the server accepts it the save is sent again. A phone may be called when the message is late.
-/

namespace IdentityForm.Session

/-- Asks the server to send a code. -/
def sendCode (s : Session) (kind : Kind) (make : Token → String → Request) : Session :=
  match s.entry? kind with
  | none => s
  | some e =>
    (s.put { e with verification := { Verification.none with request := some s.nextId } }).ask
      (.task .sendCode kind) fun t => make t e.target

/-- What a response says about a code that was sent: its length, and the seconds until a call. -/
def codeSent? (kind : Kind) : Response → Option (CodeLength × Option Nat)
  | .phoneCode code =>
    if kind = .phone then
      let length := (code.delivery.length?.map CodeLength.exact).getD .unknown
      let isCall := (code.next.map CodeDelivery.isCall).getD false
      some (length, if isCall ∧ 0 < code.timeout.toNat then some code.timeout.toNat else none)
    else none
  | .emailCode code =>
    if kind = .email then
      some (if code.length = 0 then .unknown else .exact code.length.toNat, none)
    else none
  | _ => none

def sendCodeFailed (s : Session) (kind : Kind) (error : ServerError) : Session :=
  let s := s.modify kind fun e => { e with verification := .none }
  let text :=
    match CodeFailure.ofCode error.code with
    | .flood => Phrase.tooManyTries
    | .wrong | .other _ => error.code
  (s.notify (.errorBox text)).editFailed kind

def sendCodeDone (s : Session) (now : Nat) (kind : Kind) : Outcome → Session
  | .failed error => s.sendCodeFailed kind error
  | .ok response =>
    match codeSent? kind response with
    | none => s.sendCodeFailed kind response.unexpected
    | some (length, timeout) =>
      let s := s.modify kind fun e => { e with
        verification := { e.verification with
          request := none
          codeLength := some length
          call := (timeout.map fun t => VoiceCall.waiting (now + 1000 * t)).or
            e.verification.call } }
      let s :=
        if timeout.isSome then s.schedule (now + s.setup.settings.callTick) (.callTick kind) else s
      s.notify (.verificationNeeded kind)

/-- Checks the code that the user typed in. -/
def verify (s : Session) (kind : Kind) (code : String) : Session × Option CallError :=
  let code := Text.trim code
  match s.entry? kind with
  | none => (s, some (.notRequested kind))
  | some e =>
    match e.verification.codeLength with
    | none => (s, some (.noCodeSent kind))
    | some length =>
      if e.verification.request.isSome then (s, none)
      else if length.refuses code then
        let s := s.put { e with
          verification := { e.verification with error := some Phrase.wrongCode } }
        (s.notify (.verificationUpdate kind), none)
      else
        let s' := s.put { e with
          verification := { e.verification with request := some s.nextId, error := none } }
        (s'.ask (.task .checkCode kind) fun t =>
          if kind = .email then .checkEmailCode t e.target code
          else .checkPhoneCode t e.target code, none)

def checkCodeDone (s : Session) (kind : Kind) (outcome : Outcome) : Session :=
  match s.entry? kind with
  | none => s
  | some e =>
    match outcome with
    | .ok _ =>
      let s := s.sendAll (e.verification.callRequest?.toList.map .cancel)
      let s := (s.put { e with verification := .none }).disarm (.callTick kind)
      match (s.notify (.verificationUpdate kind)).sendSave kind with
      | (s, none) => s
      | (s, some _) => s.editFailed kind
    | .failed error =>
      let text :=
        match CodeFailure.ofCode error.code with
        | .wrong => Phrase.wrongCode
        | .flood => Phrase.tooManyTries
        | .other code => code
      let s := s.put { e with
        verification := { e.verification with request := none, error := some text } }
      s.notify (.verificationUpdate kind)

/-- Gives up a verification. The edit has failed with it, unless something else is under way. -/
def cancelVerification (s : Session) (kind : Kind) : Session × Option CallError :=
  match s.entry? kind with
  | none => (s, some (.notRequested kind))
  | some e =>
    let ids := e.verification.request.toList ++ e.verification.callRequest?.toList
    let s := s.sendAll (ids.map .cancel)
    let quiet := { e with verification := .none }
    let s := (s.put quiet).disarm (.callTick kind)
    let s := if e.verification.codeLength.isSome then s.notify (.verificationUpdate kind) else s
    (if quiet.isBusy then s else s.editFailed kind, none)

/-- Counts down to the call, and asks for it when the time has come. -/
def callTick (s : Session) (now : Nat) (kind : Kind) : Session :=
  match s.entry? kind with
  | none => s
  | some e =>
    match e.verification.call with
    | some (.waiting due) =>
      if due ≤ now then
        let s' := s.put { e with
          verification := { e.verification with call := some (.calling s.nextId) } }
        (s'.ask (.task .resendCall kind) fun t => .resendPhoneCode t e.target).notify
          (.verificationUpdate kind)
      else
        (s.schedule (now + s.setup.settings.callTick) (.callTick kind)).notify
          (.verificationUpdate kind)
    | _ => s

def resendCallDone (s : Session) (kind : Kind) (outcome : Outcome) : Session :=
  let s := s.modify kind fun e =>
    match outcome with
    | .ok _ => { e with verification := { e.verification with call := some .called } }
    | .failed error =>
      { e with verification := { e.verification with call := none, error := some error.code } }
  s.notify (.verificationUpdate kind)

/-! ## Replies to a save -/

def saveFailed (s : Session) (kind : Kind) (error : ServerError) : Session :=
  let s := s.modify kind fun e => { e with write := .idle }
  match SaveFailure.ofCode kind error.code with
  | .updateApp => (s.notify .updateAppRequired).editFailed kind
  | .verifyPhone => s.sendCode kind .sendPhoneCode
  | .verifyEmail => s.sendCode kind .sendEmailCode
  | .badField field message =>
    (s.modify kind fun e => { e with draftFields := e.draftFields.setError field message }).notify
      (.fieldError kind field)
  | .restart => (s.clearIfIdle kind).suggestRestart
  | .other code => (s.notify (.errorBox code)).editFailed kind

def saveDone (s : Session) (kind : Kind) : Outcome → Session
  | .ok (.element element) =>
    if element.kind = kind then
      (s.modify kind fun e => { e with write := .idle }.commit element.contents).notify
        (.saveFinished kind)
    else s.saveFailed kind ⟨Code.kindMismatch⟩
  | .ok other => s.saveFailed kind other.unexpected
  | .failed error => s.saveFailed kind error

end IdentityForm.Session
