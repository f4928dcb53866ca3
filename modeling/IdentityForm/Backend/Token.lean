import IdentityForm.Kind

/-! # Tokens

A request that will be answered carries a token, and the reply brings it back. The token tells what
the request was for, so no table of requests is needed.
-/

namespace IdentityForm

/-- What a session as a whole asks the server for. -/
inductive Errand where
  | form
  | passwordState
  | availableElements
  | submit
  | clearPassword
  | recovery
  deriving DecidableEq, Repr

/-- What is asked for on behalf of one entry. -/
inductive Task where
  | save
  | delete
  | sendCode
  | resendCall
  | checkCode
  deriving DecidableEq, Repr

inductive Pending where
  | errand (errand : Errand)
  | task (task : Task) (kind : Kind)
  deriving DecidableEq, Repr

structure Token where
  id : Nat
  pending : Pending
  deriving DecidableEq, Repr

end IdentityForm
