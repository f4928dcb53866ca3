/-! # The remembered password

A register that holds one password until it expires. All sessions of one user share it.
-/

namespace IdentityForm

structure Remembered where
  password : String
  expires : Nat
  deriving DecidableEq, Repr

structure Credentials where
  slot : Option Remembered
  deriving DecidableEq, Repr

namespace Credentials

def empty : Credentials := ⟨none⟩

def remember (_ : Credentials) (password : String) (expires : Nat) : Credentials :=
  ⟨some ⟨password, expires⟩⟩

/-- The password, unless it has expired by now; one that has is forgotten. -/
def get (c : Credentials) (now : Nat) : Option String × Credentials :=
  match c.slot with
  | some r => if now < r.expires then (some r.password, c) else (none, empty)
  | none => (none, c)

def forget (_ : Credentials) : Credentials := empty

/-- Forgets an expired password and tells whether there was one. -/
def forgetIfExpired (c : Credentials) (now : Nat) : Bool × Credentials :=
  match c.slot with
  | some r => if r.expires ≤ now then (true, empty) else (false, c)
  | none => (false, c)

def expires? (c : Credentials) : Option Nat := c.slot.map (·.expires)

end Credentials

/-- A password on its way to the server. Shown for diagnosis it is blacked out. -/
structure Secret where
  text : String
  deriving DecidableEq

def Secret.redacted (_ : Secret) : String := "Secret(***)"

end IdentityForm
