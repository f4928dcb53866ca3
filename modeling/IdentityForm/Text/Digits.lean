/-! # Decimal digits

Numbers written in ASCII digits: the value of a run of digits, the digits of a value, and integers
with an optional sign.
-/

namespace IdentityForm.Text

/-- Values 0 to 9 of the ASCII digits. -/
def digit? (c : Char) : Option Nat :=
  if '0' ≤ c ∧ c ≤ '9' then some (c.toNat - '0'.toNat) else none

def isDigit (c : Char) : Bool := (digit? c).isSome

/-- The value of a run of digits after the value `n` of the digits before it. -/
def valueFrom (n : Nat) : List Char → Option Nat
  | [] => some n
  | c :: cs => (digit? c).bind fun d => valueFrom (10 * n + d) cs

/-- The value of a run of at least one digit. -/
def natural? : List Char → Option Nat
  | [] => none
  | c :: cs => valueFrom 0 (c :: cs)

/-- A run of digits with an optional plus sign in front. -/
def signedNatural? : List Char → Option Nat
  | '+' :: cs => natural? cs
  | cs => natural? cs

/-- A run of digits with an optional sign in front. -/
def integer? : List Char → Option Int
  | '-' :: cs => (natural? cs).map fun n => -(n : Int)
  | cs => (signedNatural? cs).map fun n => (n : Int)

def digitChar (d : Nat) : Char := Char.ofNat ('0'.toNat + d)

/-- The digits of a number, the highest first; zero has one digit. -/
def digits (n : Nat) : List Char :=
  if n < 10 then [digitChar n] else digits (n / 10) ++ [digitChar (n % 10)]

/-- The digits of a number behind a minus sign if it is negative. -/
def integerDigits : Int → List Char
  | .ofNat n => digits n
  | .negSucc n => '-' :: digits (n + 1)

/-- A text preceded by as many zeros as it lacks to a width. -/
def zeroPad (width : Nat) (cs : List Char) : List Char :=
  List.replicate (width - cs.length) '0' ++ cs

/-- A number in at least `width` characters, filled up with zeros after the sign, which counts. -/
def paddedInteger (width : Nat) : Int → List Char
  | .ofNat n => zeroPad width (digits n)
  | .negSucc n => '-' :: zeroPad (width - 1) (digits (n + 1))

end IdentityForm.Text
