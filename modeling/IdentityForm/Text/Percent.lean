import IdentityForm.Text.Digits
import IdentityForm.Text.Utf8

/-! # Percent encoding

A text written with unreserved characters only: each other byte of its UTF-8 becomes a percent sign
and two hexadecimal digits. Reading is lenient: a percent sign without two digits stands for itself.
-/

namespace IdentityForm.Text

def hexDigit? (c : Char) : Option Nat :=
  if '0' ≤ c ∧ c ≤ '9' then some (c.toNat - '0'.toNat)
  else if 'a' ≤ c ∧ c ≤ 'f' then some (c.toNat - 'a'.toNat + 10)
  else if 'A' ≤ c ∧ c ≤ 'F' then some (c.toNat - 'A'.toNat + 10)
  else none

def hexByte? (b : UInt8) : Option Nat := hexDigit? (Char.ofNat b.toNat)

def upperHexDigit (n : Nat) : Char := Char.ofNat (if n < 10 then 0x30 + n else 0x41 + (n - 10))

def lowerHexDigit (n : Nat) : Char := Char.ofNat (if n < 10 then 0x30 + n else 0x61 + (n - 10))

/-- Letters, digits, and four marks are written as they are. -/
def isUnreserved (b : UInt8) : Bool :=
  let c := Char.ofNat b.toNat
  b.toNat < 0x80 && (c.isAlphanum || c == '-' || c == '_' || c == '.' || c == '~')

def percentByte (b : UInt8) : List Char :=
  if isUnreserved b then [Char.ofNat b.toNat]
  else ['%', upperHexDigit (b.toNat / 16), upperHexDigit (b.toNat % 16)]

def percentEncode (s : String) : String := String.ofList ((toUtf8 s).flatMap percentByte)

/-- The bytes behind a percent-encoded text. -/
def percentDecode : List UInt8 → List UInt8
  | [] => []
  | p :: rest =>
    if p = 37 then
      match rest with
      | a :: b :: rest' =>
        match hexByte? a, hexByte? b with
        | some x, some y => UInt8.ofNat (16 * x + y) :: percentDecode rest'
        | _, _ => p :: percentDecode (a :: b :: rest')
      | rest' => p :: percentDecode rest'
    else p :: percentDecode rest

end IdentityForm.Text
