/-! # UTF-8

Bytes as text. Bytes that are no text have a first fault: either some bytes that begin no character,
or a character that the end of the text cuts short.
-/

namespace IdentityForm.Text

/-- Why bytes are no UTF-8, with the index of the first byte that belongs to no character. -/
inductive Utf8Fault where
  | invalid (length index : Nat)
  | incomplete (index : Nat)
  deriving DecidableEq, Repr

def Utf8Fault.message : Utf8Fault → String
  | .invalid length index => s!"invalid utf-8 sequence of {length} bytes from index {index}"
  | .incomplete index => s!"incomplete utf-8 byte sequence from index {index}"

/-- What the first bytes of a text are. -/
inductive Utf8Head where
  /-- A character of so many bytes. -/
  | whole (length : Nat)
  /-- So many bytes that can begin no character. -/
  | broken (length : Nat)
  /-- A character whose last bytes are missing. -/
  | cut
  deriving DecidableEq, Repr

/-- Reads `owed` more bytes of a character of which `length` are read; the next lies in
`low` to `high`. -/
def utf8Tail (length low high : Nat) : Nat → List UInt8 → Utf8Head
  | 0, _ => .whole length
  | _ + 1, [] => .cut
  | owed + 1, b :: bs =>
    if low ≤ b.toNat ∧ b.toNat ≤ high then utf8Tail (length + 1) 0x80 0xBF owed bs
    else .broken length

/-- Reads one character that begins with the byte `a`. -/
def utf8Head (a : UInt8) (bs : List UInt8) : Utf8Head :=
  let n := a.toNat
  if n < 0x80 then .whole 1
  else if n < 0xC2 then .broken 1
  else if n < 0xE0 then utf8Tail 1 0x80 0xBF 1 bs
  else if n = 0xE0 then utf8Tail 1 0xA0 0xBF 2 bs
  else if n = 0xED then utf8Tail 1 0x80 0x9F 2 bs
  else if n < 0xF0 then utf8Tail 1 0x80 0xBF 2 bs
  else if n = 0xF0 then utf8Tail 1 0x90 0xBF 3 bs
  else if n < 0xF4 then utf8Tail 1 0x80 0xBF 3 bs
  else if n = 0xF4 then utf8Tail 1 0x80 0x8F 3 bs
  else .broken 1

/-- The first fault from `index` on; the next `skip` bytes belong to a character already read. -/
def utf8Fault (index : Nat) : Nat → List UInt8 → Option Utf8Fault
  | _, [] => none
  | skip + 1, _ :: bs => utf8Fault (index + 1) skip bs
  | 0, a :: bs =>
    match utf8Head a bs with
    | .whole length => utf8Fault (index + 1) (length - 1) bs
    | .broken length => some (.invalid length index)
    | .cut => some (.incomplete index)

/-- The bytes as text, or their first fault. -/
def ofUtf8 (bytes : List UInt8) : Except Utf8Fault String :=
  match String.fromUTF8? ⟨bytes.toArray⟩ with
  | some text => .ok text
  | none => .error ((utf8Fault 0 0 bytes).getD (.incomplete bytes.length))

def toUtf8 (s : String) : List UInt8 := s.toUTF8.data.toList

end IdentityForm.Text
