import IdentityForm.Image.Jpeg.Code

/-! # Bits of a scan

The data of a scan is read in bits, the highest of a byte first, some bytes ahead of their use. A
byte of ones is followed by a zero byte, or else it begins a marker, and reading stops there until
the marker has been dealt with. Behind the end of the data all bits are zero.
-/

namespace IdentityForm.Image.Jpeg

/-- Markers with a meaning of their own: frames, tables, restarts, the begin and the end of the
image, scans, the segments of some applications, and comments. -/
def isKnown (marker : Nat) : Bool :=
  [0xC0, 0xC1, 0xC2, 0xC4, 0xCC, 0xE0, 0xE1, 0xE2, 0xED, 0xEE, 0xFE].contains marker ||
    (0xD0 ≤ marker && marker ≤ 0xDD)

def isRestart (marker : Nat) : Bool := 0xD0 ≤ marker && marker ≤ 0xD7

/-- The end of the image. -/
def endMarker : Nat := 0xD9

/-- The begin of a scan. -/
def scanMarker : Nat := 0xDA

/-- The first position that does not hold a byte of ones. -/
def skipOnes (bytes : ByteArray) : Nat → Nat → Nat
  | 0, pos => pos
  | fuel + 1, pos => if byte? bytes pos = some 0xFF then skipOnes bytes fuel (pos + 1) else pos

/-- The next known marker and the position behind it; none at the end of the data or where the next
marker is not known. -/
def nextMarker? (bytes : ByteArray) : Nat → Nat → Option (Nat × Nat)
  | 0, _ => none
  | fuel + 1, pos =>
    match byte? bytes pos with
    | none => none
    | some 0xFF =>
      let stop := skipOnes bytes fuel (pos + 1)
      match byte? bytes stop with
      | none => none
      | some 0 => nextMarker? bytes fuel (stop + 1)
      | some marker => if isKnown marker then some (marker, stop + 1) else none
    | some _ => nextMarker? bytes fuel (pos + 1)

/-- Bits that are read and not yet used, the position of the next byte, and the marker at which
reading has stopped; and how many of the next blocks have no bits of their own. -/
structure Bits where
  pos : Nat
  held : Nat
  left : Nat
  marker : Option Nat
  blanks : Nat
  deriving DecidableEq, Repr

namespace Bits

/-- Nothing is read yet from a position on. -/
def start (pos : Nat) : Bits := ⟨pos, 0, 0, none, 0⟩

/-- What is read and not used is given up, and the marker is dealt with. -/
def restart (b : Bits) : Bits := start b.pos

def push (b : Bits) (byte pos : Nat) : Bits :=
  { b with pos := pos, held := 256 * b.held + byte, left := b.left + 8 }

/-- Reads up to `count` bytes, fewer if there is a marker; none if the marker is not known. -/
def pull? (bytes : ByteArray) : Nat → Bits → Option Bits
  | 0, b => some b
  | count + 1, b =>
    match byte? bytes b.pos with
    | none => pull? bytes count (b.push 0 b.pos)
    | some 0xFF =>
      let stop := skipOnes bytes bytes.size (b.pos + 1)
      match byte? bytes stop with
      | none => pull? bytes count (b.push 0xFF stop)
      | some 0 => pull? bytes count (b.push 0xFF (stop + 1))
      | some marker =>
        if isKnown marker then some { b with pos := stop + 1, marker := some marker } else none
    | some byte => pull? bytes count (b.push byte (b.pos + 1))

/-- Four bytes more, if fewer than 32 bits are left and no marker stands in the way. -/
def refill? (bytes : ByteArray) (b : Bits) : Option Bits :=
  if b.left < 32 ∧ b.marker = none then pull? bytes 4 b else some b

/-- The next `count` bits as a number. -/
def peek (b : Bits) (count : Nat) : Nat :=
  if count ≤ b.left then b.held >>> (b.left - count) else b.held <<< (count - b.left)

def drop (b : Bits) (count : Nat) : Bits :=
  let left := b.left - count
  { b with held := b.held % (1 <<< left), left := left }

/-- The next symbol of a code; none if no code stands here. -/
def symbol? (b : Bits) (code : Code) : Option (Nat × Bits) :=
  (code.find? (b.peek Code.maxLength)).map fun p => (p.1, b.drop p.2)

/-! ## Blocks

A block has one DC coefficient, which is coded by its size, and 63 AC coefficients, which are coded
by a run of zeros and a size. -/

/-- Passes over a DC coefficient. -/
def dc? (bytes : ByteArray) (code : Code) (b : Bits) : Option Bits := do
  let (size, b) ← (← b.refill? bytes).symbol? code
  return b.drop size

/-- Passes over the AC coefficients from `k` up to `last`; a run without a size and shorter
than sixteen zeros ends them, and is given with the bits behind it. -/
def ac? (bytes : ByteArray) (code : Code) (last : Nat) :
    Nat → Nat → Bits → Option (Option Nat × Bits)
  | 0, _, b => some (none, b)
  | fuel + 1, k, b =>
    if last < k then some (none, b)
    else do
      let (symbol, b) ← (← b.refill? bytes).symbol? code
      let run := symbol / 16
      let size := symbol % 16
      if size ≠ 0 then ac? bytes code last fuel (k + run + 1) (b.drop size)
      else if run = 15 then ac? bytes code last fuel (k + 16) b
      else return (some run, b)

/-- Passes over a whole block. -/
def block? (bytes : ByteArray) (dc ac : Code) (b : Bits) : Option Bits := do
  return (← ac? bytes ac 63 64 1 (← b.dc? bytes dc)).2

end Bits

end IdentityForm.Image.Jpeg
