import IdentityForm.Image.Jpeg.Restart

/-! # Frames that are coded in progression

Every scan holds some coefficients of some components, or some bits of them. Where the first scan is
damaged, what has been decoded stands; where it is sound, a marker has to be met by the end of it.
Later scans are passed over up to the next marker.
-/

namespace IdentityForm.Image.Jpeg

namespace Bits

/-- Blocks without bits of their own, how many being given by further bits. The block at which they
are met is the first of them. -/
def withBlanks (b : Bits) (size : Nat) : Bits :=
  { b.drop size with blanks := (1 <<< size) + b.peek size - 1 }

/-- One of the blocks without bits of its own, if there are any. -/
def blank? (b : Bits) : Option Bits :=
  if 0 < b.blanks then some { b with blanks := b.blanks - 1 } else none

/-- Passes over the AC coefficients of a block from `first` up to `last`, one at least. -/
def acPart? (bytes : ByteArray) (code : Code) (first last : Nat) (b : Bits) : Option Bits := do
  match ← b.ac? bytes code (max first last) 64 first with
  | (none, b) => return b
  | (some size, b) => return b.withBlanks size

/-- Passes over a block of which no coefficient is known, each being read bit by bit from `k` up to
`last`. `met` tells whether there is one already. -/
def refined? (bytes : ByteArray) (code : Code) (last : Nat) : Nat → Nat → Bool → Bits → Option Bits
  | 0, _, _, b => some b
  | fuel + 1, k, met, b => do
    let (symbol, b) ← (← b.refill? bytes).symbol? code
    let skip := symbol / 16
    let size := symbol % 16
    if 1 < size then none
    else if size = 0 ∧ skip ≠ 15 then
      let b := b.withBlanks skip
      if met then b.refill? bytes else return b
    else
      let next := (if k ≤ last then min (k + skip) last else k) + 1
      let b := b.drop size
      if last < next then return b else refined? bytes code last fuel next (met || size = 1) b

end Bits

namespace Scan

/-- The scan cannot be decoded into a frame whose pixels have so many samples. -/
def isOdd (s : Scan) (samples : Nat) : Bool :=
  samples < s.components.length ||
    (s.last ≠ 0 && (s.first = 0 || s.components.length ≠ 1))

/-- Passes over a block of a component. -/
def block? (s : Scan) (bytes : ByteArray) (header : Header) (c : Component) (b : Bits) :
    Option Bits :=
  if s.first = 0 ∨ s.components.length ≠ 1 then
    if s.high = 0 then do b.dc? bytes (← header.dcCode? c)
    else do
      let b ← if b.left = 0 then b.refill? bytes else some b
      return b.drop 1
  else
    match b.blank? with
    | some b => some b
    | none => do
      let code ← header.acCode? c
      if s.high = 0 then b.acPart? bytes code s.first s.last
      else b.refined? bytes code s.last 64 s.first false

def blocks? (s : Scan) (bytes : ByteArray) (header : Header) (c : Component) :
    Nat → Bits → Option Bits
  | 0, b => some b
  | count + 1, b => do s.blocks? bytes header c count (← s.block? bytes header c b)

def unit? (s : Scan) (bytes : ByteArray) (header : Header) :
    List (Component × Nat) → Bits → Option Bits
  | [], b => some b
  | (c, count) :: rest, b => do s.unit? bytes header rest (← s.blocks? bytes header c count b)

/-- Passes over units, with the restarts between them. -/
def units? (s : Scan) (bytes : ByteArray) (shape : List (Component × Nat)) :
    Nat → Cursor → Option Cursor
  | 0, p => some p
  | count + 1, p => do
    let bits ← s.unit? bytes p.header shape p.bits
    s.units? bytes shape count (← (Cursor.countDown { p with bits := bits }).restartIfDue? bytes)

/-- The units of the scan and what each of them holds. A component by itself has its own blocks,
unless it is a later one of a mixed frame. -/
def layout (s : Scan) (f : Frame) : Nat × List (Component × Nat) :=
  let components := s.components.filterMap fun n => f.components[n]?
  match s.components, components with
  | [place], [c] =>
    let own := ! f.isMixed || place = 0 && (c.across ≠ 1 || c.down ≠ 1)
    (if own then f.blocks else f.units, [(c, 1)])
  | _, _ => (f.units, components.map fun c => (c, c.across * c.down))

end Scan

/-- The most scans that are read. -/
def maxScans : Nat := 100

/-- Deals with the markers behind the first scan: segments have to be right, up to the end of the
image or of the data. -/
def followsUp (bytes : ByteArray) : Nat → Header → Nat → Nat → Nat → Bool
  | 0, _, _, _, _ => false
  | fuel + 1, header, scans, marker, pos =>
    if marker = endMarker then true
    else
      let passed :=
        if isRestart marker then some (header, pos) else header.withSegment? bytes marker pos
      match passed with
      | none => false
      | some (header, pos) =>
        let samples := (header.frame.map fun f => (header.settledSamples f).count).getD 0
        let isScan := marker = scanMarker
        if isScan ∧ header.scan.any fun s => s.isOdd samples then true
        else
          match nextMarker? bytes (bytes.size + 1) pos with
          | none => true
          | some (marker, pos) =>
            let scans := if isScan then scans + 1 else scans
            scans ≤ maxScans && followsUp bytes fuel header scans marker pos

/-- The frame can be decoded, whose first scan begins at a position. -/
def Header.decodesInProgression (header : Header) (bytes : ByteArray) (f : Frame) (pos : Nat) :
    Bool :=
  let header := header.withMovingCodes
  let samples := (header.settledSamples f).count
  header.canDecode f && samples ≤ f.components.length &&
    match header.scan with
    | none => false
    | some s =>
      s.isOdd samples ||
        let (units, shape) := s.layout f
        match s.units? bytes shape units ⟨header, Bits.start pos⟩ with
        | none => true
        | some p =>
          p.bits.marker.any fun marker =>
            followsUp bytes (bytes.size + 1) p.header 1 marker p.bits.pos

end IdentityForm.Image.Jpeg
