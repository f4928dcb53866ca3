import IdentityForm.Image.Jpeg.Restart

/-! # Frames that are coded in sequence

All coefficients of a block stand together. What is damaged in the data of a scan ends the decoding
and does no more harm; but segments between the data have to be right.
-/

namespace IdentityForm.Image.Jpeg

/-- How a scan ends before its last unit. -/
inductive Halt where
  /-- What has been decoded stands. -/
  | enough
  | refused
  /-- Another scan begins here. -/
  | another (cursor : Cursor)

namespace Cursor

/-- Blocks of each component in a unit of the scan. A grey image has one. -/
def shape (p : Cursor) (f : Frame) : List (Component × Nat) :=
  let places := (p.header.scan.map Scan.components).getD []
  let single := p.header.settledSamples f = .grey
  places.filterMap fun n =>
    (f.components[n]?).map fun c => (c, if single then 1 else c.across * c.down)

/-- Passes over some blocks of a component. -/
def blocks? (bytes : ByteArray) (dc ac : Code) : Nat → Bits → Option Bits
  | 0, b => some b
  | count + 1, b => do blocks? bytes dc ac count (← b.block? bytes dc ac)

/-- Passes over a unit. -/
def unit? (bytes : ByteArray) (header : Header) : List (Component × Nat) → Bits → Option Bits
  | [], b => some b
  | (c, count) :: rest, b => do
    let b ← blocks? bytes (← header.dcCode? c) (← header.acCode? c) count b
    unit? bytes header rest b

/-- Deals with the marker at which reading has stopped: the end of the image, a restart that is due,
or a segment, behind which reading goes on. -/
def passMarker (bytes : ByteArray) (p : Cursor) : Except Halt Cursor :=
  match p.bits.marker with
  | none => .ok p
  | some marker =>
    if marker = endMarker then .error .enough
    else if isRestart marker then
      if p.header.countdown = 0 then (p.restart?).elim (.error .refused) .ok else .ok p
    else
      match p.header.withSegment? bytes marker p.bits.pos with
      | none => .error .refused
      | some (header, pos) =>
        let p : Cursor := ⟨header, { p.bits with pos := pos, marker := none }⟩
        if marker = scanMarker then .error (.another { p with bits := p.bits.restart }) else .ok p

/-- One unit and what follows it. Nothing can go wrong once the data is over. -/
def step (bytes : ByteArray) (shape : List (Component × Nat)) (p : Cursor) :
    Except Halt Cursor := do
  match unit? bytes p.header shape p.bits with
  | none => .error .enough
  | some bits =>
    let p ← passMarker bytes (countDown { p with bits := bits })
    match p.restartIfDue? bytes with
    | none => .error .refused
    | some p => if bytes.size ≤ p.bits.pos ∧ p.bits.marker = none then .error .enough else .ok p

def steps (bytes : ByteArray) (shape : List (Component × Nat)) : Nat → Cursor → Except Halt Cursor
  | 0, p => .ok p
  | count + 1, p => do steps bytes shape count (← step bytes shape p)

/-- Decodes scans until the image is whole. A scan that has all components makes it whole. -/
def decodes (bytes : ByteArray) (f : Frame) (units : Nat) : Nat → Cursor → Bool
  | 0, _ => false
  | fuel + 1, p =>
    let shape := p.shape f
    match steps bytes shape units p with
    | .ok _ | .error .enough => true
    | .error .refused => false
    | .error (.another p) =>
      f.components.length ≤ shape.length ||
        decodes bytes ((p.header.frame).getD f) units fuel p

end Cursor

/-- The frame can be decoded, whose first scan begins at a position. -/
def Header.decodesInSequence (header : Header) (bytes : ByteArray) (f : Frame) (pos : Nat) : Bool :=
  let header := header.withMovingCodes
  let single := header.settledSamples f = .grey
  let units := if f.isMixed ∧ ¬ single then f.units else f.blocks
  header.canDecode f && header.hasCodes f &&
    Cursor.decodes bytes f units (bytes.size + 1) ⟨header, Bits.start pos⟩

end IdentityForm.Image.Jpeg
