import IdentityForm.Image.Jpeg.Bits

/-! # Segments of JPEG images

What the segments of an image tell: the frame with its components, the tables that a scan needs, and
the scan that comes next. A segment stands behind its marker and begins with its length.
-/

namespace IdentityForm.Image.Jpeg

/-- What the samples of a pixel are. -/
inductive Samples where
  | grey | yCbCr | rgb | cmyk | ycck
  deriving DecidableEq, Repr

def Samples.count : Samples → Nat
  | .grey => 1
  | .yCbCr | .rgb => 3
  | .cmyk | .ycck => 4

/-- Samples of one kind: the blocks that it has across and down in a unit, and its tables. -/
structure Component where
  id : Nat
  across : Nat
  down : Nat
  quantiser : Nat
  dc : Nat
  ac : Nat
  deriving DecidableEq, Repr

structure Frame where
  progressive : Bool
  width : Nat
  height : Nat
  components : List Component
  deriving DecidableEq, Repr

/-- The components of a scan by their place in the frame, the coefficients that it holds, and their
bits: those above `low`, of which those above `high` are known unless it is zero. -/
structure Scan where
  components : List Nat
  first : Nat
  last : Nat
  high : Nat
  low : Nat
  deriving DecidableEq, Repr

/-- What the segments read so far have told. Codes and quantisers are kept by their number. -/
structure Header where
  samples : Samples
  frame : Option Frame
  scan : Option Scan
  quantisers : List Nat
  dc : List (Nat × Code)
  ac : List (Nat × Code)
  /-- Units of a scan between two restarts, and units until the next one. -/
  interval : Nat
  countdown : Nat
  /-- The image is a picture of a sequence, which may leave its codes out. -/
  moving : Bool

namespace Header

/-- Tables of one sort are numbered below this, and a frame has no more components. -/
def maxTables : Nat := 4

/-- Without restarts there are more units to the next one than a scan has. -/
def initial : Header := ⟨.yCbCr, none, none, [], [], [], 0, 0x7FFFFFFF, false⟩

/-! ## Tables -/

/-- Quantisers in `size` bytes from a position on: of one byte or two for each coefficient. -/
def quantisers? (bytes : ByteArray) : Nat → Nat → Nat → Header → Option (Header × Nat)
  | 0, _, _, _ => none
  | fuel + 1, pos, size, header =>
    if size = 0 then some (header, pos)
    else do
      let info ← byte? bytes pos
      let wide := info / 16
      let number := info % 16
      let used := 1 + 64 * (wide + 1)
      if wide ≤ 1 ∧ used ≤ size ∧ pos + used ≤ bytes.size ∧ number < maxTables then
        quantisers? bytes fuel (pos + used) (size - used)
          { header with quantisers := number :: header.quantisers }
      else none

/-- The bytes from a position on. -/
def bytesFrom? (bytes : ByteArray) (pos count : Nat) : Option (List Nat) :=
  (List.range' pos count).mapM (byte? bytes)

/-- Codes in `size` bytes from a position on. Sizes of DC coefficients are below sixteen. -/
def codes? (bytes : ByteArray) : Nat → Nat → Nat → Header → Option (Header × Nat)
  | 0, _, _, _ => none
  | fuel + 1, pos, size, header =>
    if size ≤ Code.maxLength then if size = 0 then some (header, pos) else none
    else do
      let info ← byte? bytes pos
      let number := info % 16
      let counts ← bytesFrom? bytes (pos + 1) Code.maxLength
      let used := 1 + Code.maxLength + counts.sum
      if number < maxTables ∧ info / 16 ≤ 1 ∧ counts.sum ≤ 256 ∧ used ≤ size then do
        let symbols ← bytesFrom? bytes (pos + 1 + Code.maxLength) counts.sum
        let code ← Code.ofCounts? counts symbols
        if info / 16 = 1 then
          codes? bytes fuel (pos + used) (size - used)
            { header with ac := (number, code) :: header.ac }
        else if symbols.all (· < 16) then
          codes? bytes fuel (pos + used) (size - used)
            { header with dc := (number, code) :: header.dc }
        else none
      else none

/-! ## Frame and scan -/

/-- A component in three bytes. -/
def component? (bytes : ByteArray) (pos : Nat) : Option Component := do
  let id ← byte? bytes pos
  let blocks ← byte? bytes (pos + 1)
  let quantiser ← byte? bytes (pos + 2)
  let component : Component := ⟨id, blocks / 16, blocks % 16, quantiser, 0, 0⟩
  if [1, 2, 4].contains component.across ∧ [1, 2, 4].contains component.down ∧
      quantiser < maxTables then return component
  else none

/-- The only frame of the image, with samples of eight bits. -/
def withFrame? (header : Header) (bytes : ByteArray) (progressive : Bool) (pos size : Nat) :
    Option (Header × Nat) := do
  let depth ← byte? bytes (pos + 2)
  let height ← word16? bytes (pos + 3)
  let width ← word16? bytes (pos + 5)
  let count ← byte? bytes (pos + 7)
  if header.frame.isNone ∧ depth = 8 ∧ 0 < width ∧ 0 < height ∧ 0 < count ∧ count ≤ maxTables ∧
      size = 8 + 3 * count then do
    let components ← (List.range count).mapM fun n => component? bytes (pos + 8 + 3 * n)
    let samples :=
      if count = 1 then .grey
      else if count = 4 ∧ header.samples = .yCbCr then .cmyk
      else header.samples
    let frame : Frame := ⟨progressive, width, height, components⟩
    return ({ header with samples := samples, frame := some frame }, pos + size)
  else none

/-- The components of a scan from a position on, none of them twice: their places in the frame, and
the components of the frame with the codes that they take now. -/
def scanComponents? (bytes : ByteArray) : Nat → Nat → List Component → List Nat →
    Option (List Nat × List Component)
  | 0, _, components, _ => some ([], components)
  | count + 1, pos, components, seen => do
    let id ← byte? bytes pos
    let codes ← byte? bytes (pos + 1)
    let place ← components.findIdx? fun c => c.id = id
    if seen.contains id then none
    else do
      let chosen := components.modify place fun c =>
        { c with dc := codes / 16, ac := codes % 16 }
      let (places, components) ← scanComponents? bytes count (pos + 2) chosen (id :: seen)
      return (place :: places, components)

/-- The head of a scan. -/
def withScan? (header : Header) (bytes : ByteArray) (pos size : Nat) : Option (Header × Nat) := do
  let count ← byte? bytes (pos + 2)
  let frame ← header.frame
  if size = 6 + 2 * count ∧ 0 < count ∧ count ≤ maxTables then do
    let (places, components) ← scanComponents? bytes count (pos + 3) frame.components []
    let first ← byte? bytes (pos + size - 3)
    let last ← byte? bytes (pos + size - 2)
    let steps ← byte? bytes (pos + size - 1)
    let scan : Scan := ⟨places, first, last, steps / 16, steps % 16⟩
    if first ≤ 63 ∧ last ≤ 63 ∧ scan.high ≤ 13 ∧ scan.low ≤ 13 then
      let frame := { frame with components := components }
      return ({ header with frame := some frame, scan := some scan }, pos + size)
    else none
  else none

/-! ## Segments of applications -/

/-- The name, with a zero behind it, in front of the later parts of a long description. -/
def laterPartName : List Nat :=
  [0x68, 0x74, 0x74, 0x70, 0x3A, 0x2F, 0x2F, 0x6E, 0x73, 0x2E, 0x61, 0x64, 0x6F, 0x62, 0x65,
    0x2E, 0x63, 0x6F, 0x6D, 0x2F, 0x78, 0x6D, 0x70, 0x2F, 0x65, 0x78, 0x74, 0x65, 0x6E, 0x73,
    0x69, 0x6F, 0x6E, 0x2F, 0x00]

/-- The name of the application whose segment tells what the samples are. -/
def samplesName : List Nat := [0x41, 0x64, 0x6F, 0x62, 0x65]

/-- The name, with a zero behind it, of a sequence of pictures. -/
def movingName : List Nat := [0x41, 0x56, 0x49, 0x31, 0x00]

/-- A later part of a long description has a head of forty bytes. -/
def withDescription? (header : Header) (bytes : ByteArray) (pos size : Nat) :
    Option (Header × Nat) :=
  let used := 2 + laterPartName.length
  if bytes.size < pos + size then none
  else if used < size ∧ hasAt bytes (pos + 2) laterPartName ∧ size < used + 40 then none
  else some (header, pos + size)

/-- The application that tells what the samples are. -/
def withSamples? (header : Header) (bytes : ByteArray) (pos size : Nat) : Option (Header × Nat) :=
  if size < 14 ∨ bytes.size < pos + size then none
  else if hasAt bytes (pos + 2) samplesName then
    match byte? bytes (pos + 13) with
    | some 0 => some ({ header with samples := .cmyk }, pos + size)
    | some 1 => some ({ header with samples := .yCbCr }, pos + size)
    | some 2 => some ({ header with samples := .ycck }, pos + size)
    | _ => none
  else some (header, pos + size)

/-- A name of five bytes, which is read even where only four belong to the segment. -/
def withMoving? (header : Header) (bytes : ByteArray) (pos size : Nat) : Option (Header × Nat) :=
  if size ≤ 5 then some (header, pos + size)
  else if bytes.size < pos + 7 then none
  else
    some ({ header with moving := header.moving || hasAt bytes (pos + 2) movingName },
      pos + max size 7)

/-- Reads the segment of a marker, whose length stands at a position, and gives the position behind
it. The end of the image and what cannot be decoded have no segments. -/
def withSegment? (header : Header) (bytes : ByteArray) (marker pos : Nat) :
    Option (Header × Nat) := do
  let size ← word16? bytes pos
  if size < 2 then none
  else
    match marker with
    | 0xC0 | 0xC1 => header.withFrame? bytes false pos size
    | 0xC2 => header.withFrame? bytes true pos size
    | 0xC4 => codes? bytes size (pos + 2) (size - 2) header
    | 0xDB => quantisers? bytes size (pos + 2) (size - 2) header
    | 0xDA => header.withScan? bytes pos size
    | 0xCC | 0xD9 | 0xDC => none
    | 0xDD => do
      let interval ← word16? bytes (pos + 2)
      if size = 4 then return ({ header with interval := interval, countdown := interval }, pos + 4)
      else none
    | 0xE0 => header.withMoving? bytes pos size
    | 0xE1 => header.withDescription? bytes pos size
    | 0xE2 | 0xED => if bytes.size < pos + size then none else some (header, pos + size)
    | 0xEE => header.withSamples? bytes pos size
    | _ => some (header, pos + size)

/-! ## The head of the image -/

/-- Passes over fill bytes, zeros and bytes of ones: the last of them, and the first other byte with
the position behind it. -/
def skipFill? (bytes : ByteArray) : Nat → Nat → Nat → Option (Nat × Nat × Nat)
  | 0, _, _ => none
  | fuel + 1, pos, last =>
    match byte? bytes pos with
    | none => none
    | some b =>
      if b = 0 ∨ b = 0xFF then skipFill? bytes fuel (pos + 1) b else some (last, b, pos + 1)

/-- Reads segments up to the head of the first scan, whatever stands between them. A marker is a
byte behind a byte of ones, `last` being the byte before. -/
def head? (bytes : ByteArray) : Nat → Nat → Nat → Header → Option (Header × Nat)
  | 0, _, _, _ => none
  | fuel + 1, pos, last, header => do
    let b ← byte? bytes pos
    let (last, b, pos) ←
      if last = 0xFF ∧ (b = 0 ∨ b = 0xFF) then skipFill? bytes (fuel + 1) pos last
      else some (last, b, pos + 1)
    if last = 0xFF then do
      let (header, pos) ← header.withSegment? bytes b pos
      if b = scanMarker then return (header, pos) else head? bytes fuel pos b header
    else head? bytes fuel pos b header

end Header

end IdentityForm.Image.Jpeg
