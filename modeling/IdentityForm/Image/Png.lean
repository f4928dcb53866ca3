import IdentityForm.Image.Inflate

/-! # PNG images

Whether bytes hold a whole image in this format, and its size. The pixels themselves are not needed.
-/

namespace IdentityForm.Image.Png

def signature : List Nat := [0x89, 0x50, 0x4E, 0x47, 0x0D, 0x0A, 0x1A, 0x0A]

/-- A chunk: its four letters, and where its data stands. -/
structure Chunk where
  letters : Nat
  start : Nat
  size : Nat
  deriving DecidableEq, Repr

/-- The number that four letters make. -/
def letters (s : String) : Nat := s.toList.foldl (fun n c => 256 * n + c.toNat) 0

/-- A chunk that a reader may ignore begins with a small letter. -/
def Chunk.isAncillary (c : Chunk) : Bool := c.letters.testBit 29

def Chunk.hasChecksum (bytes : ByteArray) (c : Chunk) : Bool :=
  word32? bytes (c.start + c.size) = some (crc32 bytes (c.start - 4) (c.size + 4))

/-- The colours of an image: how many samples a pixel has and how many bits a sample. -/
structure Colour where
  samples : Nat
  depth : Nat
  indexed : Bool
  deriving DecidableEq, Repr

/-- Bytes of a decoded pixel. Samples take one byte or two, indexed colours become three samples,
and transparent colours one sample more. -/
def Colour.pixelBytes (c : Colour) (transparent : Bool) : Nat :=
  ((if c.indexed then 3 else c.samples) + if transparent then 1 else 0) * ((c.depth + 7) / 8)

/-- The allowed combinations of a colour type and a depth. -/
def colour? (type depth : Nat) : Option Colour :=
  let make (samples : Nat) (depths : List Nat) (indexed : Bool) : Option Colour :=
    if depths.contains depth then some ⟨samples, depth, indexed⟩ else none
  match type with
  | 0 => make 1 [1, 2, 4, 8, 16] false
  | 2 => make 3 [8, 16] false
  | 3 => make 1 [1, 2, 4, 8] true
  | 4 => make 2 [8, 16] false
  | 6 => make 4 [8, 16] false
  | _ => none

structure Header where
  width : Nat
  height : Nat
  colour : Colour
  interlaced : Bool
  deriving DecidableEq, Repr

def header? (bytes : ByteArray) (c : Chunk) : Option Header :=
  if c.letters = letters "IHDR" ∧ c.size = 13 then do
    let width ← word32? bytes c.start
    let height ← word32? bytes (c.start + 4)
    let colour ← colour? (← byte? bytes (c.start + 9)) (← byte? bytes (c.start + 8))
    let interlace ← byte? bytes (c.start + 12)
    if 0 < width ∧ 0 < height ∧ byte? bytes (c.start + 10) = some 0 ∧
        byte? bytes (c.start + 11) = some 0 ∧ interlace ≤ 1 then
      return ⟨width, height, colour, interlace = 1⟩
    else none
  else none

/-- Bytes of one row of pixels, its filter byte aside. -/
def Colour.rowBytes (c : Colour) (width : Nat) : Nat := (width * c.samples * c.depth + 7) / 8

/-- First column, first row, and the steps of the seven passes of an interlaced image. -/
def passes : List (Nat × Nat × Nat × Nat) :=
  [(0, 0, 8, 8), (4, 0, 8, 8), (0, 4, 4, 8), (2, 0, 4, 4), (0, 2, 2, 4), (1, 0, 2, 2), (0, 1, 1, 2)]

/-- How many of the numbers below `total` a pass takes, from `first` on in steps of `step`. -/
def passCount (total first step : Nat) : Nat := (total + step - 1 - first) / step

/-- Rows of pixels in the order in which they are stored: how many, and the bytes of each. -/
def Header.rows (h : Header) : List (Nat × Nat) :=
  if h.interlaced then
    passes.filterMap fun p =>
      let width := passCount h.width p.1 p.2.2.1
      let height := passCount h.height p.2.1 p.2.2.2
      if width = 0 ∨ height = 0 then none else some (height, h.colour.rowBytes width)
  else [(h.height, h.colour.rowBytes h.width)]

/-- Each of `count` rows from a position on begins with one of the five filters; where they end. -/
def checkRows (data : ByteArray) (size : Nat) : Nat → Nat → Option Nat
  | 0, pos => some pos
  | count + 1, pos => do
    let filter ← byte? data pos
    if filter ≤ 4 ∧ pos + 1 + size ≤ data.size then checkRows data size count (pos + 1 + size)
    else none

/-- All rows are there. -/
def hasRows (h : Header) (data : ByteArray) : Bool :=
  (h.rows.foldlM (fun pos p => checkRows data p.2 p.1 pos) 0).isSome

/-- Bytes of all rows together with their filter bytes. -/
def Header.dataBytes (h : Header) : Nat :=
  h.rows.foldl (fun total p => total + p.1 * (p.2 + 1)) 0

/-- How far data is decompressed for so many bytes of rows: the window that later data may repeat
is kept behind them, and room is made by whole pages. -/
def roomFor (total : Nat) : Nat :=
  let page := 8192
  let window := 32768
  page * ((total + window + page - 1) / page)

/-- The image data stands whole in a compressed stream: nothing wrong is met up to the last row, and
what is missing behind it does not matter. -/
def Header.accepts (h : Header) (stream : ByteArray) : Bool :=
  let read := inflate (roomFor h.dataBytes) stream
  read.ending ≠ .corrupt && hasRows h read.out

/-! ## Chunks -/

/-- How far the chunks are read: before the image data, or inside it. The image data is a row of
chunks of the same letters. -/
structure Progress where
  header : Option Header
  palette : Bool
  transparent : Bool
  /-- A usable description of the colours by code points has been met. -/
  described : Bool
  /-- The number of the last part of an animation. -/
  sequence : Option Nat
  data : Option (Nat × ByteArray)

namespace Progress

def initial : Progress := ⟨none, false, false, false, none, none⟩

/-- A palette of at most 256 colours; its last colour may be cut short. -/
def withPalette? (p : Progress) (c : Chunk) : Option Progress :=
  if p.palette ∨ c.size < 3 ∨ 768 < c.size then none else some { p with palette := true }

/-- Transparency is passed over where it does not fit the colours. -/
def withTransparency (p : Progress) (h : Header) (c : Chunk) : Progress :=
  let fits :=
    if h.colour.indexed then p.palette
    else h.colour.samples = 1 && 2 ≤ c.size || h.colour.samples = 3 && 6 ≤ c.size
  { p with transparent := p.transparent || fits }

/-- Colours described by code points: primaries, transfer, a matrix that has to be the first one,
and a range that is partial or full. Only the first description before a palette counts. -/
def withDescription? (p : Progress) (bytes : ByteArray) (c : Chunk) : Option Progress :=
  if p.palette ∨ p.described ∨ c.size ≠ 4 then some p
  else if byte? bytes (c.start + 2) = some 0 ∧
      (byte? bytes (c.start + 3) = some 0 ∨ byte? bytes (c.start + 3) = some 1) then
    some { p with described := true }
  else none

/-- The control of the next frame of an animation, which here is the image itself: its number comes
next, it covers the image, and its ways of disposal and blending are known. -/
def withFrame? (p : Progress) (bytes : ByteArray) (h : Header) (c : Chunk) : Option Progress := do
  let number ← word32? bytes c.start
  let width ← word32? bytes (c.start + 4)
  let height ← word32? bytes (c.start + 8)
  let left ← word32? bytes (c.start + 12)
  let top ← word32? bytes (c.start + 16)
  let disposal ← byte? bytes (c.start + 24)
  let blending ← byte? bytes (c.start + 25)
  if c.size = 26 ∧ number = (p.sequence.elim 0 (· + 1)) ∧ width = h.width ∧ height = h.height ∧
      left = 0 ∧ top = 0 ∧ disposal ≤ 2 ∧ blending ≤ 1 then
    return { p with sequence := some number }
  else none

/-- One chunk of image data: a plain one, or a numbered one of an animation, whose number comes
next. Indexed colours need their palette. -/
def withData? (p : Progress) (bytes : ByteArray) (h : Header) (c : Chunk) : Option Progress := do
  let before := (p.data.map (·.2)).getD ByteArray.empty
  if h.colour.indexed ∧ ¬ p.palette then none
  else if c.letters = letters "IDAT" then
    return { p with data := some (c.letters, before ++ bytes.extract c.start (c.start + c.size)) }
  else do
    let number ← word32? bytes c.start
    let last ← p.sequence
    if 4 ≤ c.size ∧ number = last + 1 then
      let part := bytes.extract (c.start + 4) (c.start + c.size)
      return { p with sequence := some number, data := some (c.letters, before ++ part) }
    else none

/-- A chunk before the image data whose checksum is right. Unknown chunks are passed over if a
reader may ignore them. -/
def withChunk? (p : Progress) (bytes : ByteArray) (c : Chunk) : Option Progress :=
  match p.header with
  | none => (header? bytes c).map fun h => { p with header := some h }
  | some h =>
    if c.letters = letters "PLTE" then p.withPalette? c
    else if c.letters = letters "tRNS" then some (p.withTransparency h c)
    else if c.letters = letters "cICP" then p.withDescription? bytes c
    else if c.letters = letters "fcTL" then p.withFrame? bytes h c
    else if c.isAncillary then some p
    else none

end Progress

/-- Image data is in plain chunks or in numbered ones of an animation. -/
def Chunk.isData (c : Chunk) : Bool :=
  c.letters = Png.letters "IDAT" || c.letters = Png.letters "fdAT"

/-- Reads chunks up to the one after the image data. A chunk with a wrong checksum is passed over if
a reader may ignore it, though not what it adds to the image data. -/
def readChunks (bytes : ByteArray) : Nat → Nat → Progress → Option Progress
  | 0, _, _ => none
  | fuel + 1, pos, progress => do
    let size ← word32? bytes pos
    let chunk : Chunk := ⟨← word32? bytes (pos + 4), pos + 8, size⟩
    let next := pos + 12 + size
    if progress.data.any fun d => d.1 ≠ chunk.letters then return progress
    else if bytes.size < next then none
    else do
      let whole := chunk.hasChecksum bytes
      match progress.header, chunk.isData with
      | some h, true =>
        if whole ∨ chunk.isAncillary then
          readChunks bytes fuel next (← progress.withData? bytes h chunk)
        else none
      | header, _ =>
        if whole then readChunks bytes fuel next (← progress.withChunk? bytes chunk)
        else if header.isSome ∧ chunk.isAncillary then readChunks bytes fuel next progress
        else none

/-- Width and height of the image, if all of it can be decoded. -/
def size? (bytes : ByteArray) : Option (Nat × Nat) :=
  if hasAt bytes 0 signature then do
    let progress ← readChunks bytes (bytes.size + 1) 8 Progress.initial
    let h ← progress.header
    let (_, stream) ← progress.data
    if h.width * h.height * h.colour.pixelBytes progress.transparent ≤ maxDecoded ∧
        h.accepts stream then
      return (h.width, h.height)
    else none
  else none

end IdentityForm.Image.Png
