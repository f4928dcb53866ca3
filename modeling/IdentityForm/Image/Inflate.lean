import IdentityForm.Image.Bytes

/-! # Compressed data

The deflate format behind its two-byte header: blocks of stored, fixed and dynamically coded data.
Positions are counted in bits. Every symbol takes a bit or more, so the bits bound the loops.

Data that ends early is told from data that cannot be right: behind the end all bits count as zero,
and what would need more bits than there are is cut off.
-/

namespace IdentityForm.Image

/-- The bit at a position, the lowest of a byte first. -/
def bit (bytes : ByteArray) (pos : Nat) : Nat :=
  (((byte? bytes (pos / 8)).getD 0) >>> (pos % 8)) % 2

/-- The number in the next `count` bits, the lowest first. -/
def bits (bytes : ByteArray) : Nat → Nat → Nat
  | 0, _ => 0
  | count + 1, pos => bit bytes pos + 2 * bits bytes count (pos + 1)

/-- A canonical prefix code: how many codes there are of each length, and the symbols in the order
of their codes. -/
structure PrefixCode where
  counts : Array Nat
  symbols : Array Nat

namespace PrefixCode

def maxLength : Nat := 15

/-- Codes left over after the lengths from `length` on; none if they do not fit. -/
def slack (counts : Array Nat) : Nat → Nat → Nat → Option Nat
  | 0, _, left => some left
  | more + 1, length, left =>
    let used := (counts[length]?).getD 0
    if used ≤ 2 * left then slack counts more (length + 1) (2 * left - used) else none

/-- The code with these lengths of its symbols, length zero standing for no code. It has to be
complete, but a single code of one bit or no code at all will do where `sparse`. -/
def ofLengths? (lengths : List Nat) (sparse : Bool) : Option PrefixCode :=
  let counts := ((List.range (maxLength + 1)).map fun n => lengths.count n).toArray
  let indexed := lengths.zipIdx
  let symbols := (List.range maxLength).flatMap fun n =>
    (indexed.filter fun p => p.1 = n + 1).map (·.2)
  let code : PrefixCode := ⟨counts, symbols.toArray⟩
  match slack counts maxLength 1 1 with
  | none => none
  | some 0 => some code
  | some _ =>
    if sparse ∧ (symbols.length = 0 ∨ (symbols.length = 1 ∧ counts[1]? = some 1)) then some code
    else none

/-- Reads one symbol: the bits so far make `value`, and the codes of this length begin at `first`
and stand from `index` on in the list of symbols. -/
def decodeFrom (code : PrefixCode) (bytes : ByteArray) :
    Nat → Nat → Nat → Nat → Nat → Nat → Option (Nat × Nat)
  | 0, _, _, _, _, _ => none
  | more + 1, pos, length, value, first, index =>
    let value := value + bit bytes pos
    let count := (code.counts[length]?).getD 0
    if value < first + count then
      (code.symbols[index + (value - first)]?).map (·, pos + 1)
    else
      decodeFrom code bytes more (pos + 1) (length + 1) (2 * value) (2 * (first + count))
        (index + count)

/-- The symbol whose code stands at a position, and where it ends; none if no code stands there. -/
def decode? (code : PrefixCode) (bytes : ByteArray) (pos : Nat) : Option (Nat × Nat) :=
  decodeFrom code bytes maxLength pos 1 0 0 0

end PrefixCode

/-! ## How reading ends -/

inductive Ending where
  /-- The last block and its checksum have been read. -/
  | complete
  /-- There is no room for more. -/
  | full
  /-- The data ends before the last block. -/
  | cut
  /-- What stands here is not in the format. -/
  | corrupt
  deriving DecidableEq, Repr

/-- What has been read, and how it ended. -/
structure Inflated where
  ending : Ending
  out : ByteArray

/-- A part of the data has been read up to a position, or reading has ended. -/
abbrev Inflating := Except Inflated (Nat × ByteArray)

/-! ## Blocks -/

/-- The least length of each length symbol and the extra bits that follow it. -/
def lengthCodes : Array (Nat × Nat) :=
  #[(3, 0), (4, 0), (5, 0), (6, 0), (7, 0), (8, 0), (9, 0), (10, 0), (11, 1), (13, 1), (15, 1),
    (17, 1), (19, 2), (23, 2), (27, 2), (31, 2), (35, 3), (43, 3), (51, 3), (59, 3), (67, 4),
    (83, 4), (99, 4), (115, 4), (131, 5), (163, 5), (195, 5), (227, 5), (258, 0)]

/-- The least distance of each distance symbol and the extra bits that follow it. -/
def distanceCodes : Array (Nat × Nat) :=
  #[(1, 0), (2, 0), (3, 0), (4, 0), (5, 1), (7, 1), (9, 2), (13, 2), (17, 3), (25, 3), (33, 4),
    (49, 4), (65, 5), (97, 5), (129, 6), (193, 6), (257, 7), (385, 7), (513, 8), (769, 8),
    (1025, 9), (1537, 9), (2049, 10), (3073, 10), (4097, 11), (6145, 11), (8193, 12), (12289, 12),
    (16385, 13), (24577, 13)]

/-- Repeats `count` bytes from `distance` back. -/
def copyBack (distance : Nat) : Nat → ByteArray → ByteArray
  | 0, out => out
  | count + 1, out =>
    copyBack distance count (out.push (UInt8.ofNat ((byte? out (out.size - distance)).getD 0)))

/-- Two literals that take this many bits or fewer are read as one. -/
def pairBits : Nat := 12

/-- Where the literal that ends at `next` ends together with a literal behind it, if both are read
as one. -/
def pairEnd (literals : PrefixCode) (bytes : ByteArray) (pos next : Nat) : Nat :=
  match literals.decode? bytes next with
  | some (second, stop) => if second < 256 ∧ stop ≤ pos + pairBits then stop else next
  | none => next

/-- Length, distance and end of the repetition whose length symbol ends at a position. -/
def repetition? (distances : PrefixCode) (bytes : ByteArray) (symbol pos : Nat) :
    Option (Nat × Nat × Nat) := do
  let (length, extra) ← lengthCodes[symbol - 257]?
  let more := bits bytes extra pos
  let (symbol, pos) ← distances.decode? bytes (pos + extra)
  let (distance, further) ← distanceCodes[symbol]?
  return (length + more, distance + bits bytes further pos, pos + further)

/-- The symbol at the end of a block. The two symbols that only the fixed code has besides it end a
block as well. -/
def isEnd (symbol : Nat) : Bool := symbol = 256 || 286 ≤ symbol

/-- Reads coded symbols up to the end of the block. -/
def inflateCoded (room : Nat) (literals distances : PrefixCode) (bytes : ByteArray) :
    Nat → Nat → ByteArray → Inflating
  | 0, _, out => .error ⟨.corrupt, out⟩
  | fuel + 1, pos, out =>
    let stop := 8 * bytes.size
    if room ≤ out.size then .error ⟨.full, out⟩
    else
      match literals.decode? bytes pos with
      | none => .error ⟨.corrupt, out⟩
      | some (symbol, next) =>
        if symbol < 256 then
          if stop < pos + pairBits ∧ stop < pairEnd literals bytes pos next then
            .error ⟨.cut, out⟩
          else inflateCoded room literals distances bytes fuel next (out.push (UInt8.ofNat symbol))
        else if isEnd symbol then
          if stop < next then .error ⟨.cut, out⟩ else .ok (next, out)
        else
          match repetition? distances bytes symbol next with
          | none => .error ⟨.corrupt, out⟩
          | some (length, distance, next) =>
            if stop < next then .error ⟨.cut, out⟩
            else if out.size < distance then .error ⟨.corrupt, out⟩
            else inflateCoded room literals distances bytes fuel next (copyBack distance length out)

/-- Copies `count` stored bytes. -/
def inflateStored (room : Nat) (bytes : ByteArray) : Nat → Nat → ByteArray → Inflating
  | 0, pos, out => .ok (8 * pos, out)
  | count + 1, pos, out =>
    if room ≤ out.size then .error ⟨.full, out⟩
    else
      match byte? bytes pos with
      | none => .error ⟨.cut, out⟩
      | some b => inflateStored room bytes count (pos + 1) (out.push (UInt8.ofNat b))

def fixedLiterals : Option PrefixCode :=
  PrefixCode.ofLengths?
    (List.replicate 144 8 ++ List.replicate 112 9 ++ List.replicate 24 7 ++ List.replicate 8 8)
    false

def fixedDistances : Option PrefixCode := PrefixCode.ofLengths? (List.replicate 32 5) false

/-- The order in which the lengths of the length code come. -/
def lengthOrder : List Nat := [16, 17, 18, 0, 8, 7, 9, 6, 10, 5, 11, 4, 12, 3, 13, 2, 14, 1, 15]

/-- Reads the lengths of the codes of `total` symbols, all of them before the codes begin. A length
or a repetition of one is read only where seven bits are left. -/
def codeLengths (code : PrefixCode) (bytes : ByteArray) (total : Nat) :
    Nat → Nat → Array Nat → Except Ending (Array Nat × Nat)
  | 0, _, _ => .error .corrupt
  | fuel + 1, pos, lengths =>
    let stop := 8 * bytes.size
    if lengths.size = total then .ok (lengths, pos)
    else if total < lengths.size then .error .corrupt
    else if stop < pos + 7 then .error .cut
    else
      match code.decode? bytes pos with
      | none => .error .corrupt
      | some (symbol, pos) =>
        if symbol < 16 then codeLengths code bytes total fuel pos (lengths.push symbol)
        else
          let (least, extra) :=
            if symbol = 16 then (3, 2) else if symbol = 17 then (3, 3) else (11, 7)
          let repeated := if symbol = 16 then lengths.back? else some 0
          if stop < pos + extra then .error .cut
          else
            match repeated with
            | none => .error .corrupt
            | some length =>
              codeLengths code bytes total fuel (pos + extra)
                (lengths ++ Array.replicate (least + bits bytes extra pos) length)

/-- The two codes in front of a dynamically coded block, whose head begins behind its type. -/
def dynamicCodes (bytes : ByteArray) (pos : Nat) :
    Except Ending (PrefixCode × PrefixCode × Nat) := do
  let stop := 8 * bytes.size
  if stop < pos + 14 then throw .cut
  let literals := 257 + bits bytes 5 pos
  let distances := 1 + bits bytes 5 (pos + 5)
  let count := 4 + bits bytes 4 (pos + 10)
  if 286 < literals ∨ 30 < distances then throw .corrupt
  if stop < pos + 14 + 3 * count then throw .cut
  let given := (lengthOrder.take count).zipIdx.map fun p => (p.1, bits bytes 3 (pos + 14 + 3 * p.2))
  match PrefixCode.ofLengths? ((List.range 19).map fun n => (given.lookup n).getD 0) false with
  | none => throw .corrupt
  | some code =>
    let total := literals + distances
    let (lengths, pos) ← codeLengths code bytes total (total + 1) (pos + 14 + 3 * count) #[]
    let first := PrefixCode.ofLengths? (lengths.toList.take literals) false
    let second := PrefixCode.ofLengths? (lengths.toList.drop literals) true
    match first, second with
    | some first, some second =>
      if lengths[256]? = some 0 then throw .corrupt else return (first, second, pos)
    | _, _ => throw .corrupt

/-- Reads a block whose type has been read up to a position. -/
def inflateBlock (room : Nat) (bytes : ByteArray) (type pos : Nat) (out : ByteArray) : Inflating :=
  let stop := 8 * bytes.size
  if type = 0 then
    let start := (pos + 7) / 8
    let count := bits bytes 16 (8 * start)
    if stop < 8 * start + 32 then .error ⟨.cut, out⟩
    else if count + bits bytes 16 (8 * start + 16) = 65535 then
      inflateStored room bytes count (start + 4) out
    else .error ⟨.corrupt, out⟩
  else if type = 1 then
    match fixedLiterals, fixedDistances with
    | some literals, some distances => inflateCoded room literals distances bytes (stop + 1) pos out
    | _, _ => .error ⟨.corrupt, out⟩
  else if type = 2 then
    match dynamicCodes bytes pos with
    | .error ending => .error ⟨ending, out⟩
    | .ok (literals, distances, pos) =>
      inflateCoded room literals distances bytes (stop + 1) pos out
  else .error ⟨.corrupt, out⟩

/-- Reads blocks up to the last one and the four bytes of the checksum, which are not compared. No
block is shorter than ten bits. -/
def inflateBlocks (room : Nat) (bytes : ByteArray) : Nat → Nat → ByteArray → Inflated
  | 0, _, out => ⟨.corrupt, out⟩
  | fuel + 1, pos, out =>
    let stop := 8 * bytes.size
    if stop < pos + 10 then ⟨.cut, out⟩
    else
      match inflateBlock room bytes (bits bytes 2 (pos + 1)) (pos + 3) out with
      | .error ended => ended
      | .ok (next, out) =>
        if bit bytes pos = 0 then inflateBlocks room bytes fuel next out
        else if stop < 8 * ((next + 7) / 8) + 32 then ⟨.cut, out⟩
        else ⟨.complete, out⟩

/-- The data behind a compressed stream with its header, up to about `room` bytes. -/
def inflate (room : Nat) (bytes : ByteArray) : Inflated :=
  match byte? bytes 0, byte? bytes 1 with
  | some method, some flags =>
    if method % 16 = 8 ∧ method / 16 ≤ 7 ∧ (256 * method + flags) % 31 = 0 ∧ flags / 32 % 2 = 0 then
      inflateBlocks room bytes (8 * bytes.size + 1) 16 ByteArray.empty
    else ⟨.corrupt, ByteArray.empty⟩
  | _, _ => ⟨.cut, ByteArray.empty⟩

end IdentityForm.Image
