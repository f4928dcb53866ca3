/-! # Bytes of an image

Numbers and parts of a byte array by their position, and the checksum of image chunks.
-/

namespace IdentityForm.Image

/-- The bytes that the pixels of one image may take once they are decoded. -/
def maxDecoded : Nat := 512 * 1024 * 1024

/-- The byte at a position, if there is one. -/
def byte? (bytes : ByteArray) (pos : Nat) : Option Nat :=
  if h : pos < bytes.size then some bytes[pos].toNat else none

/-- Two bytes, the high one first. -/
def word16? (bytes : ByteArray) (pos : Nat) : Option Nat := do
  return 256 * (← byte? bytes pos) + (← byte? bytes (pos + 1))

/-- Four bytes, the highest first. -/
def word32? (bytes : ByteArray) (pos : Nat) : Option Nat := do
  return 65536 * (← word16? bytes pos) + (← word16? bytes (pos + 2))

/-- Whether these bytes stand at a position. -/
def hasAt (bytes : ByteArray) (pos : Nat) : List Nat → Bool
  | [] => true
  | b :: bs => byte? bytes pos = some b && hasAt bytes (pos + 1) bs

/-- One step of the cyclic redundancy check for each of `n` low bits. -/
def crcBits : Nat → UInt32 → UInt32
  | 0, c => c
  | n + 1, c => crcBits n (if c &&& 1 = 1 then (c >>> 1) ^^^ (0xEDB88320 : UInt32) else c >>> 1)

def crcTable : Array UInt32 := ((List.range 256).map fun n => crcBits 8 (UInt32.ofNat n)).toArray

/-- The check continued over `count` bytes from a position on. -/
def crcFrom (table : Array UInt32) (bytes : ByteArray) : Nat → Nat → UInt32 → UInt32
  | 0, _, c => c
  | count + 1, pos, c =>
    let b := UInt32.ofNat ((byte? bytes pos).getD 0)
    let entry := (table[((c ^^^ b) &&& 0xFF).toNat]?).getD 0
    crcFrom table bytes count (pos + 1) (entry ^^^ (c >>> 8))

/-- The checksum of `count` bytes from a position on. -/
def crc32 (bytes : ByteArray) (pos count : Nat) : Nat :=
  (crcFrom crcTable bytes count pos 0xFFFFFFFF ^^^ 0xFFFFFFFF).toNat

end IdentityForm.Image
