import IdentityForm.Image.Jpeg.Progressive
import IdentityForm.Image.Jpeg.Sequential

/-! # JPEG images

Whether bytes hold an image in this format that can be decoded, and its size. The pixels themselves
are not needed.
-/

namespace IdentityForm.Image.Jpeg

/-- Bytes of a decoded pixel: grey, or three colours. -/
def Samples.pixelBytes (s : Samples) : Nat := if s = .grey then 1 else 3

/-- Width and height of the image, if it can be decoded. -/
def size? (bytes : ByteArray) : Option (Nat × Nat) :=
  if hasAt bytes 0 [0xFF, 0xD8, 0xFF] then do
    let (header, pos) ← Header.head? bytes (bytes.size + 1) 2 0 Header.initial
    let f ← header.frame
    let decodes :=
      if f.progressive then header.decodesInProgression bytes f pos
      else header.decodesInSequence bytes f pos
    if f.width * f.height * header.samples.pixelBytes ≤ maxDecoded ∧ decodes then
      return (f.width, f.height)
    else none
  else none

end IdentityForm.Image.Jpeg
