import IdentityForm.Image.Jpeg
import IdentityForm.Image.Png

/-! # Previews of scans

The size of a decoded image and of its thumbnail, which fits into a square.
-/

namespace IdentityForm

structure Preview where
  width : Nat
  height : Nat
  thumbWidth : Nat
  thumbHeight : Nat
  deriving DecidableEq, Repr

namespace Preview

/-- The longest side of a thumbnail. -/
def side : Nat := 512

/-- The factor that makes the longer side the longest allowed one. -/
def ratio (width height : Nat) : Float :=
  min (side.toFloat / width.toFloat) (side.toFloat / height.toFloat)

/-- A side after scaling, rounded to the nearest pixel and at least one. -/
def scaled (ratio : Float) (length : Nat) : Nat :=
  max (length.toFloat * ratio).round.toUInt64.toNat 1

def ofSize (width height : Nat) : Preview :=
  let r := ratio width height
  ⟨width, height, scaled r width, scaled r height⟩

/-- The preview of bytes that hold an image. -/
def decode? (bytes : List UInt8) : Option Preview :=
  let bytes : ByteArray := ⟨bytes.toArray⟩
  ((Image.Png.size? bytes).or (Image.Jpeg.size? bytes)).map fun p => ofSize p.1 p.2

end Preview

end IdentityForm
