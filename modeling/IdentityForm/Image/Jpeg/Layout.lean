import IdentityForm.Image.Jpeg.Segment

/-! # How the blocks of a scan lie

The image is divided into units, in each of which every component has some blocks. A frame can be
decoded only with its quantisers, and a component only with its codes.
-/

namespace IdentityForm.Image.Jpeg

/-- Parts of a size that cover a length. -/
def cover (length size : Nat) : Nat := (length + size - 1) / size

namespace Frame

def across (f : Frame) : Nat := (f.components.map Component.across).foldl max 1

def down (f : Frame) : Nat := (f.components.map Component.down).foldl max 1

/-- Some component has more than one block in a unit. -/
def isMixed (f : Frame) : Bool := f.across ≠ 1 || f.down ≠ 1

/-- Units of all components. -/
def units (f : Frame) : Nat := cover f.width (8 * f.across) * cover f.height (8 * f.down)

/-- Blocks of a component that fills the image by itself. -/
def blocks (f : Frame) : Nat := cover f.width 8 * cover f.height 8

/-- The first component has no fewer blocks than others, unless all have one. -/
def leads (f : Frame) : Bool :=
  ! f.isMixed || ! (f.components.head?.any fun c => c.across = 1 && c.down = 1)

end Frame

namespace Header

/-- The codes of moving pictures, where others are not given. -/
def withMovingCodes (header : Header) : Header :=
  let given (codes : List (Nat × Option Code)) : List (Nat × Code) :=
    codes.filterMap fun p => p.2.map (p.1, ·)
  if header.moving then
    { header with
      dc := header.dc ++ given [(0, Code.luminanceDc?), (1, Code.chrominanceDc?)]
      ac := header.ac ++ given [(0, Code.luminanceAc?), (1, Code.chrominanceAc?)] }
  else header

def dcCode? (header : Header) (c : Component) : Option Code := header.dc.lookup c.dc

def acCode? (header : Header) (c : Component) : Option Code := header.ac.lookup c.ac

/-- Every component has its codes. -/
def hasCodes (header : Header) (f : Frame) : Bool :=
  f.components.all fun c => (header.dcCode? c).isSome && (header.acCode? c).isSome

/-- Every component has its quantiser, and the frame can be laid out. -/
def canDecode (header : Header) (f : Frame) : Bool :=
  f.leads && f.components.all fun c => header.quantisers.contains c.quantiser

/-- What the samples are once the components are known: three inks are colours of light, and inks by
brightness with too few components are no inks. -/
def settledSamples (header : Header) (f : Frame) : Samples :=
  if f.components.length = 3 ∧ header.samples = .cmyk then .rgb
  else if f.components.length < 4 ∧ header.samples = .ycck then .yCbCr
  else header.samples

end Header

end IdentityForm.Image.Jpeg
