/-! # White space

Unicode's White_Space property, and the text between the white space at its two ends.
-/

namespace IdentityForm.Text

/-- The characters with the property White_Space. -/
def isWhite (c : Char) : Bool :=
  let n := c.toNat
  (0x9 ≤ n && n ≤ 0xD) || n == 0x20 || n == 0x85 || n == 0xA0 || n == 0x1680 ||
    (0x2000 ≤ n && n ≤ 0x200A) || n == 0x2028 || n == 0x2029 || n == 0x202F || n == 0x205F ||
    n == 0x3000

/-- What is left of a text after its leading white space. -/
def trimLeft (cs : List Char) : List Char := cs.dropWhile isWhite

/-- What is left of a text after its trailing white space. -/
def trimRight (cs : List Char) : List Char := (trimLeft cs.reverse).reverse

/-- The text without the white space at its two ends. -/
def trim (s : String) : String := String.ofList (trimRight (trimLeft s.toList))

/-- Nothing but white space. -/
def isBlank (s : String) : Bool := s.toList.all isWhite

end IdentityForm.Text
