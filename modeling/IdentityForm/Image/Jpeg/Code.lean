import IdentityForm.Image.Bytes

/-! # Prefix codes of JPEG images

A code is given by the number of its codes of each length up to sixteen and by its symbols in the
order of their codes. It need not be complete, and it may not use a code of ones alone.
-/

namespace IdentityForm.Image.Jpeg

/-- The codes of one length: where they end among the numbers of sixteen bits, the first of them,
and the index of its symbol. -/
structure CodeRow where
  length : Nat
  limit : Nat
  first : Nat
  index : Nat
  deriving DecidableEq, Repr

structure Code where
  rows : List CodeRow
  symbols : Array Nat
  deriving DecidableEq, Repr

namespace Code

/-- The longest length of a code. -/
def maxLength : Nat := 16

/-- The rows for these counts of codes, the first count being for `length`. -/
def rows? : List Nat → Nat → Nat → Nat → Option (List CodeRow)
  | [], _, _, _ => some []
  | 0 :: counts, length, first, index => rows? counts (length + 1) (2 * first) index
  | count :: counts, length, first, index =>
    if first + count < 1 <<< length then
      (rows? counts (length + 1) (2 * (first + count)) (index + count)).map
        (⟨length, (first + count) <<< (maxLength - length), first, index⟩ :: ·)
    else none

/-- The code with these counts of codes of each length. -/
def ofCounts? (counts symbols : List Nat) : Option Code :=
  (rows? counts 1 0 0).map fun rows => ⟨rows, symbols.toArray⟩

/-- The symbol whose code begins a number of sixteen bits, and the length of the code. -/
def find? (code : Code) (word : Nat) : Option (Nat × Nat) :=
  (code.rows.find? fun row => word < row.limit).map fun row =>
    let offset := (word >>> (maxLength - row.length)) - row.first
    ((code.symbols[row.index + offset]?).getD 0, row.length)

/-! ## The codes of moving pictures

Pictures of a sequence may leave their codes out; these are meant then. -/

/-- Symbols with the same low half, one for each of the high halves from `first` on. -/
def symbolRun (first last : Nat) : List Nat := List.range' first (last + 1 - first)

def luminanceDc? : Option Code :=
  ofCounts? [0, 1, 5, 1, 1, 1, 1, 1, 1, 0, 0, 0, 0, 0, 0, 0] (symbolRun 0 11)

def chrominanceDc? : Option Code :=
  ofCounts? [0, 3, 1, 1, 1, 1, 1, 1, 1, 1, 1, 0, 0, 0, 0, 0] (symbolRun 0 11)

def luminanceAc? : Option Code :=
  ofCounts? [0, 2, 1, 3, 3, 2, 4, 3, 5, 5, 4, 4, 0, 0, 1, 125]
    ([0x01, 0x02, 0x03, 0x00, 0x04, 0x11, 0x05, 0x12, 0x21, 0x31, 0x41, 0x06, 0x13, 0x51, 0x61,
      0x07, 0x22, 0x71, 0x14, 0x32, 0x81, 0x91, 0xA1, 0x08, 0x23, 0x42, 0xB1, 0xC1, 0x15, 0x52,
      0xD1, 0xF0, 0x24, 0x33, 0x62, 0x72, 0x82, 0x09, 0x0A] ++
      symbolRun 0x16 0x1A ++ symbolRun 0x25 0x2A ++ symbolRun 0x34 0x3A ++ symbolRun 0x43 0x4A ++
      symbolRun 0x53 0x5A ++ symbolRun 0x63 0x6A ++ symbolRun 0x73 0x7A ++ symbolRun 0x83 0x8A ++
      symbolRun 0x92 0x9A ++ symbolRun 0xA2 0xAA ++ symbolRun 0xB2 0xBA ++ symbolRun 0xC2 0xCA ++
      symbolRun 0xD2 0xDA ++ symbolRun 0xE1 0xEA ++ symbolRun 0xF1 0xFA)

def chrominanceAc? : Option Code :=
  ofCounts? [0, 2, 1, 2, 4, 4, 3, 4, 7, 5, 4, 4, 0, 1, 2, 119]
    ([0x00, 0x01, 0x02, 0x03, 0x11, 0x04, 0x05, 0x21, 0x31, 0x06, 0x12, 0x41, 0x51, 0x07, 0x61,
      0x71, 0x13, 0x22, 0x32, 0x81, 0x08, 0x14, 0x42, 0x91, 0xA1, 0xB1, 0xC1, 0x09, 0x23, 0x33,
      0x52, 0xF0, 0x15, 0x62, 0x72, 0xD1, 0x0A, 0x16, 0x24, 0x34, 0xE1, 0x25, 0xF1] ++
      symbolRun 0x17 0x1A ++ symbolRun 0x26 0x2A ++ symbolRun 0x35 0x3A ++ symbolRun 0x43 0x4A ++
      symbolRun 0x53 0x5A ++ symbolRun 0x63 0x6A ++ symbolRun 0x73 0x7A ++ symbolRun 0x82 0x8A ++
      symbolRun 0x92 0x9A ++ symbolRun 0xA2 0xAA ++ symbolRun 0xB2 0xBA ++ symbolRun 0xC2 0xCA ++
      symbolRun 0xD2 0xDA ++ symbolRun 0xE2 0xEA ++ symbolRun 0xF2 0xFA)

end Code

end IdentityForm.Image.Jpeg
