import IdentityForm.Json.Basic

/-! # Reading JSON text

The strict grammar: one value with nothing but blanks around it. Every step hands back the rest of
the text.
-/

namespace IdentityForm.Json

/-- The characters that may stand between tokens. -/
def isBlank (c : Char) : Bool := c == ' ' || c == '\n' || c == '\t' || c == '\r'

def skipBlanks (cs : List Char) : List Char := cs.dropWhile isBlank

/-- The rest of a text that begins with `c`. -/
def expect (c : Char) : List Char → Option (List Char)
  | [] => none
  | d :: rest => if c = d then some rest else none

/-- The spelling of a string up to its closing quote. Control characters are refused, and so is a
backslash before anything but an escape. -/
def scanString : List Char → Option (List Char × List Char)
  | [] => none
  | '"' :: rest => some ([], rest)
  | '\\' :: 'u' :: a :: b :: c :: d :: rest =>
    if (hexUnit? a b c d).isSome then
      (scanString rest).map fun p => ('\\' :: 'u' :: a :: b :: c :: d :: p.1, p.2)
    else none
  | '\\' :: c :: rest =>
    if (simpleEscape? c).isSome then (scanString rest).map fun p => ('\\' :: c :: p.1, p.2)
    else none
  | c :: rest =>
    if c.toNat < 0x20 ∨ c = '\\' then none else (scanString rest).map fun p => (c :: p.1, p.2)

/-- A run of at least one digit. -/
def scanDigits (cs : List Char) : Option (List Char × List Char) :=
  match cs.takeWhile Text.isDigit with
  | [] => none
  | ds => some (ds, cs.dropWhile Text.isDigit)

/-- The digits before the point: no zero leads others. -/
def scanWhole (cs : List Char) : Option (List Char × List Char) := do
  let (ds, rest) ← scanDigits cs
  if ds.head? = some '0' ∧ ds ≠ ['0'] then none else return (ds, rest)

/-- A point and the digits after it, if there is a point. -/
def scanFraction (cs : List Char) : Option (List Char × List Char) :=
  match cs with
  | '.' :: tail => (scanDigits tail).map fun p => ('.' :: p.1, p.2)
  | _ => some ([], cs)

/-- The letter of an exponent, its sign and its digits, if there is a letter. -/
def scanExponent (cs : List Char) : Option (List Char × List Char) :=
  match cs with
  | e :: tail =>
    if e = 'e' ∨ e = 'E' then
      match tail with
      | s :: tail' =>
        if s = '+' ∨ s = '-' then (scanDigits tail').map fun p => (e :: s :: p.1, p.2)
        else (scanDigits tail).map fun p => (e :: p.1, p.2)
      | [] => none
    else some ([], cs)
  | [] => some ([], cs)

def scanUnsigned (cs : List Char) : Option (List Char × List Char) := do
  let (whole, rest) ← scanWhole cs
  let (fraction, rest) ← scanFraction rest
  let (exponent, rest) ← scanExponent rest
  return (whole ++ (fraction ++ exponent), rest)

/-- The spelling of a number. -/
def scanNumber (cs : List Char) : Option (List Char × List Char) :=
  match cs with
  | '-' :: tail => (scanUnsigned tail).map fun p => ('-' :: p.1, p.2)
  | _ => scanUnsigned cs

mutual

/-- A value at the start of a text; `fuel` bounds the characters read. -/
def scan : Nat → List Char → Option (Json × List Char)
  | 0, _ => none
  | fuel + 1, cs =>
    match cs with
    | [] => none
    | c :: rest =>
      if isBlank c then scan fuel rest
      else if c = '"' then (scanString rest).map fun p => (.string p.1, p.2)
      else if c = '[' then
        match skipBlanks rest with
        | ']' :: rest' => some (.array [], rest')
        | rest' => do
          let (j, rest') ← scan fuel rest'
          let (items, rest') ← scanItems fuel rest'
          return (.array (j :: items), rest')
      else if c = '\x7b' then
        match skipBlanks rest with
        | '\x7d' :: rest' => some (.object [], rest')
        | rest' => do
          let rest' ← expect '"' rest'
          let (key, rest') ← scanString rest'
          let rest' ← expect ':' (skipBlanks rest')
          let (j, rest') ← scan fuel rest'
          let (members, rest') ← scanMembers fuel rest'
          return (.object ((key, j) :: members), rest')
      else if c = 'n' then do
        let rest' ← (expect 'u' rest).bind (expect 'l') |>.bind (expect 'l')
        return (.null, rest')
      else if c = 't' then do
        let rest' ← (expect 'r' rest).bind (expect 'u') |>.bind (expect 'e')
        return (.bool true, rest')
      else if c = 'f' then do
        let rest' ← (expect 'a' rest).bind (expect 'l') |>.bind (expect 's') |>.bind (expect 'e')
        return (.bool false, rest')
      else (scanNumber (c :: rest)).map fun p => (.number p.1, p.2)

/-- The items of an array after the first one, up to the closing bracket. -/
def scanItems : Nat → List Char → Option (List Json × List Char)
  | 0, _ => none
  | fuel + 1, cs =>
    match skipBlanks cs with
    | ']' :: rest => some ([], rest)
    | ',' :: rest => do
      let (j, rest) ← scan fuel rest
      let (items, rest) ← scanItems fuel rest
      return (j :: items, rest)
    | _ => none

/-- The members of an object after the first one, up to the closing brace. -/
def scanMembers : Nat → List Char → Option (List (List Char × Json) × List Char)
  | 0, _ => none
  | fuel + 1, cs =>
    match skipBlanks cs with
    | '\x7d' :: rest => some ([], rest)
    | ',' :: rest => do
      let rest ← expect '"' (skipBlanks rest)
      let (key, rest) ← scanString rest
      let rest ← expect ':' (skipBlanks rest)
      let (j, rest) ← scan fuel rest
      let (members, rest) ← scanMembers fuel rest
      return ((key, j) :: members, rest)
    | _ => none

end

/-- The one value that a text holds. -/
def parse (s : String) : Option Json :=
  let cs := s.toList
  match scan (2 * cs.length + 1) cs with
  | some (j, rest) => if (skipBlanks rest).isEmpty then some j else none
  | none => none

/-- The deepest nesting of arrays and objects that is read. -/
def maxLevels : Nat := 127

/-- The text holds one value, and all of it can be read. -/
def isValid (s : String) : Bool :=
  match parse s with
  | some j => j.isSound maxLevels
  | none => false

end IdentityForm.Json
