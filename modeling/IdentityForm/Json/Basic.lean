import IdentityForm.Text.Digits
import IdentityForm.Text.Percent

/-! # JSON values

A value keeps its strings and numbers as they are spelled. A spelling is read when somebody asks for
its meaning, so a part that nobody asks for may hold half a surrogate pair or a number no double can
hold. Objects keep their members in order, repeated ones included.
-/

namespace IdentityForm

inductive Json where
  | null
  | bool (b : Bool)
  | number (spelling : List Char)
  | string (spelling : List Char)
  | array (items : List Json)
  | object (members : List (List Char × Json))

namespace Json

/-! ## Strings -/

/-- How a character is written inside a string. -/
def escapeChar (c : Char) : List Char :=
  if c = '"' then ['\\', '"']
  else if c = '\\' then ['\\', '\\']
  else if c.toNat = 0x8 then ['\\', 'b']
  else if c.toNat = 0x9 then ['\\', 't']
  else if c.toNat = 0xA then ['\\', 'n']
  else if c.toNat = 0xC then ['\\', 'f']
  else if c.toNat = 0xD then ['\\', 'r']
  else if c.toNat < 0x20 then
    ['\\', 'u', '0', '0', Text.lowerHexDigit (c.toNat / 16), Text.lowerHexDigit (c.toNat % 16)]
  else [c]

def escape (cs : List Char) : List Char := cs.flatMap escapeChar

/-- The value of four hexadecimal digits. -/
def hexUnit? (a b c d : Char) : Option Nat := do
  let a ← Text.hexDigit? a
  let b ← Text.hexDigit? b
  let c ← Text.hexDigit? c
  let d ← Text.hexDigit? d
  return 4096 * a + 256 * b + 16 * c + d

/-- The character that a letter after a backslash stands for. -/
def simpleEscape? (c : Char) : Option Char :=
  if c = '"' ∨ c = '\\' ∨ c = '/' then some c
  else if c = 'b' then some (Char.ofNat 0x8)
  else if c = 't' then some '\t'
  else if c = 'n' then some '\n'
  else if c = 'f' then some (Char.ofNat 0xC)
  else if c = 'r' then some '\r'
  else none

/-- The text behind a spelling. Surrogates come in pairs, the high one first. -/
def unescape : List Char → Option (List Char)
  | [] => some []
  | '\\' :: 'u' :: a :: b :: c :: d :: rest => do
    let unit ← hexUnit? a b c d
    if 0xD800 ≤ unit ∧ unit ≤ 0xDBFF then
      match rest with
      | '\\' :: 'u' :: a' :: b' :: c' :: d' :: rest' => do
        let low ← hexUnit? a' b' c' d'
        if 0xDC00 ≤ low ∧ low ≤ 0xDFFF then
          let more ← unescape rest'
          return Char.ofNat (0x10000 + 0x400 * (unit - 0xD800) + (low - 0xDC00)) :: more
        else none
      | _ => none
    else if 0xDC00 ≤ unit ∧ unit ≤ 0xDFFF then none
    else do
      let more ← unescape rest
      return Char.ofNat unit :: more
  | '\\' :: c :: rest => do
    let c ← simpleEscape? c
    let more ← unescape rest
    return c :: more
  | c :: rest => do
    let more ← unescape rest
    return c :: more

/-! ## Numbers -/

/-- A number in the digits it is spelled with: a significand that a 64-bit word holds, and the power
of ten it is multiplied by. Digits that no longer fit into the word are dropped; they count for the
power if they stand before the point. -/
structure Magnitude where
  significand : Nat
  exponent : Int

/-- The digits before the point. -/
def Magnitude.whole : Magnitude → List Char → Magnitude
  | m, [] => m
  | m, c :: cs =>
    let next := 10 * m.significand + (Text.digit? c).getD 0
    if m.exponent = 0 ∧ next < UInt64.size then Magnitude.whole ⟨next, 0⟩ cs
    else Magnitude.whole ⟨m.significand, m.exponent + 1⟩ cs

/-- The digits after the point. -/
def Magnitude.fraction : Magnitude → List Char → Magnitude
  | m, [] => m
  | m, c :: cs =>
    let next := 10 * m.significand + (Text.digit? c).getD 0
    if next < UInt64.size then Magnitude.fraction ⟨next, m.exponent - 1⟩ cs else m

/-- The magnitude of a number's spelling, its sign set aside. -/
def magnitude (spelling : List Char) : Magnitude :=
  let unsigned := if spelling.head? = some '-' then spelling.drop 1 else spelling
  let m := Magnitude.whole ⟨0, 0⟩ (unsigned.takeWhile Text.isDigit)
  let rest := unsigned.dropWhile Text.isDigit
  let (m, rest) :=
    if rest.head? = some '.' then
      let tail := rest.drop 1
      (Magnitude.fraction m (tail.takeWhile Text.isDigit), tail.dropWhile Text.isDigit)
    else (m, rest)
  if rest = [] then m
  else ⟨m.significand, m.exponent + (Text.integer? (rest.drop 1)).getD 0⟩

/-- The nearest number of 53 binary digits followed by zeros; a tie goes to the even one. -/
def roundToDouble (n : Nat) : Nat :=
  let shift := n.log2 - 52
  let unit := 1 <<< shift
  let low := n % unit
  let floor := n / unit
  if 2 * low > unit ∨ (2 * low = unit ∧ floor % 2 = 1) then (floor + 1) * unit else floor * unit

/-- A double holds the number: it does not round to infinity. -/
def Magnitude.fits (m : Magnitude) : Bool :=
  m.significand = 0 || m.exponent < 0 ||
    (m.exponent ≤ 308 &&
      roundToDouble m.significand * roundToDouble (Nat.pow 10 m.exponent.toNat) <
        (1 <<< 1024) - (1 <<< 970))

/-- The integer a spelling stands for. Integers lie between `-2^63` and `2^64 - 1` and zero has no
sign; a number with a point or an exponent is no integer. -/
def spelledInt? : List Char → Option Int
  | '-' :: cs => do
    let n ← Text.natural? cs
    if 0 < n ∧ n ≤ 9223372036854775808 then return -(n : Int) else none
  | cs => do
    let n ← Text.natural? cs
    if n < UInt64.size then return (n : Int) else none

/-! ## Writing -/

def text (s : String) : Json := .string (escape s.toList)

def int (n : Int) : Json := .number (Text.integerDigits n)

def nat (n : Nat) : Json := int n

def record (members : List (String × Json)) : Json :=
  .object (members.map fun m => (escape m.1.toList, m.2))

/-- What may be missing is written as null. -/
def ofOption {α : Type} (write : α → Json) : Option α → Json
  | none => .null
  | some a => write a

def ofList {α : Type} (write : α → Json) (list : List α) : Json := .array (list.map write)

/-! ## Validity -/

mutual

/-- Every string and number of the value has a meaning, and arrays and objects nest at most
`levels` deep. -/
def isSound (levels : Nat) : Json → Bool
  | .null => true
  | .bool _ => true
  | .number n => (magnitude n).fits
  | .string s => (unescape s).isSome
  | .array items =>
    match levels with
    | 0 => false
    | inner + 1 => itemsSound inner items
  | .object members =>
    match levels with
    | 0 => false
    | inner + 1 => membersSound inner members

def itemsSound (levels : Nat) : List Json → Bool
  | [] => true
  | j :: items => isSound levels j && itemsSound levels items

def membersSound (levels : Nat) : List (List Char × Json) → Bool
  | [] => true
  | (key, j) :: members => (unescape key).isSome && isSound levels j && membersSound levels members

end

end Json

end IdentityForm
