import IdentityForm.Text.Digits
import IdentityForm.Text.White

/-! # Calendar dates

Dates of the Gregorian calendar, extended to the years before it and after it, and their text
`DD.MM.YYYY`.
-/

namespace IdentityForm

structure Date where
  day : UInt32
  month : UInt32
  year : Int32
  deriving DecidableEq, Repr

namespace Date

def isLeap (year : Int) : Bool := year % 4 = 0 && (year % 100 ≠ 0 || year % 400 = 0)

/-- How many days a month has; a number that is no month has none. -/
def daysInMonth (year : Int) (month : Nat) : Nat :=
  match month with
  | 1 | 3 | 5 | 7 | 8 | 10 | 12 => 31
  | 4 | 6 | 9 | 11 => 30
  | 2 => if isLeap year then 29 else 28
  | _ => 0

/-- The days of the years the calendar covers. -/
def Exists (day month : Nat) (year : Int) : Prop :=
  -262143 ≤ year ∧ year ≤ 262142 ∧ 1 ≤ day ∧ day ≤ daysInMonth year month

instance (day month : Nat) (year : Int) : Decidable (Exists day month year) :=
  inferInstanceAs (Decidable (_ ∧ _ ∧ _ ∧ _))

/-- White space, and then one to `width` digits. -/
def scanNumber (width : Nat) (cs : List Char) : Option (Nat × List Char) := do
  let cs := Text.trimLeft cs
  let ds := (cs.take width).takeWhile Text.isDigit
  return (← Text.natural? ds, cs.drop ds.length)

/-- Any number of digits, at least one. -/
def scanLong (cs : List Char) : Option (Nat × List Char) := do
  return (← Text.natural? (cs.takeWhile Text.isDigit), cs.dropWhile Text.isDigit)

/-- White space, and then a year of up to four digits, or of any number of them behind a sign. -/
def scanYear (cs : List Char) : Option (Int × List Char) :=
  match Text.trimLeft cs with
  | '-' :: rest => (scanLong rest).map fun p => (-(p.1 : Int), p.2)
  | '+' :: rest => (scanLong rest).map fun p => ((p.1 : Int), p.2)
  | rest => (scanNumber 4 rest).map fun p => ((p.1 : Int), p.2)

/-- The rest of a text that begins with a point. -/
def skipPoint : List Char → Option (List Char)
  | '.' :: rest => some rest
  | _ => none

/-- The date a text means: day, month and year between points, and a day that exists. -/
def parse (s : String) : Option Date := do
  let (day, rest) ← scanNumber 2 (Text.trim s).toList
  let rest ← skipPoint rest
  let (month, rest) ← scanNumber 2 rest
  let rest ← skipPoint rest
  let (year, rest) ← scanYear rest
  if rest = [] ∧ Exists day month year then
    return ⟨UInt32.ofNat day, UInt32.ofNat month, Int32.ofInt year⟩
  else none

/-- Day and month in two digits, the year in four characters, or more where these do not do. -/
def format (d : Date) : String :=
  String.ofList <|
    Text.paddedInteger 2 d.day.toNat ++ '.' :: (Text.paddedInteger 2 d.month.toNat ++
      '.' :: Text.paddedInteger 4 d.year.toInt)

end Date

end IdentityForm
