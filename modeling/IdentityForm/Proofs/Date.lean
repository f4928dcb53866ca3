import IdentityForm.Date
import IdentityForm.Proofs.Text.White
import Mathlib.Data.List.TakeWhile

/-! # Dates read back

The text of a date of the calendar means that date again, in years of up to four digits and in the
years before the first one. Day and month fill their two places, and a year that is too long for four
is one that is written behind a sign.
-/

namespace IdentityForm

namespace Text

variable {c : Char} {n width : Nat}

theorem length_digits_of_lt (small : n < 10) : (digits n).length = 1 := by
  rw [digits_of_lt small]
  rfl

theorem length_digits_le (shorter : (digits (n / 10)).length ≤ width) :
    (digits n).length ≤ width + 1 := by
  by_cases one : n < 10
  · rw [length_digits_of_lt one]
    exact Nat.le_add_left 1 width
  · rw [digits_of_ge (by omega), List.length_append]
    exact Nat.add_le_add_right shorter 1

theorem length_digits_two (small : n < 100) : (digits n).length ≤ 2 :=
  length_digits_le (Nat.le_of_eq (length_digits_of_lt (by omega)))

theorem length_digits_four (small : n < 10000) : (digits n).length ≤ 4 :=
  length_digits_le (length_digits_le (length_digits_two (show n / 10 / 10 < 100 by omega)))

theorem length_zeroPad {cs : List Char} (short : cs.length ≤ width) :
    (zeroPad width cs).length = width := by
  rw [zeroPad, List.length_append, List.length_replicate]
  omega

theorem isDigit_of_mem_zeroPad (h : c ∈ zeroPad width (digits n)) : isDigit c = true := by
  rcases List.mem_append.1 h with zero | digit
  · rw [List.eq_of_mem_replicate zero]
    decide
  · exact isDigit_of_mem_digits digit

theorem zeroPad_digits_ne_nil (width n : Nat) : zeroPad width (digits n) ≠ [] := by
  simp [zeroPad, digits_ne_nil]

/-- Zeros in front of its digits leave a number as it is. -/
theorem natural?_zeroPad (width n : Nat) : natural? (zeroPad width (digits n)) = some n := by
  rw [natural?_of_ne_nil (zeroPad_digits_ne_nil width n), zeroPad, valueFrom_zeros, valueFrom_digits]

theorem trimLeft_of_isDigit {cs rest : List Char} (filled : cs ≠ [])
    (digits : ∀ c ∈ cs, isDigit c = true) : trimLeft (cs ++ rest) = cs ++ rest := by
  cases cs with
  | nil => exact absurd rfl filled
  | cons c cs => exact trimLeft_eq_self (isWhite_of_isDigit (digits c List.mem_cons_self))

theorem trimLeft_digits {cs : List Char} (digits : ∀ c ∈ cs, isDigit c = true) :
    trimLeft cs = cs := by
  cases cs with
  | nil => rfl
  | cons c cs => exact trimLeft_eq_self (isWhite_of_isDigit (digits c List.mem_cons_self))

theorem isWhite_of_mem_paddedInteger {i : Int} (h : c ∈ paddedInteger width i) :
    isWhite c = false := by
  cases i with
  | ofNat n => exact isWhite_of_isDigit (isDigit_of_mem_zeroPad h)
  | negSucc n =>
      rcases List.mem_cons.1 h with rfl | h
      · decide
      · exact isWhite_of_isDigit (isDigit_of_mem_zeroPad h)

end Text

namespace Date

open Text

variable {d : Date} {n width : Nat} {year : Int}

/-- A number that fills its places is read, whatever stands behind it. -/
theorem scanNumber_zeroPad (short : (digits n).length ≤ width) (rest : List Char) :
    scanNumber width (zeroPad width (digits n) ++ rest) = some (n, rest) := by
  let cs := zeroPad width (digits n)
  have all : ∀ c ∈ cs, isDigit c = true := fun _ => isDigit_of_mem_zeroPad
  have length : cs.length = width := length_zeroPad short
  have filled : cs ≠ [] := zeroPad_digits_ne_nil width n
  have first : ((cs ++ rest).take width).takeWhile isDigit = cs := by
    rw [List.take_left' length]
    exact List.takeWhile_eq_self_iff.2 all
  show scanNumber width (cs ++ rest) = _
  simp only [scanNumber, trimLeft_of_isDigit filled all, first, List.drop_left]
  rw [natural?_zeroPad]
  rfl

theorem scanLong_zeroPad (width n : Nat) : scanLong (zeroPad width (digits n)) = some (n, []) := by
  have all : ∀ c ∈ zeroPad width (digits n), isDigit c = true := fun _ => isDigit_of_mem_zeroPad
  rw [scanLong, List.takeWhile_eq_self_iff.2 all, List.dropWhile_eq_nil_iff.2 all, natural?_zeroPad]
  rfl

/-- Digits without a sign in front are read as a number of up to four digits. -/
theorem scanYear_of_digits {cs : List Char} (filled : cs ≠ [])
    (all : ∀ c ∈ cs, isDigit c = true) :
    scanYear cs = (scanNumber 4 cs).map fun p => ((p.1 : Int), p.2) := by
  have whole : trimLeft cs = cs := trimLeft_digits all
  cases cs with
  | nil => exact absurd rfl filled
  | cons c cs =>
      have unsigned : c ≠ '-' := head_ne_of_isDigit all (by decide)
      have unmarked : c ≠ '+' := head_ne_of_isDigit all (by decide)
      unfold scanYear
      rw [whole]
      split
      · exact absurd (List.cons.inj ‹_›).1 unsigned
      · exact absurd (List.cons.inj ‹_›).1 unmarked
      · rfl

theorem scanYear_paddedInteger (last : year ≤ 9999) :
    scanYear (paddedInteger 4 year) = some (year, []) := by
  cases year with
  | ofNat n =>
      have short : (digits n).length ≤ 4 := length_digits_four (by
        have : (n : Int) ≤ 9999 := last
        omega)
      have read := scanNumber_zeroPad short []
      rw [List.append_nil] at read
      show scanYear (zeroPad 4 (digits n)) = _
      rw [scanYear_of_digits (zeroPad_digits_ne_nil 4 n) fun _ => isDigit_of_mem_zeroPad, read]
      rfl
  | negSucc n =>
      show (scanLong (zeroPad 3 (digits (n + 1)))).map (fun p => (-(p.1 : Int), p.2)) = _
      rw [scanLong_zeroPad]
      rfl

theorem daysInMonth_le (year : Int) (month : Nat) : daysInMonth year month ≤ 31 := by
  unfold daysInMonth
  split <;> (try split) <;> omega

theorem month_le_of_daysInMonth {month : Nat} (some_ : 1 ≤ daysInMonth year month) : month ≤ 12 := by
  revert some_
  unfold daysInMonth
  split <;> simp

/-- A date of the calendar whose year has no more than four digits, or a minus sign in front. -/
def IsPlain (d : Date) : Prop :=
  Exists d.day.toNat d.month.toNat d.year.toInt ∧ d.year.toInt ≤ 9999

instance (d : Date) : Decidable d.IsPlain := inferInstanceAs (Decidable (_ ∧ _))

theorem trimmed_format (d : Date) : Trimmed d.format.toList := by
  refine trimmed_of_forall fun c hc => ?_
  simp only [format, String.toList_ofList, List.mem_append, List.mem_cons] at hc
  rcases hc with day | rfl | month | rfl | year
  · exact isWhite_of_mem_paddedInteger day
  · decide
  · exact isWhite_of_mem_paddedInteger month
  · decide
  · exact isWhite_of_mem_paddedInteger year

/-- Day and month are read from the text of a date that exists; what is left to read is its year. -/
theorem parse_format_eq (there : Exists d.day.toNat d.month.toNat d.year.toInt) :
    parse d.format = (scanYear (paddedInteger 4 d.year.toInt)).bind fun p =>
      if p.2 = [] ∧ Exists d.day.toNat d.month.toNat p.1 then
        some ⟨d.day, d.month, Int32.ofInt p.1⟩
      else none := by
  obtain ⟨-, -, first, within⟩ := there
  have day : (digits d.day.toNat).length ≤ 2 := length_digits_two (by
    have := daysInMonth_le d.year.toInt d.month.toNat
    omega)
  have month : (digits d.month.toNat).length ≤ 2 := length_digits_two (by
    have := month_le_of_daysInMonth (Nat.le_trans first within)
    omega)
  have text : (trim d.format).toList = zeroPad 2 (digits d.day.toNat) ++
      '.' :: (zeroPad 2 (digits d.month.toNat) ++ '.' :: paddedInteger 4 d.year.toInt) := by
    rw [d.trimmed_format.trim_eq, format, String.toList_ofList]
    rfl
  rw [parse, text, scanNumber_zeroPad day]
  simp only [Option.bind_eq_bind, Option.bind_some, skipPoint]
  rw [scanNumber_zeroPad month]
  simp only [Option.bind_some, UInt32.ofNat_toNat]
  rfl

/-- The text of a date means the date. -/
theorem parse_format (plain : d.IsPlain) : parse d.format = some d := by
  obtain ⟨there, last⟩ := plain
  rw [parse_format_eq there, scanYear_paddedInteger last, Option.bind_some,
    if_pos ⟨rfl, there⟩, Int32.ofInt_toInt]

end Date

end IdentityForm
