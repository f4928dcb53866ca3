import IdentityForm.Json.Parser
import IdentityForm.Proofs.Text.Digits

/-! # Spellings read back

What is written as a string or as an integer is found whole by the scanner, wherever it ends, and it
means what was written.
-/

namespace IdentityForm.Json

/-! ## Characters of a string -/

theorem hexDigit?_lowerHexDigit {n : Nat} (h : n < 16) :
    Text.hexDigit? (Text.lowerHexDigit n) = some n :=
  (by decide : ∀ n < 16, Text.hexDigit? (Text.lowerHexDigit n) = some n) n h

/-- A control character is written as its number in four digits. -/
theorem hexUnit?_control {n : Nat} (h : n < 0x20) :
    hexUnit? '0' '0' (Text.lowerHexDigit (n / 16)) (Text.lowerHexDigit (n % 16)) = some n := by
  have zero : Text.hexDigit? '0' = some 0 := by decide
  have high := hexDigit?_lowerHexDigit (show n / 16 < 16 by omega)
  have low := hexDigit?_lowerHexDigit (show n % 16 < 16 by omega)
  simp only [hexUnit?, zero, high, low, Option.bind_eq_bind, Option.bind_some, Option.pure_def]
  congr 1
  omega

/-- The three ways to write a character: behind a backslash, by its number, or as it is. -/
inductive Spells (c : Char) : List Char → Prop
  | short (letter : Char) : letter ≠ 'u' → simpleEscape? letter = some c → Spells c ['\\', letter]
  | control : c.toNat < 0x20 → Spells c
      ['\\', 'u', '0', '0', Text.lowerHexDigit (c.toNat / 16), Text.lowerHexDigit (c.toNat % 16)]
  | plain : c ≠ '"' → c ≠ '\\' → ¬ c.toNat < 0x20 → Spells c [c]

theorem eq_ofNat_of_toNat {c : Char} {n : Nat} (h : c.toNat = n) : c = Char.ofNat n := by
  rw [← h, Char.ofNat_toNat]

theorem spells_escapeChar (c : Char) : Spells c (escapeChar c) := by
  unfold escapeChar
  split
  · subst c
    exact .short '"' (by decide) (by decide)
  split
  · subst c
    exact .short '\\' (by decide) (by decide)
  split
  · rename_i h
    exact .short 'b' (by decide) (eq_ofNat_of_toNat h ▸ by decide)
  split
  · rename_i h
    exact .short 't' (by decide) (eq_ofNat_of_toNat h ▸ by decide)
  split
  · rename_i h
    exact .short 'n' (by decide) (eq_ofNat_of_toNat h ▸ by decide)
  split
  · rename_i h
    exact .short 'f' (by decide) (eq_ofNat_of_toNat h ▸ by decide)
  split
  · rename_i h
    exact .short 'r' (by decide) (eq_ofNat_of_toNat h ▸ by decide)
  split
  · exact .control ‹_›
  · exact .plain ‹_› ‹_› ‹_›

theorem Spells.unescape_append {c : Char} {spelling : List Char} (h : Spells c spelling)
    (rest : List Char) : unescape (spelling ++ rest) = (unescape rest).map (c :: ·) := by
  cases h with
  | short letter unlike means =>
      rw [List.cons_append, List.cons_append, List.nil_append, unescape]
      · rw [means]
        cases unescape rest <;> rfl
      · intro _ _ _ _ _ same
        exact absurd same unlike
  | control small =>
      simp only [List.cons_append, List.nil_append]
      rw [unescape, hexUnit?_control small]
      have low : ¬ (0xD800 ≤ c.toNat ∧ c.toNat ≤ 0xDBFF) := by omega
      have high : ¬ (0xDC00 ≤ c.toNat ∧ c.toNat ≤ 0xDFFF) := by omega
      simp only [Option.bind_eq_bind, Option.bind_some, if_neg low, if_neg high, Char.ofNat_toNat]
      cases unescape rest <;> rfl
  | plain _ slash _ =>
      rw [List.singleton_append, unescape]
      · cases unescape rest <;> rfl
      · intro _ _ _ _ _ same
        exact absurd same slash
      · intro _ _ same
        exact absurd same slash

/-- A string means what was written. -/
@[simp] theorem unescape_escape (cs : List Char) : unescape (escape cs) = some cs := by
  induction cs with
  | nil => rfl
  | cons c cs ih =>
      rw [escape, List.flatMap_cons, (spells_escapeChar c).unescape_append]
      rw [escape] at ih
      rw [ih]
      rfl

theorem Spells.scanString_append {c : Char} {spelling : List Char} (h : Spells c spelling)
    (rest : List Char) :
    scanString (spelling ++ rest) = (scanString rest).map fun p => (spelling ++ p.1, p.2) := by
  cases h with
  | short letter unlike means =>
      rw [List.cons_append, List.cons_append, List.nil_append, scanString]
      · rw [means, Option.isSome_some, if_pos rfl]
        rfl
      · intro _ _ _ _ _ same
        exact absurd same unlike
  | control small =>
      simp only [List.cons_append, List.nil_append]
      rw [scanString, hexUnit?_control small, Option.isSome_some, if_pos rfl]
  | plain quote slash large =>
      rw [List.singleton_append, scanString, if_neg (not_or.2 ⟨large, slash⟩)]
      · rfl
      · intro same
        exact absurd same quote
      · intro _ _ _ _ _ same
        exact absurd same slash
      · intro _ _ same
        exact absurd same slash

/-- A string ends where its closing quote stands, and nowhere before. -/
theorem scanString_escape (cs rest : List Char) :
    scanString (escape cs ++ '"' :: rest) = some (escape cs, rest) := by
  induction cs with
  | nil => rfl
  | cons c cs ih =>
      rw [escape, List.flatMap_cons, List.append_assoc, (spells_escapeChar c).scanString_append]
      rw [escape] at ih
      rw [ih]
      rfl

/-! ## Integers -/

/-- A text that cannot go on a number that stands before it. -/
def EndsNumber (rest : List Char) : Prop :=
  ∀ c ∈ rest.head?, Text.isDigit c = false ∧ c ≠ '.' ∧ c ≠ 'e' ∧ c ≠ 'E'

theorem EndsNumber.cons {c : Char} {rest : List Char}
    (h : Text.isDigit c = false ∧ c ≠ '.' ∧ c ≠ 'e' ∧ c ≠ 'E') : EndsNumber (c :: rest) :=
  fun _ hd => Option.some.inj hd ▸ h

theorem EndsNumber.nil : EndsNumber [] := fun _ hc => nomatch hc

theorem takeWhile_digits_append {ds rest : List Char} (all : ∀ c ∈ ds, Text.isDigit c = true)
    (ends : EndsNumber rest) : (ds ++ rest).takeWhile Text.isDigit = ds := by
  have none : rest.takeWhile Text.isDigit = [] := by
    cases rest with
    | nil => rfl
    | cons c rest => simp [(ends c rfl).1]
  rw [List.takeWhile_append_of_pos all, none, List.append_nil]

theorem dropWhile_digits_append {ds rest : List Char} (all : ∀ c ∈ ds, Text.isDigit c = true)
    (ends : EndsNumber rest) : (ds ++ rest).dropWhile Text.isDigit = rest := by
  have all' : rest.dropWhile Text.isDigit = rest := by
    cases rest with
    | nil => rfl
    | cons c rest => simp [(ends c rfl).1]
  rw [List.dropWhile_append_of_pos all, all']

theorem scanDigits_digits (n : Nat) {rest : List Char} (ends : EndsNumber rest) :
    scanDigits (Text.digits n ++ rest) = some (Text.digits n, rest) := by
  have all : ∀ c ∈ Text.digits n, Text.isDigit c = true := fun _ => Text.isDigit_of_mem_digits
  unfold scanDigits
  rw [takeWhile_digits_append all ends, dropWhile_digits_append all ends]
  split
  · exact absurd ‹_› (Text.digits_ne_nil n)
  · rfl

theorem scanWhole_digits (n : Nat) {rest : List Char} (ends : EndsNumber rest) :
    scanWhole (Text.digits n ++ rest) = some (Text.digits n, rest) := by
  have lone : ¬ ((Text.digits n).head? = some '0' ∧ Text.digits n ≠ ['0']) := by
    rw [Text.head?_digits]
    rintro ⟨rfl, other⟩
    exact other (Text.digits_of_lt (by decide))
  simp only [scanWhole, scanDigits_digits n ends, Option.bind_eq_bind, Option.bind_some, if_neg lone]
  rfl

theorem scanFraction_of_ends {rest : List Char} (ends : EndsNumber rest) :
    scanFraction rest = some ([], rest) := by
  cases rest with
  | nil => rfl
  | cons c rest =>
      unfold scanFraction
      split
      · exact absurd (List.cons.inj ‹_›).1 (ends c rfl).2.1
      · rfl

theorem scanExponent_of_ends {rest : List Char} (ends : EndsNumber rest) :
    scanExponent rest = some ([], rest) := by
  cases rest with
  | nil => rfl
  | cons c rest =>
      obtain ⟨-, -, small, large⟩ := ends c rfl
      exact if_neg (not_or.2 ⟨small, large⟩)

theorem scanUnsigned_digits (n : Nat) {rest : List Char} (ends : EndsNumber rest) :
    scanUnsigned (Text.digits n ++ rest) = some (Text.digits n, rest) := by
  simp only [scanUnsigned, scanWhole_digits n ends, scanFraction_of_ends ends,
    scanExponent_of_ends ends, Option.bind_eq_bind, Option.bind_some, List.append_nil]
  rfl

theorem digits_append_ne {n : Nat} {c : Char} (other : Text.isDigit c = false)
    {rest tail : List Char} : Text.digits n ++ rest ≠ c :: tail := by
  cases ds : Text.digits n with
  | nil => exact absurd ds (Text.digits_ne_nil n)
  | cons d ds' =>
      have all : ∀ x ∈ d :: ds', Text.isDigit x = true := fun _ hx =>
        Text.isDigit_of_mem_digits (ds ▸ hx)
      rw [List.cons_append]
      exact fun same => Text.head_ne_of_isDigit all other (List.cons.inj same).1

/-- An integer ends where its digits end. -/
theorem scanNumber_integerDigits (i : Int) {rest : List Char} (ends : EndsNumber rest) :
    scanNumber (Text.integerDigits i ++ rest) = some (Text.integerDigits i, rest) := by
  cases i with
  | ofNat n =>
      unfold scanNumber
      split
      · exact absurd ‹_› (digits_append_ne (by decide))
      · exact scanUnsigned_digits n ends
  | negSucc n =>
      show (scanUnsigned (Text.digits (n + 1) ++ rest)).map _ = _
      rw [scanUnsigned_digits (n + 1) ends]
      rfl

/-- An integer means what was written, if a 64-bit word holds it. -/
theorem spelledInt?_integerDigits {i : Int} (low : -9223372036854775808 ≤ i)
    (high : i < UInt64.size) : spelledInt? (Text.integerDigits i) = some i := by
  cases i with
  | ofNat n =>
      have small : n < UInt64.size := Int.ofNat_lt.1 high
      have unsigned : ∀ tail, Text.digits n ≠ '-' :: tail := fun tail => by
        rw [← List.append_nil (Text.digits n)]
        exact digits_append_ne (by decide)
      unfold spelledInt?
      split
      · exact absurd ‹_› (unsigned _)
      · simp only [Text.integerDigits, Text.natural?_digits, Option.bind_eq_bind, Option.bind_some,
          if_pos small]
        rfl
  | negSucc n =>
      have small : n + 1 ≤ 9223372036854775808 := by omega
      simp only [Text.integerDigits, spelledInt?, Text.natural?_digits, Option.bind_eq_bind,
        Option.bind_some, if_pos (show 0 < n + 1 ∧ n + 1 ≤ 9223372036854775808 from ⟨by omega, small⟩)]
      rfl

/-! ## The size of integers -/

theorem whole_of_valueFrom {cs : List Char} {m n : Nat} (value : Text.valueFrom m cs = some n)
    (small : n < UInt64.size) : Magnitude.whole ⟨m, 0⟩ cs = ⟨n, 0⟩ := by
  induction cs generalizing m with
  | nil => rw [Magnitude.whole, Option.some.inj value]
  | cons c cs ih =>
      obtain ⟨d, digit, value⟩ := Option.bind_eq_some_iff.1 value
      have grows : 10 * m + d ≤ n := Text.le_of_valueFrom value
      have fits : 10 * m + d < UInt64.size := Nat.lt_of_le_of_lt grows small
      rw [Magnitude.whole, digit, Option.getD_some]
      exact (if_pos ⟨rfl, fits⟩).trans (ih value)

theorem whole_digits {n : Nat} (small : n < UInt64.size) :
    Magnitude.whole ⟨0, 0⟩ (Text.digits n) = ⟨n, 0⟩ :=
  whole_of_valueFrom (Text.valueFrom_digits n) small

theorem magnitude_integerDigits {i : Int} (small : i.natAbs < UInt64.size) :
    magnitude (Text.integerDigits i) = ⟨i.natAbs, 0⟩ := by
  have unsigned : (if (Text.integerDigits i).head? = some '-' then (Text.integerDigits i).drop 1
      else Text.integerDigits i) = Text.digits i.natAbs := by
    cases i with
    | ofNat n =>
        refine if_neg fun first => ?_
        obtain ⟨tail, minus⟩ := List.head?_eq_some_iff.1 first
        exact digits_append_ne (by decide) ((List.append_nil _).trans minus)
    | negSucc n => exact if_pos rfl
  have all : ∀ c ∈ Text.digits i.natAbs, Text.isDigit c = true := fun _ => Text.isDigit_of_mem_digits
  have digits := takeWhile_digits_append all .nil
  have rest := dropWhile_digits_append all .nil
  rw [List.append_nil] at digits rest
  unfold magnitude
  simp only [unsigned, digits, rest, whole_digits small]
  rfl

theorem roundToDouble_le (n : Nat) : roundToDouble n ≤ 2 * n + 1 := by
  have unit : 1 <<< (n.log2 - 52) ≤ n + 1 := by
    rw [Nat.one_shiftLeft]
    rcases Nat.eq_zero_or_pos n with rfl | positive
    · decide
    · calc
        2 ^ (n.log2 - 52) ≤ 2 ^ n.log2 := Nat.pow_le_pow_right (by decide) (Nat.sub_le _ _)
        _ ≤ n := Nat.log2_self_le (by omega)
        _ ≤ n + 1 := Nat.le_succ n
  have floor := Nat.div_mul_le_self n (1 <<< (n.log2 - 52))
  simp only [roundToDouble]
  split
  · rw [Nat.succ_mul]
    omega
  · omega

/-- A double holds every integer that a word holds. -/
theorem fits_integerDigits {i : Int} (small : i.natAbs < UInt64.size) :
    (magnitude (Text.integerDigits i)).fits = true := by
  have rounded := roundToDouble_le i.natAbs
  have one : roundToDouble (Nat.pow 10 (0 : Int).toNat) = 1 := by decide
  have room : 2 * UInt64.size < (1 <<< 1024) - (1 <<< 970) := by decide +kernel
  have below : roundToDouble i.natAbs * roundToDouble (Nat.pow 10 (0 : Int).toNat) <
      (1 <<< 1024) - (1 <<< 970) := by
    rw [one]
    omega
  rw [magnitude_integerDigits small]
  simp only [Magnitude.fits, decide_eq_true below]
  simp

end IdentityForm.Json
