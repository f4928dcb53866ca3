import IdentityForm.Text.Digits

/-! # Digits read back

The digits of a number have its value, there is at least one of them, and no zero leads others. The
same for integers behind their sign, and for numbers filled up with zeros to a width.
-/

namespace IdentityForm.Text

/-! ## One digit -/

theorem digit?_digitChar {d : Nat} (h : d < 10) : digit? (digitChar d) = some d :=
  (by decide : ∀ d < 10, digit? (digitChar d) = some d) d h

theorem isDigit_digitChar {d : Nat} (h : d < 10) : isDigit (digitChar d) = true := by
  rw [isDigit, digit?_digitChar h]
  rfl

theorem isDigit_iff {c : Char} : isDigit c = true ↔ '0' ≤ c ∧ c ≤ '9' := by
  unfold isDigit digit?
  split <;> simp_all

theorem digitChar_eq_zero {d : Nat} (h : d < 10) : digitChar d = '0' ↔ d = 0 :=
  (by decide : ∀ d < 10, digitChar d = '0' ↔ d = 0) d h

/-! ## Runs of digits -/

theorem valueFrom_append (n : Nat) (cs ds : List Char) :
    valueFrom n (cs ++ ds) = (valueFrom n cs).bind fun m => valueFrom m ds := by
  induction cs generalizing n with
  | nil => rfl
  | cons c cs ih =>
      rw [List.cons_append, valueFrom, valueFrom]
      cases digit? c with
      | none => rfl
      | some d => exact ih (10 * n + d)

theorem digits_of_lt {n : Nat} (h : n < 10) : digits n = [digitChar n] := by
  rw [digits, if_pos h]

theorem digits_of_ge {n : Nat} (h : 10 ≤ n) :
    digits n = digits (n / 10) ++ [digitChar (n % 10)] := by
  rw [digits, if_neg (by omega)]

theorem digits_ne_nil (n : Nat) : digits n ≠ [] := by
  rw [digits]
  split <;> simp

theorem isDigit_of_mem_digits {n : Nat} {c : Char} (h : c ∈ digits n) : isDigit c = true := by
  induction n using digits.induct with
  | case1 n small =>
      rw [digits_of_lt small, List.mem_singleton] at h
      exact h ▸ isDigit_digitChar small
  | case2 n large ih =>
      rw [digits_of_ge (by omega), List.mem_append, List.mem_singleton] at h
      rcases h with h | rfl
      · exact ih h
      · exact isDigit_digitChar (by omega)

/-- The digits of a number have its value, also behind other digits. -/
theorem valueFrom_digits (n : Nat) : valueFrom 0 (digits n) = some n := by
  induction n using digits.induct with
  | case1 n small => simp [digits_of_lt small, valueFrom, digit?_digitChar small]
  | case2 n large ih =>
      rw [digits_of_ge (by omega), valueFrom_append, ih]
      simp only [Option.bind_some, valueFrom, digit?_digitChar (show n % 10 < 10 by omega)]
      congr 1
      omega

theorem natural?_of_ne_nil {cs : List Char} (h : cs ≠ []) : natural? cs = valueFrom 0 cs := by
  cases cs with
  | nil => exact absurd rfl h
  | cons c cs => rfl

@[simp] theorem natural?_digits (n : Nat) : natural? (digits n) = some n := by
  rw [natural?_of_ne_nil (digits_ne_nil n), valueFrom_digits]

theorem le_of_valueFrom {m n : Nat} {cs : List Char} (h : valueFrom m cs = some n) : m ≤ n := by
  induction cs generalizing m with
  | nil => exact Nat.le_of_eq (Option.some.inj h)
  | cons c cs ih =>
      obtain ⟨d, -, h⟩ := Option.bind_eq_some_iff.1 h
      have := ih h
      omega

/-- Zeros in front change nothing. -/
theorem valueFrom_zeros (k : Nat) (cs : List Char) :
    valueFrom 0 (List.replicate k '0' ++ cs) = valueFrom 0 cs := by
  induction k with
  | zero => rfl
  | succ k ih => exact ih

theorem head?_digits (n : Nat) : (digits n).head? = some '0' ↔ n = 0 := by
  induction n using digits.induct with
  | case1 n small => simp [digits_of_lt small, digitChar_eq_zero small]
  | case2 n large ih =>
      have front : (digits n).head? = (digits (n / 10)).head? := by
        rw [digits_of_ge (by omega), List.head?_append]
        cases first : (digits (n / 10)).head? with
        | none => exact absurd (List.head?_eq_none_iff.1 first) (digits_ne_nil _)
        | some c => rfl
      rw [front, ih]
      omega

/-! ## Integers -/

theorem head_ne_of_isDigit {c d : Char} {cs : List Char} (all : ∀ x ∈ c :: cs, isDigit x = true)
    (other : isDigit d = false) : c ≠ d := fun same =>
  Bool.false_ne_true (other.symm.trans (same ▸ all c List.mem_cons_self))

theorem integer?_digits (n : Nat) : integer? (digits n) = some (n : Int) := by
  have all : ∀ c ∈ digits n, isDigit c = true := fun _ => isDigit_of_mem_digits
  have value := natural?_digits n
  cases cs : digits n with
  | nil => exact absurd cs (digits_ne_nil n)
  | cons c rest =>
      rw [cs] at all value
      have unsigned : c ≠ '-' := head_ne_of_isDigit all (by decide)
      have unmarked : c ≠ '+' := head_ne_of_isDigit all (by decide)
      have signed : signedNatural? (c :: rest) = natural? (c :: rest) := by
        unfold signedNatural?
        split
        · exact absurd (List.cons.inj ‹_›).1 unmarked
        · rfl
      unfold integer?
      split
      · exact absurd (List.cons.inj ‹_›).1 unsigned
      · rw [signed, value]
        rfl

@[simp] theorem integer?_integerDigits (i : Int) : integer? (integerDigits i) = some i := by
  cases i with
  | ofNat n => exact integer?_digits n
  | negSucc n =>
      show (natural? (digits (n + 1))).map (fun m => -(m : Int)) = _
      rw [natural?_digits]
      rfl

end IdentityForm.Text
