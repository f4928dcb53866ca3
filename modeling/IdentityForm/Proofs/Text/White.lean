import IdentityForm.Proofs.Text.Digits
import IdentityForm.Text.White

/-! # Texts without white space around them

A text that neither begins nor ends with white space is what trimming leaves of it.
-/

namespace IdentityForm.Text

/-- No white space stands at either end of a text. -/
def Trimmed (cs : List Char) : Prop :=
  cs.head?.any isWhite = false ∧ cs.getLast?.any isWhite = false

instance (cs : List Char) : Decidable (Trimmed cs) := inferInstanceAs (Decidable (_ ∧ _))

theorem trimLeft_eq_self {cs : List Char} (h : cs.head?.any isWhite = false) :
    trimLeft cs = cs := by
  cases cs with
  | nil => rfl
  | cons c cs =>
      have solid : isWhite c = false := h
      rw [trimLeft, List.dropWhile_cons, solid]
      rfl

theorem Trimmed.trim_eq {s : String} (h : Trimmed s.toList) : trim s = s := by
  have back : s.toList.reverse.head?.any isWhite = false := by
    rw [List.head?_reverse]
    exact h.2
  rw [trim, trimLeft_eq_self h.1, trimRight, trimLeft_eq_self back, List.reverse_reverse,
    String.ofList_toList]

theorem head?_trimLeft (cs : List Char) : (trimLeft cs).head?.any isWhite = false := by
  have solid := List.head?_dropWhile_not isWhite cs
  rw [trimLeft]
  cases first : (cs.dropWhile isWhite).head? with
  | none => rfl
  | some c => simpa [first] using solid

theorem trimRight_prefix (cs : List Char) : trimRight cs <+: cs := by
  have suffix : trimLeft cs.reverse <:+ cs.reverse := List.dropWhile_suffix isWhite
  rw [trimRight, ← List.reverse_suffix, List.reverse_reverse]
  exact suffix

theorem trimmed_trim (s : String) : Trimmed (trim s).toList := by
  rw [trim, String.toList_ofList]
  constructor
  · cases hcs : trimRight (trimLeft s.toList) with
    | nil => rfl
    | cons c cs =>
        obtain ⟨rest, whole⟩ := trimRight_prefix (trimLeft s.toList)
        have solid := head?_trimLeft s.toList
        rw [← whole, hcs] at solid
        exact solid
  · rw [trimRight, List.getLast?_reverse]
    exact head?_trimLeft _

@[simp] theorem trim_trim (s : String) : trim (trim s) = trim s := (trimmed_trim s).trim_eq

theorem isWhite_of_isDigit {c : Char} (h : isDigit c = true) : isWhite c = false := by
  obtain ⟨low, high⟩ := isDigit_iff.1 h
  have low : 48 ≤ c.toNat := low
  have high : c.toNat ≤ 57 := high
  simp only [isWhite, Bool.or_eq_false_iff, Bool.and_eq_false_iff, decide_eq_false_iff_not,
    beq_eq_false_iff_ne]
  omega

theorem trimmed_of_forall {cs : List Char} (h : ∀ c ∈ cs, isWhite c = false) : Trimmed cs := by
  constructor
  · cases first : cs.head? with
    | none => rfl
    | some c => exact h c (List.mem_of_head? first)
  · cases last : cs.getLast? with
    | none => rfl
    | some c => exact h c (List.mem_of_getLast? last)

end IdentityForm.Text
