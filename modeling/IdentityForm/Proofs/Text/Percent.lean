import IdentityForm.Text.Percent

/-! # Percent encoding read back

A text is written in unreserved characters, percent signs and hexadecimal digits, so none of the
marks of a query stand in it; and decoding gives its bytes back, whatever characters it is made of.
-/

namespace IdentityForm.Text

/-! ## Bytes of a text -/

theorem toUtf8_ofList (cs : List Char) :
    toUtf8 (String.ofList cs) = cs.flatMap String.utf8EncodeChar := by
  rw [toUtf8, String.toUTF8, String.toByteArray_ofList, List.utf8Encode, List.toList_data_toByteArray]

@[simp] theorem ofUtf8_toUtf8 (s : String) : ofUtf8 (toUtf8 s) = .ok s := by
  have bytes : (⟨(toUtf8 s).toArray⟩ : ByteArray) = s.toByteArray := by
    rw [toUtf8, String.toUTF8, Array.toArray_toList]
  unfold ofUtf8
  rw [bytes, String.fromUTF8?, dif_pos s.isValidUTF8]
  rfl

theorem utf8EncodeChar_of_ascii {c : Char} (h : c.toNat < 128) :
    String.utf8EncodeChar c = [UInt8.ofNat c.toNat] :=
  if_pos (by simp only [Char.toNat] at h; omega)

theorem toUtf8_of_ascii {cs : List Char} (h : ∀ c ∈ cs, c.toNat < 128) :
    toUtf8 (String.ofList cs) = cs.map fun c => UInt8.ofNat c.toNat := by
  rw [toUtf8_ofList]
  induction cs with
  | nil => rfl
  | cons c cs ih =>
      rw [List.flatMap_cons, utf8EncodeChar_of_ascii (h c List.mem_cons_self),
        ih fun c hc => h c (List.mem_cons_of_mem _ hc)]
      rfl

/-! ## What is written -/

/-- A mark that divides a link or its query, or stands for a blank there. -/
def isMark (c : Char) : Bool := c == '?' || c == '&' || c == '=' || c == '+'

def isPlain (c : Char) : Bool := decide (c.toNat < 128) && !isMark c

theorem isPlain_upperHexDigit {n : Nat} (h : n < 16) : isPlain (upperHexDigit n) = true :=
  (by decide : ∀ n < 16, isPlain (upperHexDigit n) = true) n h

theorem hexByte?_upperHexDigit {n : Nat} (h : n < 16) :
    hexByte? (UInt8.ofNat (upperHexDigit n).toNat) = some n :=
  (by decide : ∀ n < 16, hexByte? (UInt8.ofNat (upperHexDigit n).toNat) = some n) n h

theorem isPlain_of_isUnreserved {b : UInt8} (h : isUnreserved b = true) :
    b.toNat < 128 ∧ (Char.ofNat b.toNat).toNat = b.toNat ∧ isPlain (Char.ofNat b.toNat) = true ∧
      b ≠ 37 := by
  have all : ∀ n < 128, isUnreserved (UInt8.ofNat n) = true →
      (Char.ofNat n).toNat = n ∧ isPlain (Char.ofNat n) = true ∧ UInt8.ofNat n ≠ 37 := by decide
  have small : b.toNat < 128 := by
    simp only [isUnreserved, Bool.and_eq_true, decide_eq_true_eq] at h
    exact h.1
  have facts := all b.toNat small
  rw [UInt8.ofNat_toNat] at facts
  exact ⟨small, facts h⟩

theorem isPlain_of_mem_percentByte {b : UInt8} {c : Char} (h : c ∈ percentByte b) :
    isPlain c = true := by
  have byte : b.toNat < 256 := b.toNat_lt_size
  unfold percentByte at h
  split at h
  · rw [List.mem_singleton.1 h]
    exact (isPlain_of_isUnreserved ‹_›).2.2.1
  · rcases List.mem_cons.1 h with rfl | h
    · decide
    · rcases List.mem_cons.1 h with rfl | h
      · exact isPlain_upperHexDigit (by omega)
      · rw [List.mem_singleton.1 h]
        exact isPlain_upperHexDigit (by omega)

/-- No mark of a query stands in an encoded text. -/
theorem isPlain_of_mem_percentEncode {s : String} {c : Char} (h : c ∈ (percentEncode s).toList) :
    isPlain c = true := by
  rw [percentEncode, String.toList_ofList] at h
  obtain ⟨b, -, h⟩ := List.mem_flatMap.1 h
  exact isPlain_of_mem_percentByte h

/-! ## What is read -/

theorem percentDecode_cons_of_ne {b : UInt8} (h : b ≠ 37) (rest : List UInt8) :
    percentDecode (b :: rest) = b :: percentDecode rest := by
  rw [percentDecode.eq_def]
  exact if_neg h

/-- A byte that was written is read back, whatever stands behind it. -/
theorem percentDecode_percentByte (b : UInt8) (rest : List UInt8) :
    percentDecode ((percentByte b).map (fun c => UInt8.ofNat c.toNat) ++ rest) =
      b :: percentDecode rest := by
  have byte : b.toNat < 256 := b.toNat_lt_size
  unfold percentByte
  split
  · obtain ⟨-, char, -, other⟩ := isPlain_of_isUnreserved ‹_›
    rw [List.map_singleton, List.singleton_append, char, UInt8.ofNat_toNat,
      percentDecode_cons_of_ne other]
  · have high := hexByte?_upperHexDigit (show b.toNat / 16 < 16 by omega)
    have low := hexByte?_upperHexDigit (show b.toNat % 16 < 16 by omega)
    have whole : UInt8.ofNat (16 * (b.toNat / 16) + b.toNat % 16) = b := by
      rw [Nat.div_add_mod, UInt8.ofNat_toNat]
    simp only [List.map_cons, List.map_nil, List.cons_append, List.nil_append]
    rw [percentDecode]
    simp only [high, low, whole]
    rfl

theorem percentDecode_flatMap (bytes : List UInt8) :
    percentDecode ((bytes.flatMap percentByte).map fun c => UInt8.ofNat c.toNat) = bytes := by
  induction bytes with
  | nil => rfl
  | cons b bytes ih =>
      rw [List.flatMap_cons, List.map_append, percentDecode_percentByte, ih]

/-- The bytes behind an encoded text are the bytes of the text. -/
theorem percentDecode_percentEncode (s : String) :
    percentDecode (toUtf8 (percentEncode s)) = toUtf8 s := by
  have ascii : ∀ c ∈ (toUtf8 s).flatMap percentByte, c.toNat < 128 := fun c hc => by
    obtain ⟨b, -, hb⟩ := List.mem_flatMap.1 hc
    have plain := isPlain_of_mem_percentByte hb
    simp only [isPlain, Bool.and_eq_true, decide_eq_true_eq] at plain
    exact plain.1
  rw [percentEncode, toUtf8_of_ascii ascii, percentDecode_flatMap]

theorem percentEncode_injective {s t : String} (h : percentEncode s = percentEncode t) : s = t := by
  have bytes := congrArg (fun text => ofUtf8 (percentDecode (toUtf8 text))) h
  simpa only [percentDecode_percentEncode, ofUtf8_toUtf8, Except.ok.injEq] using bytes

end IdentityForm.Text
