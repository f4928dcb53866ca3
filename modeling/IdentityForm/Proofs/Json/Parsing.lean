import IdentityForm.Json.Printer
import IdentityForm.Proofs.Json.Spelling

/-! # Compact text read back

The values that the writing functions make, and that the text of each of them is read back as that
very value. So no two of them have the same text.
-/

namespace IdentityForm.Json

/-! ## Written values -/

/-- A value made by the writing functions, its arrays and objects at most `levels` deep. -/
inductive Written : Nat → Json → Prop
  | null {levels : Nat} : Written levels .null
  | bool {levels : Nat} (b : Bool) : Written levels (.bool b)
  | int {levels : Nat} {i : Int} : -9223372036854775808 ≤ i → i < UInt64.size →
      Written levels (int i)
  | text {levels : Nat} (s : String) : Written levels (text s)
  | array {levels : Nat} {items : List Json} : (∀ j ∈ items, Written levels j) →
      Written (levels + 1) (.array items)
  | record {levels : Nat} {members : List (String × Json)} : (∀ m ∈ members, Written levels m.2) →
      Written (levels + 1) (record members)

theorem Written.mono {levels levels' : Nat} {j : Json} (h : Written levels j)
    (more : levels ≤ levels') : Written levels' j := by
  induction h generalizing levels' with
  | null => exact .null
  | bool b => exact .bool b
  | int low high => exact .int low high
  | text s => exact .text s
  | array _ ih =>
      obtain ⟨inner, rfl⟩ := Nat.exists_eq_add_one.2 (show 0 < levels' by omega)
      exact .array fun j hj => ih j hj (by omega)
  | record _ ih =>
      obtain ⟨inner, rfl⟩ := Nat.exists_eq_add_one.2 (show 0 < levels' by omega)
      exact .record fun m hm => ih m hm (by omega)

theorem itemsSound_of_forall {levels : Nat} {items : List Json}
    (h : ∀ j ∈ items, j.isSound levels = true) : itemsSound levels items = true := by
  induction items with
  | nil => rw [itemsSound]
  | cons j items ih =>
      rw [itemsSound, h j List.mem_cons_self, ih fun j hj => h j (List.mem_cons_of_mem _ hj)]
      rfl

theorem membersSound_of_forall {levels : Nat} {members : List (String × Json)}
    (h : ∀ m ∈ members, m.2.isSound levels = true) :
    membersSound levels (members.map fun m => (escape m.1.toList, m.2)) = true := by
  induction members with
  | nil => rw [List.map_nil, membersSound]
  | cons m members ih =>
      rw [List.map_cons, membersSound, unescape_escape, Option.isSome_some, h m List.mem_cons_self,
        ih fun m hm => h m (List.mem_cons_of_mem _ hm)]
      rfl

/-- All of a written value has a meaning. -/
theorem Written.isSound {levels : Nat} {j : Json} (h : Written levels j) :
    j.isSound levels = true := by
  induction h with
  | null => rw [Json.isSound]
  | bool b => rw [Json.isSound]
  | int low high =>
      rw [Json.int, Json.isSound]
      exact fits_integerDigits (by simp only [UInt64.size] at high ⊢; omega)
  | text s => rw [Json.text, Json.isSound, unescape_escape, Option.isSome_some]
  | array _ ih =>
      rw [Json.isSound]
      exact itemsSound_of_forall ih
  | record _ ih =>
      rw [Json.record, Json.isSound]
      exact membersSound_of_forall ih

/-! ## The first character -/

/-- A character that a value can begin with; no blank and no bracket that closes. -/
def Begins (c : Char) : Prop := isBlank c = false ∧ c ≠ ']' ∧ c ≠ '\x7d'

theorem Begins.skipBlanks {c : Char} (h : Begins c) (rest : List Char) :
    skipBlanks (c :: rest) = c :: rest := by
  simp [Json.skipBlanks, h.1]

theorem begins_of_isDigit {c : Char} (h : Text.isDigit c = true) : Begins c ∧ c ≠ '"' ∧ c ≠ '[' ∧
    c ≠ '\x7b' ∧ c ≠ 'n' ∧ c ≠ 't' ∧ c ≠ 'f' := by
  have other {d : Char} (hd : Text.isDigit d = false) : c ≠ d := fun same =>
    Bool.false_ne_true (hd.symm.trans (same ▸ h))
  refine ⟨⟨?_, other (by decide), other (by decide)⟩, ?_⟩
  · simp only [isBlank, Bool.or_eq_false_iff, beq_eq_false_iff_ne]
    exact ⟨⟨⟨other (by decide), other (by decide)⟩, other (by decide)⟩, other (by decide)⟩
  · exact ⟨other (by decide), other (by decide), other (by decide), other (by decide),
      other (by decide), other (by decide)⟩

theorem begins_integer (i : Int) : ∃ c tail, Text.integerDigits i = c :: tail ∧ Begins c ∧ c ≠ '"' ∧
    c ≠ '[' ∧ c ≠ '\x7b' ∧ c ≠ 'n' ∧ c ≠ 't' ∧ c ≠ 'f' := by
  cases i with
  | ofNat n =>
      cases ds : Text.digits n with
      | nil => exact absurd ds (Text.digits_ne_nil n)
      | cons c tail =>
          have digit : Text.isDigit c = true := Text.isDigit_of_mem_digits (ds ▸ List.mem_cons_self)
          exact ⟨c, tail, ds, begins_of_isDigit digit⟩
  | negSucc n => exact ⟨'-', _, rfl, by unfold Begins; decide⟩

theorem Written.begins {levels : Nat} {j : Json} (h : Written levels j) :
    ∃ c tail, print j = c :: tail ∧ Begins c := by
  cases h with
  | null => exact ⟨_, _, by rw [print], by unfold Begins; decide⟩
  | bool b => cases b <;> exact ⟨_, _, by rw [print], by unfold Begins; decide⟩
  | int =>
      obtain ⟨c, tail, digits, begins, -⟩ := begins_integer ‹Int›
      exact ⟨c, tail, by rw [Json.int, print, digits], begins⟩
  | text s => exact ⟨_, _, by rw [Json.text, print], by unfold Begins; decide⟩
  | @array _ items =>
      cases items with
      | nil => exact ⟨_, _, by rw [print], by unfold Begins; decide⟩
      | cons j items => exact ⟨_, _, by rw [print], by unfold Begins; decide⟩
  | @record _ members =>
      cases members with
      | nil => exact ⟨_, _, by rw [Json.record, List.map_nil, print], by unfold Begins; decide⟩
      | cons m members =>
          exact ⟨_, _, by rw [Json.record, List.map_cons, print], by unfold Begins; decide⟩

/-! ## Scanning -/

/-- The text of a value is read back as the value, whatever stands behind it. -/
def Scans (j : Json) : Prop :=
  ∀ fuel rest, (print j).length ≤ fuel → EndsNumber rest → scan fuel (print j ++ rest) = some (j, rest)

theorem endsNumber_printItems (items : List Json) (rest : List Char) :
    EndsNumber (printItems items ++ rest) := by
  cases items with
  | nil => exact printItems.eq_1 ▸ .cons (by decide)
  | cons j items => exact printItems.eq_2 j items ▸ .cons (by decide)

theorem endsNumber_printMembers (members : List (List Char × Json)) (rest : List Char) :
    EndsNumber (printMembers members ++ rest) := by
  cases members with
  | nil => exact printMembers.eq_1 ▸ .cons (by decide)
  | cons m members => exact printMembers.eq_2 m.1 m.2 members ▸ .cons (by decide)

/-- The items behind the first one are found up to the bracket that closes them. -/
theorem scanItems_printItems {items : List Json} (h : ∀ j ∈ items, Scans j) (fuel : Nat)
    (rest : List Char) (enough : (printItems items).length ≤ fuel) :
    scanItems fuel (printItems items ++ rest) = some (items, rest) := by
  induction items generalizing fuel with
  | nil =>
      rw [printItems] at enough ⊢
      obtain ⟨fuel, rfl⟩ := Nat.exists_eq_add_one.2 enough
      rfl
  | cons j items ih =>
      rw [printItems, List.length_cons, List.length_append] at enough
      obtain ⟨fuel, rfl⟩ := Nat.exists_eq_add_one.2 (show 0 < fuel by omega)
      have first := h j List.mem_cons_self fuel _ (by omega) (endsNumber_printItems items rest)
      have others := ih (fun j hj => h j (List.mem_cons_of_mem _ hj)) fuel (by omega)
      have comma : skipBlanks (',' :: (print j ++ (printItems items ++ rest))) =
          ',' :: (print j ++ (printItems items ++ rest)) := rfl
      rw [printItems, List.cons_append, List.append_assoc, scanItems, comma]
      simp only [first, others, Option.bind_eq_bind, Option.bind_some]
      rfl

/-- The members behind the first one are found up to the brace that closes them. -/
theorem scanMembers_printMembers {members : List (String × Json)} (h : ∀ m ∈ members, Scans m.2)
    (fuel : Nat) (rest : List Char)
    (enough : (printMembers (members.map fun m => (escape m.1.toList, m.2))).length ≤ fuel) :
    scanMembers fuel (printMembers (members.map fun m => (escape m.1.toList, m.2)) ++ rest) =
      some (members.map fun m => (escape m.1.toList, m.2), rest) := by
  induction members generalizing fuel with
  | nil =>
      rw [List.map_nil, printMembers] at enough ⊢
      obtain ⟨fuel, rfl⟩ := Nat.exists_eq_add_one.2 enough
      rfl
  | cons m members ih =>
      rw [List.map_cons, printMembers] at enough
      simp only [List.length_cons, List.length_append] at enough
      obtain ⟨fuel, rfl⟩ := Nat.exists_eq_add_one.2 (show 0 < fuel by omega)
      have first := h m List.mem_cons_self fuel _ (by omega) (endsNumber_printMembers
        (members.map fun m => (escape m.1.toList, m.2)) rest)
      have others := ih (fun m hm => h m (List.mem_cons_of_mem _ hm)) fuel (by omega)
      have comma (cs : List Char) : skipBlanks (',' :: cs) = ',' :: cs := rfl
      have quote (cs : List Char) : expect '"' (skipBlanks ('"' :: cs)) = some cs := rfl
      have colon (cs : List Char) : expect ':' (skipBlanks (':' :: cs)) = some cs := rfl
      rw [List.map_cons, printMembers, List.cons_append, List.cons_append, List.append_assoc,
        List.cons_append, List.cons_append, List.append_assoc, scanMembers, comma]
      simp only [quote, scanString_escape, colon, first, others, Option.bind_eq_bind,
        Option.bind_some]
      rfl

theorem scan_array {fuel : Nat} {cs behind rest : List Char} {j : Json} {items : List Json}
    (begins : skipBlanks cs = cs) (filled : ∀ tail, cs ≠ ']' :: tail)
    (first : scan fuel cs = some (j, behind)) (others : scanItems fuel behind = some (items, rest)) :
    scan (fuel + 1) ('[' :: cs) = some (.array (j :: items), rest) := by
  rw [scan, if_neg (by decide), if_neg (by decide), if_pos rfl, begins]
  split
  · exact absurd ‹_› (filled _)
  · simp only [first, others, Option.bind_eq_bind, Option.bind_some]
    rfl

theorem scan_object {fuel : Nat} {cs inside behind rest : List Char} {key : List Char} {j : Json}
    {members : List (List Char × Json)} (name : scanString cs = some (key, ':' :: inside))
    (first : scan fuel inside = some (j, behind))
    (others : scanMembers fuel behind = some (members, rest)) :
    scan (fuel + 1) ('\x7b' :: '"' :: cs) = some (.object ((key, j) :: members), rest) := by
  have blank : skipBlanks ('"' :: cs) = '"' :: cs := rfl
  have quote : expect '"' ('"' :: cs) = some cs := rfl
  have colon : expect ':' (skipBlanks (':' :: inside)) = some inside := rfl
  rw [scan, if_neg (by decide), if_neg (by decide), if_neg (by decide), if_pos rfl, blank]
  split
  · exact absurd (List.cons.inj ‹_›).1 (by decide)
  · simp only [quote, name, colon, first, others, Option.bind_eq_bind, Option.bind_some]
    rfl

/-- A first item or member is not taken for the end of a list. -/
theorem Written.skipBlanks_print {levels : Nat} {j : Json} (h : Written levels j)
    (rest : List Char) : skipBlanks (print j ++ rest) = print j ++ rest ∧
      ∀ tail, print j ++ rest ≠ ']' :: tail := by
  obtain ⟨c, tail, text, begins⟩ := h.begins
  rw [text, List.cons_append]
  exact ⟨begins.skipBlanks _, fun _ same => begins.2.1 (List.cons.inj same).1⟩

theorem Written.scans {levels : Nat} {j : Json} (h : Written levels j) : Scans j := by
  induction h with
  | null =>
      intro fuel rest enough _
      rw [print] at enough ⊢
      obtain ⟨fuel, rfl⟩ := Nat.exists_eq_add_one.2 (Nat.lt_of_lt_of_le (by decide) enough)
      rfl
  | bool b =>
      intro fuel rest enough _
      cases b <;> rw [print] at enough ⊢ <;>
        obtain ⟨fuel, rfl⟩ := Nat.exists_eq_add_one.2 (Nat.lt_of_lt_of_le (by decide) enough) <;> rfl
  | @int _ i low high =>
      intro fuel rest enough ends
      have number := scanNumber_integerDigits i ends
      obtain ⟨c, tail, text, begins, others⟩ := begins_integer i
      obtain ⟨quote, bracket, brace, n, t, f⟩ := others
      rw [Json.int, print] at enough ⊢
      rw [text] at enough number ⊢
      obtain ⟨fuel, rfl⟩ := Nat.exists_eq_add_one.2
        (Nat.lt_of_lt_of_le (Nat.zero_lt_succ _) enough)
      rw [List.cons_append] at number ⊢
      rw [scan]
      simp only [begins.1, if_neg quote, if_neg bracket, if_neg brace, if_neg n, if_neg t, if_neg f,
        number]
      rfl
  | text s =>
      intro fuel rest enough _
      rw [Json.text, print] at enough ⊢
      obtain ⟨fuel, rfl⟩ := Nat.exists_eq_add_one.2
        (Nat.lt_of_lt_of_le (Nat.zero_lt_succ _) enough)
      have text := scanString_escape s.toList rest
      rw [List.cons_append, List.append_assoc, List.singleton_append, scan]
      simp only [text]
      rfl
  | @array _ items written ih =>
      intro fuel rest enough _
      cases items with
      | nil =>
          rw [print] at enough ⊢
          obtain ⟨fuel, rfl⟩ := Nat.exists_eq_add_one.2 (Nat.lt_of_lt_of_le (by decide) enough)
          rfl
      | cons j items =>
          rw [print, List.length_cons, List.length_append] at enough
          obtain ⟨fuel, rfl⟩ := Nat.exists_eq_add_one.2 (show 0 < fuel by omega)
          have first := ih j List.mem_cons_self fuel _ (by omega) (endsNumber_printItems items rest)
          have others := scanItems_printItems (fun j hj => ih j (List.mem_cons_of_mem _ hj)) fuel rest
            (by omega)
          obtain ⟨begins, filled⟩ := (written j List.mem_cons_self).skipBlanks_print
            (printItems items ++ rest)
          rw [print, List.cons_append, List.append_assoc]
          exact scan_array begins filled first others
  | @record _ members written ih =>
      intro fuel rest enough _
      cases members with
      | nil =>
          rw [Json.record, List.map_nil, print] at enough ⊢
          obtain ⟨fuel, rfl⟩ := Nat.exists_eq_add_one.2 (Nat.lt_of_lt_of_le (by decide) enough)
          rfl
      | cons m members =>
          rw [Json.record, List.map_cons, print] at enough
          simp only [List.length_cons, List.length_append] at enough
          obtain ⟨fuel, rfl⟩ := Nat.exists_eq_add_one.2 (show 0 < fuel by omega)
          have first := ih m List.mem_cons_self fuel _ (by omega) (endsNumber_printMembers
            (members.map fun m => (escape m.1.toList, m.2)) rest)
          have others := scanMembers_printMembers (fun m hm => ih m (List.mem_cons_of_mem _ hm)) fuel
            rest (by omega)
          rw [Json.record, List.map_cons, print, List.cons_append, List.cons_append,
            List.append_assoc, List.cons_append, List.cons_append, List.append_assoc]
          exact scan_object (scanString_escape _ _) first others

/-! ## Compact text -/

/-- The compact text of a written value is read back as the value. -/
theorem Written.parse_compact {levels : Nat} {j : Json} (h : Written levels j) :
    parse j.compact = some j := by
  have enough : (print j).length ≤ 2 * (print j).length + 1 := by omega
  have scanned := h.scans _ [] enough .nil
  rw [List.append_nil] at scanned
  simp only [parse, compact, String.toList_ofList, scanned]
  rfl

end IdentityForm.Json
