/-! # Fields of an entry

Texts under names, each with the error reported for it, in the order of the names. Two maps with the
same fields are equal.
-/

namespace IdentityForm

structure Field where
  text : String
  error : Option String
  deriving DecidableEq, Repr

/-- A field nobody has filled in. -/
def Field.blank : Field := ⟨"", none⟩

/-- Puts a field in its place in a list ordered by names. -/
def Field.insert (key : String) (field : Field) :
    List (String × Field) → List (String × Field)
  | [] => [(key, field)]
  | (k, f) :: rest =>
    if key < k then (key, field) :: (k, f) :: rest
    else if key = k then (key, field) :: rest
    else (k, f) :: Field.insert key field rest

theorem Field.mem_insert {key : String} {field : Field} {list : List (String × Field)}
    {p : String × Field} (h : p ∈ Field.insert key field list) : p = (key, field) ∨ p ∈ list := by
  induction list with
  | nil => simpa [Field.insert] using h
  | cons q rest ih =>
    obtain ⟨k, f⟩ := q
    simp only [Field.insert] at h
    split at h
    · simpa using h
    · split at h
      · rcases List.mem_cons.1 h with h | h
        · exact .inl h
        · exact .inr (List.mem_cons_of_mem _ h)
      · rcases List.mem_cons.1 h with h | h
        · exact .inr (h ▸ List.mem_cons_self)
        · exact (ih h).imp_right (List.mem_cons_of_mem _)

theorem Field.ordered_insert {key : String} {field : Field} {list : List (String × Field)}
    (h : list.Pairwise fun a b => a.1 < b.1) :
    (Field.insert key field list).Pairwise fun a b => a.1 < b.1 := by
  induction list with
  | nil => simp [Field.insert]
  | cons q rest ih =>
    obtain ⟨k, f⟩ := q
    obtain ⟨hk, hrest⟩ := List.pairwise_cons.1 h
    simp only [Field.insert]
    split
    · rename_i hlt
      refine List.pairwise_cons.2 ⟨?_, h⟩
      intro p hp
      rcases List.mem_cons.1 hp with rfl | hp
      · exact hlt
      · exact String.lt_trans hlt (hk p hp)
    · rename_i hnlt
      split
      · rename_i heq
        exact List.pairwise_cons.2 ⟨fun p hp => heq ▸ hk p hp, hrest⟩
      · rename_i hne
        refine List.pairwise_cons.2 ⟨fun p hp => ?_, ih hrest⟩
        rcases Field.mem_insert hp with rfl | hp
        · rcases Std.lt_trichotomy k key with h' | h' | h'
          · exact h'
          · exact absurd h'.symm hne
          · exact absurd h' hnlt
        · exact hk p hp

theorem Field.lookup_cons (key : String) (p : String × Field) (rest : List (String × Field)) :
    (p :: rest).lookup key = if key = p.1 then some p.2 else rest.lookup key := by
  rw [List.lookup_cons]
  by_cases h : key = p.1
  · rw [if_pos h, beq_iff_eq.2 h]
  · rw [if_neg h, beq_false_of_ne h]

theorem Field.lookup_insert (key key' : String) (field : Field) (list : List (String × Field)) :
    (Field.insert key field list).lookup key' =
      if key' = key then some field else list.lookup key' := by
  induction list with
  | nil => rw [Field.insert, Field.lookup_cons]
  | cons q rest ih =>
    obtain ⟨k, f⟩ := q
    simp only [Field.insert]
    split
    · rw [Field.lookup_cons]
    · split
      · rename_i hk
        subst hk
        simp only [Field.lookup_cons]
        split <;> rfl
      · rename_i hne
        simp only [Field.lookup_cons, ih]
        split
        · rename_i hk
          rw [if_neg fun e => hne (e.symm.trans hk)]
        · rfl

/-- A name before all others stands under none of them. -/
theorem Field.lookup_eq_none {key : String} {list : List (String × Field)}
    (h : ∀ p ∈ list, key < p.1) : list.lookup key = none := by
  induction list with
  | nil => rfl
  | cons q rest ih =>
    have hne : key ≠ q.1 := fun e => String.lt_irrefl q.1 (e ▸ h q List.mem_cons_self)
    rw [Field.lookup_cons, if_neg hne]
    exact ih fun p hp => h p (List.mem_cons_of_mem q hp)

/-- A name before the first of an ordered list stands under none of them. -/
theorem Field.lookup_eq_none_of_lt {key : String} {q : String × Field}
    {rest : List (String × Field)} (h : (q :: rest).Pairwise fun a b => a.1 < b.1)
    (hlt : key < q.1) : (q :: rest).lookup key = none :=
  Field.lookup_eq_none fun p hp => by
    rcases List.mem_cons.1 hp with rfl | hp
    · exact hlt
    · exact String.lt_trans hlt ((List.pairwise_cons.1 h).1 p hp)

/-- Ordered lists that hold the same field under every name are the same list. -/
theorem Field.eq_of_lookup_eq {list list' : List (String × Field)}
    (h : list.Pairwise fun a b => a.1 < b.1) (h' : list'.Pairwise fun a b => a.1 < b.1)
    (same : ∀ key, list.lookup key = list'.lookup key) : list = list' := by
  induction list generalizing list' with
  | nil =>
    cases list' with
    | nil => rfl
    | cons q rest' =>
      have := same q.1
      rw [Field.lookup_cons, if_pos rfl] at this
      cases this
  | cons p rest ih =>
    cases list' with
    | nil =>
      have := same p.1
      rw [Field.lookup_cons, if_pos rfl] at this
      cases this
    | cons q rest' =>
      have head : p.1 = q.1 := by
        rcases Std.lt_trichotomy p.1 q.1 with hlt | heq | hgt
        · have := same p.1
          rw [Field.lookup_eq_none_of_lt h' hlt, Field.lookup_cons, if_pos rfl] at this
          cases this
        · exact heq
        · have := same q.1
          rw [Field.lookup_eq_none_of_lt h hgt, Field.lookup_cons, if_pos rfl] at this
          cases this
      have field : p.2 = q.2 := by
        have := same q.1
        rw [Field.lookup_cons, if_pos head.symm, Field.lookup_cons, if_pos rfl] at this
        exact Option.some.inj this
      obtain ⟨hp, hrest⟩ := List.pairwise_cons.1 h
      obtain ⟨hq, hrest'⟩ := List.pairwise_cons.1 h'
      have tail : rest = rest' := ih hrest hrest' fun key => by
        by_cases hk : key = q.1
        · subst hk
          rw [Field.lookup_eq_none hq, Field.lookup_eq_none fun r hr => head ▸ hp r hr]
        · have := same key
          rwa [Field.lookup_cons, if_neg (head ▸ hk), Field.lookup_cons, if_neg hk] at this
      rw [tail, Prod.ext head field]

/-- The fields in the order of their names, each name once. -/
structure Fields where
  entries : List (String × Field)
  ordered : entries.Pairwise fun a b => a.1 < b.1
  deriving DecidableEq

namespace Fields

def empty : Fields := ⟨[], .nil⟩

instance : Inhabited Fields := ⟨empty⟩

def get? (m : Fields) (key : String) : Option Field := m.entries.lookup key

/-- The text under a name; a field that is not there has none. -/
def text (m : Fields) (key : String) : String := ((m.get? key).map (·.text)).getD ""

def set (m : Fields) (key : String) (field : Field) : Fields :=
  ⟨Field.insert key field m.entries, Field.ordered_insert m.ordered⟩

@[simp] theorem get?_empty (key : String) : empty.get? key = none := rfl

theorem get?_set (m : Fields) (key key' : String) (field : Field) :
    (m.set key field).get? key' = if key' = key then some field else m.get? key' :=
  Field.lookup_insert key key' field m.entries

/-- Maps with the same fields are equal. -/
theorem eq_of_get?_eq {m m' : Fields} (same : ∀ key, m.get? key = m'.get? key) : m = m' := by
  have := Field.eq_of_lookup_eq m.ordered m'.ordered same
  cases m
  cases m'
  cases this
  rfl

/-- Changes the text and keeps the error. -/
def setText (m : Fields) (key text : String) : Fields :=
  m.set key { (m.get? key).getD .blank with text }

/-- Sets the error and keeps the text. -/
def setError (m : Fields) (key error : String) : Fields :=
  m.set key { (m.get? key).getD .blank with error := some error }

def hasErrors (m : Fields) : Bool := m.entries.any fun p => p.2.error.isSome

/-- Puts whole fields on top of this map and keeps those that are not mentioned. -/
def overlay (m changes : Fields) : Fields :=
  changes.entries.foldl (fun m p => m.set p.1 p.2) m

/-- The map of a list of fields; of two with one name the later stays. -/
def ofList (fields : List (String × Field)) : Fields :=
  fields.foldl (fun m p => m.set p.1 p.2) empty

/-- The map of a list of texts without errors. -/
def ofTexts (texts : List (String × String)) : Fields :=
  ofList (texts.map fun p => (p.1, ⟨p.2, none⟩))

end Fields

end IdentityForm
