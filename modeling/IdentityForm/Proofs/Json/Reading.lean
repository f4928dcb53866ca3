import IdentityForm.Json.Reader
import IdentityForm.Proofs.Json.Parsing

/-! # Written values read back

How what was written is read again: single values, what may be missing, lists, records and choices.
Each lemma takes what holds of the parts and gives what holds of the whole, in every context that has
room for its levels, set aside or not.
-/

namespace IdentityForm.Json

/-- A written value of at most `levels` levels, which is read as `a` wherever that many are left. -/
structure Reads {α : Type} (read : Reader α) (levels : Nat) (j : Json) (a : α) : Prop where
  written : Written levels j
  read_eq : ∀ c : Context, levels ≤ c.levels → read c j = some a

variable {α β : Type} {read : Reader α} {levels : Nat} {j : Json} {a : α} {c : Context}

theorem Reads.mono {levels' : Nat} (h : Reads read levels j a) (more : levels ≤ levels') :
    Reads read levels' j a :=
  ⟨h.written.mono more, fun c enough => h.read_eq c (Nat.le_trans more enough)⟩

/-! ## Single values -/

@[simp] theorem readString_text (c : Context) (s : String) : readString c (text s) = some s := by
  simp [readString, text]

@[simp] theorem readBool_bool (c : Context) (b : Bool) : readBool c (.bool b) = some b := rfl

theorem readInt_int {low high i : Int} (word : -9223372036854775808 ≤ low ∧ high < UInt64.size)
    (within : low ≤ i ∧ i ≤ high) (c : Context) : readInt low high c (int i) = some i := by
  have fits : -9223372036854775808 ≤ i ∧ i < UInt64.size := ⟨by omega, by omega⟩
  simp only [readInt, int, spelledInt?_integerDigits fits.1 fits.2, Option.bind_eq_bind,
    Option.bind_some, if_pos within]
  rfl

theorem readInt_nat {n size : Nat} (small : n < size) (word : size ≤ UInt64.size) (c : Context) :
    readInt 0 (size - 1) c (nat n) = some (n : Int) :=
  readInt_int ⟨by omega, by omega⟩ ⟨by omega, by omega⟩ c

theorem readNat_nat {n : Nat} (small : n < UInt64.size) (c : Context) :
    readNat c (nat n) = some n := by
  rw [readNat, readInt_nat small (Nat.le_refl _)]
  rfl

@[simp] theorem readUInt64_nat (c : Context) (n : UInt64) : readUInt64 c (nat n.toNat) = some n := by
  rw [readUInt64, readInt_nat n.toNat_lt_size (Nat.le_refl _)]
  simp

@[simp] theorem readUInt32_nat (c : Context) (n : UInt32) : readUInt32 c (nat n.toNat) = some n := by
  rw [readUInt32, readInt_nat n.toNat_lt_size (by decide)]
  simp

@[simp] theorem readUInt8_nat (c : Context) (n : UInt8) : readUInt8 c (nat n.toNat) = some n := by
  rw [readUInt8, readInt_nat n.toNat_lt_size (by decide)]
  simp

@[simp] theorem readInt64_int (c : Context) (i : Int64) : readInt64 c (int i.toInt) = some i := by
  have low := i.le_toInt
  have high := i.toInt_lt
  rw [readInt64, readInt_int (by decide) ⟨by omega, by omega⟩]
  simp

@[simp] theorem readInt32_int (c : Context) (i : Int32) : readInt32 c (int i.toInt) = some i := by
  have low := i.le_toInt
  have high := i.toInt_lt
  rw [readInt32, readInt_int (by decide) ⟨by omega, by omega⟩]
  simp

attribute [simp] Written.null Written.bool Written.text

theorem written_nat {n : Nat} (small : n < UInt64.size) : Written levels (nat n) :=
  .int (by omega) (by omega)

@[simp] theorem written_uint64 (n : UInt64) : Written levels (nat n.toNat) :=
  written_nat n.toNat_lt_size

@[simp] theorem written_uint32 (n : UInt32) : Written levels (nat n.toNat) :=
  written_nat (Nat.lt_trans n.toNat_lt_size (by decide))

@[simp] theorem written_uint8 (n : UInt8) : Written levels (nat n.toNat) :=
  written_nat (Nat.lt_trans n.toNat_lt_size (by decide))

@[simp] theorem written_int64 (i : Int64) : Written levels (int i.toInt) := by
  have high := i.toInt_lt
  exact .int i.le_toInt (by simp only [UInt64.size]; omega)

@[simp] theorem written_int32 (i : Int32) : Written levels (int i.toInt) := by
  have low := i.le_toInt
  have high := i.toInt_lt
  exact .int (by omega) (by simp only [UInt64.size]; omega)

@[simp] theorem text_ne_null (s : String) : text s ≠ .null := nofun

@[simp] theorem nat_ne_null (n : Nat) : nat n ≠ .null := nofun

@[simp] theorem record_ne_null (members : List (String × Json)) : record members ≠ .null := nofun

theorem reads_text (s : String) : Reads readString levels (text s) s :=
  ⟨.text s, fun c _ => readString_text c s⟩

theorem reads_uint64 (n : UInt64) : Reads readUInt64 levels (nat n.toNat) n :=
  ⟨written_uint64 n, fun c _ => readUInt64_nat c n⟩

theorem reads_nat {n : Nat} (small : n < UInt64.size) : Reads readNat levels (nat n) n :=
  ⟨written_nat small, fun c _ => readNat_nat small c⟩

/-! ## What may be missing, and lists -/

theorem Reads.present (h : Reads read levels j a) (there : j ≠ .null) :
    Reads (readOption read) levels j (some a) := by
  refine ⟨h.written, fun c enough => ?_⟩
  unfold readOption
  split
  · exact absurd rfl there
  · rw [h.read_eq c enough]
    rfl

theorem reads_absent : Reads (readOption read) levels .null none := ⟨.null, fun _ _ => rfl⟩

/-- What may be missing is read as what it was, if nothing that is there is written as null. -/
theorem Reads.option {write : α → Json} {option : Option α}
    (h : ∀ a ∈ option, Reads read levels (write a) a ∧ write a ≠ .null) :
    Reads (readOption read) levels (ofOption write option) option := by
  cases option with
  | none => exact reads_absent
  | some a => exact (h a rfl).1.present (h a rfl).2

theorem Context.deeper?_of_lt (enough : levels + 1 ≤ c.levels) :
    ∃ inner, c.deeper? = some inner ∧ levels ≤ inner.levels := by
  unfold deeper?
  split
  · omega
  · exact ⟨_, rfl, by simp only; omega⟩

theorem Reads.list {write : α → Json} {list : List α}
    (h : ∀ a ∈ list, Reads read levels (write a) a) :
    Reads (readList read) (levels + 1) (ofList write list) list := by
  refine ⟨.array ?_, fun c enough => ?_⟩
  · intro j hj
    obtain ⟨a, ha, rfl⟩ := List.mem_map.1 hj
    exact (h a ha).written
  · obtain ⟨inner, deeper, enough⟩ := Context.deeper?_of_lt enough
    have items : (list.map write).mapM (read inner) = some list := by
      clear deeper
      induction list with
      | nil => rfl
      | cons a list ih =>
          rw [List.map_cons, List.mapM_cons, (h a List.mem_cons_self).read_eq inner enough,
            ih fun a ha => h a (List.mem_cons_of_mem _ ha)]
          rfl
    simp only [readList, ofList, deeper, Option.bind_eq_bind, Option.bind_some, items]

/-! ## Records -/

theorem named_record (members : List (String × Json)) :
    named (members.map fun m => (escape m.1.toList, m.2)) = some members := by
  unfold named
  induction members with
  | nil => rfl
  | cons m members ih =>
      rw [List.map_cons, List.mapM_cons, ih]
      simp

/-- A record of the members that are known, no name repeated, is read whole. -/
theorem readRecord_record {names : List String} {members : List (String × Json)} {inner : Context}
    (deeper : c.deeper? = some inner) (known : members.map Prod.fst = names)
    (distinct : names.Nodup) :
    readRecord names c (record members) = some ⟨inner, false, members⟩ := by
  subst known
  have all : members.filter (fun m => (members.map Prod.fst).contains m.1) = members :=
    List.filter_eq_self.2 fun m hm => by simpa using ⟨m.2, hm⟩
  simp only [readRecord, record, deeper, named_record, Option.bind_eq_bind, Option.bind_some, all]
  exact if_pos distinct

theorem Reads.record {names : List String} {members : List (String × Json)}
    {build : Record → Option α} (written : ∀ m ∈ members, Written levels m.2)
    (known : members.map Prod.fst = names) (distinct : names.Nodup)
    (built : ∀ inner : Context, levels ≤ inner.levels → build ⟨inner, false, members⟩ = some a) :
    Reads (fun c j => (readRecord names c j).bind build) (levels + 1) (record members) a := by
  refine ⟨.record written, fun c enough => ?_⟩
  obtain ⟨inner, deeper, enough⟩ := Context.deeper?_of_lt enough
  show (readRecord names c _).bind build = _
  rw [readRecord_record deeper known distinct]
  exact built inner enough

@[simp] theorem required_eq (c : Context) (positional : Bool) (members : List (String × Json))
    (name : String) (read : Reader α) :
    Record.required ⟨c, positional, members⟩ name read = (members.lookup name).bind (read c) := rfl

@[simp] theorem defaulted_eq (c : Context) (positional : Bool) (members : List (String × Json))
    (name : String) (read : Reader α) (default : α) :
    Record.defaulted ⟨c, positional, members⟩ name read default =
      (members.lookup name).elim (some default) (read c) := by
  unfold Record.defaulted
  cases members.lookup name <;> rfl

@[simp] theorem nullable_eq (c : Context) (members : List (String × Json)) (name : String)
    (read : Reader α) : Record.nullable ⟨c, false, members⟩ name read =
      (members.lookup name).elim (some none) (readOption read c) := by
  unfold Record.nullable
  cases members.lookup name <;> rfl

/-! ## Choices -/

@[simp] theorem readIdentifier_text (variants : List (String × α)) (c : Context) (name : String) :
    readIdentifier variants c (text name) = variants.lookup name := by
  simp [readIdentifier, text]

@[simp] theorem readVariant_text (variants : List (String × α)) (c : Context) (name : String) :
    readVariant variants c (text name) = variants.lookup name := by
  simp [readVariant, text]

theorem reads_variant {variants : List (String × α)} {name : String}
    (there : variants.lookup name = some a) : Reads (readVariant variants) levels (text name) a :=
  ⟨.text name, fun _ _ => by rw [readVariant_text, there]⟩

theorem splitMembers_record (tag : String) (name : Json) {members : List (String × Json)}
    (apart : tag ∉ members.map Prod.fst) :
    splitMembers tag (((tag, name) :: members).map fun m => (escape m.1.toList, m.2)) =
      ([name], members.map fun m => (escape m.1.toList, m.2)) := by
  have others : ∀ m ∈ members.map (fun m => (escape m.1.toList, m.2)),
      unescape m.1 ≠ some tag.toList := by
    intro m hm
    obtain ⟨m', hm', rfl⟩ := List.mem_map.1 hm
    rw [unescape_escape]
    exact fun same =>
      apart (List.mem_map.2 ⟨m', hm', String.toList_injective (Option.some.inj same)⟩)
  have none : (members.map fun m => (escape m.1.toList, m.2)).filter
      (fun m => decide (unescape m.1 = some tag.toList)) = [] :=
    List.filter_eq_nil_iff.2 fun m hm => by simpa using others m hm
  have all : (members.map fun m => (escape m.1.toList, m.2)).filter
      (fun m => !decide (unescape m.1 = some tag.toList)) =
        members.map fun m => (escape m.1.toList, m.2) :=
    List.filter_eq_self.2 fun m hm => by simpa using others m hm
  simp only [splitMembers, List.map_cons, List.filter_cons, unescape_escape, decide_true,
    Bool.not_true, none, all]
  rfl

theorem record_injective {members members' : List (String × Json)}
    (same : record members = record members') : members = members' := by
  refine (List.map_inj_right fun m m' hm => ?_).1 (Json.object.inj same)
  obtain ⟨keys, values⟩ := Prod.mk.inj hm
  have texts := congrArg unescape keys
  rw [unescape_escape, unescape_escape] at texts
  exact Prod.ext (String.toList_injective (Option.some.inj texts)) values

theorem Written.members {members : List (String × Json)} (h : Written (levels + 1) (Json.record members)) :
    ∀ m ∈ members, Written levels m.2 := by
  generalize written : Json.record members = j at h
  cases h with
  | record inner => exact record_injective written ▸ inner
  | null | bool | int | text | array => cases written

/-- What is written may be set aside until its tag is found. -/
theorem Written.setAside?_eq (written : Written levels j) (enough : levels ≤ c.levels) :
    c.setAside? j = some { c with buffered := true } := by
  have sound : (c.buffered || j.isSound c.levels) = true := by
    rw [(written.mono enough).isSound, Bool.or_true]
  exact if_pos sound

/-- A choice tagged by one of its own members. -/
theorem Reads.innerTagged {tag name : String} {variants : List (String × Reader α)}
    {members : List (String × Json)} (h : Reads read (levels + 1) (Json.record members) a)
    (there : variants.lookup name = some read) (apart : tag ∉ members.map Prod.fst) :
    Reads (readInnerTagged tag variants) (levels + 1) (Json.record ((tag, text name) :: members)) a
    where
  written := .record (List.forall_mem_cons.2 ⟨.text name, h.written.members⟩)
  read_eq c enough := by
    have written : Written (levels + 1) (Json.record ((tag, text name) :: members)) :=
      .record (List.forall_mem_cons.2 ⟨.text name, h.written.members⟩)
    have own := h.read_eq { c with buffered := true } enough
    have aside := written.setAside?_eq enough
    rw [Json.record] at own aside ⊢
    simp only [readInnerTagged, aside, splitMembers_record tag (text name) apart,
      readIdentifier_text, there, Option.bind_eq_bind, Option.bind_some, own]

theorem reads_empty (a : α) : Reads (readEmpty a) (levels + 1) (Json.record []) a :=
  ⟨.record (List.forall_mem_nil _), fun _ _ => rfl⟩

theorem Reads.single (h : Reads read levels j a) (name : String) (make : α → β) :
    Reads (readSingle name read make) (levels + 1) (Json.record [(name, j)]) (make a) := by
  refine .record (by simpa using h.written) rfl (by simp) fun inner enough => ?_
  simp [h.read_eq inner enough]

theorem Reads.as (h : Reads read levels j a) (make : α → β) :
    Reads (readAs make read) levels j (make a) :=
  ⟨h.written, fun c enough => congrArg (Option.map make) (h.read_eq c enough)⟩

theorem Reads.adjacentTagged {tag content name : String} {variants : List (String × Beside α)}
    {beside : Beside α} (h : Reads beside.read levels j a)
    (there : variants.lookup name = some beside) :
    Reads (readAdjacentTagged tag content variants) (levels + 1)
      (Json.record [(tag, text name), (content, j)]) a where
  written := .record (by simpa using h.written)
  read_eq c enough := by
    obtain ⟨inner, deeper, enough⟩ := Context.deeper?_of_lt enough
    have own := h.read_eq inner enough
    have members : named [(escape tag.toList, text name), (escape content.toList, j)] =
        some [(tag, text name), (content, j)] := named_record [(tag, text name), (content, j)]
    simp [readAdjacentTagged, Json.record, deeper, members, there, own]

theorem reads_tag {tag content name : String} {variants : List (String × Beside α)}
    {beside : Beside α} (there : variants.lookup name = some beside)
    (missing : beside.missing = some a) :
    Reads (readAdjacentTagged tag content variants) (levels + 1)
      (Json.record [(tag, text name)]) a where
  written := .record (by simp)
  read_eq c enough := by
    obtain ⟨inner, deeper, -⟩ := Context.deeper?_of_lt enough
    have members : named [(escape tag.toList, text name)] = some [(tag, text name)] :=
      named_record [(tag, text name)]
    simp [readAdjacentTagged, Json.record, deeper, members, there, missing]

theorem Reads.outerTagged {name : String} {variants : List (String × Reader α)}
    (h : Reads read levels j a) (there : variants.lookup name = some read) :
    Reads (readOuterTagged variants) (levels + 1) (Json.record [(name, j)]) a where
  written := .record (by simpa using h.written)
  read_eq c enough := by
    obtain ⟨inner, deeper, enough⟩ := Context.deeper?_of_lt enough
    have own := h.read_eq inner enough
    simp [readOuterTagged, Json.record, deeper, there, own]

end IdentityForm.Json
