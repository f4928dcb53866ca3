import IdentityForm.Form

/-! # The form as requested

A form is built mention by mention. That comes to one entry for each kind that is mentioned, in the
order of the kinds, which has to include what any of the mentions asks for, and to the rows with each
kind where it stands first.
-/

namespace IdentityForm.Form

variable {mentions row : List RequiredKind} {r : RequiredKind} {kinds : List Kind}
  {kind : Kind} {a : AuthorizationForm} {e : Entry}

/-! ## One mention -/

/-- An entry with what all its mentions require of it. -/
def requestedEntry (mentions : List RequiredKind) (kind : Kind) : Entry :=
  let mine := mentions.filter fun r => r.kind = kind
  { Entry.blank kind with
    selfieRequired := mine.any (·.selfie)
    renditionRequired := mine.any (·.rendition)
    nativeNames := mine.any (·.nativeNames) }

def requestedEntries (mentions : List RequiredKind) (kinds : List Kind) : List Entry :=
  (kinds.filter fun k => mentions.any (·.kind = k)).map (requestedEntry mentions)

theorem requestedEntries_cons_of_mentioned (mentioned : mentions.any (·.kind = kind) = true) :
    requestedEntries mentions (kind :: kinds) =
      requestedEntry mentions kind :: requestedEntries mentions kinds := by
  simp only [requestedEntries, List.filter_cons, mentioned, if_true, List.map_cons]

theorem requestedEntries_cons_of_unmentioned
    (unmentioned : mentions.any (·.kind = kind) = false) :
    requestedEntries mentions (kind :: kinds) = requestedEntries mentions kinds := by
  simp only [requestedEntries, List.filter_cons, unmentioned, Bool.false_eq_true, if_false]

theorem requestedEntry_of_unmentioned (unmentioned : mentions.any (·.kind = kind) = false) :
    requestedEntry mentions kind = .blank kind := by
  have none_ : (mentions.filter fun r => r.kind = kind) = [] := by
    simpa [List.filter_eq_nil_iff] using unmentioned
  simp [requestedEntry, none_, Entry.blank]

theorem requestedEntry_concat_self :
    requestedEntry (mentions ++ [r]) r.kind = (requestedEntry mentions r.kind).join r := by
  simp [requestedEntry, Entry.join, List.any_append]

theorem requestedEntry_concat_of_ne (other : r.kind ≠ kind) :
    requestedEntry (mentions ++ [r]) kind = requestedEntry mentions kind := by
  simp [requestedEntry, other]

theorem requestedEntries_concat_of_not_mem (apart : r.kind ∉ kinds) :
    requestedEntries (mentions ++ [r]) kinds = requestedEntries mentions kinds := by
  have other {k : Kind} (hk : k ∈ kinds) : r.kind ≠ k := fun same => apart (same ▸ hk)
  have filters : (kinds.filter fun k => (mentions ++ [r]).any (·.kind = k)) =
      kinds.filter fun k => mentions.any (·.kind = k) :=
    List.filter_congr fun k hk => by simp [other hk]
  rw [requestedEntries, filters]
  exact List.map_congr_left fun k hk => requestedEntry_concat_of_ne (other (List.mem_filter.1 hk).1)

theorem mention_cons_self {rest : List Entry} (same : e.kind = r.kind) :
    mention r (e :: rest) = e.join r :: rest := if_pos same

theorem mention_cons_of_lt {rest : List Entry}
    (earlier : Kind.all.idxOf e.kind < Kind.all.idxOf r.kind) :
    mention r (e :: rest) = e :: mention r rest := by
  have other : e.kind ≠ r.kind := fun same => Nat.lt_irrefl _ (same ▸ earlier)
  rw [mention, if_neg other, if_neg (Nat.lt_asymm earlier)]

theorem mention_of_lt {entries : List Entry}
    (later : ∀ e ∈ entries, Kind.all.idxOf r.kind < Kind.all.idxOf e.kind) :
    mention r entries = (Entry.blank r.kind).join r :: entries := by
  cases entries with
  | nil => rfl
  | cons e rest =>
      have before := later e List.mem_cons_self
      have other : e.kind ≠ r.kind := fun same => Nat.lt_irrefl _ (same ▸ before)
      rw [mention, if_neg other, if_pos before]

/-- One more mention changes the entry of its kind, or makes one in its place. -/
theorem mention_requestedEntries
    (ordered : kinds.Pairwise fun k k' => Kind.all.idxOf k < Kind.all.idxOf k')
    (there : r.kind ∈ kinds) :
    mention r (requestedEntries mentions kinds) = requestedEntries (mentions ++ [r]) kinds := by
  induction kinds with
  | nil => cases there
  | cons k kinds ih =>
      obtain ⟨later, ordered⟩ := List.pairwise_cons.1 ordered
      by_cases here : r.kind = k
      · subst here
        have apart : r.kind ∉ kinds := fun again => Nat.lt_irrefl _ (later _ again)
        have now_mentioned : (mentions ++ [r]).any (·.kind = r.kind) = true := by simp
        rw [requestedEntries_cons_of_mentioned now_mentioned,
          requestedEntries_concat_of_not_mem apart, requestedEntry_concat_self]
        cases mentioned : mentions.any (·.kind = r.kind) with
        | true =>
            rw [requestedEntries_cons_of_mentioned mentioned]
            exact mention_cons_self rfl
        | false =>
            rw [requestedEntries_cons_of_unmentioned mentioned,
              requestedEntry_of_unmentioned mentioned]
            refine mention_of_lt fun e he => ?_
            obtain ⟨k, hk, rfl⟩ := List.mem_map.1 he
            exact later k (List.mem_filter.1 hk).1
      · have there : r.kind ∈ kinds := (List.mem_cons.1 there).resolve_left here
        have unmoved : (mentions ++ [r]).any (·.kind = k) = mentions.any (·.kind = k) := by
          simp [here]
        cases mentioned : mentions.any (·.kind = k) with
        | true =>
            rw [requestedEntries_cons_of_mentioned mentioned,
              requestedEntries_cons_of_mentioned (unmoved.trans mentioned),
              requestedEntry_concat_of_ne here, ← ih ordered there]
            exact mention_cons_of_lt (later _ there)
        | false =>
            rw [requestedEntries_cons_of_unmentioned mentioned,
              requestedEntries_cons_of_unmentioned (unmoved.trans mentioned)]
            exact ih ordered there

/-! ## Rows -/

/-- The kinds of a row, each where it is first mentioned. -/
def rowKinds (row : List RequiredKind) : List Kind :=
  (row.map (·.kind)).foldl (fun seen k => if k ∈ seen then seen else seen ++ [k]) []

/-- A row adds its mentions to those before it, and has its kinds listed. -/
theorem foldl_takeMention (seen : List Kind) :
    row.foldl takeMention (requestedEntries mentions Kind.all, seen) =
      (requestedEntries (mentions ++ row) Kind.all,
        (row.map (·.kind)).foldl (fun seen k => if k ∈ seen then seen else seen ++ [k]) seen) := by
  induction row generalizing mentions seen with
  | nil => simp
  | cons r row ih =>
      have ordered : Kind.all.Pairwise fun k k' => Kind.all.idxOf k < Kind.all.idxOf k' := by
        decide
      have mentioned : mention r (requestedEntries mentions Kind.all) =
          requestedEntries (mentions ++ [r]) Kind.all :=
        mention_requestedEntries ordered (Kind.mem_all r.kind)
      rw [List.foldl_cons, takeMention, mentioned, ih, List.append_assoc]
      rfl

theorem foldl_takeRow {rows : List (List RequiredKind)} (taken : List (List Kind)) :
    rows.foldl takeRow (requestedEntries mentions Kind.all, taken) =
      (requestedEntries (mentions ++ rows.flatten) Kind.all,
        taken ++ (rows.map rowKinds).filter (· ≠ [])) := by
  induction rows generalizing mentions taken with
  | nil => simp
  | cons row rows ih =>
      have read : takeRow (requestedEntries mentions Kind.all, taken) row =
          (requestedEntries (mentions ++ row) Kind.all,
            taken ++ [rowKinds row].filter (· ≠ [])) := by
        simp only [takeRow, foldl_takeMention]
        show (_, if rowKinds row = [] then taken else taken ++ [rowKinds row]) = _
        by_cases blank : rowKinds row = [] <;> simp [blank]
      rw [List.foldl_cons, read, ih, List.append_assoc, List.append_assoc, ← List.filter_append]
      rfl

/-! ## The whole form -/

/-- Taken together, an entry is required to have what any mention of its kind asks for, wherever it
stands. -/
theorem ofAuthorization_eq (a : AuthorizationForm) : ofAuthorization a =
    { id := a.id
      rows := (a.rows.map rowKinds).filter (· ≠ [])
      policyUrl := a.policyUrl
      entries := requestedEntries a.rows.flatten Kind.all } := by
  have read : a.rows.foldl takeRow (requestedEntries [] Kind.all, []) =
      (requestedEntries a.rows.flatten Kind.all, (a.rows.map rowKinds).filter (· ≠ [])) :=
    foldl_takeRow []
  rw [ofAuthorization, show ([] : List Entry) = requestedEntries [] Kind.all from rfl, read]

theorem mem_ofAuthorization (he : e ∈ (ofAuthorization a).entries) :
    ∃ kind, e = requestedEntry a.rows.flatten kind := by
  rw [ofAuthorization_eq] at he
  obtain ⟨kind, -, rfl⟩ := List.mem_map.1 he
  exact ⟨kind, rfl⟩

end IdentityForm.Form
