import IdentityForm.Scope

/-! # Scopes

Every row of a form that has documents comes to stand in exactly one scope, whatever rows are
requested and in whatever order. Details that are requested on their own have one scope, which takes
in the documents of the first row that goes with them; the documents of every later one are a scope of
their own. What the scopes are is told for each kind of scope, which is what sorting leaves alone.
-/

namespace IdentityForm

/-! ## Rows with documents -/

def documentRows (rows : List (List Kind)) : List (List Kind) :=
  (rows.map (·.filter Kind.isDocument)).filter (· ≠ [])

/-- The rows of identity documents only. They go with personal details. -/
def identityRows (rows : List (List Kind)) : List (List Kind) :=
  documentRows (rows.filter (·.all Kind.isIdentityDocument))

/-- The other rows with documents. They go with an address. -/
def otherRows (rows : List (List Kind)) : List (List Kind) :=
  documentRows (rows.filter fun row => !row.all Kind.isIdentityDocument)

section

variable {row documents : List Kind} {rows more : List (List Kind)}

theorem ne_nil_of_mem_documentRows (h : documents ∈ documentRows rows) : documents ≠ [] := by
  simpa using (List.mem_filter.1 h).2

theorem documentRows_append :
    documentRows (rows ++ more) = documentRows rows ++ documentRows more := by
  simp only [documentRows, List.map_append, List.filter_append]

theorem identityRows_append :
    identityRows (rows ++ more) = identityRows rows ++ identityRows more := by
  simp only [identityRows, List.filter_append, documentRows_append]

theorem otherRows_append : otherRows (rows ++ more) = otherRows rows ++ otherRows more := by
  simp only [otherRows, List.filter_append, documentRows_append]

theorem documentRows_of_none (none_there : row.filter Kind.isDocument = []) :
    documentRows [row] = [] := by
  simp [documentRows, none_there]

theorem documentRows_of_some (some_there : row.filter Kind.isDocument ≠ []) :
    documentRows [row] = [row.filter Kind.isDocument] := by
  simp only [documentRows, List.map_cons, List.map_nil, List.filter_cons, some_there, ne_eq,
    not_false_eq_true, decide_true, if_true, List.filter_nil]

theorem identityRows_singleton (row : List Kind) :
    identityRows [row] = if row.all Kind.isIdentityDocument then documentRows [row] else [] := by
  unfold identityRows
  cases identity : row.all Kind.isIdentityDocument <;>
    simp only [List.filter_cons, identity] <;> rfl

theorem otherRows_singleton (row : List Kind) :
    otherRows [row] = if row.all Kind.isIdentityDocument then [] else documentRows [row] := by
  unfold otherRows
  cases identity : row.all Kind.isIdentityDocument <;>
    simp only [List.filter_cons, identity] <;> rfl

end

namespace Scope

/-! ## Giving documents to a scope -/

def waits (requested : List (List Kind)) (details : Kind) (kind : ScopeKind) (s : Scope) : Bool :=
  requested.contains [details] && s.kind = kind && s.documents.isEmpty

theorem waits_iff {requested : List (List Kind)} {details : Kind} {kind : ScopeKind} {s : Scope} :
    waits requested details kind s = true ↔
      [details] ∈ requested ∧ s.kind = kind ∧ s.documents = [] := by
  simp [waits, and_assoc]

/-- Documents go to a scope that waits for them, or come last as their own scope if none does. -/
theorem attach_cases (documents : List Kind) (host : Scope → Bool) (own : Scope)
    (scopes : List Scope) :
    (∃ before s after, scopes = before ++ s :: after ∧ host s = true ∧
      attach documents host own scopes = before ++ { s with documents } :: after) ∨
    (∀ s ∈ scopes, host s = false) ∧ attach documents host own scopes = scopes ++ [own] := by
  induction scopes with
  | nil => exact .inr ⟨by simp, rfl⟩
  | cons s scopes ih =>
      simp only [attach]
      split
      · rename_i takes
        exact .inl ⟨[], s, scopes, rfl, takes, rfl⟩
      · rename_i passes
        rcases ih with ⟨before, s', after, split_here, takes, attached⟩ | ⟨none_waits, attached⟩
        · refine .inl ⟨s :: before, s', after, ?_, takes, ?_⟩
          · rw [split_here, List.cons_append]
          · rw [attached, List.cons_append]
        · refine .inr ⟨?_, by rw [attached, List.cons_append]⟩
          exact List.forall_mem_cons.2 ⟨by simpa using passes, none_waits⟩

theorem filter_attach_of_ne {requested : List (List Kind)} {documents : List Kind} {details : Kind}
    {host own kind : ScopeKind} (apart : host ≠ kind) (other : own ≠ kind) (scopes : List Scope) :
    (attach documents (waits requested details host) ⟨own, none, documents⟩ scopes).filter
        (·.kind = kind) = scopes.filter (·.kind = kind) := by
  rcases attach_cases documents (waits requested details host) ⟨own, none, documents⟩ scopes with
    ⟨before, s, after, rfl, takes, attached⟩ | ⟨-, attached⟩
  · have elsewhere : s.kind ≠ kind := fun same => apart ((waits_iff.1 takes).2.1.symm.trans same)
    simp [attached, elsewhere]
  · simp [attached, other]

/-! ## Taking in a row -/

/-- What a row makes of the scopes. -/
inductive Takes (requested : List (List Kind)) (scopes : List Scope) (row : List Kind) :
    List Scope → Prop
  | nothing (none_there : row.filter Kind.isDocument = []) (phone : row ≠ [.phone])
      (email : row ≠ [.email]) : Takes requested scopes row scopes
  | phone (alone : row = [.phone]) :
      Takes requested scopes row (scopes ++ [ofDetails .phone .phone])
  | email (alone : row = [.email]) :
      Takes requested scopes row (scopes ++ [ofDetails .email .email])
  | identity (some_there : row.filter Kind.isDocument ≠ [])
      (identity : row.all Kind.isIdentityDocument = true) :
      Takes requested scopes row
        (attach (row.filter Kind.isDocument) (waits requested .personalDetails .personalDetails)
          ⟨.identity, none, row.filter Kind.isDocument⟩ scopes)
  | other (some_there : row.filter Kind.isDocument ≠ [])
      (other : row.all Kind.isIdentityDocument = false) :
      Takes requested scopes row
        (attach (row.filter Kind.isDocument) (waits requested .address .addressDetails)
          ⟨.address, none, row.filter Kind.isDocument⟩ scopes)

theorem takes_addRow (requested : List (List Kind)) (scopes : List Scope) (row : List Kind) :
    Takes requested scopes row (addRow requested scopes row) := by
  unfold addRow
  split
  · exact .nothing rfl (by decide) (by decide)
  · exact .nothing rfl (by decide) (by decide)
  · exact .phone rfl
  · exact .email rfl
  · rename_i phone email
    dsimp only
    split
    · rename_i none_there
      exact .nothing none_there phone email
    · rename_i some_there
      split
      · rename_i identity
        exact .identity some_there identity
      · rename_i other
        exact .other some_there (by simpa only [Bool.not_eq_true] using other)

/-! ## The documents of all scopes -/

def shownDocuments (scopes : List Scope) : List (List Kind) :=
  (scopes.map (·.documents)).filter (· ≠ [])

theorem shownDocuments_append (scopes more : List Scope) :
    shownDocuments (scopes ++ more) = shownDocuments scopes ++ shownDocuments more := by
  simp only [shownDocuments, List.map_append, List.filter_append]

theorem shownDocuments_cons_of_none {s : Scope} (none_there : s.documents = [])
    (scopes : List Scope) : shownDocuments (s :: scopes) = shownDocuments scopes := by
  simp [shownDocuments, none_there]

theorem shownDocuments_cons_of_some {s : Scope} (some_there : s.documents ≠ [])
    (scopes : List Scope) : shownDocuments (s :: scopes) = s.documents :: shownDocuments scopes := by
  simp [shownDocuments, some_there]

/-- Attached documents take the place of none. -/
theorem shownDocuments_attach {documents : List Kind} {host : Scope → Bool} {kind : ScopeKind}
    (some_there : documents ≠ []) (free : ∀ s, host s = true → s.documents = [])
    (scopes : List Scope) :
    (shownDocuments (attach documents host ⟨kind, none, documents⟩ scopes)).Perm
      (shownDocuments scopes ++ [documents]) := by
  rcases attach_cases documents host ⟨kind, none, documents⟩ scopes with
    ⟨before, s, after, rfl, takes, attached⟩ | ⟨-, attached⟩
  · rw [attached, shownDocuments_append, shownDocuments_append,
      shownDocuments_cons_of_some some_there, shownDocuments_cons_of_none (free s takes)]
    exact List.perm_middle.trans (List.perm_append_singleton ..).symm
  · rw [attached, shownDocuments_append, shownDocuments_cons_of_some some_there]
    exact .refl _

/-- A row adds its documents to those that are shown, and nothing else. -/
theorem shownDocuments_addRow (requested : List (List Kind)) (scopes : List Scope)
    (row : List Kind) :
    (shownDocuments (addRow requested scopes row)).Perm
      (shownDocuments scopes ++ documentRows [row]) := by
  have taken := takes_addRow requested scopes row
  generalize addRow requested scopes row = result at taken ⊢
  cases taken with
  | nothing none_there => rw [documentRows_of_none none_there, List.append_nil]
  | phone alone | email alone =>
      rw [shownDocuments_append, alone]
      exact .refl _
  | identity some_there | other some_there =>
      rw [documentRows_of_some some_there]
      exact shownDocuments_attach some_there (fun s takes => (waits_iff.1 takes).2.2) scopes

theorem shownDocuments_foldl (requested rows : List (List Kind)) (scopes : List Scope) :
    (shownDocuments (rows.foldl (addRow requested) scopes)).Perm
      (shownDocuments scopes ++ documentRows rows) := by
  induction rows generalizing scopes with
  | nil => simp [documentRows]
  | cons row rows ih =>
      rw [List.foldl_cons, ← List.singleton_append, documentRows_append, ← List.append_assoc]
      exact (ih _).trans ((shownDocuments_addRow requested scopes row).append_right _)

theorem shownDocuments_detailScopes (rows : List (List Kind)) :
    shownDocuments (detailScopes rows) = [] := by
  unfold detailScopes
  split <;> split <;> rfl

end Scope

/-- The documents of all scopes are those of all rows. -/
theorem Form.shownDocuments_scopes (f : Form) :
    (Scope.shownDocuments f.scopes).Perm (documentRows f.rows) := by
  have folded := Scope.shownDocuments_foldl f.rows f.rows (Scope.detailScopes f.rows)
  rw [Scope.shownDocuments_detailScopes, List.nil_append] at folded
  exact (((List.mergeSort_perm ..).map _).filter _).trans folded

namespace Scope

/-! ## The scopes of one kind -/

/-- Details, and the documents that go with them: the first ones given stand under the details if
these are requested, and every other one has a scope of its own. -/
structure Shares (requested : List (List Kind)) (details : Kind) (host own : ScopeKind)
    (given : List (List Kind)) (scopes : List Scope) : Prop where
  under_details : scopes.filter (·.kind = host) =
    if [details] ∈ requested then [⟨host, some details, given.headD []⟩] else []
  alone : scopes.filter (·.kind = own) =
    (if [details] ∈ requested then given.tail else given).map fun documents => ⟨own, none, documents⟩

namespace Shares

variable {requested given : List (List Kind)} {details : Kind} {host own : ScopeKind}
  {scopes scopes' : List Scope} {documents : List Kind}

theorem congr (h : Shares requested details host own given scopes)
    (under : scopes'.filter (·.kind = host) = scopes.filter (·.kind = host))
    (alone : scopes'.filter (·.kind = own) = scopes.filter (·.kind = own)) :
    Shares requested details host own given scopes' :=
  ⟨under.trans h.under_details, alone.trans h.alone⟩

theorem attach (h : Shares requested details host own given scopes) (apart : host ≠ own)
    (some_given : ∀ documents ∈ given, documents ≠ []) :
    Shares requested details host own (given ++ [documents])
      (attach documents (waits requested details host) ⟨own, none, documents⟩ scopes) := by
  rcases attach_cases documents (waits requested details host) ⟨own, none, documents⟩ scopes with
    ⟨before, s, after, rfl, takes, attached⟩ | ⟨none_waits, attached⟩ <;> rw [attached]
  · obtain ⟨wanted, kind, free⟩ := waits_iff.1 takes
    have under := h.under_details
    rw [if_pos wanted, List.filter_append, List.filter_cons_of_pos (by simpa using kind)] at under
    obtain ⟨none_before, only⟩ : before.filter (·.kind = host) = [] ∧
        s :: after.filter (·.kind = host) = [⟨host, some details, given.headD []⟩] := by
      simpa [List.append_eq_singleton_iff] using under
    obtain ⟨rfl, none_after⟩ := List.cons.inj only
    have nothing : given = [] := by
      cases given with
      | nil => rfl
      | cons first given => exact absurd free (some_given first List.mem_cons_self)
    subst nothing
    constructor
    · simp [none_before, none_after, wanted]
    · simpa [apart, wanted] using h.alone
  · by_cases wanted : [details] ∈ requested
    · have there : ⟨host, some details, given.headD []⟩ ∈ scopes := by
        refine (List.mem_filter.1 (?_ : _ ∈ scopes.filter (·.kind = host))).1
        rw [h.under_details, if_pos wanted, List.mem_singleton]
      obtain ⟨first, others, rfl⟩ : ∃ first others, given = first :: others := by
        refine List.exists_cons_of_ne_nil fun nothing => ?_
        have waiting := none_waits _ there
        simp [waits, wanted, nothing] at waiting
      constructor
      · simpa [wanted, apart.symm] using h.under_details
      · simpa [wanted] using h.alone
    · constructor
      · simpa [wanted, apart.symm] using h.under_details
      · simpa [wanted] using h.alone

end Shares

/-- What the scopes of each kind are after some rows of the form. -/
structure Grouped (requested rows : List (List Kind)) (scopes : List Scope) : Prop where
  identity : Shares requested .personalDetails .personalDetails .identity (identityRows rows) scopes
  address : Shares requested .address .addressDetails .address (otherRows rows) scopes
  phone : scopes.filter (·.kind = .phone) =
    List.replicate (rows.count [.phone]) (ofDetails .phone .phone)
  email : scopes.filter (·.kind = .email) =
    List.replicate (rows.count [.email]) (ofDetails .email .email)

namespace Grouped

variable {requested rows : List (List Kind)} {scopes scopes' : List Scope} {row : List Kind}

theorem detailScopes (requested : List (List Kind)) :
    Grouped requested [] (detailScopes requested) := by
  unfold Scope.detailScopes
  by_cases details : [Kind.personalDetails] ∈ requested <;>
    by_cases address : [Kind.address] ∈ requested <;>
    refine ⟨⟨?_, ?_⟩, ⟨?_, ?_⟩, ?_, ?_⟩ <;>
    simp [details, address, ofDetails, identityRows, otherRows, documentRows]

theorem concat_of_none (h : Grouped requested rows scopes)
    (none_there : row.filter Kind.isDocument = []) :
    Shares requested .personalDetails .personalDetails .identity (identityRows (rows ++ [row]))
        scopes ∧
      Shares requested .address .addressDetails .address (otherRows (rows ++ [row])) scopes := by
  rw [identityRows_append, identityRows_singleton, otherRows_append, otherRows_singleton,
    documentRows_of_none none_there, ite_self, List.append_nil, List.append_nil]
  exact ⟨h.identity, h.address⟩

theorem concat_of_some (h : Grouped requested rows scopes)
    (some_there : row.filter Kind.isDocument ≠ []) :
    scopes.filter (·.kind = .phone) =
        List.replicate ((rows ++ [row]).count [.phone]) (ofDetails .phone .phone) ∧
      scopes.filter (·.kind = .email) =
        List.replicate ((rows ++ [row]).count [.email]) (ofDetails .email .email) := by
  have phone : row ≠ [.phone] := by
    rintro rfl
    exact some_there rfl
  have email : row ≠ [.email] := by
    rintro rfl
    exact some_there rfl
  constructor
  · simpa [List.count_append, phone] using h.phone
  · simpa [List.count_append, email] using h.email

theorem addRow (h : Grouped requested rows scopes) :
    Grouped requested (rows ++ [row]) (addRow requested scopes row) := by
  have taken := takes_addRow requested scopes row
  generalize Scope.addRow requested scopes row = result at taken ⊢
  cases taken with
  | nothing none_there phone email =>
      obtain ⟨identity, address⟩ := h.concat_of_none none_there
      refine ⟨identity, address, ?_, ?_⟩
      · simpa [List.count_append, phone] using h.phone
      · simpa [List.count_append, email] using h.email
  | phone alone =>
      subst alone
      have none_there : [Kind.phone].filter Kind.isDocument = [] := rfl
      obtain ⟨identity, address⟩ := h.concat_of_none none_there
      refine ⟨identity.congr (by simp [ofDetails]) (by simp [ofDetails]),
        address.congr (by simp [ofDetails]) (by simp [ofDetails]), ?_, ?_⟩
      · simp [ofDetails, List.count_append, List.replicate_succ', h.phone]
      · simpa [ofDetails, List.count_append] using h.email
  | email alone =>
      subst alone
      have none_there : [Kind.email].filter Kind.isDocument = [] := rfl
      obtain ⟨identity, address⟩ := h.concat_of_none none_there
      refine ⟨identity.congr (by simp [ofDetails]) (by simp [ofDetails]),
        address.congr (by simp [ofDetails]) (by simp [ofDetails]), ?_, ?_⟩
      · simpa [ofDetails, List.count_append] using h.phone
      · simp [ofDetails, List.count_append, List.replicate_succ', h.email]
  | identity some_there identity =>
      obtain ⟨phone, email⟩ := h.concat_of_some some_there
      refine ⟨?_, ?_, ?_, ?_⟩
      · rw [identityRows_append, identityRows_singleton, if_pos identity,
          documentRows_of_some some_there]
        exact h.identity.attach (by decide) fun _ => ne_nil_of_mem_documentRows
      · rw [otherRows_append, otherRows_singleton, if_pos identity, List.append_nil]
        exact h.address.congr (filter_attach_of_ne (by decide) (by decide) _)
          (filter_attach_of_ne (by decide) (by decide) _)
      · rwa [filter_attach_of_ne (by decide) (by decide)]
      · rwa [filter_attach_of_ne (by decide) (by decide)]
  | other some_there other =>
      obtain ⟨phone, email⟩ := h.concat_of_some some_there
      refine ⟨?_, ?_, ?_, ?_⟩
      · rw [identityRows_append, identityRows_singleton, if_neg (by simp [other]), List.append_nil]
        exact h.identity.congr (filter_attach_of_ne (by decide) (by decide) _)
          (filter_attach_of_ne (by decide) (by decide) _)
      · rw [otherRows_append, otherRows_singleton, if_neg (by simp [other]),
          documentRows_of_some some_there]
        exact h.address.attach (by decide) fun _ => ne_nil_of_mem_documentRows
      · rwa [filter_attach_of_ne (by decide) (by decide)]
      · rwa [filter_attach_of_ne (by decide) (by decide)]

theorem foldl (h : Grouped requested rows scopes) (more : List (List Kind)) :
    Grouped requested (rows ++ more) (more.foldl (Scope.addRow requested) scopes) := by
  induction more generalizing rows scopes with
  | nil => rwa [List.append_nil]
  | cons row more ih =>
      rw [List.foldl_cons, ← List.singleton_append, ← List.append_assoc]
      exact ih h.addRow

theorem congr (h : Grouped requested rows scopes)
    (same : ∀ kind, scopes'.filter (·.kind = kind) = scopes.filter (·.kind = kind)) :
    Grouped requested rows scopes' :=
  ⟨h.identity.congr (same _) (same _), h.address.congr (same _) (same _),
    (same _).trans h.phone, (same _).trans h.email⟩

end Grouped

/-! ## Sorting -/

theorem pairwise_mergeSort (scopes : List Scope) :
    (scopes.mergeSort fun a b => decide (a.kind.rank ≤ b.kind.rank)).Pairwise
      fun a b => a.kind.rank ≤ b.kind.rank := by
  have sorted : (scopes.mergeSort fun a b => decide (a.kind.rank ≤ b.kind.rank)).Pairwise
      fun a b => decide (a.kind.rank ≤ b.kind.rank) = true :=
    List.pairwise_mergeSort (by simp; omega) (by simp; omega) scopes
  exact sorted.imp of_decide_eq_true

theorem filter_mergeSort (scopes : List Scope) (kind : ScopeKind) :
    (scopes.mergeSort fun a b => decide (a.kind.rank ≤ b.kind.rank)).filter (·.kind = kind) =
      scopes.filter (·.kind = kind) := by
  have alike : (scopes.filter (·.kind = kind)).Pairwise
      fun a b => decide (a.kind.rank ≤ b.kind.rank) = true := by
    refine List.pairwise_of_forall_mem_list fun a ha b hb => ?_
    have ka : a.kind = kind := by simpa using (List.mem_filter.1 ha).2
    have kb : b.kind = kind := by simpa using (List.mem_filter.1 hb).2
    simp [ka, kb]
  have kept := (List.sublist_mergeSort (by simp; omega) (by simp; omega) alike
    List.filter_sublist).filter (·.kind = kind)
  rw [List.filter_filter] at kept
  simp only [Bool.and_self] at kept
  exact (kept.eq_of_length ((List.mergeSort_perm ..).filter _).length_eq.symm).symm

end Scope

/-- What the rows of a form come to. The scopes are in the order of their kinds. Details that are
requested on their own have one scope, with the documents of the first row that goes with them, and
the documents of all later ones, or of all if there are no such details, are scopes without details.
Phone and email have a scope each time they are requested on their own. So the documents of all scopes
are those of all rows. -/
theorem Form.scopes_of_rows (f : Form) :
    f.scopes.Pairwise (fun a b => a.kind.rank ≤ b.kind.rank) ∧
    (f.scopes.filter (·.kind = .personalDetails) =
      if [.personalDetails] ∈ f.rows then
        [⟨.personalDetails, some .personalDetails, (identityRows f.rows).headD []⟩]
      else []) ∧
    (f.scopes.filter (·.kind = .identity) =
      (if [.personalDetails] ∈ f.rows then (identityRows f.rows).tail else identityRows f.rows).map
        fun documents => ⟨.identity, none, documents⟩) ∧
    (f.scopes.filter (·.kind = .addressDetails) =
      if [.address] ∈ f.rows then
        [⟨.addressDetails, some .address, (otherRows f.rows).headD []⟩]
      else []) ∧
    (f.scopes.filter (·.kind = .address) =
      (if [.address] ∈ f.rows then (otherRows f.rows).tail else otherRows f.rows).map
        fun documents => ⟨.address, none, documents⟩) ∧
    f.scopes.filter (·.kind = .phone) =
      List.replicate (f.rows.count [.phone]) ⟨.phone, some .phone, []⟩ ∧
    f.scopes.filter (·.kind = .email) =
      List.replicate (f.rows.count [.email]) ⟨.email, some .email, []⟩ ∧
    (Scope.shownDocuments f.scopes).Perm (documentRows f.rows) := by
  have grouped : Scope.Grouped f.rows f.rows f.scopes :=
    ((Scope.Grouped.detailScopes f.rows).foldl f.rows).congr (Scope.filter_mergeSort _)
  exact ⟨Scope.pairwise_mergeSort _, grouped.identity.under_details, grouped.identity.alone,
    grouped.address.under_details, grouped.address.alone, grouped.phone, grouped.email,
    f.shownDocuments_scopes⟩

end IdentityForm
