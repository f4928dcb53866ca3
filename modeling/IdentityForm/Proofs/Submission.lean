import IdentityForm.Proofs.Gate
import IdentityForm.Scope

/-! # Submission

What a submission makes of the rows of a form. Rows are grouped into scopes, and a scope is checked by
its details and by its documents. So a row of one kind is checked for that kind, and any other row for
its documents alone: details, phone and email beside others in a row are never looked at, and a row of
such kinds only is skipped. The form is sent exactly when everything that is checked is there, and
what is sent then has a kind for every row that is checked.
-/

namespace IdentityForm

/-! ## What is checked -/

/-- The kinds of a row that are looked at: the only one, or else the documents. -/
def checkedKinds (row : List Kind) : List Kind :=
  match row with
  | [k] => [k]
  | row => row.filter Kind.isDocument

theorem checkedKinds_subset {row : List Kind} {k : Kind} (h : k ∈ checkedKinds row) : k ∈ row := by
  unfold checkedKinds at h
  split at h
  · exact h
  · exact (List.mem_filter.1 h).1

theorem checkedKinds_eq_self {row : List Kind}
    (h : row.length = 1 ∨ ∀ k ∈ row, k.isDocument = true) : checkedKinds row = row := by
  unfold checkedKinds
  split
  · rfl
  · rename_i row other
    rcases h with single | documents
    · obtain ⟨k, rfl⟩ := List.length_eq_one_iff.1 single
      exact absurd rfl (other k)
    · exact List.filter_eq_self.2 documents

theorem Kind.eq_of_not_isDocument {k : Kind} (h : k.isDocument = false) :
    k = .personalDetails ∨ k = .address ∨ k = .phone ∨ k = .email := by
  cases k <;> simp [isDocument, isIdentityDocument, isAddressDocument] at h ⊢

/-- Any row but one of details, phone or email is checked for its documents. -/
theorem checkedKinds_eq_filter {row : List Kind} (details : row ≠ [.personalDetails])
    (address : row ≠ [.address]) (phone : row ≠ [.phone]) (email : row ≠ [.email]) :
    checkedKinds row = row.filter Kind.isDocument := by
  unfold checkedKinds
  split
  · rename_i k
    cases document : k.isDocument with
    | true => simp [document]
    | false =>
        rcases Kind.eq_of_not_isDocument document with rfl | rfl | rfl | rfl
        · exact absurd rfl details
        · exact absurd rfl address
        · exact absurd rfl phone
        · exact absurd rfl email
  · rfl

namespace Kind

theorem mem_inOrder {kinds : List Kind} {k : Kind} : k ∈ inOrder kinds ↔ k ∈ kinds := by
  simp [inOrder, mem_all]

theorem ordered_inOrder (kinds : List Kind) :
    (inOrder kinds).Pairwise fun a b => all.idxOf a < all.idxOf b := by
  have ordered : all.Pairwise fun a b => all.idxOf a < all.idxOf b := by decide
  exact ordered.filter _

end Kind

namespace Scope

/-- The lists of alternatives that a scope asks for. -/
def demands (s : Scope) : List (List Kind) :=
  s.details.toList.map (fun k => [k]) ++ if s.documents = [] then [] else [s.documents]

@[simp] theorem demands_ofDetails (kind : ScopeKind) (k : Kind) :
    (ofDetails kind k).demands = [[k]] := rfl

theorem demands_of_documents {documents : List Kind} (some_there : documents ≠ [])
    (kind : ScopeKind) : (Scope.mk kind none documents).demands = [documents] := by
  simp [demands, some_there]

theorem mem_demands {s : Scope} {alternatives : List Kind} : alternatives ∈ s.demands ↔
    (∃ k, s.details = some k ∧ alternatives = [k]) ∨
      alternatives ≠ [] ∧ alternatives = s.documents := by
  unfold demands
  split
  · rename_i none_there
    simp only [none_there, List.append_nil, List.mem_map, Option.mem_toList]
    grind
  · rename_i some_there
    simp only [List.mem_append, List.mem_map, Option.mem_toList, List.mem_singleton]
    grind

theorem mem_demands_attach {documents alternatives : List Kind} {host : Scope → Bool}
    {kind : ScopeKind} (some_there : documents ≠ []) (free : ∀ s, host s = true → s.documents = [])
    (scopes : List Scope) :
    alternatives ∈ (attach documents host ⟨kind, none, documents⟩ scopes).flatMap demands ↔
      alternatives ∈ scopes.flatMap demands ∨ alternatives = documents := by
  induction scopes with
  | nil => simp [attach, demands_of_documents some_there]
  | cons s scopes ih =>
      simp only [attach]
      split
      · rename_i takes
        have before : s.demands = s.details.toList.map fun k => [k] := by
          simp [demands, free s takes]
        have after : ({ s with documents } : Scope).demands = s.demands ++ [documents] := by
          rw [before]
          simp [demands, some_there]
        simp only [List.flatMap_cons, after, List.mem_append, List.mem_singleton]
        exact or_right_comm
      · simp only [List.flatMap_cons, List.mem_append, ih]
        exact or_assoc.symm

theorem mem_demands_addRow (rows : List (List Kind)) (scopes : List Scope)
    (row alternatives : List Kind) :
    alternatives ∈ (addRow rows scopes row).flatMap demands ↔
      alternatives ∈ scopes.flatMap demands ∨
        row ≠ [.personalDetails] ∧ row ≠ [.address] ∧ alternatives ≠ [] ∧
          alternatives = checkedKinds row := by
  unfold addRow
  split
  · simp
  · simp
  · simp only [List.flatMap_append, List.flatMap_singleton, demands_ofDetails, List.mem_append,
      List.mem_singleton]
    grind [checkedKinds]
  · simp only [List.flatMap_append, List.flatMap_singleton, demands_ofDetails, List.mem_append,
      List.mem_singleton]
    grind [checkedKinds]
  · rename_i details address phone email
    rw [checkedKinds_eq_filter details address phone email]
    dsimp only
    generalize row.filter Kind.isDocument = documents
    split
    · rename_i none_there
      subst none_there
      grind
    · rename_i some_there
      split
      · rw [mem_demands_attach some_there (by simp)]
        grind
      · rw [mem_demands_attach some_there (by simp)]
        grind

/-- The scopes of a form ask for what is checked of its rows, and for nothing else. -/
theorem mem_demands_scopes (f : Form) (alternatives : List Kind) :
    alternatives ∈ f.scopes.flatMap demands ↔
      alternatives ≠ [] ∧ ∃ row ∈ f.rows, alternatives = checkedKinds row := by
  have folded (rows : List (List Kind)) (scopes : List Scope) :
      alternatives ∈ (rows.foldl (addRow f.rows) scopes).flatMap demands ↔
        alternatives ∈ scopes.flatMap demands ∨
          ∃ row ∈ rows, row ≠ [.personalDetails] ∧ row ≠ [.address] ∧ alternatives ≠ [] ∧
            alternatives = checkedKinds row := by
    induction rows generalizing scopes with
    | nil => simp
    | cons row rows ih =>
        simp only [List.foldl_cons, ih, mem_demands_addRow, List.mem_cons, or_and_right, exists_or,
          exists_eq_left, or_assoc]
  have alone : alternatives ∈ (detailScopes f.rows).flatMap demands ↔
      ∃ row ∈ f.rows, (row = [.personalDetails] ∨ row = [.address]) ∧ alternatives = row := by
    unfold detailScopes
    by_cases details : [Kind.personalDetails] ∈ f.rows <;>
      by_cases address : [Kind.address] ∈ f.rows <;> simp [details, address] <;> grind
  have sorted : alternatives ∈ f.scopes.flatMap demands ↔
      alternatives ∈ (f.rows.foldl (addRow f.rows) (detailScopes f.rows)).flatMap demands := by
    simp only [Form.scopes, List.mem_flatMap, List.mem_mergeSort]
  rw [sorted, folded, alone]
  constructor
  · rintro (⟨row, requested, rfl | rfl, rfl⟩ | ⟨row, requested, -, -, some_there, rfl⟩)
    · exact ⟨by simp, _, requested, rfl⟩
    · exact ⟨by simp, _, requested, rfl⟩
    · exact ⟨some_there, row, requested, rfl⟩
  · rintro ⟨some_there, row, requested, rfl⟩
    by_cases details : row = [.personalDetails] ∨ row = [.address]
    · refine .inl ⟨row, requested, details, ?_⟩
      rcases details with rfl | rfl <;> rfl
    · obtain ⟨hd, ha⟩ := not_or.1 details
      exact .inr ⟨row, requested, hd, ha, some_there, rfl⟩

end Scope

/-! ## What a check finds -/

namespace Form

variable {f : Form}

def toFix? (f : Form) (s : Scope) : Option Kind :=
  match f.checkScope s with
  | .ok _ => none
  | .error k => some k

def chosen (f : Form) (s : Scope) : List Kind :=
  match f.checkScope s with
  | .ok kinds => kinds
  | .error _ => []

theorem checkScopes_eq (f : Form) :
    f.checkScopes = (f.scopes.filterMap f.toFix?, f.scopes.flatMap f.chosen) := by
  have folded (scopes : List Scope) (acc : List Kind × List Kind) :
      scopes.foldl
          (fun acc scope =>
            match f.checkScope scope with
            | .ok kinds => (acc.1, acc.2 ++ kinds)
            | .error kind => (acc.1 ++ [kind], acc.2)) acc =
        (acc.1 ++ scopes.filterMap f.toFix?, acc.2 ++ scopes.flatMap f.chosen) := by
    induction scopes generalizing acc with
    | nil => simp
    | cons s scopes ih =>
        rw [List.foldl_cons, ih, List.filterMap_cons, List.flatMap_cons]
        cases check : f.checkScope s <;> simp [toFix?, chosen, check]
  exact folded f.scopes ([], [])

theorem checkScope_of_unready {s : Scope} {k : Kind} (details : s.details = some k)
    (unready : f.isReady k = false) : f.checkScope s = .error k := by
  simp only [checkScope, details, unready]
  rfl

/-- With its details ready a scope is decided by its documents, and the first ready one is taken. -/
theorem checkScope_of_ready {s : Scope} (ready : ∀ k ∈ s.details, f.isReady k = true) :
    f.checkScope s =
      match s.documents with
      | [] => .ok s.details.toList
      | first :: others =>
        match (first :: others).find? f.isReady with
        | some k => .ok (s.details.toList ++ [k])
        | none => .error first := by
  cases details : s.details with
  | none =>
      simp only [checkScope, details]
      cases s.documents with
      | nil => rfl
      | cons first others =>
          cases found : (first :: others).find? f.isReady <;> simp only [found] <;> rfl
  | some k =>
      simp only [checkScope, details, ready k details]
      cases s.documents with
      | nil => rfl
      | cons first others =>
          cases found : (first :: others).find? f.isReady <;> simp only [found] <;> rfl

/-- A scope is complete if each thing it asks for is ready, and then submits one of each. Otherwise
the kind to be fixed is one of those that all are not ready. -/
theorem checkScope_cases (f : Form) (s : Scope) :
    (f.toFix? s = none ∧
      (∀ k ∈ f.chosen s, f.isReady k = true ∧ ∃ alternatives ∈ s.demands, k ∈ alternatives) ∧
      ∀ alternatives ∈ s.demands, ∃ k ∈ f.chosen s, k ∈ alternatives) ∨
    ∃ k, f.toFix? s = some k ∧
      ∃ alternatives ∈ s.demands, k ∈ alternatives ∧ ∀ k' ∈ alternatives, f.isReady k' = false := by
  by_cases unready : ∃ k ∈ s.details, f.isReady k = false
  · obtain ⟨k, details, unready⟩ := unready
    refine .inr ⟨k, by simp [toFix?, checkScope_of_unready details unready], [k], ?_, by simp, ?_⟩
    · exact Scope.mem_demands.2 (.inl ⟨k, details, rfl⟩)
    · simpa using unready
  have ready : ∀ k ∈ s.details, f.isReady k = true := by simpa using unready
  have check := checkScope_of_ready ready
  cases documents : s.documents with
  | nil =>
      rw [documents] at check
      refine .inl ⟨by simp [toFix?, check], fun k chosen => ?_, fun alternatives asked => ?_⟩
      · have details : k ∈ s.details := by simpa [Form.chosen, check] using chosen
        exact ⟨ready k details, [k], Scope.mem_demands.2 (.inl ⟨k, details, rfl⟩), by simp⟩
      · rcases Scope.mem_demands.1 asked with ⟨k, details, rfl⟩ | ⟨some_there, rfl⟩
        · exact ⟨k, by simp [chosen, check, details], by simp⟩
        · exact absurd documents some_there
  | cons first others =>
      have demanded : first :: others ∈ s.demands :=
        Scope.mem_demands.2 (.inr ⟨by simp, documents.symm⟩)
      rw [documents] at check
      cases found : (first :: others).find? f.isReady with
      | none =>
          simp only [found] at check
          refine .inr ⟨first, by simp [toFix?, check], _, demanded, by simp, ?_⟩
          simpa using List.find?_eq_none.1 found
      | some document =>
          simp only [found] at check
          refine .inl ⟨by simp [toFix?, check], fun k chosen => ?_, fun alternatives asked => ?_⟩
          · have from_either : k ∈ s.details ∨ k = document := by
              simpa [Form.chosen, check] using chosen
            rcases from_either with details | rfl
            · exact ⟨ready k details, [k], Scope.mem_demands.2 (.inl ⟨k, details, rfl⟩), by simp⟩
            · exact ⟨List.find?_some found, _, demanded, List.mem_of_find?_eq_some found⟩
          · rcases Scope.mem_demands.1 asked with ⟨k, details, rfl⟩ | ⟨-, rfl⟩
            · exact ⟨k, by simp [chosen, check, details], by simp⟩
            · refine ⟨document, by simp [chosen, check], ?_⟩
              exact documents ▸ List.mem_of_find?_eq_some found

/-! ## The form as a whole -/

/-- Kinds that are submitted: in the order of the form and each once, requested, ready, and one of
each row that is checked. -/
structure Completes (f : Form) (kinds : List Kind) : Prop where
  ordered : kinds.Pairwise fun a b => Kind.all.idxOf a < Kind.all.idxOf b
  requested : ∀ k ∈ kinds, ∃ row ∈ f.rows, k ∈ checkedKinds row
  ready : ∀ k ∈ kinds, f.isReady k = true
  covers : ∀ row ∈ f.rows, checkedKinds row ≠ [] → ∃ k ∈ checkedKinds row, k ∈ kinds

/-- Every row that is checked has a kind that is ready. -/
def IsComplete (f : Form) : Prop :=
  ∀ row ∈ f.rows, checkedKinds row ≠ [] → ∃ k ∈ checkedKinds row, f.isReady k = true

instance (f : Form) : Decidable f.IsComplete :=
  inferInstanceAs (Decidable (∀ row ∈ f.rows,
    checkedKinds row ≠ [] → ∃ k ∈ checkedKinds row, f.isReady k = true))

theorem Completes.isComplete {kinds : List Kind} (h : f.Completes kinds) : f.IsComplete := by
  intro row requested some_there
  obtain ⟨k, among, sent⟩ := h.covers row requested some_there
  exact ⟨k, among, h.ready k sent⟩

theorem demand_of_row {row : List Kind} (requested : row ∈ f.rows)
    (some_there : checkedKinds row ≠ []) : ∃ s ∈ f.scopes, checkedKinds row ∈ s.demands := by
  have asked := (Scope.mem_demands_scopes f _).2 ⟨some_there, row, requested, rfl⟩
  simpa only [List.mem_flatMap] using asked

theorem row_of_demand {s : Scope} {alternatives : List Kind} (scope : s ∈ f.scopes)
    (asked : alternatives ∈ s.demands) :
    alternatives ≠ [] ∧ ∃ row ∈ f.rows, alternatives = checkedKinds row :=
  (Scope.mem_demands_scopes f _).1 (List.mem_flatMap.2 ⟨s, scope, asked⟩)

theorem completes_of_nothing_to_fix (h : f.checkScopes.1 = []) :
    f.Completes (Kind.inOrder f.checkScopes.2) := by
  rw [checkScopes_eq] at h ⊢
  have complete (s : Scope) (scope : s ∈ f.scopes) :
      (∀ k ∈ f.chosen s, f.isReady k = true ∧ ∃ alternatives ∈ s.demands, k ∈ alternatives) ∧
        ∀ alternatives ∈ s.demands, ∃ k ∈ f.chosen s, k ∈ alternatives := by
    rcases f.checkScope_cases s with ⟨-, complete⟩ | ⟨k, fix, -⟩
    · exact complete
    · exact absurd (fix.symm.trans (List.filterMap_eq_nil_iff.1 h s scope)) (by simp)
  refine ⟨Kind.ordered_inOrder _, fun k sent => ?_, fun k sent => ?_,
    fun row requested some_there => ?_⟩
  · obtain ⟨s, scope, chosen⟩ := List.mem_flatMap.1 (Kind.mem_inOrder.1 sent)
    obtain ⟨-, alternatives, asked, among⟩ := (complete s scope).1 k chosen
    obtain ⟨-, row, requested, rfl⟩ := row_of_demand scope asked
    exact ⟨row, requested, among⟩
  · obtain ⟨s, scope, chosen⟩ := List.mem_flatMap.1 (Kind.mem_inOrder.1 sent)
    exact ((complete s scope).1 k chosen).1
  · obtain ⟨s, scope, asked⟩ := demand_of_row requested some_there
    obtain ⟨k, chosen, among⟩ := (complete s scope).2 _ asked
    exact ⟨k, among, Kind.mem_inOrder.2 (List.mem_flatMap.2 ⟨s, scope, chosen⟩)⟩

/-- What is to be fixed is one of the kinds of a row of which none is ready. -/
theorem unready_of_mem_toFix {k : Kind} (h : k ∈ f.checkScopes.1) :
    ∃ row ∈ f.rows, k ∈ checkedKinds row ∧ ∀ k' ∈ checkedKinds row, f.isReady k' = false := by
  rw [checkScopes_eq] at h
  obtain ⟨s, scope, fix⟩ := List.mem_filterMap.1 h
  rcases f.checkScope_cases s with ⟨nothing, -⟩ | ⟨k', fix', alternatives, asked, among, unready⟩
  · exact absurd (nothing.symm.trans fix) (by simp)
  · obtain rfl := Option.some.inj (fix.symm.trans fix')
    obtain ⟨-, row, requested, rfl⟩ := row_of_demand scope asked
    exact ⟨row, requested, among, unready⟩

/-- Nothing is to be fixed exactly in a complete form. -/
theorem toFix_eq_nil_iff : f.checkScopes.1 = [] ↔ f.IsComplete := by
  refine ⟨fun h => (completes_of_nothing_to_fix h).isComplete, fun complete => ?_⟩
  refine List.eq_nil_iff_forall_not_mem.2 fun k fix => ?_
  obtain ⟨row, requested, among, unready⟩ := unready_of_mem_toFix fix
  obtain ⟨k', among', ready⟩ := complete row requested (List.ne_nil_of_mem among)
  exact absurd (ready.symm.trans (unready k' among')) (by simp)

end Form

/-! ## Sending the form -/

namespace Session

/-- The form is there and unlocked, and has not been submitted. -/
structure CanSubmit (s : Session) : Prop where
  live : s.cancelled = false
  received : s.formReceived = true
  unlocked : s.secretReady = true
  unsent : s.awaited.submit = none
  open_ : s.submitted = false

variable {s : Session}

theorem submit_eq (h : s.CanSubmit) :
    s.submit = if s.form.checkScopes.1 = [] then
        (s.run .submit fun t => .sendForm t s.form.id (Kind.inOrder s.form.checkScopes.2), [])
      else (s, s.form.checkScopes.1) := by
  simp [submit, h.live, h.received, h.unlocked, h.unsent, h.open_]

end Session

namespace Turn

/-- The form is sent with these kinds, and nothing else is. -/
def Submits (t : Turn) (kinds : List Kind) : Prop :=
  ∃ token, t.effects = [.request (.sendForm token t.before.form.id kinds)]

end Turn

namespace Form

theorem nil_not_mem_rows (a : AuthorizationForm) : [] ∉ (ofAuthorization a).rows := by
  simp [ofAuthorization_eq]

end Form

namespace Run

variable {setup : Setup} {past : History} {s : Session}

theorem nil_not_mem_rows (run : Run setup past s) : [] ∉ s.core.form.rows := by
  induction run with
  | start credentials => exact List.not_mem_nil
  | step now action run _ _ ih =>
      refine (run.acts now action).induction (P := fun t => [] ∉ t.core.form.rows) ?_ ?_ ?_ ih
      · intro t t' move kept
        cases move with
        | rest _ core => exact core ▸ kept
        | ask _ _ _ _ _ _ _ _ core => exact core ▸ kept
        | entry _ _ _ _ _ core => exact core ▸ kept
        | abandon _ _ core => exact core ▸ List.not_mem_nil
      · intro r t _ _ _ settled
        cases settled with
        | errand _ _ _ _ core => exact core ▸ ih
        | form a _ _ _ _ core => exact core ▸ Form.nil_not_mem_rows a
        | unlock _ _ _ _ _ _ _ core =>
            rw [core]
            exact (Form.rows_takeElements ..).symm ▸ ih
        | task _ _ _ _ _ _ _ _ core => exact core ▸ ih
      · intro t t' close kept
        exact close.core ▸ kept

/-- A complete form is sent, and nothing is to be fixed. -/
theorem submits_of_isComplete (run : Run setup past s) (can : s.CanSubmit)
    (complete : s.form.IsComplete) (now : Nat) :
    ∃ kinds, s.form.Completes kinds ∧ (s.act now .submit).2 = .toFix [] ∧
      Turn.effects ⟨s, now, .submit⟩ =
        [.request (.sendForm ⟨s.nextId, .errand .submit⟩ s.form.id kinds)] := by
  have nothing : s.form.checkScopes.1 = [] := Form.toFix_eq_nil_iff.2 complete
  have submitted := Session.submit_eq can
  rw [if_pos nothing] at submitted
  refine ⟨_, Form.completes_of_nothing_to_fix nothing, ?_, ?_⟩
  · simp only [Session.act, submitted]
  · simp [Turn.effects, Session.act, submitted, Session.run, Session.ask, Session.send,
      Session.nextId, run.outbox_eq_nil]

theorem unchanged_of_not_isComplete (run : Run setup past s) (can : s.CanSubmit)
    (incomplete : ¬ s.form.IsComplete) (now : Nat) :
    Turn.effects ⟨s, now, .submit⟩ = [] ∧ Turn.after ⟨s, now, .submit⟩ = s ∧
      (s.act now .submit).2 = .toFix s.form.checkScopes.1 ∧ s.form.checkScopes.1 ≠ [] := by
  have something : s.form.checkScopes.1 ≠ [] := fun h => incomplete (Form.toFix_eq_nil_iff.1 h)
  have submitted := Session.submit_eq can
  rw [if_neg something] at submitted
  have drained : { s with outbox := [] } = s := by
    rw [← run.outbox_eq_nil]
  refine ⟨?_, ?_, ?_, something⟩
  · simpa only [Turn.effects, Session.act, submitted] using run.outbox_eq_nil
  · simpa only [Turn.after, Session.act, submitted, Session.drain] using drained
  · simp only [Session.act, submitted]

/-- A submission sends the form exactly when every row that is checked has a ready kind. What is sent
is in the order of the form, requested and ready, and has a kind of every row that is checked.
Otherwise nothing is sent and nothing changes, and kinds to be fixed are named: requested ones that
are not ready. Where every row is of one kind or of documents only, all kinds of a row are checked. -/
theorem submission_complete (run : Run setup past s) (can : s.CanSubmit) (now : Nat) :
    let t : Turn := ⟨s, now, .submit⟩
    ((∃ kinds, t.Submits kinds) ↔ s.form.IsComplete) ∧
    (∀ kinds, t.Submits kinds →
      s.form.Completes kinds ∧ (s.act now .submit).2 = .toFix []) ∧
    ((¬ ∃ kinds, t.Submits kinds) → t.effects = [] ∧ t.after = s ∧
      ∃ kinds, (s.act now .submit).2 = .toFix kinds ∧ kinds ≠ [] ∧
        ∀ k ∈ kinds, (∃ row ∈ s.form.rows, k ∈ row) ∧ s.form.isReady k = false) ∧
    ((∀ row ∈ s.form.rows, row.length = 1 ∨ ∀ k ∈ row, k.isDocument = true) →
      ((∃ kinds, t.Submits kinds) ↔ ∀ row ∈ s.form.rows, ∃ k ∈ row, s.form.isReady k = true) ∧
        ∀ kinds, t.Submits kinds → ∀ row ∈ s.form.rows, ∃ k ∈ row, k ∈ kinds) := by
  intro t
  have sends : (∃ kinds, t.Submits kinds) ↔ s.form.IsComplete := by
    refine ⟨fun ⟨kinds, token, sent⟩ => ?_, fun complete => ?_⟩
    · refine Classical.byContradiction fun incomplete => ?_
      have silent := (run.unchanged_of_not_isComplete can incomplete now).1
      exact absurd (silent.symm.trans sent) (by simp)
    · obtain ⟨kinds, -, -, sent⟩ := run.submits_of_isComplete can complete now
      exact ⟨kinds, _, sent⟩
  have completes (kinds : List Kind) (submits : t.Submits kinds) :
      s.form.Completes kinds ∧ (s.act now .submit).2 = .toFix [] := by
    obtain ⟨kinds', completes, answer, sent⟩ :=
      run.submits_of_isComplete can (sends.1 ⟨kinds, submits⟩) now
    obtain ⟨token, sent'⟩ := submits
    have parts := sent.symm.trans sent'
    simp only [List.cons.injEq, Effect.request.injEq, Request.sendForm.injEq, and_true] at parts
    have same : kinds' = kinds := parts.2.2
    exact ⟨same ▸ completes, answer⟩
  refine ⟨sends, completes, fun silent => ?_, fun plain => ?_⟩
  · have incomplete : ¬ s.form.IsComplete := fun complete => silent (sends.2 complete)
    obtain ⟨none_sent, same, answer, something⟩ := run.unchanged_of_not_isComplete can incomplete now
    refine ⟨none_sent, same, _, answer, something, fun k fix => ?_⟩
    obtain ⟨row, requested, among, unready⟩ := Form.unready_of_mem_toFix fix
    exact ⟨⟨row, requested, checkedKinds_subset among⟩, unready k among⟩
  · have whole (row : List Kind) (requested : row ∈ s.form.rows) :
        checkedKinds row = row ∧ row ≠ [] :=
      ⟨checkedKinds_eq_self (plain row requested), fun h => run.nil_not_mem_rows (h ▸ requested)⟩
    refine ⟨sends.trans ⟨fun complete row requested => ?_, fun ready row requested _ => ?_⟩,
      fun kinds submits row requested => ?_⟩
    · have found := complete row requested
      rw [(whole row requested).1] at found
      exact found (whole row requested).2
    · rw [(whole row requested).1]
      exact ready row requested
    · have covered := (completes kinds submits).1.covers row requested
      rw [(whole row requested).1] at covered
      exact covered (whole row requested).2

def filledDetails : StoredElement :=
  .personalDetails ⟨"Ada", "", "Byron", "", "", "", some ⟨10, 12, 1815⟩, "female", "GB", "GB"⟩

def anyOf (kinds : List Kind) : List RequiredKind := kinds.map fun k => ⟨k, false, false, false⟩

/-- Details, one of two documents, and phone or email: the last row is not looked at. -/
theorem submission_complete_with_a_document :
    let rows : List (List RequiredKind) := [anyOf [.personalDetails],
      anyOf [.identity .driverLicense, .identity .passport], anyOf [.phone, .email]]
    let passport : StoredElement :=
      .identity .passport ⟨"AB1", none, some ⟨⟨7, 10, 0⟩, 1⟩, none, none, []⟩
    let s := (play (.fresh .plain .empty) (opening ⟨1, rows, none⟩ [filledDetails, passport])).2
    s.CanSubmit ∧ s.form.IsComplete ∧ s.form.isReady (.identity .driverLicense) = false ∧
      ∃ kinds, Turn.Submits ⟨s, 4, .submit⟩ kinds ∧ s.form.Completes kinds := by
  intro rows passport s
  have playable : Playable (.fresh .plain .empty)
      (opening ⟨1, rows, none⟩ [filledDetails, passport]) := by decide +kernel
  have can : s.CanSubmit := by constructor <;> decide +kernel
  have complete : s.form.IsComplete := by decide +kernel
  have whole := submission_complete (.of_playable playable) can 4
  obtain ⟨kinds, submits⟩ := whole.1.2 complete
  exact ⟨can, complete, by decide +kernel, kinds, submits, (whole.2.1 kinds submits).1⟩

/-- The details that one row asks for are ready, but the passport beside them in the row is said to be
missing. The one row of the other form has neither phone nor email, and the form is sent. -/
theorem submission_overlooks :
    let s := (play (.fresh .plain .empty)
      (opening ⟨1, [anyOf [.personalDetails, .identity .passport]], none⟩ [filledDetails])).2
    let s' := (play (.fresh .plain .empty) (opening ⟨1, [anyOf [.phone, .email]], none⟩ [])).2
    ((∃ past, Run .plain past s) ∧ s.CanSubmit ∧
      s.form.rows = [[.personalDetails, .identity .passport]] ∧
      s.form.isReady .personalDetails = true ∧
      (s.act 4 .submit).2 = .toFix [.identity .passport] ∧
      Turn.effects ⟨s, 4, .submit⟩ = []) ∧
    (∃ past, Run .plain past s') ∧ s'.CanSubmit ∧ s'.form.rows = [[.phone, .email]] ∧
      s'.form.isReady .phone = false ∧ s'.form.isReady .email = false ∧
      Turn.Submits ⟨s', 4, .submit⟩ [] := by
  intro s s'
  have playable : Playable (.fresh .plain .empty)
      (opening ⟨1, [anyOf [.personalDetails, .identity .passport]], none⟩ [filledDetails]) := by
    decide +kernel
  have playable' : Playable (.fresh .plain .empty)
      (opening ⟨1, [anyOf [.phone, .email]], none⟩ []) := by decide +kernel
  have can : s.CanSubmit := by constructor <;> decide +kernel
  have can' : s'.CanSubmit := by constructor <;> decide +kernel
  refine ⟨⟨⟨_, .of_playable playable⟩, can, ?_, ?_, ?_, ?_⟩,
    ⟨_, .of_playable playable'⟩, can', ?_, ?_, ?_, ⟨⟨4, .errand .submit⟩, ?_⟩⟩ <;> decide +kernel

end Run

end IdentityForm
