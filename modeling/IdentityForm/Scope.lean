import IdentityForm.Form

/-! # Scopes

The rows of a form as the user sees them: details with the documents that go with them, documents on
their own, phone and email. A scope is complete when its details and one of its documents are ready.
-/

namespace IdentityForm

inductive ScopeKind where
  | personalDetails
  | identity
  | addressDetails
  | address
  | phone
  | email
  deriving DecidableEq, Repr

/-- The order in which scopes are shown. -/
def ScopeKind.rank : ScopeKind → Nat
  | .personalDetails => 0
  | .identity => 1
  | .addressDetails => 2
  | .address => 3
  | .phone => 4
  | .email => 5

structure Scope where
  kind : ScopeKind
  /-- Details shown on top of the documents. -/
  details : Option Kind
  /-- Documents, any one of which will do. -/
  documents : List Kind
  deriving DecidableEq, Repr

namespace Scope

def ofDetails (kind : ScopeKind) (details : Kind) : Scope := ⟨kind, some details, []⟩

/-- The entry that stands for the scope. -/
def representative? (s : Scope) : Option Kind := s.details.or s.documents.head?

/-- Gives documents to the first scope that waits for them, or makes them a scope of their own. -/
def attach (documents : List Kind) (host : Scope → Bool) (own : Scope) : List Scope → List Scope
  | [] => [own]
  | s :: scopes =>
    if host s then { s with documents } :: scopes else s :: attach documents host own scopes

/-- Takes in one row of the form. -/
def addRow (rows : List (List Kind)) (scopes : List Scope) (row : List Kind) : List Scope :=
  match row with
  | [.personalDetails] | [.address] => scopes
  | [.phone] => scopes ++ [ofDetails .phone .phone]
  | [.email] => scopes ++ [ofDetails .email .email]
  | row =>
    let documents := row.filter Kind.isDocument
    let host (details : Kind) (kind : ScopeKind) (s : Scope) : Bool :=
      rows.contains [details] && s.kind = kind && s.documents.isEmpty
    if documents = [] then scopes
    else if row.all Kind.isIdentityDocument then
      attach documents (host .personalDetails .personalDetails) ⟨.identity, none, documents⟩ scopes
    else
      attach documents (host .address .addressDetails) ⟨.address, none, documents⟩ scopes

/-- The scopes for details that are requested on their own. -/
def detailScopes (rows : List (List Kind)) : List Scope :=
  (if rows.contains [.personalDetails] then [ofDetails .personalDetails .personalDetails]
    else []) ++
  (if rows.contains [.address] then [ofDetails .addressDetails .address] else [])

end Scope

namespace Form

/-- The scopes of a form in the order in which they are shown. -/
def scopes (f : Form) : List Scope :=
  (f.rows.foldl (Scope.addRow f.rows) (Scope.detailScopes f.rows)).mergeSort
    fun a b => decide (a.kind.rank ≤ b.kind.rank)

def isReady (f : Form) (kind : Kind) : Bool :=
  match f.entry? kind with
  | some e => e.isReady
  | none => false

/-- The kinds to submit for a scope, or the one to fix first. -/
def checkScope (f : Form) (s : Scope) : Except Kind (List Kind) := do
  let details ←
    match s.details with
    | some k => if f.isReady k then pure [k] else throw k
    | none => pure []
  match s.documents with
  | [] => return details
  | first :: others =>
    match (first :: others).find? f.isReady with
    | some k => return details ++ [k]
    | none => throw first

/-- The kinds to fix in all scopes, and the kinds to submit. -/
def checkScopes (f : Form) : List Kind × List Kind :=
  f.scopes.foldl
    (fun acc scope =>
      match f.checkScope scope with
      | .ok kinds => (acc.1, acc.2 ++ kinds)
      | .error kind => (acc.1 ++ [kind], acc.2))
    ([], [])

end Form

end IdentityForm
