import IdentityForm.Proofs.Committed
import IdentityForm.Proofs.Lookup

/-! # What an element reads

An element is made of the texts under a few names, read as dates or without the white space around
them, and of the ids of the files that stay. Two edit buffers give the same element exactly when they
agree in these. From that it follows when a save that sees nothing to write is right about it.
-/

namespace IdentityForm

/-! ## Fields on top of others -/

namespace Fields

variable {m changes : Fields} {key : String} {field : Field}

theorem names_nodup (m : Fields) : (m.entries.map Prod.fst).Nodup :=
  List.pairwise_map.2 (m.ordered.imp fun before => String.ne_of_lt before)

theorem get?_eq_some_iff : m.get? key = some field ↔ (key, field) ∈ m.entries :=
  lookup_eq_some_iff_mem m.names_nodup

theorem get?_foldl_set {list : List (String × Field)} (distinct : (list.map Prod.fst).Nodup)
    (m : Fields) (key : String) : (list.foldl (fun m p => m.set p.1 p.2) m).get? key =
      (list.lookup key).or (m.get? key) := by
  induction list generalizing m with
  | nil => rfl
  | cons p rest ih =>
      obtain ⟨new, distinct⟩ := List.nodup_cons.1 distinct
      rw [List.foldl_cons, ih distinct, get?_set, Field.lookup_cons]
      by_cases here : key = p.1
      · have absent : rest.lookup key = none := List.lookup_eq_none_iff.2 fun q hq =>
          bne_iff_ne.2 fun same => new (List.mem_map.2 ⟨q, hq, same.symm.trans here⟩)
        rw [absent, if_pos here, if_pos here]
        rfl
      · rw [if_neg here, if_neg here]

theorem get?_overlay (m changes : Fields) (key : String) :
    (m.overlay changes).get? key = (changes.get? key).or (m.get? key) :=
  get?_foldl_set changes.names_nodup m key

theorem text_overlay_of_mentioned (h : changes.get? key = some field) :
    (m.overlay changes).text key = field.text := by
  simp [text, get?_overlay, h]

theorem text_overlay_of_unmentioned (h : changes.get? key = none) :
    (m.overlay changes).text key = m.text key := by
  simp [text, get?_overlay, h]

theorem get?_setError (m : Fields) (name error key : String) : (m.setError name error).get? key =
    if key = name then some ⟨m.text name, some error⟩ else m.get? key := by
  rw [setError, get?_set]
  split
  · cases there : m.get? name <;> simp [text, there, Field.blank]
  · rfl

@[simp] theorem text_setError (m : Fields) (name error key : String) :
    (m.setError name error).text key = m.text key := by
  rw [text, get?_setError]
  split
  · rename_i here
    rw [here]
    rfl
  · rfl

theorem text_setErrors (m : Fields) (names : List String) (error key : String) :
    (names.foldl (fun m name => m.setError name error) m).text key = m.text key := by
  induction names generalizing m with
  | nil => rfl
  | cons name names ih => rw [List.foldl_cons, ih, text_setError]

end Fields

/-! ## Texts of an element -/

namespace Kind

/-- The names whose texts an element of a kind is made of. -/
def elementFields : Kind → List String
  | .personalDetails =>
    ["first_name", "middle_name", "last_name", "first_name_native", "middle_name_native",
      "last_name_native", "birth_date", "gender", "country_code", "residence_country_code"]
  | .identity _ => ["document_no", "expiry_date"]
  | .address => ["street_line1", "street_line2", "city", "state", "country_code", "post_code"]
  | .residence _ => []
  | .phone | .email => [plainField]

/-- Two texts under a name are the same to an element. -/
def ReadsAlike (kind : Kind) (key a b : String) : Prop :=
  if key ∈ kind.dateFields then Date.parse a = Date.parse b else Text.trim a = Text.trim b

instance (kind : Kind) (key a b : String) : Decidable (kind.ReadsAlike key a b) :=
  inferInstanceAs (Decidable
    (if key ∈ kind.dateFields then Date.parse a = Date.parse b else Text.trim a = Text.trim b))

theorem readsAlike_of_eq {kind : Kind} {key a b : String} (h : a = b) : kind.ReadsAlike key a b := by
  subst h
  unfold ReadsAlike
  split <;> rfl

end Kind

/-! ## Equal elements -/

theorem submittedId?_inj {d d' : Option Draft} :
    submittedId? d = submittedId? d' ↔ submittedIds d.toList = submittedIds d'.toList := by
  rw [← submittedId?_toList, ← submittedId?_toList]
  cases submittedId? d <;> cases submittedId? d' <;> simp

theorem Role.forall_iff {P : Role → Prop} : (∀ role, P role) ↔
    P .scan ∧ P .rendition ∧ P .frontSide ∧ P .reverseSide ∧ P .selfie := by
  refine ⟨fun h => ⟨h _, h _, h _, h _, h _⟩, ?_⟩
  rintro ⟨scan, rendition, front, reverse, selfie⟩ role
  cases role <;> assumption

/-- Edit buffers with texts that read alike and with the same files that stay give one element. -/
theorem SubmittedElement.ofDraft_eq_iff {fields fields' : Fields} {files files' : Files Draft}
    {kind : Kind} : ofDraft fields files kind = ofDraft fields' files' kind ↔
      (∀ key ∈ kind.elementFields, kind.ReadsAlike key (fields.text key) (fields'.text key)) ∧
        ∀ role, kind.takes role = true →
          submittedIds (files.ofRole role) = submittedIds (files'.ofRole role) := by
  -- An element names its files in another order than that of the roles.
  cases kind <;>
    simp [ofDraft, Kind.elementFields, Kind.ReadsAlike, Kind.dateFields, Role.forall_iff, Kind.takes,
      Kind.isAddressDocument, Kind.isDocument, Kind.isIdentityDocument, Files.ofRole,
      submittedId?_inj]
  grind

/-! ## Files that nothing was done to -/

/-- Without a change in the buffer the files that stay are the committed ones. -/
theorem submittedIds_of_unchanged {drafts : List Draft} (h : ∀ d ∈ drafts, d.isChange = false) :
    submittedIds drafts = (drafts.filter fun d => d.upload.isNone).map (·.file.id) := by
  induction drafts with
  | nil => rfl
  | cons d drafts ih =>
      obtain ⟨here, rest⟩ := List.forall_mem_cons.1 h
      rw [submittedIds] at ih ⊢
      cases new : d.upload with
      | none =>
          have kept : d.deleted = false := by simpa [Draft.isChange, new] using here
          simp [Draft.remoteId?, kept, new, ih rest]
      | some u =>
          have marked : d.deleted = true := by simpa [Draft.isChange, new] using here
          simp [marked, new, ih rest]

theorem submittedIds_ofStored (files : List StoredFile) :
    submittedIds (files.map Draft.ofStored) = files.map (·.id) := by
  rw [submittedIds_of_unchanged (by simp [Draft.ofStored, Draft.isChange])]
  induction files with
  | nil => rfl
  | cons f files ih => simpa [Draft.ofStored] using ih

/-- Wherever a list of drafts has a committed file, the list of committed files has it too. -/
def Accompanies (files : List StoredFile) (drafts : List Draft) : Prop :=
  ∀ (i : Nat) (d : Draft), drafts[i]? = some d → d.upload = none →
    ∃ f, files[i]? = some f ∧ f.id = d.file.id

namespace Accompanies

variable {files : List StoredFile} {d : Draft} {drafts : List Draft}

theorem tail (h : Accompanies files (d :: drafts)) : Accompanies files.tail drafts := by
  intro i d' hd' committed
  obtain ⟨f, hf, id⟩ := h (i + 1) d' hd' committed
  exact ⟨f, List.getElem?_tail.trans hf, id⟩

theorem length_le (h : Accompanies files drafts) :
    (drafts.filter fun d => d.upload.isNone).length ≤ files.length := by
  induction drafts generalizing files with
  | nil => exact Nat.zero_le _
  | cons d drafts ih =>
      have below := ih h.tail
      cases new : d.upload with
      | some u =>
          have longer : files.tail.length ≤ files.length := by simp
          simpa [new] using Nat.le_trans below longer
      | none =>
          obtain ⟨f, hf, -⟩ := h 0 d rfl new
          cases files with
          | nil => cases hf
          | cons f files => simpa [new] using below

theorem ids_eq_iff (h : Accompanies files drafts) :
    (drafts.filter fun d => d.upload.isNone).map (·.file.id) = files.map (·.id) ↔
      ∀ i < files.length, ∃ d, drafts[i]? = some d ∧ d.upload = none := by
  induction drafts generalizing files with
  | nil =>
      cases files with
      | nil => simp
      | cons f files =>
          refine iff_of_false (by simp) fun held => ?_
          obtain ⟨x, hx, -⟩ := held 0 (by simp)
          cases hx
  | cons d drafts ih =>
      cases files with
      | nil => simpa using h.length_le
      | cons f files =>
          have tail : Accompanies files drafts := h.tail
          cases new : d.upload with
          | none =>
              obtain ⟨f', hf', id⟩ := h 0 d rfl new
              obtain rfl : f = f' := Option.some.inj hf'
              rw [List.length_cons, Nat.forall_lt_succ_left]
              simp [new, id, ih tail]
          | some u =>
              have shorter := tail.length_le
              refine iff_of_false (fun same => ?_) fun held => ?_
              · have lengths := congrArg List.length same
                simp [new] at lengths
                omega
              · obtain ⟨x, hx, committed⟩ := held 0 (by simp)
                obtain rfl : d = x := Option.some.inj hx
                exact absurd (new.symm.trans committed) (by simp)

end Accompanies

namespace Files

variable {α β : Type} {f : Files α} {role : Role}

theorem ofRole_map (f : Files α) (g : α → β) (role : Role) :
    (f.map g).ofRole role = (f.ofRole role).map g := by
  cases role <;> first | rfl | exact Option.toList_map ..

theorem getElem?_ofRole (f : Files α) (role : Role) (i : Nat) :
    (f.ofRole role)[i]? =
      if role.isSpecial = true ∧ i ≠ 0 then none else f.get? ⟨role, some i⟩ := by
  have single (a : Option α) : a.toList[i]? = if i = 0 then a else none := by
    cases a <;> cases i <;> simp
  cases role <;> simp only [ofRole, get?, Role.isSpecial, Option.bind_some, Bool.false_eq_true,
    false_and, if_false, true_and, single] <;> split <;> simp_all

/-- A slot that holds a file is one position among the files of its role, whatever files these are. -/
theorem exists_position {slot : Slot} (there : (f.get? slot).isSome = true) :
    ∃ i : Nat, ∀ (β : Type) (g : Files β), (g.ofRole slot.role)[i]? = g.get? slot := by
  obtain ⟨role, index⟩ := slot
  cases special : role.isSpecial with
  | true =>
      refine ⟨0, fun β g => ?_⟩
      rw [getElem?_ofRole, if_neg (by simp)]
      exact get?_congr g ⟨rfl, .inl special⟩
  | false =>
      cases index with
      | none => cases role <;> simp [get?, Role.isSpecial] at there special
      | some i => exact ⟨i, fun β g => by rw [getElem?_ofRole, if_neg (by simp [special])]⟩

end Files

namespace Entry

theorem submittedIds_snapshot (e : Entry) (role : Role) :
    submittedIds (e.snapshot.draftFiles.ofRole role) = (e.files.ofRole role).map (·.id) := by
  rw [← submittedIds_ofStored, ← Files.ofRole_map]
  rfl

/-- Every file in the edit buffer that is committed, or would come back in the place of a new one,
is committed in the same slot. -/
def Twinned (e : Entry) : Prop :=
  ∀ slot d t, e.draftFiles.get? slot = some d → d.twin? = some t →
    ∃ f, e.files.get? slot = some f ∧ f.id = t.file.id

/-- Nothing in the edit buffer has taken the place of a committed file. -/
def KeepsFiles (e : Entry) : Prop :=
  ∀ slot, (e.files.get? slot).isSome = true → ∃ d, e.draftFiles.get? slot = some d ∧ d.upload = none

variable {e : Entry} {changes : Fields}

theorem keepsFiles_iff : (∀ slot ∈ e.draftFiles.slots e.files, (e.files.get? slot).isSome = true →
    ∃ d ∈ e.draftFiles.get? slot, d.upload = none) ↔ e.KeepsFiles := by
  refine ⟨fun held slot there => ?_, fun keeps slot _ there => keeps slot there⟩
  obtain ⟨f, hf⟩ := Option.isSome_iff_exists.1 there
  obtain ⟨place, filled, same⟩ := Files.mem_slots_of_get? (f := e.draftFiles) hf
  rw [Files.get?_congr e.files same] at there
  rw [Files.get?_congr e.draftFiles same]
  exact held place filled there

instance (e : Entry) : Decidable e.KeepsFiles := decidable_of_iff _ keepsFiles_iff

theorem Twinned.accompanies (h : e.Twinned) (role : Role) :
    Accompanies (e.files.ofRole role) (e.draftFiles.ofRole role) := by
  intro i d hd committed
  rw [Files.getElem?_ofRole] at hd ⊢
  split at hd
  · cases hd
  · rename_i within
    rw [if_neg within]
    exact h _ d ⟨d.file, d.deleted⟩ hd (by simp [Draft.twin?, committed])

theorem Twinned.submittedIds_eq_iff (h : e.Twinned)
    (unchanged : ∀ d ∈ e.draftFiles.toList, d.isChange = false) (role : Role) :
    submittedIds (e.draftFiles.ofRole role) = (e.files.ofRole role).map (·.id) ↔
      ∀ slot, slot.role = role → (e.files.get? slot).isSome = true →
        ∃ d, e.draftFiles.get? slot = some d ∧ d.upload = none := by
  have unchanged_here : ∀ d ∈ e.draftFiles.ofRole role, d.isChange = false := by
    intro d hd
    obtain ⟨index, hd⟩ := Files.get?_of_mem_ofRole hd
    exact unchanged d (Files.mem_toList_iff.2 ⟨_, hd⟩)
  rw [submittedIds_of_unchanged unchanged_here, (h.accompanies role).ids_eq_iff]
  constructor
  · rintro held slot rfl there
    obtain ⟨i, position⟩ := Files.exists_position there
    have within : i < (e.files.ofRole slot.role).length := by
      rw [← position] at there
      exact (List.getElem?_eq_some_iff.1 (Option.eq_some_of_isSome there)).1
    rw [← position]
    exact held i within
  · intro held i within
    have there : ((e.files.ofRole role)[i]?).isSome = true := by simp [within]
    rw [Files.getElem?_ofRole] at there ⊢
    split at there
    · cases there
    · rename_i here
      rw [if_neg here]
      exact held _ rfl there

/-- Where a save sees no change, the edit buffer with the changes on top would give the committed
element exactly if all other texts read as committed and no committed file has lost its place. -/
theorem Twinned.submission_eq_iff (h : e.Twinned)
    (fits : ∀ slot, (e.files.get? slot).isSome = true → e.kind.takes slot.role = true)
    (unchanged : e.isChangedBy changes = false) :
    SubmittedElement.ofDraft (e.draftFields.overlay changes) e.draftFiles e.kind =
        e.snapshot.submission ↔
      (∀ key ∈ e.kind.elementFields, changes.get? key = none →
        e.kind.ReadsAlike key (e.draftFields.text key) (e.fields.text key)) ∧ e.KeepsFiles := by
  obtain ⟨undone, unmentioned⟩ := Bool.or_eq_false_iff.1 unchanged
  have files_unchanged : ∀ d ∈ e.draftFiles.toList, d.isChange = false := by simpa using undone
  show SubmittedElement.ofDraft _ _ e.kind = SubmittedElement.ofDraft _ _ e.kind ↔ _
  rw [SubmittedElement.ofDraft_eq_iff]
  refine and_congr (forall₂_congr fun key _ => ?_) ?_
  · show e.kind.ReadsAlike key _ (e.fields.text key) ↔ _
    cases mentioned : changes.get? key with
    | none => simp [Fields.text_overlay_of_unmentioned mentioned]
    | some field =>
        have same : field.text = e.fields.text key := by
          have all_same : ∀ p ∈ changes.entries, p.2.text = e.fields.text p.1 := by
            simpa using unmentioned
          exact all_same _ (Fields.get?_eq_some_iff.1 mentioned)
        rw [Fields.text_overlay_of_mentioned mentioned]
        simp [Kind.readsAlike_of_eq same]
  · simp only [submittedIds_snapshot, h.submittedIds_eq_iff files_unchanged]
    constructor
    · exact fun all slot there => all slot.role (fits slot there) slot rfl there
    · rintro all role - slot - there
      exact all slot there

end Entry

end IdentityForm
