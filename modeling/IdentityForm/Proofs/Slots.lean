import IdentityForm.Entry

/-! # Slots

What is found in a slot after files were changed, added or taken over. In a special role every
position stands for the same slot.
-/

namespace IdentityForm

namespace Slot

/-- Two slots are one place. -/
def Same (s s' : Slot) : Prop := s.role = s'.role ∧ (s.role.isSpecial = true ∨ s.index = s'.index)

instance (s s' : Slot) : Decidable (s.Same s') := inferInstanceAs (Decidable (_ ∧ _))

theorem Same.symm {s s' : Slot} (same : s.Same s') : s'.Same s :=
  ⟨same.1.symm, same.2.imp (same.1 ▸ ·) Eq.symm⟩

end Slot

namespace Files

variable {α β : Type} {f g : Files α} {s s' : Slot}

@[simp] theorem get?_empty (s : Slot) : (empty : Files α).get? s = none := by
  obtain ⟨role, index⟩ := s
  cases role <;> simp [get?, empty]

@[simp] theorem get?_map (f : Files α) (g : α → β) (s : Slot) :
    (f.map g).get? s = (f.get? s).map g := by
  obtain ⟨role, index⟩ := s
  cases role <;> cases index <;> simp [get?, map]

theorem get?_congr (f : Files α) (same : s.Same s') : f.get? s = f.get? s' := by
  obtain ⟨role, index⟩ := s
  obtain ⟨role', index'⟩ := s'
  obtain ⟨rfl, same⟩ : role = role' ∧ (role.isSpecial = true ∨ index = index') := same
  rcases same with special | rfl
  · cases role <;> first | rfl | cases special
  · rfl

private theorem getElem?_modify_eq (xs : List α) (i j : Nat) (change : α → α) :
    (xs.modify i change)[j]? = if i = j then xs[j]?.map change else xs[j]? := by
  rw [List.getElem?_modify]
  split
  · rfl
  · simp

theorem get?_modify (f : Files α) (s s' : Slot) (change : α → α) :
    (f.modify s change).get? s' = if s.Same s' then (f.get? s').map change else f.get? s' := by
  obtain ⟨role, index⟩ := s
  obtain ⟨role', index'⟩ := s'
  cases role <;> cases role' <;> cases index <;> cases index' <;>
    simp [Slot.Same, Role.isSpecial, get?, modify, getElem?_modify_eq]

theorem get?_modify_of_same (same : s.Same s') (change : α → α) :
    (f.modify s change).get? s' = (f.get? s').map change := by
  rw [get?_modify, if_pos same]

theorem get?_modify_of_not_same (apart : ¬ s.Same s') (change : α → α) :
    (f.modify s change).get? s' = f.get? s' := by
  rw [get?_modify, if_neg apart]

private theorem getElem?_append_singleton (xs : List α) (a : α) (i : Nat) :
    (xs ++ [a])[i]? = if xs.length = i then some a else xs[i]? := by
  rcases Nat.lt_trichotomy i xs.length with below | rfl | above
  · rw [List.getElem?_append_left below, if_neg (by omega)]
  · simp
  · rw [if_neg (by omega), List.getElem?_eq_none (by simp; omega),
      List.getElem?_eq_none (by omega)]

@[simp] theorem role_nextSlot (f : Files α) (role : Role) : (f.nextSlot role).role = role := by
  cases role <;> rfl

/-- A new file is found in the next slot of its role, and all others where they were. -/
theorem get?_add (f : Files α) (role : Role) (a : α) (s : Slot) :
    (f.add role a).get? s = if (f.nextSlot role).Same s then some a else f.get? s := by
  obtain ⟨role', index⟩ := s
  cases role <;> cases role' <;> cases index <;>
    simp [Slot.Same, Role.isSpecial, get?, add, nextSlot, getElem?_append_singleton]

/-- The next slot of a list is free. -/
theorem get?_nextSlot {role : Role} (list : role.isSpecial = false) :
    f.get? (f.nextSlot role) = none := by
  cases role with
  | scan => simp [get?, nextSlot]
  | rendition => simp [get?, nextSlot]
  | _ => cases list

theorem ext_get? (h : ∀ s, f.get? s = g.get? s) : f = g := by
  obtain ⟨scans, renditions, front, reverse, selfie⟩ := f
  obtain ⟨scans', renditions', front', reverse', selfie'⟩ := g
  have hscans : scans = scans' := List.ext_getElem? fun i => h ⟨.scan, some i⟩
  have hrenditions : renditions = renditions' := List.ext_getElem? fun i => h ⟨.rendition, some i⟩
  have hfront : front = front' := h ⟨.frontSide, none⟩
  have hreverse : reverse = reverse' := h ⟨.reverseSide, none⟩
  have hselfie : selfie = selfie' := h ⟨.selfie, none⟩
  subst hscans hrenditions hfront hreverse hselfie
  rfl

@[simp] theorem modify_empty (s : Slot) (change : α → α) : modify empty s change = empty := by
  apply ext_get?
  intro s'
  rw [get?_modify, get?_empty]
  split <;> rfl

theorem map_modify {φ : α → β} {change : α → α} (f : Files α) (s : Slot)
    (h : ∀ a, φ (change a) = φ a) : (f.modify s change).map φ = f.map φ := by
  apply ext_get?
  intro s'
  rw [get?_map, get?_map, get?_modify]
  split
  · rw [Option.map_map]
    exact congrArg (Option.map · _) (funext h)
  · rfl

theorem mem_ofRole_of_get? {a : α} (h : f.get? s = some a) : a ∈ f.ofRole s.role := by
  obtain ⟨role, index⟩ := s
  cases role <;> simp only [get?, ofRole, Option.mem_toList, Option.bind_eq_some_iff] at h ⊢
  all_goals first | exact h | exact List.mem_of_getElem? h.choose_spec.2

theorem get?_of_mem_ofRole {role : Role} {a : α} (h : a ∈ f.ofRole role) :
    ∃ index, f.get? ⟨role, index⟩ = some a := by
  cases role <;> simp only [get?, ofRole, Option.mem_toList] at h ⊢
  all_goals first
    | exact ⟨none, h⟩
    | obtain ⟨i, hi⟩ := List.getElem?_of_mem h
      exact ⟨some i, hi⟩

theorem mem_toList_iff {a : α} : a ∈ f.toList ↔ ∃ s, f.get? s = some a := by
  constructor
  · intro h
    have held : ∃ role, a ∈ f.ofRole role := by
      simp only [toList, List.mem_append] at h
      rcases h with h | h | h | h | h
      · exact ⟨.scan, h⟩
      · exact ⟨.rendition, h⟩
      · exact ⟨.frontSide, h⟩
      · exact ⟨.reverseSide, h⟩
      · exact ⟨.selfie, h⟩
    obtain ⟨role, h⟩ := held
    obtain ⟨index, h⟩ := get?_of_mem_ofRole h
    exact ⟨_, h⟩
  · rintro ⟨s, h⟩
    have held := mem_ofRole_of_get? h
    simp only [toList, List.mem_append]
    revert held
    cases s.role <;> simp +contextual [ofRole]

theorem mem_slots_of_get? {a : β} {g : Files β} (h : g.get? s = some a) :
    ∃ s' ∈ f.slots g, s.Same s' := by
  obtain ⟨role, index⟩ := s
  simp only [slots, List.mem_append, List.mem_map, List.mem_range, List.mem_filterMap]
  cases role <;> simp only [get?, Option.bind_eq_some_iff] at h
  case scan =>
    obtain ⟨i, rfl, hi⟩ := h
    have within : i < g.scans.length := (List.getElem?_eq_some_iff.1 hi).1
    exact ⟨⟨.scan, some i⟩, .inl ⟨i, by omega, rfl⟩, rfl, .inr rfl⟩
  case rendition =>
    obtain ⟨i, rfl, hi⟩ := h
    have within : i < g.renditions.length := (List.getElem?_eq_some_iff.1 hi).1
    exact ⟨⟨.rendition, some i⟩, .inr (.inl ⟨i, by omega, rfl⟩), rfl, .inr rfl⟩
  case frontSide =>
    exact ⟨⟨.frontSide, none⟩, .inr (.inr ⟨.frontSide, by simp, by simp [ofRole, h]⟩), rfl, .inl rfl⟩
  case reverseSide =>
    exact ⟨⟨.reverseSide, none⟩, .inr (.inr ⟨.reverseSide, by simp, by simp [ofRole, h]⟩), rfl,
      .inl rfl⟩
  case selfie =>
    exact ⟨⟨.selfie, none⟩, .inr (.inr ⟨.selfie, by simp, by simp [ofRole, h]⟩), rfl, .inl rfl⟩

theorem slots_comm (f : Files α) (g : Files β) : f.slots g = g.slots f := by
  simp [slots, Nat.max_comm, Bool.and_comm]

/-- The slots that are filled are one place each, whatever files fill them. -/
theorem eq_of_same_of_mem_slots {f' : Files α} {g g' : Files β} (hs : s ∈ f.slots g)
    (hs' : s' ∈ f'.slots g') (same : s.Same s') : s = s' := by
  have unplaced {f : Files α} {g : Files β} {s : Slot} (hs : s ∈ f.slots g)
      (special : s.role.isSpecial = true) : s.index = none := by
    simp only [slots, List.mem_append, List.mem_map, List.mem_range, List.mem_filterMap] at hs
    rcases hs with ⟨i, -, rfl⟩ | ⟨i, -, rfl⟩ | ⟨role, -, hs⟩
    · cases special
    · cases special
    · split at hs <;> cases hs
      rfl
  obtain ⟨role, special | index⟩ := same
  · have index := (unplaced hs special).trans (unplaced hs' (role ▸ special)).symm
    cases s; cases s'; simp_all
  · cases s; cases s'; simp_all

/-- Each slot that is filled is listed once. -/
theorem nodup_slots (f : Files α) (g : Files β) : (f.slots g).Nodup := by
  let listed (role : Role) (n : Nat) : List Slot := (List.range n).map fun i => ⟨role, some i⟩
  let single (role : Role) : Option Slot :=
    if (f.ofRole role).isEmpty && (g.ofRole role).isEmpty then none else some ⟨role, none⟩
  have single_eq {role : Role} {s : Slot} (hs : single role = some s) : s = ⟨role, none⟩ := by
    simp only [single] at hs
    split at hs
    · cases hs
    · exact (Option.some.inj hs).symm
  have once (role : Role) (n : Nat) : (listed role n).Nodup :=
    List.Pairwise.map _ (fun _ _ apart same => apart (Option.some.inj (Slot.mk.inj same).2))
      List.nodup_range
  have special : ([Role.frontSide, .reverseSide, .selfie].filterMap single).Nodup :=
    List.Pairwise.filterMap _ (fun _ _ apart _ hs _ hs' same => apart <|
        congrArg Slot.role ((single_eq hs).symm.trans (same.trans (single_eq hs'))))
      (show [Role.frontSide, .reverseSide, .selfie].Nodup by decide)
  refine List.nodup_append.2 ⟨once _ _, List.nodup_append.2 ⟨once _ _, special, ?_⟩, ?_⟩
  · intro s hs s' hs' same
    obtain ⟨i, -, rfl⟩ := List.mem_map.1 hs
    obtain ⟨role, -, hs'⟩ := List.mem_filterMap.1 hs'
    cases same.trans (single_eq hs')
  · intro s hs s' hs' same
    obtain ⟨i, -, rfl⟩ := List.mem_map.1 hs
    rcases List.mem_append.1 hs' with hs' | hs'
    · obtain ⟨j, -, rfl⟩ := List.mem_map.1 hs'
      cases same
    · obtain ⟨role, -, hs'⟩ := List.mem_filterMap.1 hs'
      cases same.trans (single_eq hs')

end Files

end IdentityForm
