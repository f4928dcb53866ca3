import Mathlib.Data.List.Perm.Basic

/-! # Lists of pairs, looked up by name

Where each name stands once, the order of the pairs does not matter, nor what stands under other
names.
-/

namespace IdentityForm

variable {β : Type} {key : String} {value : β} {pairs wanted : List (String × β)}
  {p : String → Bool}

theorem lookup_eq_some_iff_mem (distinct : (pairs.map Prod.fst).Nodup) :
    pairs.lookup key = some value ↔ (key, value) ∈ pairs := by
  induction pairs with
  | nil => simp
  | cons pair pairs ih =>
      obtain ⟨name, there⟩ := pair
      obtain ⟨new, distinct⟩ := List.nodup_cons.1 distinct
      rw [List.lookup_cons, List.mem_cons, Prod.mk.injEq]
      by_cases here : key = name
      · subst here
        have absent : (key, value) ∉ pairs := fun h => new (List.mem_map.2 ⟨(key, value), h, rfl⟩)
        simp [absent, eq_comm]
      · rw [beq_false_of_ne here, ih distinct]
        exact ⟨.inr, fun h => h.resolve_left fun same => here same.1⟩

theorem lookup_filter (known : p key = true) :
    (pairs.filter fun x => p x.1).lookup key = pairs.lookup key := by
  induction pairs with
  | nil => rfl
  | cons x pairs ih =>
      by_cases kept : p x.1 = true
      · have first := List.filter_cons_of_pos (p := fun x : String × β => p x.1) (l := pairs) kept
        rw [first, List.lookup_cons, List.lookup_cons, ih]
      · have other : (key == x.1) = false := beq_false_of_ne fun same => kept (same ▸ known)
        have first := List.filter_cons_of_neg (p := fun x : String × β => p x.1) (l := pairs) kept
        rw [first, List.lookup_cons, other, ih]

/-- Lists with the same pairs under the names that matter are looked up alike. -/
theorem lookup_eq_of_perm (distinct : (wanted.map Prod.fst).Nodup)
    (same : (pairs.filter fun x => p x.1).Perm wanted) (known : p key = true) :
    pairs.lookup key = wanted.lookup key := by
  have distinct' : ((pairs.filter fun x => p x.1).map Prod.fst).Nodup :=
    (same.map Prod.fst).nodup_iff.2 distinct
  rw [← lookup_filter known]
  refine Option.ext fun value => ?_
  rw [lookup_eq_some_iff_mem distinct', lookup_eq_some_iff_mem distinct, same.mem_iff]

end IdentityForm
