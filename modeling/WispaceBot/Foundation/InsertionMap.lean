import Mathlib.Data.List.Perm.Subperm

/-!
# Maps that keep the order of insertion

A map is the list of its entries.  `set` replaces the value of a key where its entry stands, and
appends an entry for a key that is new; `List.lookup` finds the value of a key.  The values after a
`set` are among the old ones and the new one, counted with multiplicity (`values_set_subperm`).
-/

namespace InsertionMap

variable {κ α : Type*} [DecidableEq κ]

def set (k : κ) (v : α) : List (κ × α) → List (κ × α)
  | [] => [(k, v)]
  | (k', v') :: m => if k' = k then (k, v) :: m else (k', v') :: set k v m

def values (m : List (κ × α)) : List α :=
  m.map Prod.snd

variable {m : List (κ × α)}

lemma set_of_lookup_eq_none {k : κ} {v : α} (h : m.lookup k = none) :
    set k v m = m ++ [(k, v)] := by
  induction m with
  | nil => rfl
  | cons entry m ih =>
    obtain ⟨k', _⟩ := entry
    rw [List.lookup_cons] at h
    by_cases hk : k' = k
    · simp [hk] at h
    · have hrest : m.lookup k = none := by simpa [beq_false_of_ne (Ne.symm hk)] using h
      rw [set, if_neg hk, ih hrest, List.cons_append]

lemma length_set_of_lookup {k : κ} {v w : α} (h : m.lookup k = some w) :
    (set k v m).length = m.length := by
  induction m with
  | nil => cases h
  | cons entry m ih =>
    obtain ⟨k', _⟩ := entry
    rw [List.lookup_cons] at h
    by_cases hk : k' = k
    · rw [set, if_pos hk, List.length_cons, List.length_cons]
    · have hrest : m.lookup k = some w := by simpa [beq_false_of_ne (Ne.symm hk)] using h
      rw [set, if_neg hk, List.length_cons, List.length_cons, ih hrest]

lemma values_set_subperm (k : κ) (v : α) (m : List (κ × α)) :
    (values (set k v m)).Subperm (values m ++ [v]) := by
  induction m with
  | nil => exact List.Subperm.refl _
  | cons entry m ih =>
    obtain ⟨k', v'⟩ := entry
    by_cases hk : k' = k
    · have hsub : (v :: values m).Subperm (v' :: v :: values m) := List.Subperm.cons_right v'
        (List.Subperm.refl _)
      have hperm : (v' :: v :: values m).Perm (v' :: (values m ++ [v])) :=
        (List.perm_append_singleton v (values m)).symm.cons v'
      rw [set, if_pos hk]
      exact hsub.trans hperm.subperm
    · rw [set, if_neg hk]
      exact (List.subperm_cons v').mpr ih

end InsertionMap
