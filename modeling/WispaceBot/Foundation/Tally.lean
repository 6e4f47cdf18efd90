import Mathlib

/-!
# Tallies and pages

`tally` counts how often each key occurs in a list, in a map that keeps its keys in the order of
their first occurrence, the way `map.set(key, (map.get(key) ?? 0) + 1)` does in a loop.  `pages`
cuts a list into pages of a given size.
-/

namespace Tally

open List

variable {κ : Type*} [DecidableEq κ]

def increment (key : κ) : List (κ × ℕ) → List (κ × ℕ)
  | [] => [(key, 1)]
  | entry :: rest =>
    if entry.1 = key then (entry.1, entry.2 + 1) :: rest else entry :: increment key rest

def tally (keys : List κ) : List (κ × ℕ) :=
  keys.foldl (fun counts key => increment key counts) []

variable {counts : List (κ × ℕ)}

lemma mem_keys_increment {key k : κ} :
    k ∈ (increment key counts).map Prod.fst ↔ k = key ∨ k ∈ counts.map Prod.fst := by
  induction counts with
  | nil => simp [increment]
  | cons _ _ ih =>
    rw [increment]
    split_ifs with h
    · simp [h]
    · simp only [map_cons, mem_cons, ih]
      tauto

lemma nodup_increment {key : κ} (h : (counts.map Prod.fst).Nodup) :
    ((increment key counts).map Prod.fst).Nodup := by
  induction counts with
  | nil => simp [increment]
  | cons _ _ ih =>
    rw [map_cons, nodup_cons] at h
    rw [increment]
    split_ifs with hkey
    · simpa using h
    · rw [map_cons, nodup_cons, mem_keys_increment]
      exact ⟨not_or.mpr ⟨hkey, h.1⟩, ih h.2⟩

lemma mem_increment {key k : κ} {n : ℕ} (h : (counts.map Prod.fst).Nodup) :
    (k, n) ∈ increment key counts ↔ (k ≠ key ∧ (k, n) ∈ counts) ∨
      (k = key ∧ ((∃ m, (key, m) ∈ counts ∧ n = m + 1) ∨ (key ∉ counts.map Prod.fst ∧ n = 1))) := by
  induction counts with
  | nil => simp [increment]
  | cons entry rest ih =>
    obtain ⟨a, _⟩ := entry
    rw [map_cons, nodup_cons] at h
    have hrest : ∀ x, (a, x) ∉ rest := fun x hx => h.1 (mem_map.mpr ⟨(a, x), hx, rfl⟩)
    rw [increment]
    split_ifs with hkey
    · dsimp only at hkey
      subst hkey
      by_cases hk : k = a
      · subst hk
        simp [hrest]
      · simp [hk]
    · have hkey' : ¬key = a := fun h => hkey h.symm
      simp only [mem_cons, ih h.2, map_cons, Prod.mk.injEq, hkey', false_and, false_or]
      by_cases hk : k = key
      · subst hk
        simp [hkey']
      · simp [hk]

lemma nodup_tally (keys : List κ) : ((tally keys).map Prod.fst).Nodup := by
  induction keys using reverseRecOn with
  | nil => exact nodup_nil
  | append_singleton _ _ ih =>
    rw [tally, foldl_append]
    exact nodup_increment ih

variable {keys : List κ}

lemma mem_tally {k : κ} {n : ℕ} : (k, n) ∈ tally keys ↔ k ∈ keys ∧ n = keys.count k := by
  induction keys using reverseRecOn generalizing k n with
  | nil => simp [tally]
  | append_singleton keys key ih =>
    have hstep : tally (keys ++ [key]) = increment key (tally keys) := by
      simp [tally, foldl_append]
    have hkeys : key ∈ (tally keys).map Prod.fst ↔ key ∈ keys := by
      rw [mem_map]
      constructor
      · rintro ⟨⟨_, _⟩, hmem, rfl⟩
        exact (ih.mp hmem).1
      · intro hmem
        exact ⟨(key, keys.count key), ih.mpr ⟨hmem, rfl⟩, rfl⟩
    rw [hstep, mem_increment (nodup_tally keys), hkeys]
    by_cases hk : k = key
    · subst hk
      by_cases hmem : k ∈ keys
      · simp [ih, hmem]
      · simp [ih, hmem, count_eq_zero_of_not_mem hmem]
    · have hcount : (keys ++ [key]).count k = keys.count k := by
        simp [count_append, Ne.symm hk]
      simp [ih, hk, hcount]

lemma find?_tally {p : κ → Bool} {k : κ} (hk : k ∈ keys) (hp : p k = true)
    (hone : ∀ a ∈ keys, p a = true → a = k) :
    (tally keys).find? (fun entry => p entry.1) = some (k, keys.count k) := by
  have hmem : (k, keys.count k) ∈ tally keys := mem_tally.mpr ⟨hk, rfl⟩
  cases hfind : (tally keys).find? fun entry => p entry.1 with
  | none => exact absurd hp (find?_eq_none.mp hfind _ hmem)
  | some entry =>
    obtain ⟨a, _⟩ := entry
    obtain ⟨ha, rfl⟩ := mem_tally.mp (mem_of_find?_eq_some hfind)
    have hpa : p a = true := by simpa using find?_some hfind
    rw [hone a ha hpa]

lemma find?_tally_eq_none {p : κ → Bool} (h : ∀ a ∈ keys, p a = false) :
    (tally keys).find? (fun entry => p entry.1) = none := by
  rw [find?_eq_none]
  rintro ⟨a, _⟩ hmem
  simp [h a (mem_tally.mp hmem).1]

end Tally

/-! ## Pages -/

namespace Pages

variable {α : Type*}

/-- At most `fuel` pages of the list, each of `size` entries but perhaps the last. -/
def pagesUpTo (size : ℕ) : ℕ → List α → List (List α)
  | 0, _ => []
  | _ + 1, [] => []
  | fuel + 1, entry :: rest =>
    (entry :: rest).take size :: pagesUpTo size fuel ((entry :: rest).drop size)

/-- The list in pages of `size` entries. -/
def pages (size : ℕ) (l : List α) : List (List α) := pagesUpTo size l.length l

lemma flatten_pagesUpTo {size : ℕ} (hsize : 0 < size) {fuel : ℕ} {l : List α}
    (h : l.length ≤ fuel) : (pagesUpTo size fuel l).flatten = l := by
  induction fuel generalizing l with
  | zero =>
    obtain rfl : l = [] := List.length_eq_zero_iff.mp (Nat.le_zero.mp h)
    rfl
  | succ fuel ih =>
    cases l with
    | nil => rfl
    | cons entry rest =>
      have hlen : ((entry :: rest).drop size).length ≤ fuel := by
        rw [List.length_drop]
        omega
      rw [pagesUpTo, List.flatten_cons, ih hlen, List.take_append_drop]

lemma flatten_pages {size : ℕ} (hsize : 0 < size) (l : List α) : (pages size l).flatten = l :=
  flatten_pagesUpTo hsize (Nat.le_refl _)

end Pages
