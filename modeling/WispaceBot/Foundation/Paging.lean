import Mathlib

/-!
# Lists that are read page by page

`scan` reads the pages of a list one after the other and ends at the first page that gives nothing
or does not lead on.  It ends for every list (`scan_eq_some`); what it takes out is in the pages up
to that one (`mem_scan`, `scan_map_perm_iff`).  In a sorted list the next page is found by the key
of the last entry (`filter_after_page`).
-/

namespace Paging

open List Option

variable {α β κ : Type*} {n : ℕ} {l : List α}

def page (n : ℕ) (l : List α) (k : ℕ) : List α :=
  (l.drop (k * n)).take n

@[simp] lemma page_zero : page n l 0 = l.take n := by
  simp [page]

lemma page_succ (k : ℕ) : page n l (k + 1) = page n (l.drop n) k := by
  rw [page, page, drop_drop, Nat.succ_mul, Nat.add_comm]

variable {x : α}

lemma mem_of_mem_page {k : ℕ} (h : x ∈ page n l k) : x ∈ l :=
  mem_of_mem_drop (mem_of_mem_take h)

lemma flatMap_page_range (k : ℕ) : (List.range k).flatMap (page n l) = l.take (k * n) := by
  induction k with
  | zero => simp
  | succ _ ih =>
    rw [range_succ, flatMap_append, ih, flatMap_cons, flatMap_nil,
      append_nil, Nat.succ_mul, take_add, page]

lemma exists_mem_page (hn : 0 < n) (hx : x ∈ l) : ∃ k, x ∈ page n l k := by
  have hall : l.take (l.length * n) = l := take_of_length_le (Nat.le_mul_of_pos_right _ hn)
  rw [← hall, ← flatMap_page_range] at hx
  obtain ⟨k, -, hk⟩ := mem_flatMap.mp hx
  exact ⟨k, hk⟩

lemma page_unique (hl : l.Nodup) {j k : ℕ} (hj : x ∈ page n l j) (hk : x ∈ page n l k) : j = k := by
  -- the later of two different pages lies in what follows the earlier one
  have hlt : ∀ {j k : ℕ}, j < k → x ∈ page n l j → x ∈ page n l k → False := by
    intro j k hjk hj hk
    have hfirst : x ∈ l.take ((j + 1) * n) := by
      rw [← flatMap_page_range]
      exact mem_flatMap.mpr ⟨j, mem_range.mpr (Nat.lt_succ_self j), hj⟩
    have hlater : x ∈ l.drop ((j + 1) * n) :=
      (drop_sublist_drop_left l (Nat.mul_le_mul_right n hjk)).subset (mem_of_mem_take hk)
    exact disjoint_take_drop hl (Nat.le_refl _) hfirst hlater
  rcases Nat.lt_trichotomy j k with h | h | h
  · exact (hlt h hj hk).elim
  · exact h
  · exact (hlt h hk hj).elim

lemma filter_after_page [LinearOrder κ] {key : α → κ} (hl : l.Pairwise fun x y => key x < key y)
    (hlast : (l.take n).getLast? = some x) :
    (l.filter fun y => decide (key x < key y)) = l.drop n := by
  have hmem : x ∈ l.take n := mem_of_getLast? hlast
  rw [← take_append_drop n l, pairwise_append] at hl
  obtain ⟨htake, -, hacross⟩ := hl
  have hfirst : (l.take n).filter (fun y => decide (key x < key y)) = [] := by
    rw [filter_eq_nil_iff]
    intro y hy
    obtain ⟨_, hfront⟩ := getLast?_eq_some_iff.mp hlast
    rw [hfront] at hy htake
    rcases mem_append.mp hy with hpre | hself
    · have hlt := (pairwise_append.mp htake).2.2 y hpre x (mem_singleton_self x)
      exact fun h => lt_asymm hlt (of_decide_eq_true h)
    · rw [mem_singleton.mp hself]
      exact fun h => lt_irrefl _ (of_decide_eq_true h)
  have hrest : (l.drop n).filter (fun y => decide (key x < key y)) = l.drop n := by
    rw [filter_eq_self]
    exact fun y hy => decide_eq_true (hacross x hmem y hy)
  calc (l.filter fun y => decide (key x < key y))
      = ((l.take n ++ l.drop n).filter fun y => decide (key x < key y)) := by
        rw [take_append_drop]
    _ = l.drop n := by rw [filter_append, hfirst, hrest, nil_append]

/-! ## Scans -/

variable {out : List α → List β} {leadsOn : List α → Bool}

/-- The scan takes `out` of each page and goes on after a page that leads on. -/
def scan (n : ℕ) (out : List α → List β) (leadsOn : List α → Bool) : ℕ → List α → Option (List β)
  | 0, _ => none
  | fuel + 1, l =>
    if out (l.take n) = [] then some []
    else if leadsOn (l.take n) then
      (scan n out leadsOn fuel (l.drop n)).map (out (l.take n) ++ ·)
    else some (out (l.take n))

lemma scan_eq_some (hn : 0 < n) (hout : out [] = []) {fuel : ℕ} (hfuel : l.length < fuel) :
    ∃ taken, scan n out leadsOn fuel l = some taken := by
  induction fuel generalizing l with
  | zero => exact absurd hfuel (Nat.not_lt_zero _)
  | succ fuel ih =>
    rw [scan]
    by_cases hempty : out (l.take n) = []
    · exact ⟨[], if_pos hempty⟩
    · rw [if_neg hempty]
      cases hleads : leadsOn (l.take n) with
      | false => exact ⟨_, if_neg Bool.false_ne_true⟩
      | true =>
        have hl : l ≠ [] := by
          rintro rfl
          exact hempty (by rwa [take_nil])
        have hlen : (l.drop n).length < fuel := by
          have := length_pos_iff.mpr hl
          rw [length_drop]
          omega
        obtain ⟨rest, hrest⟩ := ih hlen
        exact ⟨out (l.take n) ++ rest, by rw [if_pos rfl, hrest, map_some]⟩

lemma scan_mono {fuel fuel' : ℕ} (hle : fuel ≤ fuel') {taken : List β}
    (h : scan n out leadsOn fuel l = some taken) : scan n out leadsOn fuel' l = some taken := by
  induction fuel generalizing fuel' l taken with
  | zero => cases h
  | succ _ ih =>
    obtain ⟨bound, rfl⟩ : ∃ bound, fuel' = bound + 1 := ⟨fuel' - 1, by omega⟩
    rw [scan] at h ⊢
    by_cases hempty : out (l.take n) = []
    · rwa [if_pos hempty] at h ⊢
    · rw [if_neg hempty] at h ⊢
      cases hleads : leadsOn (l.take n) with
      | false => rwa [hleads] at h
      | true =>
        rw [hleads, if_pos rfl] at h
        obtain ⟨_, hrest, rfl⟩ := map_eq_some_iff.mp h
        rw [if_pos rfl, ih (Nat.le_of_succ_le_succ hle) hrest, map_some]

lemma mem_scan {fuel : ℕ} {taken : List β} (h : scan n out leadsOn fuel l = some taken)
    {b : β} : b ∈ taken ↔ ∃ k, (∀ j < k, out (page n l j) ≠ [] ∧ leadsOn (page n l j) = true) ∧
      b ∈ out (page n l k) := by
  induction fuel generalizing l taken with
  | zero => cases h
  | succ _ ih =>
    rw [scan] at h
    -- a page beyond the first is reached through the first
    have hfirst : ∀ k, (∀ j < k + 1, out (page n l j) ≠ [] ∧ leadsOn (page n l j) = true) →
        out (l.take n) ≠ [] ∧ leadsOn (l.take n) = true := by
      intro k hk
      simpa using hk 0 (Nat.succ_pos k)
    by_cases hempty : out (l.take n) = []
    · rw [if_pos hempty] at h
      obtain ⟨⟩ := h
      refine iff_of_false not_mem_nil ?_
      rintro ⟨k, hpre, hb⟩
      cases k with
      | zero => simp [hempty] at hb
      | succ k => exact (hfirst k hpre).1 hempty
    · rw [if_neg hempty] at h
      cases hleads : leadsOn (l.take n) with
      | false =>
        rw [hleads, if_neg Bool.false_ne_true] at h
        obtain ⟨⟩ := h
        constructor
        · exact fun hb => ⟨0, fun j hj => absurd hj (Nat.not_lt_zero j), by simpa using hb⟩
        · rintro ⟨k, hpre, hb⟩
          cases k with
          | zero => simpa using hb
          | succ k =>
            exact absurd (hleads.symm.trans (hfirst k hpre).2) Bool.false_ne_true
      | true =>
        rw [hleads, if_pos rfl] at h
        obtain ⟨_, hrest, rfl⟩ := map_eq_some_iff.mp h
        rw [mem_append, ih hrest]
        constructor
        · rintro (hb | ⟨k, hpre, hb⟩)
          · exact ⟨0, fun j hj => absurd hj (Nat.not_lt_zero j), by simpa using hb⟩
          · refine ⟨k + 1, fun j hj => ?_, by rwa [page_succ]⟩
            cases j with
            | zero => simpa using ⟨hempty, hleads⟩
            | succ j => simpa [page_succ] using hpre j (Nat.lt_of_succ_lt_succ hj)
        · rintro ⟨k, hpre, hb⟩
          cases k with
          | zero => exact .inl (by simpa using hb)
          | succ k =>
            refine .inr ⟨k, fun j hj => ?_, by rwa [page_succ] at hb⟩
            simpa [page_succ] using hpre (j + 1) (Nat.succ_lt_succ hj)

section Complete

variable {γ : Type*} {f : α → Option β}

lemma scan_subperm (hout : ∀ p, (out p).Subperm (p.filterMap f)) {fuel : ℕ} {taken : List β}
    (h : scan n out leadsOn fuel l = some taken) : taken.Subperm (l.filterMap f) := by
  induction fuel generalizing l taken with
  | zero => cases h
  | succ _ ih =>
    have hsplit : l.filterMap f = (l.take n).filterMap f ++ (l.drop n).filterMap f := by
      rw [← filterMap_append, take_append_drop]
    rw [scan] at h
    by_cases hempty : out (l.take n) = []
    · rw [if_pos hempty] at h
      obtain ⟨⟩ := h
      exact nil_subperm
    · rw [if_neg hempty] at h
      cases hleads : leadsOn (l.take n) with
      | false =>
        rw [hleads, if_neg Bool.false_ne_true] at h
        obtain ⟨⟩ := h
        rw [hsplit]
        exact (hout _).trans (sublist_append_left _ _).subperm
      | true =>
        rw [hleads, if_pos rfl] at h
        obtain ⟨_, hrest, rfl⟩ := map_eq_some_iff.mp h
        rw [hsplit]
        exact (hout _).append (ih hrest)

lemma scan_map_perm_iff (hout : ∀ p, (out p).Subperm (p.filterMap f)) (hl : (l.filterMap f).Nodup)
    (g : β → γ) {fuel : ℕ} {taken : List β} (h : scan n out leadsOn fuel l = some taken) :
    (taken.map g).Perm ((l.filterMap f).map g) ↔ ∀ b ∈ l.filterMap f, b ∈ taken := by
  have hsub := scan_subperm hout h
  constructor
  · intro hperm _ hb
    have hlen : (l.filterMap f).length ≤ taken.length := by
      have := hperm.length_eq
      rw [length_map, length_map] at this
      exact Nat.le_of_eq this.symm
    exact (hsub.perm_of_length_le hlen).mem_iff.mpr hb
  · intro hall
    exact (hsub.antisymm (hl.subperm hall)).map g

end Complete

end Paging
