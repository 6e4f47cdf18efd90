import Mathlib.Data.List.Nodup

/-!
# Relational tables

A table is the list of its rows.  The statements of a relational store are functions on that list:
`updateWhere` and `deleteWhere` for `UPDATE` and `DELETE`, `updateReturning` for the rows an
`UPDATE … RETURNING *` hands back, and `insertOnConflict` for
`INSERT … ON CONFLICT (key) DO UPDATE SET … WHERE guard`.  A unique index is `UniqueOn key`.
-/

namespace Table

open List

variable {ρ : Type*} {κ : Type*}

/-- `UPDATE … SET f WHERE p`. -/
def updateWhere (p : ρ → Bool) (f : ρ → ρ) (t : List ρ) : List ρ :=
  t.map fun r => if p r then f r else r

/-- `DELETE … WHERE p`. -/
def deleteWhere (p : ρ → Bool) (t : List ρ) : List ρ :=
  t.filter fun r => !p r

/-- The rows handed back by `UPDATE … SET f WHERE p RETURNING *`. -/
def updateReturning (p : ρ → Bool) (f : ρ → ρ) (t : List ρ) : List ρ :=
  (t.filter p).map f

/-- The flag of the upsert says whether a row was written. -/
def insertOnConflict [DecidableEq κ] (key : ρ → κ) (guard : ρ → Bool) (set : ρ → ρ) (new : ρ)
    (t : List ρ) : List ρ × Bool :=
  if t.any fun r => decide (key r = key new) then
    (updateWhere (fun r => decide (key r = key new) && guard r) set t,
      t.any fun r => decide (key r = key new) && guard r)
  else (t ++ [new], true)

/-- The row `SELECT … WHERE key = k` finds first. -/
def lookup [DecidableEq κ] (key : ρ → κ) (k : κ) (t : List ρ) : Option ρ :=
  t.find? fun r => decide (key r = k)

/-- The unique index on `key`: no two rows of the table share their key. -/
def UniqueOn (key : ρ → κ) (t : List ρ) : Prop :=
  (t.map key).Nodup

/-! ## Rows after a statement -/

variable {p guard : ρ → Bool} {f set : ρ → ρ} {t : List ρ} {r new : ρ}

lemma mem_updateWhere :
    r ∈ updateWhere p f t ↔ (∃ q ∈ t, p q = true ∧ f q = r) ∨ (r ∈ t ∧ p r = false) := by
  simp only [updateWhere, mem_map]
  constructor
  · rintro ⟨q, hq, rfl⟩
    cases hp : p q with
    | true => exact .inl ⟨q, hq, hp, by simp⟩
    | false => exact .inr ⟨by simpa using hq, by simpa using hp⟩
  · rintro (⟨q, hq, hp, rfl⟩ | ⟨hr, hp⟩)
    · exact ⟨q, hq, by simp [hp]⟩
    · exact ⟨r, hr, by simp [hp]⟩

@[simp] lemma mem_deleteWhere : r ∈ deleteWhere p t ↔ r ∈ t ∧ p r = false := by
  simp [deleteWhere]

lemma mem_updateReturning : r ∈ updateReturning p f t ↔ ∃ q ∈ t, p q = true ∧ f q = r := by
  simp [updateReturning, and_assoc]

lemma updateWhere_of_forall_not (h : ∀ r ∈ t, p r = false) : updateWhere p f t = t := by
  have hmap : updateWhere p f t = t.map id := by
    refine map_congr_left fun r hr => ?_
    simp [h r hr]
  rw [hmap, map_id]

lemma updateReturning_of_forall_not (h : ∀ r ∈ t, p r = false) : updateReturning p f t = [] := by
  have hfilter : t.filter p = [] := filter_eq_nil_iff.mpr fun r hr => by simp [h r hr]
  rw [updateReturning, hfilter, map_nil]

section

variable (hr : r ∈ t) (hp : p r = true) (hone : ∀ q ∈ t, p q = true → q = r)
include hr hp hone

lemma find?_eq_some_of_only : t.find? p = some r := by
  cases hfind : t.find? p with
  | none => exact absurd hp (find?_eq_none.mp hfind r hr)
  | some q => rw [hone q (mem_of_find?_eq_some hfind) (find?_some hfind)]

lemma head?_updateReturning : (updateReturning p f t).head? = some (f r) := by
  rw [updateReturning, head?_map, head?_filter, find?_eq_some_of_only hr hp hone]
  rfl

end

variable {key : ρ → κ}

section

variable [DecidableEq κ]

lemma mem_insertOnConflict (h : r ∈ (insertOnConflict key guard set new t).1) :
    (r = new ∧ ∀ q ∈ t, key q ≠ key new) ∨ (∃ q ∈ t, key q = key new ∧ guard q = true ∧ set q = r) ∨
      (r ∈ t ∧ (key r = key new → guard r = false)) := by
  unfold insertOnConflict at h
  split at h
  · rcases mem_updateWhere.mp h with ⟨q, hq, hp, rfl⟩ | ⟨hr, hp⟩
    · rw [Bool.and_eq_true, decide_eq_true_eq] at hp
      exact .inr (.inl ⟨q, hq, hp.1, hp.2, rfl⟩)
    · refine .inr (.inr ⟨hr, fun hkey => ?_⟩)
      simpa [hkey] using hp
  next hany =>
    have hfresh : ∀ q ∈ t, key q ≠ key new := by simpa using hany
    rcases mem_append.mp h with hr | hr
    · exact .inr (.inr ⟨hr, fun hkey => absurd hkey (hfresh r hr)⟩)
    · exact .inl ⟨by simpa using hr, hfresh⟩

lemma insertOnConflict_snd_of_new (h : ∀ q ∈ t, key q ≠ key new) :
    (insertOnConflict key guard set new t).2 = true := by
  unfold insertOnConflict
  rw [if_neg (by simpa using h)]

lemma insertOnConflict_snd_of_conflict {q : ρ} (hq : q ∈ t) (hkey : key q = key new)
    (hguard : guard q = true) : (insertOnConflict key guard set new t).2 = true := by
  have hany : (t.any fun r => decide (key r = key new)) = true :=
    any_eq_true.mpr ⟨q, hq, by simp [hkey]⟩
  unfold insertOnConflict
  rw [if_pos hany]
  exact any_eq_true.mpr ⟨q, hq, by simp [hkey, hguard]⟩

lemma mem_insertOnConflict_of_ne (hr : r ∈ t) (hne : key r ≠ key new) :
    r ∈ (insertOnConflict key guard set new t).1 := by
  unfold insertOnConflict
  split
  · exact mem_updateWhere.mpr (.inr ⟨hr, by simp [hne]⟩)
  · exact mem_append_left _ hr

lemma exists_mem_insertOnConflict (key : ρ → κ) (guard : ρ → Bool) (set : ρ → ρ) (new : ρ)
    (t : List ρ) (hguard : ∀ r, guard r = true) :
    new ∈ (insertOnConflict key guard set new t).1 ∨
      ∃ q ∈ t, key q = key new ∧ set q ∈ (insertOnConflict key guard set new t).1 := by
  unfold insertOnConflict
  split
  next hany =>
    obtain ⟨q, hq, hkey⟩ := any_eq_true.mp hany
    rw [decide_eq_true_eq] at hkey
    exact .inr ⟨q, hq, hkey, mem_updateWhere.mpr (.inl ⟨q, hq, by simp [hkey, hguard], rfl⟩)⟩
  · exact .inl (mem_append_right _ (mem_singleton_self new))

end

lemma countP_updateWhere (p q : ρ → Bool) (f : ρ → ρ) (t : List ρ) :
    (updateWhere p f t).countP q = t.countP fun r => q (if p r then f r else r) := by
  rw [updateWhere, countP_map]
  rfl

/-! ## The row of a key -/

section Lookup

variable [DecidableEq κ] {key : ρ → κ} {k : κ}

variable {t : List ρ}

lemma key_of_lookup {r : ρ} (h : lookup key k t = some r) : key r = k := by
  simpa using find?_some h

lemma mem_of_lookup {r : ρ} (h : lookup key k t = some r) : r ∈ t :=
  mem_of_find?_eq_some h

lemma lookup_eq_none_iff : lookup key k t = none ↔ ∀ r ∈ t, key r ≠ k := by
  simp [lookup]

variable {p : ρ → Bool}

lemma lookup_updateWhere {f : ρ → ρ} (hf : ∀ r, key (f r) = key r) (t : List ρ) :
    lookup key k (updateWhere p f t) = (lookup key k t).map fun r => if p r then f r else r := by
  have hkey : ∀ r, key (if p r then f r else r) = key r := by
    intro r
    split
    · exact hf r
    · rfl
  rw [updateWhere, lookup, find?_map]
  simp only [Function.comp_def, hkey]
  rfl

lemma lookup_replace {f : ρ → ρ} {r new : ρ} (hr : lookup key k t = some r) (hp : p r = true)
    (hf : ∀ q, p q = true → f q = new) (hnew : key new = k) :
    lookup key k (updateWhere p f t) = some new := by
  induction t with
  | nil => cases hr
  | cons q _ ih =>
    rw [updateWhere, map_cons, lookup]
    by_cases hq : p q = true
    · -- the first row that is replaced has the key from now on
      rw [if_pos hq, hf q hq]
      exact find?_cons_of_pos (by simpa using hnew)
    · rw [if_neg hq]
      by_cases hkey : key q = k
      · rw [lookup, find?_cons_of_pos (by simpa using hkey)] at hr
        obtain ⟨⟩ := hr
        exact absurd hp hq
      · rw [lookup, find?_cons_of_neg (by simpa using hkey)] at hr
        rw [find?_cons_of_neg (by simpa using hkey)]
        exact ih hr

lemma lookup_append_singleton (t : List ρ) (new : ρ) :
    lookup key k (t ++ [new]) = (lookup key k t).or (if key new = k then some new else none) := by
  rw [lookup, find?_append, lookup]
  by_cases hk : key new = k <;> simp [hk]

lemma UniqueOn.lookup_deleteWhere (h : UniqueOn key t) :
    lookup key k (deleteWhere p t) = (lookup key k t).filter fun r => !p r := by
  induction t with
  | nil => rfl
  | cons r t ih =>
    obtain ⟨hr, ht⟩ := nodup_cons.mp h
    by_cases hk : key r = k
    · -- the rest of the table has no row of the key
      have hrest : ∀ q ∈ t, key q ≠ k := by
        rintro q hq rfl
        exact hr (mem_map.mpr ⟨q, hq, hk.symm⟩)
      have hnone : lookup key k (deleteWhere p t) = none :=
        lookup_eq_none_iff.mpr fun q hq => hrest q (mem_deleteWhere.mp hq).1
      have hfound : lookup key k (r :: t) = some r := by simp [lookup, hk]
      rw [hfound]
      cases hp : p r with
      | true =>
        have hdel : deleteWhere p (r :: t) = deleteWhere p t := by simp [deleteWhere, hp]
        rw [hdel, hnone]
        simp [Option.filter, hp]
      | false =>
        have hdel : deleteWhere p (r :: t) = r :: deleteWhere p t := by simp [deleteWhere, hp]
        rw [hdel]
        simp [lookup, hk, Option.filter, hp]
    · have hskip : lookup key k (r :: t) = lookup key k t := by simp [lookup, hk]
      rw [hskip, ← ih ht]
      cases hp : p r <;> simp [deleteWhere, lookup, hp, hk]

lemma UniqueOn.count_map_filter [BEq κ] [LawfulBEq κ] (h : UniqueOn key t) (p : ρ → Bool) :
    ((t.filter p).map key).count k = if (lookup key k t).any p then 1 else 0 := by
  induction t with
  | nil => rfl
  | cons r t ih =>
    obtain ⟨hr, ht⟩ := nodup_cons.mp h
    by_cases hk : key r = k
    · have hrest : ((t.filter p).map key).count k = 0 := by
        refine count_eq_zero.mpr fun hmem => hr ?_
        obtain ⟨q, hq, hkey⟩ := mem_map.mp hmem
        exact mem_map.mpr ⟨q, (mem_filter.mp hq).1, hkey.trans hk.symm⟩
      have hfound : lookup key k (r :: t) = some r := by simp [lookup, hk]
      cases hp : p r <;> simp [hp, hk, hfound, hrest]
    · have hskip : lookup key k (r :: t) = lookup key k t := by simp [lookup, hk]
      rw [hskip, ← ih ht]
      cases hp : p r <;> simp [hp, hk]

end Lookup

/-! ## Unique indexes -/

lemma UniqueOn.eq_of_key_eq (h : UniqueOn key t) {q : ρ} (hr : r ∈ t) (hq : q ∈ t)
    (hkey : key r = key q) : r = q :=
  inj_on_of_nodup_map h hr hq hkey

lemma UniqueOn.filter_eq_singleton (h : UniqueOn key t) (hr : r ∈ t) (hp : p r = true)
    (hkey : ∀ q ∈ t, p q = true → key q = key r) : t.filter p = [r] := by
  have hnodup : (t.filter p).Nodup := (List.Nodup.of_map key h).filter p
  have hall : ∀ q, q ∈ t.filter p ↔ q ∈ [r] := by
    intro q
    rw [mem_filter, mem_singleton]
    constructor
    · rintro ⟨hq, hpq⟩
      exact h.eq_of_key_eq hq hr (hkey q hq hpq)
    · rintro rfl
      exact ⟨hr, hp⟩
  exact perm_singleton.mp ((perm_ext_iff_of_nodup hnodup (by simp)).mpr hall)

lemma UniqueOn.countP_updateWhere_add_one [DecidableEq κ] {q : ρ → Bool} (h : UniqueOn key t)
    (hr : r ∈ t) (hpre : q r = true) (hafter : q (f r) = false) :
    (Table.updateWhere (fun x => decide (key x = key r)) f t).countP q + 1 = t.countP q := by
  have hrow : ∀ x ∈ t, key x = key r → x = r := fun x hx hkey => h.eq_of_key_eq hx hr hkey
  -- the rows that are still counted are the counted ones with another key
  have hrest : (Table.updateWhere (fun x => decide (key x = key r)) f t).countP q =
      (t.filter fun x => !decide (key x = key r)).countP q := by
    rw [countP_updateWhere, countP_filter]
    refine countP_congr fun x hx => ?_
    by_cases hkey : key x = key r
    · obtain rfl := hrow x hx hkey
      simp [hafter]
    · simp [hkey]
  have hself : (t.filter fun x => decide (key x = key r)).countP q = 1 := by
    rw [h.filter_eq_singleton hr (by simp) fun x _ hx => by simpa using hx]
    simp [hpre]
  rw [hrest, Nat.add_comm, ← hself]
  exact (countP_eq_countP_filter_add t q fun x => decide (key x = key r)).symm

lemma map_key_updateWhere (hf : ∀ r, p r = true → key (f r) = key r) (t : List ρ) :
    (updateWhere p f t).map key = t.map key := by
  simp only [updateWhere, map_map]
  refine map_congr_left fun r _ => ?_
  by_cases hp : p r = true
  · simp [hp, hf r hp]
  · simp [hp]

lemma UniqueOn.updateWhere (h : UniqueOn key t) (hf : ∀ r, key (f r) = key r) :
    UniqueOn key (updateWhere p f t) := by
  unfold UniqueOn
  rw [map_key_updateWhere fun r _ => hf r]
  exact h

lemma UniqueOn.eraseP_eq_deleteWhere [DecidableEq κ] (h : UniqueOn key t) (k : κ) :
    t.eraseP (fun r => decide (key r = k)) = deleteWhere (fun r => decide (key r = k)) t := by
  induction t with
  | nil => rfl
  | cons r t ih =>
    obtain ⟨hr, ht⟩ := nodup_cons.mp h
    by_cases hk : key r = k
    · have hrest : ∀ q ∈ t, key q ≠ k := by
        rintro q hq rfl
        exact hr (mem_map.mpr ⟨q, hq, hk.symm⟩)
      have hkeep : deleteWhere (fun q => decide (key q = k)) t = t :=
        filter_eq_self.mpr fun q hq => by simp [hrest q hq]
      simpa [deleteWhere, hk] using hkeep.symm
    · have hkeep := ih ht
      simpa [deleteWhere, hk] using hkeep

lemma UniqueOn.deleteWhere (h : UniqueOn key t) : UniqueOn key (deleteWhere p t) :=
  (List.Sublist.map key filter_sublist).nodup h

lemma UniqueOn.append_singleton (h : UniqueOn key t) (hnew : ∀ q ∈ t, key q ≠ key new) :
    UniqueOn key (t ++ [new]) := by
  unfold UniqueOn
  rw [map_append, map_singleton, nodup_append]
  refine ⟨h, by simp, ?_⟩
  intro _ ha b hb
  obtain ⟨q, hq, rfl⟩ := mem_map.mp ha
  obtain rfl : b = key new := by simpa using hb
  exact hnew q hq

lemma UniqueOn.insertOnConflict {ι : Type*} [DecidableEq κ] {idx : ρ → ι} (h : UniqueOn idx t)
    (hset : ∀ r, key r = key new → idx (set r) = idx r)
    (hnew : (∀ q ∈ t, key q ≠ key new) → ∀ q ∈ t, idx q ≠ idx new) :
    UniqueOn idx (Table.insertOnConflict key guard set new t).1 := by
  unfold Table.insertOnConflict
  split
  · unfold UniqueOn
    rw [map_key_updateWhere fun r hr => hset r (by simp_all)]
    exact h
  next hany =>
    exact h.append_singleton (hnew (by simpa using hany))

lemma lookup_insertOnConflict [DecidableEq κ] {k : κ} (hset : ∀ r, key (set r) = key r) :
    lookup key k (insertOnConflict key guard set new t).1 = if k = key new then
      some (((lookup key k t).map fun r => if guard r then set r else r).getD new)
      else lookup key k t := by
  unfold insertOnConflict
  split
  next hany =>
    rw [lookup_updateWhere hset]
    cases hfind : lookup key k t with
    | none =>
      have hk : k ≠ key new := by
        rintro rfl
        obtain ⟨r, hr, hkey⟩ := any_eq_true.mp hany
        exact lookup_eq_none_iff.mp hfind r hr (of_decide_eq_true hkey)
      simp [hk]
    | some =>
      have hr := key_of_lookup hfind
      by_cases hk : k = key new <;> simp [hr, hk]
  next hany =>
    rw [lookup_append_singleton]
    by_cases hk : k = key new
    · have hfind : lookup key (key new) t = none := lookup_eq_none_iff.mpr (by simpa using hany)
      simp [hk, hfind]
    · simp [hk, Ne.symm hk]

lemma UniqueOn.insertOnConflict_snd [DecidableEq κ] (h : UniqueOn key t) :
    (Table.insertOnConflict key guard set new t).2 = (lookup key (key new) t).all guard := by
  cases hfind : lookup key (key new) t with
  | none => exact insertOnConflict_snd_of_new (lookup_eq_none_iff.mp hfind)
  | some r =>
    have hr := mem_of_lookup hfind
    have hkey := key_of_lookup hfind
    -- the row of the key is the only one that the guard is asked about
    have hone : ∀ q ∈ t, key q = key new → q = r := fun q hq hsame =>
      h.eq_of_key_eq hq hr (hsame.trans hkey.symm)
    unfold Table.insertOnConflict
    rw [if_pos (any_eq_true.mpr ⟨r, hr, by simpa using hkey⟩), Bool.eq_iff_iff, any_eq_true]
    constructor
    · rintro ⟨q, hq, hguard⟩
      simp only [Bool.and_eq_true, decide_eq_true_eq] at hguard
      rw [← hone q hq hguard.1]
      exact hguard.2
    · intro hguard
      exact ⟨r, hr, by simpa [hkey] using hguard⟩

end Table
