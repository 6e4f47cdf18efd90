import Mathlib

/-!
# First come, first served

A line is described by the customers that joined it, in the order in which they did, and by those
that were served, that were refused and that wait.  Customers may also be served or refused without
joining the line.  `FirstCome` says that every customer has one fate and that, apart from those who
were refused, the customers who joined are served in the order in which they joined.
-/

/-- Those who joined and were not refused are served in their order. -/
structure FirstCome {α : Type*} [DecidableEq α] (joined served refused waiting : List α) :
    Prop where
  distinct : (served ++ refused ++ waiting).Nodup
  ordered : joined.filter (· ∉ refused) = served.filter (· ∈ joined) ++ waiting

namespace FirstCome

open List

variable {α : Type*} [DecidableEq α] {joined served refused waiting rest : List α} {a : α}

lemma nil : FirstCome ([] : List α) [] [] [] :=
  ⟨nodup_nil, rfl⟩

section

variable (h : FirstCome joined served refused waiting)
include h

lemma mem_joined (ha : a ∈ waiting) : a ∈ joined := by
  have hmem : a ∈ joined.filter (· ∉ refused) := by
    rw [h.ordered]
    exact mem_append_right _ ha
  exact mem_of_mem_filter hmem

lemma nodup_waiting : waiting.Nodup :=
  (nodup_append.mp h.distinct).2.1

lemma not_mem_served (ha : a ∈ refused) : a ∉ served := by
  have hset := (nodup_append.mp h.distinct).1
  exact fun hserved => (nodup_append.mp hset).2.2 a hserved a ha rfl

lemma not_mem_served_of_waiting (ha : a ∈ waiting) : a ∉ served := fun hserved =>
  (nodup_append.mp h.distinct).2.2 a (mem_append_left _ hserved) a ha rfl

section

variable (ha : a ∉ served ++ refused ++ waiting)
include ha

lemma serve_new (hjoined : a ∉ joined) : FirstCome joined (served ++ [a]) refused waiting := by
  have hperm : (served ++ [a] ++ refused ++ waiting).Perm
      (a :: (served ++ refused ++ waiting)) := by
    simp only [append_assoc]
    exact perm_middle
  constructor
  · exact hperm.nodup_iff.mpr (nodup_cons.mpr ⟨ha, h.distinct⟩)
  · rw [h.ordered, filter_append, filter_singleton]
    simp [hjoined]

lemma refuse_new (hjoined : a ∉ joined) : FirstCome joined served (refused ++ [a]) waiting := by
  have hperm : (served ++ (refused ++ [a]) ++ waiting).Perm
      (a :: (served ++ refused ++ waiting)) := by
    rw [← append_assoc, append_assoc (served ++ refused)]
    exact perm_middle
  constructor
  · exact hperm.nodup_iff.mpr (nodup_cons.mpr ⟨ha, h.distinct⟩)
  · refine Eq.trans (filter_congr fun b hb => decide_eq_decide.mpr ?_) h.ordered
    have hne : b ≠ a := fun heq => hjoined (heq ▸ hb)
    simp [hne]

lemma join : FirstCome (joined ++ [a]) served refused (waiting ++ [a]) := by
  have hserved : a ∉ served := fun hmem =>
    ha (mem_append_left _ (mem_append_left _ hmem))
  have href : a ∉ refused := fun hmem =>
    ha (mem_append_left _ (mem_append_right _ hmem))
  have hkeep : served.filter (· ∈ joined ++ [a]) = served.filter (· ∈ joined) := by
    refine filter_congr fun b hb => decide_eq_decide.mpr ?_
    have hne : b ≠ a := fun heq => hserved (heq ▸ hb)
    simp [hne]
  constructor
  · rw [← append_assoc]
    exact (perm_append_singleton _ _).nodup_iff.mpr (nodup_cons.mpr ⟨ha, h.distinct⟩)
  · rw [hkeep, filter_append, h.ordered, filter_singleton]
    simp [href]

end

end

lemma serve_head (h : FirstCome joined served refused (a :: rest)) :
    FirstCome joined (served ++ [a]) refused rest := by
  have hperm : (served ++ [a] ++ refused ++ rest).Perm (served ++ refused ++ a :: rest) := by
    simp only [append_assoc, singleton_append]
    exact List.Perm.append_left served perm_middle.symm
  constructor
  · exact hperm.nodup_iff.mpr h.distinct
  · rw [h.ordered, filter_append, filter_singleton]
    simp [h.mem_joined mem_cons_self]

lemma refuse_waiting (h : FirstCome joined served refused waiting) (ha : a ∈ waiting) :
    FirstCome joined served (refused ++ [a]) (waiting.filter (· ≠ a)) := by
  have hwait : (a :: waiting.filter (· ≠ a)).Perm waiting := by
    have hfilter : waiting.filter (· ≠ a) = waiting.erase a := by
      rw [h.nodup_waiting.erase_eq_filter]
      refine filter_congr fun b _ => ?_
      by_cases hb : b = a <;> simp [hb]
    rw [hfilter]
    exact (perm_cons_erase ha).symm
  have hperm : (served ++ (refused ++ [a]) ++ waiting.filter (· ≠ a)).Perm
      (served ++ refused ++ waiting) := by
    rw [← append_assoc, append_assoc (served ++ refused)]
    exact List.Perm.append_left _ hwait
  have hserved : served.filter (· ∈ joined) = (served.filter (· ∈ joined)).filter (· ≠ a) := by
    refine (filter_eq_self.mpr fun b hb => ?_).symm
    have hne : b ≠ a := fun heq =>
      h.not_mem_served_of_waiting ha (heq ▸ mem_of_mem_filter hb)
    simp [hne]
  have hjoined : joined.filter (· ∉ refused ++ [a]) =
      (joined.filter (· ∉ refused)).filter (· ≠ a) := by
    rw [filter_filter]
    refine filter_congr fun b _ => ?_
    by_cases hb : b = a <;> simp [hb]
  constructor
  · exact hperm.nodup_iff.mpr h.distinct
  · rw [hjoined, h.ordered, filter_append, ← hserved]

end FirstCome
