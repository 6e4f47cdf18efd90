import Mathlib.Data.List.Sort

/-!
# Sorted sets

A sorted set holds members with integer scores, each member once.  The operations are those of a key
value server: `zadd` sets a member's score, `zrem` removes a member, `zscore` looks it up, and
`zrangebyscore` lists the members with a score in an interval by ascending score, members with equal
scores in their own order, up to a limit.
-/

/-- Members with scores, each at most once. -/
structure SortedSet (α : Type*) where
  entries : List (α × ℤ)
  nodup : (entries.map Prod.fst).Nodup

namespace SortedSet

open List

variable {α : Type*}

def empty : SortedSet α := ⟨[], nodup_nil⟩

def zcard (s : SortedSet α) : ℕ := s.entries.length

section Membership

variable [DecidableEq α]

section

variable (s : SortedSet α) (member : α)

def zrem : SortedSet α where
  entries := s.entries.filter fun entry => entry.1 ≠ member
  nodup := s.nodup.sublist (filter_sublist.map _)

/-- The set with a member at a score, in place of the score it may have had. -/
def zadd (score : ℤ) : SortedSet α where
  entries := (member, score) :: (s.zrem member).entries
  nodup := by
    rw [map_cons, nodup_cons]
    refine ⟨fun h => ?_, (s.zrem member).nodup⟩
    obtain ⟨_, hentry, heq⟩ := mem_map.mp h
    have hne := (mem_filter.mp hentry).2
    simp only [ne_eq, decide_eq_true_eq] at hne
    exact hne heq

def zscore : Option ℤ :=
  (s.entries.find? fun entry => entry.1 = member).map Prod.snd

end

section

variable (s : SortedSet α)
include s

lemma zscore_eq_some_iff {member : α} {score : ℤ} :
    s.zscore member = some score ↔ (member, score) ∈ s.entries := by
  unfold zscore
  constructor
  · intro h
    obtain ⟨⟨m, _⟩, hfind, rfl⟩ := Option.map_eq_some_iff.mp h
    have hm : m = member := by simpa using find?_some hfind
    exact hm ▸ mem_of_find?_eq_some hfind
  · intro h
    cases hfind : s.entries.find? fun entry => entry.1 = member with
    | none =>
      have hnone := find?_eq_none.mp hfind _ h
      simp at hnone
    | some entry =>
      have hm : entry.1 = member := by simpa using find?_some hfind
      have hentry : entry = (member, score) :=
        inj_on_of_nodup_map s.nodup (mem_of_find?_eq_some hfind) h hm
      simp [hentry]

@[simp] lemma zscore_zadd_self (member : α) (score : ℤ) :
    (s.zadd member score).zscore member = some score := by
  rw [zscore_eq_some_iff]
  exact mem_cons_self

@[simp] lemma zscore_zrem_self (member : α) : (s.zrem member).zscore member = none := by
  rw [Option.eq_none_iff_forall_ne_some]
  intro _ h
  rw [zscore_eq_some_iff] at h
  simpa using (mem_filter.mp h).2

lemma zscore_zrem_of_ne {member other : α} (h : other ≠ member) :
    (s.zrem member).zscore other = s.zscore other := by
  apply Option.ext
  intro _
  rw [zscore_eq_some_iff, zscore_eq_some_iff]
  simp [zrem, h]

lemma zscore_zadd_of_ne {member other : α} (score : ℤ) (h : other ≠ member) :
    (s.zadd member score).zscore other = s.zscore other := by
  apply Option.ext
  intro _
  rw [zscore_eq_some_iff, zscore_eq_some_iff]
  simp [zadd, zrem, h]

end

end Membership

section Range

variable [LinearOrder α]

def before (a b : α × ℤ) : Prop := a.2 < b.2 ∨ a.2 = b.2 ∧ a.1 ≤ b.1

instance : DecidableRel (before : α × ℤ → α × ℤ → Prop) := fun _ _ => inferInstanceAs
  (Decidable (_ ∨ _))

/-- The members with a score from `lo` to `hi`, at most `limit` of them. -/
def zrangebyscore (s : SortedSet α) (lo hi : ℤ) (limit : ℕ) : List (α × ℤ) :=
  ((s.entries.filter fun entry => lo ≤ entry.2 ∧ entry.2 ≤ hi).insertionSort before).take limit

lemma mem_zrangebyscore (s : SortedSet α) {lo hi : ℤ} {limit : ℕ} (hlimit : s.zcard ≤ limit)
    {entry : α × ℤ} :
    entry ∈ s.zrangebyscore lo hi limit ↔ entry ∈ s.entries ∧ lo ≤ entry.2 ∧ entry.2 ≤ hi := by
  have hlen : ((s.entries.filter fun entry => lo ≤ entry.2 ∧ entry.2 ≤ hi).insertionSort
      before).length ≤ limit := by
    rw [length_insertionSort]
    exact (length_filter_le _ _).trans hlimit
  rw [zrangebyscore, take_of_length_le hlen, mem_insertionSort, mem_filter]
  simp

lemma length_zrangebyscore_le (s : SortedSet α) (lo hi : ℤ) (limit : ℕ) :
    (s.zrangebyscore lo hi limit).length ≤ s.zcard := by
  rw [zrangebyscore, length_take, length_insertionSort]
  exact (min_le_right _ _).trans (length_filter_le _ _)

end Range

end SortedSet
