import Mathlib.Data.List.Basic

/-!
# What a log has answered

A log is a list of entries, the oldest first.  Some entries open a debt and others settle it:
`Settled` says that every entry that opens one is followed by an entry that settles it, and
`Guarded` that the entries that need it were only made where no debt was open.
-/

namespace History

variable {ε : Type*}

def Settled (opens settles : ε → Prop) (log : List ε) : Prop :=
  ∀ past x later, log = past ++ x :: later → opens x → ∃ y ∈ later, settles y

def Guarded (opens settles needs : ε → Prop) (log : List ε) : Prop :=
  ∀ past x later, log = past ++ x :: later → needs x → Settled opens settles past

variable {opens settles needs : ε → Prop} {log new : List ε}

lemma settled_of_forall_not (h : ∀ x ∈ log, ¬ opens x) : Settled opens settles log := by
  rintro _ x _ rfl hopens
  exact absurd hopens (h x (by simp))

lemma split_append {past later : List ε} {x : ε} (h : log ++ new = past ++ x :: later) :
    (∃ rest, log = past ++ x :: rest ∧ later = rest ++ new) ∨
      ∃ done, past = log ++ done ∧ new = done ++ x :: later := by
  rcases List.append_eq_append_iff.mp h with ⟨done, rfl, hnew⟩ | ⟨rest, rfl, hrest⟩
  · exact .inr ⟨done, rfl, hnew⟩
  · cases rest with
    | nil => exact .inr ⟨[], by simp, by simpa using hrest.symm⟩
    | cons _ rest =>
      obtain ⟨rfl, hlater⟩ := List.cons.inj hrest
      exact .inl ⟨rest, rfl, hlater⟩

lemma Settled.append (h : Settled opens settles log) (hnew : ∀ x ∈ new, ¬ opens x) :
    Settled opens settles (log ++ new) := by
  intro past x _ heq hopens
  rcases split_append heq with ⟨rest, hlog, rfl⟩ | ⟨_, rfl, rfl⟩
  · obtain ⟨y, hy, hset⟩ := h past x rest hlog hopens
    exact ⟨y, List.mem_append_left _ hy, hset⟩
  · exact absurd hopens (hnew x (by simp))

lemma settled_concat {x : ε} (hset : settles x) (hopens : ¬ opens x) :
    Settled opens settles (log ++ [x]) := by
  intro _ y _ heq hy
  rcases split_append heq with ⟨_, -, rfl⟩ | ⟨_, -, hsingle⟩
  · exact ⟨x, by simp, hset⟩
  · obtain rfl : y = x := by
      have hmem : y ∈ [x] := hsingle ▸ by simp
      simpa using hmem
    exact absurd hy hopens

lemma guarded_nil : Guarded opens settles needs [] := by
  intro _ _ _ heq
  simp at heq

lemma Guarded.append (h : Guarded opens settles needs log) (hnew : ∀ x ∈ new, ¬ needs x) :
    Guarded opens settles needs (log ++ new) := by
  intro past x _ heq hneeds
  rcases split_append heq with ⟨rest, hlog, -⟩ | ⟨_, -, rfl⟩
  · exact h past x rest hlog hneeds
  · exact absurd hneeds (hnew x (by simp))

lemma Guarded.concat (h : Guarded opens settles needs log) (hlog : Settled opens settles log)
    (x : ε) : Guarded opens settles needs (log ++ [x]) := by
  intro past y _ heq hneeds
  rcases split_append heq with ⟨rest, hpast, -⟩ | ⟨done, rfl, hsingle⟩
  · exact h past y rest hpast hneeds
  · obtain rfl : done = [] := by
      cases done with
      | nil => rfl
      | cons => simp at hsingle
    simpa using hlog

end History
