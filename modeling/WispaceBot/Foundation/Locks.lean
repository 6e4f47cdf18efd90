import Mathlib.Logic.Function.Basic

/-!
# Exclusive locks

Processes hold locks; what a process holds is read off its local state.  `Exclusive` says that no
lock is held twice, `Free` that nobody else holds a lock.  A step of one process keeps exclusion if
every lock it then holds was its own or free.
-/

namespace Locks

variable {ι π κ : Type*} {holds : π → List κ} {procs : ι → π}

def Exclusive (holds : π → List κ) (procs : ι → π) : Prop :=
  ∀ i j lock, lock ∈ holds (procs i) → lock ∈ holds (procs j) → i = j

/-- Nobody but `i` holds the lock. -/
def Free (holds : π → List κ) (procs : ι → π) (i : ι) (lock : κ) : Prop :=
  ∀ j, j ≠ i → lock ∉ holds (procs j)

lemma Exclusive.update [DecidableEq ι] (h : Exclusive holds procs) {i : ι} {p : π}
    (hlocks : ∀ lock ∈ holds p, lock ∈ holds (procs i) ∨ Free holds procs i lock) :
    Exclusive holds (Function.update procs i p) := by
  -- the locks of the process that steps are held by nobody else
  have hother : ∀ j lock, j ≠ i → lock ∈ holds p → lock ∉ holds (procs j) := by
    intro j lock hne hp hj
    rcases hlocks lock hp with hown | hfree
    · exact hne (h j i lock hj hown)
    · exact hfree j hne hj
  intro j k lock hj hk
  by_cases hji : j = i
  · by_cases hki : k = i
    · rw [hji, hki]
    · rw [hji, Function.update_self] at hj
      rw [Function.update_of_ne hki] at hk
      exact absurd hk (hother k lock hki hj)
  · rw [Function.update_of_ne hji] at hj
    by_cases hki : k = i
    · rw [hki, Function.update_self] at hk
      exact absurd hj (hother j lock hji hk)
    · rw [Function.update_of_ne hki] at hk
      exact h j k lock hj hk

lemma Exclusive.release [DecidableEq ι] (h : Exclusive holds procs) {i : ι} {p : π}
    (hp : holds p = []) : Exclusive holds (Function.update procs i p) := by
  refine h.update fun lock hlock => ?_
  rw [hp] at hlock
  cases hlock

end Locks
