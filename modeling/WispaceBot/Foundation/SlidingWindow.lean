import Mathlib

/-!
# Sliding windows

`Bounded` says that no half-open window of a given width has more than a given number of live
events.  An event is admitted if, with it, at most that many live events are later than one width
before it (`Bounded.append`), in any order of the times.
-/

namespace SlidingWindow

variable {ε : Type*}

section

variable (time : ε → ℤ) (live : ε → Bool)

/-- The live events in the window that has `start` and does not have its end. -/
def countFrom (width start : ℤ) (events : List ε) : ℕ :=
  events.countP fun e => live e && decide (start ≤ time e ∧ time e < start + width)

/-- The live events in the window that does not have `start` and has its end. -/
def countAfter (width start : ℤ) (events : List ε) : ℕ :=
  events.countP fun e => live e && decide (start < time e ∧ time e ≤ start + width)

/-- The live events later than `since`. -/
def countSince (since : ℤ) (events : List ε) : ℕ :=
  events.countP fun e => live e && decide (since < time e)

def Bounded (limit : ℕ) (width : ℤ) (events : List ε) : Prop :=
  ∀ start, countFrom time live width start events ≤ limit ∧
    countAfter time live width start events ≤ limit

end

variable {time : ε → ℤ} {live : ε → Bool} {limit : ℕ} {width : ℤ} {events : List ε}

lemma Bounded.nil : Bounded time live limit width ([] : List ε) :=
  fun _ => ⟨Nat.zero_le _, Nat.zero_le _⟩

variable {new : ε}

lemma countP_append_of_not {p : ε → Bool} (h : p new = false) :
    (events ++ [new]).countP p = events.countP p := by
  rw [List.countP_append, List.countP_singleton, h]
  simp

lemma Bounded.append (h : Bounded time live limit width events) {since : ℤ}
    (hsince : since + width ≤ time new)
    (hcount : countSince time live since (events ++ [new]) ≤ limit) :
    Bounded time live limit width (events ++ [new]) := by
  intro start
  constructor
  · by_cases hin : start ≤ time new ∧ time new < start + width
    · refine Nat.le_trans (List.countP_mono_left fun e _ he => ?_) hcount
      simp only [Bool.and_eq_true, decide_eq_true_eq] at he ⊢
      exact ⟨he.1, by omega⟩
    · have hsame : countFrom time live width start (events ++ [new]) =
          countFrom time live width start events := countP_append_of_not (by simp [hin])
      rw [hsame]
      exact (h start).1
  · by_cases hin : start < time new ∧ time new ≤ start + width
    · refine Nat.le_trans (List.countP_mono_left fun e _ he => ?_) hcount
      simp only [Bool.and_eq_true, decide_eq_true_eq] at he ⊢
      exact ⟨he.1, by omega⟩
    · have hsame : countAfter time live width start (events ++ [new]) =
          countAfter time live width start events := countP_append_of_not (by simp [hin])
      rw [hsame]
      exact (h start).2

lemma Bounded.append_of_not_live (h : Bounded time live limit width events)
    (hnew : live new = false) : Bounded time live limit width (events ++ [new]) := by
  intro start
  have hfrom : countFrom time live width start (events ++ [new]) =
      countFrom time live width start events := countP_append_of_not (by simp [hnew])
  have hafter : countAfter time live width start (events ++ [new]) =
      countAfter time live width start events := countP_append_of_not (by simp [hnew])
  rw [hfrom, hafter]
  exact h start

variable {R : ε → ε → Prop}

lemma countP_le_of_sublistForall₂ {p : ε → Bool} {kept : List ε}
    (hp : ∀ new old, R new old → p new = true → p old = true)
    (h : List.SublistForall₂ R kept events) : kept.countP p ≤ events.countP p := by
  induction h with
  | nil => exact Nat.zero_le _
  | @cons new old kept events hR _ ih =>
    rw [List.countP_cons, List.countP_cons]
    by_cases hnew : p new = true
    · rw [if_pos hnew, if_pos (hp new old hR hnew)]
      omega
    · rw [if_neg hnew]
      omega
  | @cons_right old kept events _ ih =>
    rw [List.countP_cons]
    omega

lemma Bounded.of_sublistForall₂ {kept : List ε} (htime : ∀ new old, R new old → time new = time old)
    (hlive : ∀ new old, R new old → live new = true → live old = true)
    (hkept : List.SublistForall₂ R kept events) (h : Bounded time live limit width events) :
    Bounded time live limit width kept := by
  intro start
  have hmono : ∀ q : ℤ → Bool, kept.countP (fun e => live e && q (time e)) ≤
      events.countP fun e => live e && q (time e) := by
    intro _
    refine countP_le_of_sublistForall₂ (fun new old hR hnew => ?_) hkept
    rw [Bool.and_eq_true] at hnew ⊢
    exact ⟨hlive new old hR hnew.1, htime new old hR ▸ hnew.2⟩
  exact ⟨Nat.le_trans (hmono fun t => decide (start ≤ t ∧ t < start + width)) (h start).1,
    Nat.le_trans (hmono fun t => decide (start < t ∧ t ≤ start + width)) (h start).2⟩

end SlidingWindow
