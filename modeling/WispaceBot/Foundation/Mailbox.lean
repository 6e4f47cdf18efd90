import Mathlib.Data.List.Basic
import Mathlib.Logic.Relation

/-!
# A mailbox that is emptied in batches

While it is idle the messages that arrive wait at the front and an alarm is set; the front is handed
over as one batch, and meanwhile messages wait at the back.  A buffer that is full drops its oldest
message.  `Conserved`: the arrived messages split into those handed over, dropped and waiting, in
order.
-/

/-- Messages that wait, in front or behind the batch at work, and what became of the others. -/
structure Mailbox (α : Type*) where
  (front back : List α)
  (busy armed : Bool)
  (arrived handed : List α)
  reported : ℕ

namespace Mailbox

open List Function

variable {α : Type*}

/-- The newest `cap` messages of a buffer. -/
def newest (cap : ℕ) (buffer : List α) : List α :=
  buffer.drop (buffer.length - cap)

/-- What happens to a message that leaves the mailbox. -/
inductive Fate
  | handed
  | dropped
  deriving DecidableEq

def withFate (fate : Fate) (history : List (α × Fate)) : List α :=
  (history.filter fun entry => entry.2 = fate).map Prod.fst

def blank : Mailbox α where
  front := []
  back := []
  busy := false
  armed := false
  arrived := []
  handed := []
  reported := 0

def arriveFront (cap : ℕ) (x : α) (m : Mailbox α) : Mailbox α :=
  { m with
    front := newest cap (m.front ++ [x])
    armed := true
    arrived := m.arrived ++ [x]
    reported := m.reported + ((m.front ++ [x]).length - cap) }

/-- A message arrives while a batch is being worked on; the bound `0` is none. -/
def arriveBack (cap : ℕ) (x : α) (m : Mailbox α) : Mailbox α :=
  { m with
    back := if 0 < cap then newest cap (m.back ++ [x]) else m.back ++ [x]
    arrived := m.arrived ++ [x]
    reported := m.reported + if 0 < cap then (m.back ++ [x]).length - cap else 0 }

def handOver (m : Mailbox α) : Mailbox α :=
  { m with front := [], busy := true, armed := false, handed := m.handed ++ m.front }

/-- The work on a batch ends; the alarm is set again if messages wait. -/
def release (m : Mailbox α) : Mailbox α :=
  { m with
    front := m.front ++ m.back
    back := []
    busy := false
    armed := m.armed || !(m.front ++ m.back).isEmpty }

def disarm (m : Mailbox α) : Mailbox α :=
  { m with armed := false }

def arrive (cap : ℕ) (x : α) (m : Mailbox α) : Mailbox α :=
  if m.busy then m.arriveBack cap x else m.arriveFront cap x

/-- What a mailbox does by itself. -/
inductive Work : Mailbox α → Mailbox α → Prop
  | handOver (m : Mailbox α) (idle : m.busy = false) (waiting : m.front ≠ []) : Work m m.handOver
  | release (m : Mailbox α) (busy : m.busy = true) : Work m m.release
  | disarm (m : Mailbox α) (done : m.busy = true ∨ m.front = []) : Work m m.disarm

/-- Every message is accounted for. -/
structure Conserved (cap : ℕ) (m : Mailbox α) : Prop where
  /-- The arrived messages are those that left, each handed over or dropped, and then those that
  wait. -/
  split : ∃ history : List (α × Fate),
    m.arrived = history.map Prod.fst ++ (m.front ++ m.back) ∧
      withFate .handed history = m.handed ∧ (withFate .dropped history).length = m.reported
  front_le : m.front.length ≤ cap
  back_le : m.back.length ≤ cap
  busy : m.busy = true → m.front = [] ∧ 0 < cap
  idle : m.busy = false → m.back = []
  armed : m.busy = false → m.front ≠ [] → m.armed = true

lemma withFate_append (fate : Fate) (history : List (α × Fate)) (xs : List α) (f : Fate) :
    withFate fate (history ++ xs.map fun x => (x, f)) =
      withFate fate history ++ if f = fate then xs else [] := by
  unfold withFate
  by_cases h : f = fate
  · simp [filter_append, filter_map, comp_def, h]
  · simp [filter_append, filter_map, comp_def, h]

lemma length_newest_le (cap : ℕ) (buffer : List α) : (newest cap buffer).length ≤ cap := by
  unfold newest
  rw [length_drop]
  omega

variable {cap : ℕ}

lemma split_newest {history : List (α × Fate)} {arrived handed buffer : List α} {reported : ℕ}
    (harr : arrived = history.map Prod.fst ++ buffer) (hhanded : withFate .handed history = handed)
    (hdrop : (withFate .dropped history).length = reported) :
    ∃ history' : List (α × Fate), arrived = history'.map Prod.fst ++ newest cap buffer ∧
        withFate .handed history' = handed ∧
        (withFate .dropped history').length = reported + (buffer.length - cap) := by
  refine ⟨history ++ (buffer.take (buffer.length - cap)).map fun x => (x, .dropped), ?_, ?_, ?_⟩
  · rw [harr, map_append, append_assoc]
    congr 1
    simp [newest, comp_def]
  · rw [withFate_append, if_neg (by decide), append_nil, hhanded]
  · rw [withFate_append, if_pos rfl, length_append, hdrop, length_take]
    omega

lemma conserved_blank (cap : ℕ) : Conserved cap (blank : Mailbox α) where
  split := ⟨[], rfl, rfl, rfl⟩
  front_le := Nat.zero_le cap
  back_le := Nat.zero_le cap
  busy h := absurd h Bool.false_ne_true
  idle _ := rfl
  armed _ h := absurd rfl h

variable {m m' : Mailbox α}

section

variable (hm : Conserved cap m)
include hm

lemma Conserved.arriveFront (hidle : m.busy = false) (x : α) :
    Conserved cap (m.arriveFront cap x) where
  split := by
    obtain ⟨history, harr, hhanded, hdrop⟩ := hm.split
    have hback := hm.idle hidle
    have hbuf : m.arrived ++ [x] = history.map Prod.fst ++ (m.front ++ [x]) := by
      rw [harr, hback]
      simp
    obtain ⟨history', hsplit⟩ := split_newest hbuf hhanded hdrop
    refine ⟨history', ?_, hsplit.2⟩
    rw [Mailbox.arriveFront, hback, append_nil]
    exact hsplit.1
  front_le := length_newest_le cap _
  back_le := hm.back_le
  busy h := absurd (hidle.symm.trans h) Bool.false_ne_true
  idle := hm.idle
  armed _ _ := rfl

lemma Conserved.arriveBack (hbusy : m.busy = true) (x : α) :
    Conserved cap (m.arriveBack cap x) := by
  obtain ⟨hfront, hcap⟩ := hm.busy hbusy
  have harrive : m.arriveBack cap x =
      { m with
        back := newest cap (m.back ++ [x])
        arrived := m.arrived ++ [x]
        reported := m.reported + ((m.back ++ [x]).length - cap) } := by
    unfold Mailbox.arriveBack
    rw [if_pos hcap, if_pos hcap]
  rw [harrive]
  refine ⟨?_, hm.front_le, length_newest_le cap _, hm.busy, fun h => ?_, fun h => ?_⟩
  · obtain ⟨history, harr, hhanded, hdrop⟩ := hm.split
    have hbuf : m.arrived ++ [x] = history.map Prod.fst ++ (m.back ++ [x]) := by
      rw [harr, hfront]
      simp
    obtain ⟨history', hsplit⟩ := split_newest hbuf hhanded hdrop
    refine ⟨history', ?_, hsplit.2⟩
    rw [hfront, nil_append]
    exact hsplit.1
  · exact absurd (hbusy.symm.trans h) Bool.noConfusion
  · exact absurd (hbusy.symm.trans h) Bool.noConfusion

lemma Conserved.handOver (hidle : m.busy = false) (hwait : m.front ≠ []) :
    Conserved cap m.handOver where
  split := by
    obtain ⟨history, harr, hhanded, hdrop⟩ := hm.split
    refine ⟨history ++ m.front.map fun x => (x, .handed), ?_, ?_, ?_⟩
    · simp [Mailbox.handOver, harr, hm.idle hidle, comp_def]
    · simp [Mailbox.handOver, withFate_append, hhanded]
    · simp [Mailbox.handOver, withFate_append, hdrop]
  front_le := Nat.zero_le cap
  back_le := hm.back_le
  busy _ := ⟨rfl, Nat.lt_of_lt_of_le (length_pos_of_ne_nil hwait) hm.front_le⟩
  idle h := absurd h Bool.noConfusion
  armed h := absurd h Bool.noConfusion

lemma Conserved.release (hbusy : m.busy = true) :
    Conserved cap m.release where
  split := by
    obtain ⟨history, harr, hfates⟩ := hm.split
    refine ⟨history, ?_, hfates⟩
    rw [Mailbox.release, append_nil]
    exact harr
  front_le := by
    rw [Mailbox.release, (hm.busy hbusy).1, nil_append]
    exact hm.back_le
  back_le := Nat.zero_le cap
  busy h := absurd h Bool.false_ne_true
  idle _ := rfl
  armed _ h := by
    have hwait : (m.front ++ m.back).isEmpty = false := isEmpty_eq_false_iff.mpr h
    simp [Mailbox.release, hwait]

lemma Conserved.disarm (hdone : m.busy = true ∨ m.front = []) :
    Conserved cap m.disarm where
  split := hm.split
  front_le := hm.front_le
  back_le := hm.back_le
  busy := hm.busy
  idle := hm.idle
  armed hidle hwait := by
    rcases hdone with hbusy | hfront
    · exact absurd (hidle.symm.trans hbusy) Bool.false_ne_true
    · exact absurd hfront hwait

lemma Conserved.arrive (x : α) : Conserved cap (m.arrive cap x) := by
  unfold Mailbox.arrive
  split
  next hbusy =>
    exact hm.arriveBack hbusy x
  next hidle =>
    exact hm.arriveFront (Bool.eq_false_iff.mpr hidle) x

end

@[simp] lemma arrived_arrive (cap : ℕ) (x : α) (m : Mailbox α) :
    (m.arrive cap x).arrived = m.arrived ++ [x] := by
  unfold arrive
  split <;> rfl

lemma Conserved.work (hm : Conserved cap m) (h : Relation.ReflTransGen Work m m') :
    Conserved cap m' := by
  induction h with
  | refl => exact hm
  | tail _ hstep ih =>
    cases hstep with
    | handOver idle waiting => exact ih.handOver idle waiting
    | release busy => exact ih.release busy
    | disarm done => exact ih.disarm done

lemma arrived_work (h : Relation.ReflTransGen Work m m') : m'.arrived = m.arrived := by
  induction h with
  | refl => rfl
  | tail _ hstep ih => cases hstep <;> exact ih

end Mailbox
