import WispaceBot.Execution.RedisSlot

/-!
# When a global slot comes back

A lease that expires does not lower the counter, and every attempt renews it; so leases that lapsed
count until no attempt has been made for the length of a lease.  `attempt_granted_iff` says exactly
when an attempt succeeds, in every state.
-/

namespace WispaceBot

open Expiry Table Transition SlotLease

/-- The slots, the time of the last attempt, and the leases granted before the last pause. -/
structure ProbedSlots where
  slots : SlotSystem
  lastAttempt : Option ℤ
  eraStart : ℕ

namespace ProbedSlots

def init : ProbedSlots where
  slots := .init
  lastAttempt := none
  eraStart := 0

/-- An attempt was made within the length of a lease. -/
def recent (leaseMs : ℤ) (p : ProbedSlots) : Bool :=
  p.lastAttempt.any fun t => decide (p.slots.now ≤ t + leaseMs)

/-- The leases granted since the last pause. -/
def era (p : ProbedSlots) : List SlotLease :=
  p.slots.leases.drop p.eraStart

def unreturned (p : ProbedSlots) : ℕ :=
  p.era.countP fun l => !l.returned

/-- How many of them ended without a release. -/
def lapsed (p : ProbedSlots) : ℕ :=
  p.era.countP fun l => !l.isOpen p.slots.now && !l.returned

/-- One step; an attempt after a pause begins a new era. -/
def step (limit : ℕ) (leaseMs : ℤ) (p : ProbedSlots) (e : SlotEvent) : Option ProbedSlots :=
  (p.slots.step limit e).map fun slots =>
    match e with
    | .acquire _ _ =>
      { slots := slots
        lastAttempt := some p.slots.now
        eraStart := if p.recent leaseMs then p.eraStart else p.slots.leases.length }
    | _ => { p with slots := slots }

/-- Attempts ask for this length of a lease. -/
def HasLease (leaseMs : ℤ) : SlotEvent → Prop
  | .acquire _ ms => ms = leaseMs
  | _ => True

instance (leaseMs : ℤ) : ∀ e, Decidable (HasLease leaseMs e)
  | .acquire _ ms => inferInstanceAs (Decidable (ms = leaseMs))
  | .release _ | .elapse _ => isTrue trivial

/-- The counter is the slots not returned, and lives a lease longer than the last attempt. -/
structure Tracked (leaseMs : ℤ) (p : ProbedSlots) : Prop where
  mirrored : p.slots.Mirrored
  unprobed : p.lastAttempt = none → p.slots.keys.counter = none ∧ p.slots.leases = []
  counter : ∀ t, p.lastAttempt = some t →
    p.slots.keys.counter = some ⟨p.unreturned, some (t + leaseMs)⟩
  past : ∀ t, p.lastAttempt = some t → t ≤ p.slots.now
  outlived : ∀ t, p.lastAttempt = some t → ∀ l ∈ p.slots.leases, l.expiresAt ≤ t + leaseMs
  bounded : p.eraStart ≤ p.slots.leases.length
  closed : ∀ l ∈ p.slots.leases.take p.eraStart, l.isOpen p.slots.now = false

variable {limit : ℕ} {leaseMs : ℤ} {p q : ProbedSlots}

lemma tracked_init (leaseMs : ℤ) : Tracked leaseMs init where
  mirrored := SlotSystem.mirrored_init
  unprobed _ := ⟨rfl, rfl⟩
  counter _ ht := absurd ht (by simp [init])
  past _ ht := absurd ht (by simp [init])
  outlived _ ht := absurd ht (by simp [init])
  bounded := Nat.le_refl 0
  closed _ hl := absurd hl (by simp [init])

namespace Tracked

lemma count_eq (h : Tracked leaseMs p) :
    count p.slots.now p.slots.keys.counter =
      if p.recent leaseMs then (p.unreturned : ℤ) else 0 := by
  cases hlast : p.lastAttempt with
  | none => simp [recent, hlast, (h.unprobed hlast).1, count, fetch, find]
  | some t =>
    rw [h.counter t hlast]
    by_cases hle : p.slots.now ≤ t + leaseMs
    · have hlive : (Entry.mk (p.unreturned : ℤ) (some (t + leaseMs))).live p.slots.now = true :=
        Entry.live_of_expiresAt.mpr hle
      simp [recent, hlast, hle, count, fetch, find_of_live hlive]
    · have hdead : (Entry.mk (p.unreturned : ℤ) (some (t + leaseMs))).live p.slots.now = false := by
        simp [Entry.live, hle]
      simp [recent, hlast, hle, count, fetch, find, hdead]

lemma era_attempt (h : Tracked leaseMs p) :
    (((p.slots.leases.drop (if p.recent leaseMs then p.eraStart else p.slots.leases.length)).countP
      fun l => !l.returned : ℕ) : ℤ) = count p.slots.now p.slots.keys.counter := by
  rw [h.count_eq]
  cases p.recent leaseMs with
  | true => rfl
  | false => simp

variable {l : SlotLease}

lemma closed_attempt (h : Tracked leaseMs p)
    (hl : l ∈ p.slots.leases.take
      (if p.recent leaseMs then p.eraStart else p.slots.leases.length)) :
    l.isOpen p.slots.now = false := by
  cases hrecent : p.recent leaseMs with
  | true =>
    rw [hrecent] at hl
    exact h.closed l hl
  | false =>
    -- no attempt was made for the length of a lease, so every lease has expired
    have hmem : l ∈ p.slots.leases := List.mem_of_mem_take hl
    cases hlast : p.lastAttempt with
    | none =>
      rw [(h.unprobed hlast).2] at hmem
      exact absurd hmem List.not_mem_nil
    | some t =>
      have hexp : ¬ p.slots.now ≤ t + leaseMs := by simpa [recent, hlast] using hrecent
      have houtlived := h.outlived t hlast l hmem
      have hlate : ¬ p.slots.now ≤ l.expiresAt := by omega
      simp [isOpen, hlate]

lemma outlived_attempt (h : Tracked leaseMs p) (hl : l ∈ p.slots.leases) :
    l.expiresAt ≤ p.slots.now + leaseMs := by
  cases hlast : p.lastAttempt with
  | none =>
    rw [(h.unprobed hlast).2] at hl
    exact absurd hl List.not_mem_nil
  | some t =>
    have houtlived := h.outlived t hlast l hl
    have hpast := h.past t hlast
    omega

variable {uuid : String}

lemma grant (h : Tracked leaseMs p) (hfresh : uuid ∉ p.slots.leases.map SlotLease.uuid) :
    Tracked leaseMs
      { slots := p.slots.grant uuid leaseMs
        lastAttempt := some p.slots.now
        eraStart := if p.recent leaseMs then p.eraStart else p.slots.leases.length } := by
  have hbounded : (if p.recent leaseMs then p.eraStart else p.slots.leases.length) ≤
      p.slots.leases.length := by
    split
    · exact h.bounded
    · exact Nat.le_refl _
  refine ⟨h.mirrored.grant hfresh leaseMs, by simp, ?_, ?_, ?_, ?_, ?_⟩
  · rintro t ⟨⟩
    change p.slots.keys.renewed leaseMs = _
    rw [SlotKeys.renewed_eq]
    have hcount : (((p.slots.leases ++ [SlotLease.mk uuid (p.slots.now + leaseMs) none]).drop
        (if p.recent leaseMs then p.eraStart else p.slots.leases.length)).countP
          (fun l => !l.returned) : ℤ) = count p.slots.now p.slots.keys.counter + 1 := by
      rw [List.drop_append_of_le_length hbounded, List.countP_append, ← h.era_attempt]
      rfl
    exact congrArg (fun n => some (Entry.mk n (some (p.slots.now + leaseMs)))) hcount.symm
  · rintro t ⟨⟩
    exact le_rfl
  · rintro _ ⟨⟩ l hl
    rcases List.mem_append.mp hl with hl | hl
    · exact h.outlived_attempt hl
    · obtain rfl := List.mem_singleton.mp hl
      exact le_rfl
  · refine Nat.le_trans hbounded ?_
    simp [SlotSystem.grant]
  · intro _ hl
    refine h.closed_attempt ?_
    rw [SlotSystem.grant, List.take_append_of_le_length hbounded] at hl
    exact hl

lemma refuse (h : Tracked leaseMs p) (hlease : 0 < leaseMs) :
    Tracked leaseMs
      { slots := p.slots.refuse leaseMs
        lastAttempt := some p.slots.now
        eraStart := if p.recent leaseMs then p.eraStart else p.slots.leases.length } := by
  refine ⟨h.mirrored.refuse leaseMs, by simp, ?_, ?_, ?_, ?_, ?_⟩
  · rintro t ⟨⟩
    have hlive : (Entry.mk (count p.slots.now p.slots.keys.counter + 1)
        (some (p.slots.now + leaseMs))).live p.slots.now = true :=
      Entry.live_of_expiresAt.mpr (by omega)
    have hrenewed : p.slots.keys.renewed leaseMs =
        some ⟨count p.slots.now p.slots.keys.counter + 1, some (p.slots.now + leaseMs)⟩ :=
      SlotKeys.renewed_eq leaseMs p.slots.keys
    change incrBy p.slots.now (-1) (p.slots.keys.renewed leaseMs) = _
    rw [hrenewed, incrBy, find_of_live hlive]
    refine congrArg (fun n => some (Entry.mk n (some (p.slots.now + leaseMs)))) ?_
    rw [Int.add_neg_cancel_right]
    exact h.era_attempt.symm
  · rintro t ⟨⟩
    exact le_rfl
  · rintro _ ⟨⟩ l hl
    exact h.outlived_attempt hl
  · dsimp only
    split
    · exact h.bounded
    · exact Nat.le_refl _
  · exact fun l hl => h.closed_attempt hl

lemma mem_era (h : Tracked leaseMs p) (hl : l ∈ p.slots.leases)
    (hopen : l.isOpen p.slots.now = true) : l ∈ p.era := by
  rw [← List.take_append_drop p.eraStart p.slots.leases] at hl
  rcases List.mem_append.mp hl with hold | hnew
  · simp [h.closed l hold] at hopen
  · exact hnew

lemma era_release (p : ProbedSlots) (uuid : String) :
    era { p with slots := p.slots.release uuid } =
      updateWhere (fun l => decide (l.uuid = uuid)) (SlotLease.release p.slots.now) p.era := by
  simp [era, SlotSystem.release, updateWhere]

section

variable (h : Tracked leaseMs p)
include h

lemma counter_release_found {t : ℤ} (hlast : p.lastAttempt = some t)
    (hfound : fetch p.slots.now (p.slots.keys.lease uuid) = some uuid) :
    (p.slots.release uuid).keys.counter =
      some ⟨unreturned { p with slots := p.slots.release uuid }, some (t + leaseMs)⟩ := by
  obtain ⟨l, hl, rfl, hopen⟩ := (h.mirrored.fetch_lease uuid).mp hfound
  have hone : unreturned { p with slots := p.slots.release l.uuid } + 1 = p.unreturned := by
    have huniq : UniqueOn SlotLease.uuid p.era :=
      (List.Sublist.map SlotLease.uuid (List.drop_sublist _ _)).nodup h.mirrored.unique
    have hnone := (isOpen_iff.mp hopen).1
    rw [unreturned, era_release]
    refine huniq.countP_updateWhere_add_one (h.mem_era hl hopen) ?_ ?_
    · simp [returned, hnone]
    · simp [returned_release_of_open hopen]
  -- the counter is there for as long as the lease
  have hlive : (Entry.mk (p.unreturned : ℤ) (some (t + leaseMs))).live p.slots.now = true :=
    Entry.live_of_expiresAt.mpr (Int.le_trans (isOpen_iff.mp hopen).2 (h.outlived t hlast l hl))
  have hincr : incrBy p.slots.now (-1) p.slots.keys.counter =
      some ⟨(p.unreturned : ℤ) + -1, some (t + leaseMs)⟩ := by
    rw [h.counter t hlast, incrBy, find_of_live hlive]
  have hpos : ¬ count p.slots.now (incrBy p.slots.now (-1) p.slots.keys.counter) < 0 := by
    have hlive' : (Entry.mk ((p.unreturned : ℤ) + -1) (some (t + leaseMs))).live p.slots.now =
        true := hlive
    rw [hincr, count, fetch, find_of_live hlive']
    simp only [Option.map_some, Option.getD_some]
    omega
  have hcounter : (p.slots.release l.uuid).keys.counter =
      incrBy p.slots.now (-1) p.slots.keys.counter := by
    rw [SlotSystem.release, SlotKeys.releaseScript_found hfound]
    exact if_neg hpos
  rw [hcounter, hincr]
  refine congrArg (fun n => some (Entry.mk n (some (t + leaseMs)))) ?_
  omega

lemma unreturned_release_stale (hstale : fetch p.slots.now (p.slots.keys.lease uuid) ≠ some uuid) :
    unreturned { p with slots := p.slots.release uuid } = p.unreturned := by
  rw [unreturned, era_release, countP_updateWhere]
  refine List.countP_congr fun l hl => ?_
  by_cases huuid : l.uuid = uuid
  · have hclosed : l.isOpen p.slots.now = false := by
      by_contra hopen
      exact hstale ((h.mirrored.fetch_lease uuid).mpr
        ⟨l, List.mem_of_mem_drop hl, huuid, by simpa using hopen⟩)
    simp [huuid, returned_release_of_not_open hclosed]
  · simp [huuid]

lemma release (uuid : String) : Tracked leaseMs { p with slots := p.slots.release uuid } := by
  refine ⟨h.mirrored.release uuid, ?_, ?_, ?_, ?_, ?_, ?_⟩
  · intro hlast
    obtain ⟨hcounter, hleases⟩ := h.unprobed hlast
    have hstale : fetch p.slots.now (p.slots.keys.lease uuid) ≠ some uuid := by
      intro hfound
      obtain ⟨l, hl, -⟩ := (h.mirrored.fetch_lease uuid).mp hfound
      rw [hleases] at hl
      exact absurd hl List.not_mem_nil
    simp only [SlotSystem.release]
    rw [SlotKeys.releaseScript_stale hstale, hleases]
    exact ⟨hcounter, rfl⟩
  · intro t hlast
    by_cases hfound : fetch p.slots.now (p.slots.keys.lease uuid) = some uuid
    · exact h.counter_release_found hlast hfound
    · rw [h.unreturned_release_stale hfound, ← h.counter t hlast]
      simp only [SlotSystem.release]
      rw [SlotKeys.releaseScript_stale hfound]
  · intro t hlast
    exact (h.past t hlast).trans_eq (SlotSystem.release_now uuid p.slots).symm
  · intro t hlast l hl
    rcases mem_updateWhere.mp hl with ⟨m, hm, -, rfl⟩ | ⟨hl, -⟩
    · exact h.outlived t hlast m hm
    · exact h.outlived t hlast l hl
  · simpa [SlotSystem.release, updateWhere] using h.bounded
  · intro l hl
    rw [SlotSystem.release_now]
    have htake : (p.slots.release uuid).leases.take p.eraStart =
        updateWhere (fun l => decide (l.uuid = uuid)) (SlotLease.release p.slots.now)
          (p.slots.leases.take p.eraStart) := by
      simp [SlotSystem.release, updateWhere]
    rw [htake] at hl
    rcases mem_updateWhere.mp hl with ⟨m, -, -, rfl⟩ | ⟨hl, -⟩
    · exact isOpen_release _ _ m
    · exact h.closed l hl

lemma elapse (ms : ℕ) : Tracked leaseMs { p with slots := p.slots.elapse ms } := by
  have hle := p.slots.now_le_elapse ms
  refine ⟨h.mirrored.elapse ms, h.unprobed, h.counter, ?_, h.outlived, h.bounded, ?_⟩
  · exact fun t hlast => (h.past t hlast).trans hle
  · intro l hl
    by_contra hopen
    obtain ⟨hnone, hend⟩ := isOpen_iff.mp (Bool.not_eq_false _ ▸ hopen)
    exact absurd (isOpen_iff.mpr ⟨hnone, hle.trans hend⟩) (by simp [h.closed l hl])

end

lemma step {e : SlotEvent} (h : Tracked leaseMs p) (hlease : HasLease leaseMs e)
    (hstep : p.step limit leaseMs e = some q) : Tracked leaseMs q := by
  obtain ⟨_, hslots, rfl⟩ := Option.map_eq_some_iff.mp hstep
  cases e with
  | acquire uuid ms =>
    obtain rfl : ms = leaseMs := hlease
    simp only [SlotSystem.step] at hslots
    split at hslots
    next henabled =>
      obtain ⟨⟩ := hslots
      rcases p.slots.acquire_cases limit uuid ms with ⟨-, heq⟩ | ⟨-, heq⟩
      · rw [heq]
        exact h.grant henabled.2
      · rw [heq]
        exact h.refuse henabled.1
    · cases hslots
  | release uuid =>
    obtain ⟨⟩ := hslots
    exact h.release uuid
  | elapse ms =>
    obtain ⟨⟩ := hslots
    exact h.elapse ms

/-- All open leases are of this era, and a lease that is not returned is open or lapsed. -/
lemma unreturned_eq (h : Tracked leaseMs p) : p.unreturned = p.slots.openCount + p.lapsed := by
  have hopen : p.slots.openCount = p.era.countP fun l => l.isOpen p.slots.now := by
    rw [SlotSystem.openCount, ← List.take_append_drop p.eraStart p.slots.leases,
      List.countP_append, List.countP_eq_zero.mpr fun l hl => by simp [h.closed l hl], Nat.zero_add]
    rfl
  have hsplit : p.unreturned = p.era.countP (fun l => l.isOpen p.slots.now && !l.returned) +
      p.era.countP fun l => !l.isOpen p.slots.now && !l.returned := by
    rw [unreturned, List.countP_eq_countP_filter_add _ _ fun l => l.isOpen p.slots.now,
      List.countP_filter, List.countP_filter]
    simp only [Bool.and_comm]
  rw [hsplit, hopen, lapsed]
  refine congrArg (· + _) (List.countP_congr fun l _ => ?_)
  cases hl : l.isOpen p.slots.now with
  | false => simp
  | true => simp [returned, (isOpen_iff.mp hl).1]

end Tracked

/-- With one lease length an attempt is granted exactly when no attempt was made for the length of a
lease, or when the slots in use and the leases that lapsed since are fewer than the limit.  So the
slots of crashed holders are regained by a pause of all attempts and by nothing else. -/
theorem attempt_granted_iff {limit : ℕ} {leaseMs : ℤ} (hlimit : 1 ≤ limit)
    {events : List SlotEvent} (hlease : ∀ e ∈ events, HasLease leaseMs e) {p : ProbedSlots}
    (hrun : run (step limit leaseMs) init events = some p) (uuid : String) :
    (p.slots.keys.acquireScript limit leaseMs uuid).2 = 1 ↔
      p.recent leaseMs = false ∨ p.slots.openCount + p.lapsed < limit := by
  have h : Tracked leaseMs p := run_induction (fun _ _ _ h hC hstep => h.step hC hstep)
    (tracked_init leaseMs) (along_of_forall hlease) hrun
  have hcount := h.count_eq
  rw [SlotKeys.acquireScript_snd]
  change count p.slots.now p.slots.keys.counter < limit ↔ _
  rw [hcount, h.unreturned_eq]
  cases p.recent leaseMs with
  | true =>
    simp only [Bool.true_eq_false, if_true, false_or]
    omega
  | false =>
    simp only [Bool.false_eq_true, if_false, true_or, iff_true]
    omega

def crashThenPause : List SlotEvent :=
  [.acquire "a" 60000, .elapse 60001]

/-- A holder crashes; after a pause longer than its lease the slot is granted again. -/
theorem attempt_granted_iff_crashThenPause :
    ∃ p, run (step 1 60000) init crashThenPause = some p ∧ p.slots.openCount = 0 ∧
      (p.slots.keys.acquireScript 1 60000 "b").2 = 1 :=
  exists_end (A := fun p => p.slots.openCount = 0 ∧ recent 60000 p = false) (by decide)
    fun _ hrun hidle => ⟨hidle.1,
      (attempt_granted_iff (by decide) (by decide) hrun "b").mpr (.inl hidle.2)⟩

def crashThenProbe : List SlotEvent :=
  [.acquire "a" 60000, .elapse 59000, .acquire "b" 60000, .elapse 2000]

/-- The refused attempt of `b` keeps the slot of the crashed `a` counted. -/
theorem refused_after_idle :
    ∃ p, run (step 1 60000) init crashThenProbe = some p ∧ p.slots.openCount = 0 ∧
      (p.slots.keys.acquireScript 1 60000 "c").2 ≠ 1 := by
  decide

end ProbedSlots

end WispaceBot
