import WispaceBot.Execution.RedisSlot

/-!
# How many global slots are in use

The counter key bounds the open leases as long as it outlives them.  Every attempt renews its time
to live with the lease length of the caller, so a caller with short leases can let it expire under
the long lease of another one.  `CoversLeases` rules this out (`open_leases_le_limit`).
-/

namespace WispaceBot

namespace SlotSystem

open Expiry Table Transition

/-- An attempt lets the counter live as long as every open lease. -/
def CoversLeases (s : SlotSystem) : SlotEvent → Prop
  | .acquire _ leaseMs => ∀ l ∈ s.leases, l.isOpen s.now = true → l.expiresAt ≤ s.now + leaseMs
  | _ => True

instance (s : SlotSystem) (e : SlotEvent) : Decidable (s.CoversLeases e) := by
  unfold CoversLeases
  split <;> infer_instance

/-- The counter outlives the open leases and counts all of them. -/
structure Capped (limit : ℕ) (s : SlotSystem) : Prop where
  mirrored : s.Mirrored
  nonneg : Nonneg s.keys.counter
  lasts : ∀ l ∈ s.leases, l.isOpen s.now = true → Lasts l.expiresAt s.keys.counter
  counted : (s.openCount : ℤ) ≤ count s.now s.keys.counter
  capped : s.openCount ≤ limit

variable {limit : ℕ} {s t : SlotSystem}

lemma capped_init (limit : ℕ) : Capped limit init where
  mirrored := mirrored_init
  nonneg _ he := absurd he (by simp [init, SlotKeys.empty])
  lasts _ hl := absurd hl List.not_mem_nil
  counted := le_rfl
  capped := Nat.zero_le limit

namespace Capped

lemma grant (h : Capped limit s) {uuid : String} {ms : ℤ} (hlease : 0 < ms)
    (hfresh : uuid ∉ s.leases.map SlotLease.uuid)
    (hcover : ∀ l ∈ s.leases, l.isOpen s.now = true → l.expiresAt ≤ s.now + ms)
    (hlow : count s.now s.keys.counter < limit) : Capped limit (s.grant uuid ms) := by
  have hcount := s.count_grant uuid hlease
  have hopen := s.openCount_grant uuid hlease
  have hlasts : Lasts (s.now + ms) (s.grant uuid ms).keys.counter :=
    SlotKeys.lasts_renewed
  have hcnt := h.counted
  refine ⟨h.mirrored.grant hfresh ms, ?_, ?_, ?_, by omega⟩
  · have hfind : find s.now (s.grant uuid ms).keys.counter =
        (s.grant uuid ms).keys.counter := hlasts.find_eq (by omega)
    exact nonneg_of_count hfind (by omega)
  · intro l hl hlopen
    rcases List.mem_append.mp hl with hl | hl
    · exact hlasts.mono (hcover l hl hlopen)
    · obtain rfl := List.mem_singleton.mp hl
      exact hlasts
  · rw [grant_now]
    omega

lemma refuse (h : Capped limit s) {ms : ℤ} (hlease : 0 < ms)
    (hcover : ∀ l ∈ s.leases, l.isOpen s.now = true → l.expiresAt ≤ s.now + ms) :
    Capped limit (s.refuse ms) := by
  have hcount := s.count_refuse hlease
  have hlasts : Lasts (s.now + ms) (s.refuse ms).keys.counter :=
    SlotKeys.lasts_renewed.incrBy (Int.le_add_of_nonneg_right hlease.le) (-1)
  refine ⟨h.mirrored.refuse ms, ?_, ?_, ?_, h.capped⟩
  · refine nonneg_of_count (find_incrBy (-1) (s.keys.renewed ms)) ?_
    exact hcount ▸ h.nonneg.count s.now
  · exact fun l hl hopen => hlasts.mono (hcover l hl hopen)
  · rw [refuse_now, hcount]
    exact h.counted

lemma release (h : Capped limit s) (uuid : String) : Capped limit (s.release uuid) := by
  have hback : ∀ l ∈ (s.release uuid).leases, l.isOpen s.now = true →
      ∃ q ∈ s.leases, q.isOpen s.now = true ∧ q.expiresAt = l.expiresAt := by
    intro l hl hopen
    rcases mem_updateWhere.mp hl with ⟨q, -, -, rfl⟩ | ⟨hl, -⟩
    · simp [SlotLease.isOpen_release] at hopen
    · exact ⟨l, hl, hopen, rfl⟩
  have hcapped := h.capped
  have hcnt := h.counted
  by_cases hfound : fetch s.now (s.keys.lease uuid) = some uuid
  · -- the lease is open, so the counter is there and does not fall below zero
    have hcount : count s.now (incrBy s.now (-1) s.keys.counter) =
        count s.now s.keys.counter + -1 :=
      count_incrBy (-1) s.keys.counter
    have hopens := h.mirrored.openCount_release_found hfound
    have hkeys : (s.release uuid).keys.counter = incrBy s.now (-1) s.keys.counter := by
      have hpos : ¬ count s.now (incrBy s.now (-1) s.keys.counter) < 0 := by omega
      rw [SlotSystem.release, SlotKeys.releaseScript_found hfound]
      exact if_neg hpos
    refine ⟨h.mirrored.release uuid, ?_, ?_, ?_, by omega⟩
    · rw [hkeys]
      exact nonneg_of_count (find_incrBy (-1) s.keys.counter) (by omega)
    · intro l hl hopen
      rw [release_now] at hopen
      obtain ⟨q, hq, hqopen, hexp⟩ := hback l hl hopen
      rw [hkeys, ← hexp]
      exact (h.lasts q hq hqopen).incrBy (SlotLease.isOpen_iff.mp hqopen).2 (-1)
    · rw [hkeys, release_now]
      omega
  · -- a stale release leaves the keys alone
    have hkeys : (s.release uuid).keys = s.keys := by
      rw [SlotSystem.release, SlotKeys.releaseScript_stale hfound]
    have hopens := h.mirrored.openCount_release_stale hfound
    refine ⟨h.mirrored.release uuid, hkeys ▸ h.nonneg, ?_, ?_, by omega⟩
    · intro l hl hopen
      rw [release_now] at hopen
      obtain ⟨q, hq, hqopen, hexp⟩ := hback l hl hopen
      rw [hkeys, ← hexp]
      exact h.lasts q hq hqopen
    · rw [hkeys, release_now]
      omega

lemma elapse (h : Capped limit s) (ms : ℕ) : Capped limit (s.elapse ms) := by
  have hle := s.now_le_elapse ms
  have hopens := s.openCount_elapse ms
  have hback : ∀ l ∈ s.leases, l.isOpen (s.elapse ms).now = true → l.isOpen s.now = true := by
    intro l _ hopen
    obtain ⟨hnone, hl⟩ := SlotLease.isOpen_iff.mp hopen
    exact SlotLease.isOpen_iff.mpr ⟨hnone, by omega⟩
  refine ⟨h.mirrored.elapse ms, h.nonneg, ?_, ?_, Nat.le_trans hopens h.capped⟩
  · exact fun l hl hopen => h.lasts l hl (hback l hl hopen)
  · by_cases hnone : (s.elapse ms).openCount = 0
    · rw [hnone]
      exact h.nonneg.count _
    · -- an open lease keeps the counter alive, which then reads as before
      obtain ⟨l, hl, hopen⟩ := List.countP_pos_iff.mp (Nat.pos_of_ne_zero hnone)
      have hlasts := h.lasts l hl (hback l hl hopen)
      have hend : (s.elapse ms).now ≤ l.expiresAt := (SlotLease.isOpen_iff.mp hopen).2
      have hsame : count (s.elapse ms).now s.keys.counter = count s.now s.keys.counter := by
        rw [count, count, hlasts.fetch_eq (hle.trans hend) hend]
      have hcnt := h.counted
      change ((s.elapse ms).openCount : ℤ) ≤ count (s.elapse ms).now s.keys.counter
      omega

lemma step {e : SlotEvent} (h : Capped limit s) (hcover : s.CoversLeases e)
    (hstep : s.step limit e = some t) : Capped limit t := by
  cases e with
  | acquire uuid leaseMs =>
    simp only [SlotSystem.step] at hstep
    split at hstep
    next henabled =>
      obtain ⟨⟩ := hstep
      rcases s.acquire_cases limit uuid leaseMs with ⟨hlow, heq⟩ | ⟨-, heq⟩
      · rw [heq]
        exact h.grant henabled.1 henabled.2 hcover hlow
      · rw [heq]
        exact h.refuse henabled.1 hcover
    · cases hstep
  | release uuid =>
    obtain ⟨⟩ := hstep
    exact h.release uuid
  | elapse ms =>
    obtain ⟨⟩ := hstep
    exact h.elapse ms

end Capped

/-- If every attempt covers the open leases, there are never more of them than the limit. -/
theorem open_leases_le_limit (limit : ℕ) {events : List SlotEvent}
    (hcover : Along (step limit) CoversLeases init events)
    (hrun : run (step limit) init events = some s) : s.openCount ≤ limit :=
  (run_induction (fun _ _ _ h hC hstep => h.step hC hstep) (capped_init limit) hcover hrun).capped

def sharedLease : List SlotEvent :=
  [.acquire "a" 60000, .elapse 1000, .acquire "b" 60000, .elapse 59000, .release "a",
    .acquire "c" 60000]

/-- The slot is refused while it is held, and granted again after its release. -/
theorem open_leases_le_limit_sharedLease :
    ∃ s, run (step 1) init sharedLease = some s ∧ s.openCount = 1 ∧ s.openCount ≤ 1 :=
  exists_end (A := fun s => s.openCount = 1) (by decide) fun _ hrun hcount =>
    ⟨hcount, open_leases_le_limit 1 (by decide) hrun⟩

/-- A caller with short leases shortens the life of the counter under the long lease of another. -/
def shortLease : List SlotEvent :=
  [.acquire "a" 120000, .elapse 1000, .acquire "b" 60000, .elapse 60001, .acquire "c" 60000]

/-- The counter expires under an open lease, and a second one is granted. -/
theorem open_leases_exceed_limit :
    ∃ s, run (step 1) init shortLease = some s ∧ ¬ s.openCount ≤ 1 := by
  obtain ⟨s, hs⟩ := Option.isSome_iff_exists.mp
    (show (run (step 1) init shortLease).isSome = true by decide)
  have hcount : (run (step 1) init shortLease).map openCount = some 2 := by decide
  rw [hs] at hcount
  refine ⟨s, hs, ?_⟩
  rw [Option.some.inj hcount]
  decide

end SlotSystem

end WispaceBot
