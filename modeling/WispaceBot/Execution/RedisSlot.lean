import WispaceBot.Foundation.Expiry
import WispaceBot.Foundation.Run
import WispaceBot.Foundation.Table

/-!
# The global concurrency slots in Redis

The bots share one counter key and one lease key for every acquired slot.  A slot is acquired and
given back by a Lua script; both keys expire by themselves.  `SlotSystem` puts the scripts of any
number of callers one after the other, and `Mirrored` says how the lease keys follow the leases.
-/

namespace WispaceBot

open Expiry Table Function

/-! ## The scripts -/

/-- The keys of the limiter at the moment `now`; `lease` has the lease key of every UUID. -/
structure SlotKeys where
  now : ℤ
  counter : Option (Entry ℤ)
  lease : String → Option (Entry String)

namespace SlotKeys

def empty : SlotKeys where
  now := 0
  counter := none
  lease _ := none

/-- `ACQUIRE_SCRIPT`: the keys it leaves and its reply. -/
def acquireScript (limit : ℕ) (ttlMs : ℤ) (uuid : String) (keys : SlotKeys) : SlotKeys × ℤ :=
  let counter := incrBy keys.now 1 keys.counter
  let current := count keys.now counter
  -- the time to live is renewed before the limit is looked at
  let counter := pexpire keys.now ttlMs counter
  if current ≤ limit then
    ({ keys with
        counter := counter
        lease := update keys.lease uuid (putPx keys.now ttlMs uuid) }, 1)
  else ({ keys with counter := incrBy keys.now (-1) counter }, 0)

/-- `RELEASE_SCRIPT`: the keys it leaves and its reply. -/
def releaseScript (uuid : String) (keys : SlotKeys) : SlotKeys × ℤ :=
  if fetch keys.now (keys.lease uuid) = some uuid then
    let counter := incrBy keys.now (-1) keys.counter
    ({ keys with
        counter := if count keys.now counter < 0 then put 0 else counter
        lease := update keys.lease uuid none }, 1)
  else (keys, 0)

def renewed (ttlMs : ℤ) (keys : SlotKeys) : Option (Entry ℤ) :=
  pexpire keys.now ttlMs (incrBy keys.now 1 keys.counter)

section Scripts

variable {limit : ℕ} {ttlMs : ℤ} {uuid : String} {keys : SlotKeys}

lemma renewed_eq (ttlMs : ℤ) (keys : SlotKeys) :
    keys.renewed ttlMs = some ⟨count keys.now keys.counter + 1, some (keys.now + ttlMs)⟩ := by
  rw [renewed, pexpire, find_incrBy, count, fetch, incrBy]
  cases find keys.now keys.counter with
  | none => simp
  | some => simp

lemma count_renewed (httl : 0 ≤ ttlMs) :
    count keys.now (keys.renewed ttlMs) = count keys.now keys.counter + 1 := by
  rw [renewed, count_pexpire httl, count_incrBy]

lemma lasts_renewed : Lasts (keys.now + ttlMs) (keys.renewed ttlMs) := by
  refine lasts_pexpire (find_incrBy 1 keys.counter) ?_
  unfold incrBy
  split <;> rfl

lemma acquireScript_snd :
    (acquireScript limit ttlMs uuid keys).2 = 1 ↔ count keys.now keys.counter < limit := by
  unfold acquireScript
  simp only [count_incrBy]
  by_cases h : count keys.now keys.counter + 1 ≤ limit
  · simp only [h, if_true, true_iff]
    omega
  · simp only [h, if_false]
    exact ⟨fun h' => absurd h' (by simp), fun h' => absurd h' (by omega)⟩

lemma acquireScript_granted (h : count keys.now keys.counter < limit) :
    acquireScript limit ttlMs uuid keys =
      ({ keys with
          counter := keys.renewed ttlMs
          lease := update keys.lease uuid (putPx keys.now ttlMs uuid) }, 1) := by
  have hle : count keys.now (incrBy keys.now 1 keys.counter) ≤ limit := by
    rw [count_incrBy]
    omega
  simp [acquireScript, hle, renewed]

lemma acquireScript_refused (h : ¬ count keys.now keys.counter < limit) :
    acquireScript limit ttlMs uuid keys =
      ({ keys with counter := incrBy keys.now (-1) (keys.renewed ttlMs) }, 0) := by
  have hgt : ¬ count keys.now (incrBy keys.now 1 keys.counter) ≤ limit := by
    rw [count_incrBy]
    omega
  simp [acquireScript, hgt, renewed]

lemma releaseScript_found (h : fetch keys.now (keys.lease uuid) = some uuid) :
    releaseScript uuid keys =
      ({ keys with
          counter :=
            if count keys.now (incrBy keys.now (-1) keys.counter) < 0 then put 0
            else incrBy keys.now (-1) keys.counter
          lease := update keys.lease uuid none }, 1) :=
  if_pos h

lemma releaseScript_stale (h : fetch keys.now (keys.lease uuid) ≠ some uuid) :
    releaseScript uuid keys = (keys, 0) :=
  if_neg h

end Scripts

end SlotKeys

/-! ## The system -/

/-- A slot that was granted: its UUID, the last moment of its lease, and its first return. -/
structure SlotLease where
  uuid : String
  expiresAt : ℤ
  releasedAt : Option ℤ

namespace SlotLease

def isOpen (now : ℤ) (l : SlotLease) : Bool :=
  l.releasedAt.isNone && decide (now ≤ l.expiresAt)

def returned (l : SlotLease) : Bool :=
  l.releasedAt.any fun t => decide (t ≤ l.expiresAt)

def release (now : ℤ) (l : SlotLease) : SlotLease :=
  { l with releasedAt := l.releasedAt.or (some now) }

variable {l : SlotLease} {now : ℤ}

lemma isOpen_iff : l.isOpen now = true ↔ l.releasedAt = none ∧ now ≤ l.expiresAt := by
  simp [isOpen]

lemma isOpen_release (now t : ℤ) (l : SlotLease) : (l.release t).isOpen now = false := by
  cases h : l.releasedAt <;> simp [release, isOpen, h]

lemma returned_release_of_open (h : l.isOpen now = true) : (l.release now).returned = true := by
  obtain ⟨hnone, hle⟩ := isOpen_iff.mp h
  simp [returned, release, hnone, hle]

lemma returned_release_of_not_open (h : l.isOpen now = false) :
    (l.release now).returned = l.returned := by
  cases hrel : l.releasedAt with
  | none =>
    have hexp : ¬ now ≤ l.expiresAt := by simpa [isOpen, hrel] using h
    simp [returned, release, hrel, hexp]
  | some => simp [returned, release, hrel]

end SlotLease

/-- The keys, and the leases in the order they were granted. -/
structure SlotSystem where
  keys : SlotKeys
  leases : List SlotLease

/-- The scripts that callers run, and time. -/
inductive SlotEvent
  /-- A caller runs `ACQUIRE_SCRIPT`. -/
  | acquire (uuid : String) (leaseMs : ℤ)
  /-- A caller runs `RELEASE_SCRIPT`, maybe late or not for the first time. -/
  | release (uuid : String)
  | elapse (ms : ℕ)

namespace SlotSystem

def init : SlotSystem where
  keys := .empty
  leases := []

def now (s : SlotSystem) : ℤ := s.keys.now

def openCount (s : SlotSystem) : ℕ :=
  s.leases.countP (SlotLease.isOpen s.now)

def acquire (limit : ℕ) (uuid : String) (leaseMs : ℤ) (s : SlotSystem) : SlotSystem :=
  let (keys, reply) := s.keys.acquireScript limit leaseMs uuid
  { keys := keys
    leases :=
      if reply = 1 then s.leases ++ [⟨uuid, s.now + leaseMs, none⟩] else s.leases }

def release (uuid : String) (s : SlotSystem) : SlotSystem where
  keys := (s.keys.releaseScript uuid).1
  leases := updateWhere (fun l => decide (l.uuid = uuid)) (SlotLease.release s.now) s.leases

def elapse (ms : ℕ) (s : SlotSystem) : SlotSystem :=
  { s with keys := { s.keys with now := s.keys.now + ms } }

/-- One step of the system.  UUIDs are fresh and leases have a positive length. -/
def step (limit : ℕ) (s : SlotSystem) : SlotEvent → Option SlotSystem
  | .acquire uuid leaseMs =>
    if 0 < leaseMs ∧ uuid ∉ s.leases.map SlotLease.uuid then some (s.acquire limit uuid leaseMs)
    else none
  | .release uuid => some (s.release uuid)
  | .elapse ms => some (s.elapse ms)

def grant (uuid : String) (leaseMs : ℤ) (s : SlotSystem) : SlotSystem where
  keys :=
    { s.keys with
      counter := s.keys.renewed leaseMs
      lease := update s.keys.lease uuid (putPx s.now leaseMs uuid) }
  leases := s.leases ++ [⟨uuid, s.now + leaseMs, none⟩]

def refuse (leaseMs : ℤ) (s : SlotSystem) : SlotSystem :=
  { s with keys := { s.keys with counter := incrBy s.now (-1) (s.keys.renewed leaseMs) } }

section Attempts

variable (limit : ℕ) (uuid : String) (ms : ℤ) (s : SlotSystem)

lemma acquire_cases :
    (count s.now s.keys.counter < limit ∧ s.acquire limit uuid ms = s.grant uuid ms) ∨
    (¬ count s.now s.keys.counter < limit ∧ s.acquire limit uuid ms = s.refuse ms) := by
  by_cases h : count s.keys.now s.keys.counter < limit
  · refine .inl ⟨h, ?_⟩
    simp only [acquire, SlotKeys.acquireScript_granted h, if_true]
    rfl
  · refine .inr ⟨h, ?_⟩
    simp only [acquire, SlotKeys.acquireScript_refused h]
    rfl

@[simp] lemma grant_now : (s.grant uuid ms).now = s.now := rfl

@[simp] lemma refuse_now : (s.refuse ms).now = s.now := rfl

@[simp] lemma refuse_counter :
    (s.refuse ms).keys.counter = incrBy s.now (-1) (s.keys.renewed ms) := rfl

variable {ms}

lemma count_grant (hlease : 0 < ms) :
    count s.now (s.grant uuid ms).keys.counter = count s.now s.keys.counter + 1 :=
  SlotKeys.count_renewed (Int.le_of_lt hlease)

lemma count_refuse (hlease : 0 < ms) :
    count s.now (s.refuse ms).keys.counter = count s.now s.keys.counter := by
  have hrenewed : count s.now (s.keys.renewed ms) = count s.now s.keys.counter + 1 :=
    SlotKeys.count_renewed (Int.le_of_lt hlease)
  rw [refuse_counter, count_incrBy]
  omega

end Attempts

@[simp] lemma release_now (uuid : String) (s : SlotSystem) : (s.release uuid).now = s.now := by
  simp only [release, now, SlotKeys.releaseScript]
  split <;> rfl

lemma now_le_elapse (s : SlotSystem) (ms : ℕ) : s.now ≤ (s.elapse ms).now :=
  Int.le_add_of_nonneg_right (Int.natCast_nonneg ms)

/-! ## Lease keys -/

/-- The lease keys are those of the leases that were not released. -/
structure Mirrored (s : SlotSystem) : Prop where
  unique : UniqueOn SlotLease.uuid s.leases
  stored : ∀ l ∈ s.leases, l.releasedAt = none →
    s.keys.lease l.uuid = some ⟨l.uuid, some l.expiresAt⟩
  gone : ∀ uuid, (∀ l ∈ s.leases, l.uuid = uuid → l.releasedAt ≠ none) →
    find s.now (s.keys.lease uuid) = none

lemma mirrored_init : init.Mirrored where
  unique := List.nodup_nil
  stored _ hl := absurd hl List.not_mem_nil
  gone _ _ := rfl

variable {limit : ℕ} {s t : SlotSystem} {uuid : String}

section

variable (h : s.Mirrored)
include h

lemma Mirrored.find_lease (hclosed : ∀ l ∈ s.leases, l.uuid = uuid → l.isOpen s.now = false) :
    find s.now (s.keys.lease uuid) = none := by
  by_cases hheld : ∃ l ∈ s.leases, l.uuid = uuid ∧ l.releasedAt = none
  · obtain ⟨l, hl, rfl, hnone⟩ := hheld
    have hexp : ¬ s.now ≤ l.expiresAt := by
      have := hclosed l hl rfl
      simpa [SlotLease.isOpen, hnone] using this
    cases hfind : find s.now (s.keys.lease l.uuid) with
    | none => rfl
    | some =>
      obtain ⟨he, hlive⟩ := find_eq_some hfind
      obtain ⟨⟩ := ((h.stored l hl hnone).symm.trans he)
      exact absurd (Entry.live_of_expiresAt.mp hlive) hexp
  · exact h.gone uuid fun l hl huuid hnone => hheld ⟨l, hl, huuid, hnone⟩

lemma Mirrored.fetch_lease (uuid : String) :
    fetch s.now (s.keys.lease uuid) = some uuid ↔
      ∃ l ∈ s.leases, l.uuid = uuid ∧ l.isOpen s.now = true := by
  constructor
  · intro hfetch
    by_contra hnot
    have hnone : find s.now (s.keys.lease uuid) = none := h.find_lease fun l hl huuid =>
      Bool.eq_false_iff.mpr fun hopen => hnot ⟨l, hl, huuid, hopen⟩
    simp [fetch, hnone] at hfetch
  · rintro ⟨l, hl, rfl, hopen⟩
    obtain ⟨hnone, hle⟩ := SlotLease.isOpen_iff.mp hopen
    have hlive : (Entry.mk l.uuid (some l.expiresAt)).live s.now = true :=
      Entry.live_of_expiresAt.mpr hle
    rw [h.stored l hl hnone, fetch, find_of_live hlive]
    rfl

lemma Mirrored.grant (hfresh : uuid ∉ s.leases.map SlotLease.uuid) (ms : ℤ) :
    (s.grant uuid ms).Mirrored := by
  have hne : ∀ l ∈ s.leases, l.uuid ≠ uuid := fun l hl huuid =>
    hfresh (List.mem_map.mpr ⟨l, hl, huuid⟩)
  refine ⟨h.unique.append_singleton hne, ?_, ?_⟩
  · intro l hl hnone
    rcases List.mem_append.mp hl with hl | hl
    · simpa [SlotSystem.grant, update_of_ne (hne l hl)] using h.stored l hl hnone
    · obtain rfl := List.mem_singleton.mp hl
      simp [SlotSystem.grant, putPx]
  · intro other hall
    have hother : other ≠ uuid := by
      rintro rfl
      exact hall ⟨other, s.now + ms, none⟩ (by simp [SlotSystem.grant]) rfl rfl
    simp only [SlotSystem.grant, update_of_ne hother]
    exact h.gone other fun l hl => hall l (List.mem_append_left _ hl)

lemma Mirrored.refuse (ms : ℤ) : (s.refuse ms).Mirrored :=
  ⟨h.unique, h.stored, h.gone⟩

lemma Mirrored.release (uuid : String) : (s.release uuid).Mirrored := by
  have hkey : ∀ other, other ≠ uuid → (s.release uuid).keys.lease other = s.keys.lease other := by
    intro other hother
    simp only [SlotSystem.release, SlotKeys.releaseScript]
    split
    · exact update_of_ne hother _ _
    · rfl
  refine ⟨h.unique.updateWhere fun _ => rfl, ?_, ?_⟩
  · intro l hl hnone
    rcases mem_updateWhere.mp hl with ⟨_, -, -, rfl⟩ | ⟨hl, hne⟩
    · simp [SlotLease.release] at hnone
    · rw [hkey l.uuid (by simpa using hne)]
      exact h.stored l hl hnone
  · intro other hall
    rw [release_now]
    by_cases hother : other = uuid
    · subst hother
      simp only [SlotSystem.release, SlotKeys.releaseScript]
      split
      · simp [find]
      next hclosed =>
        refine h.find_lease fun l hl huuid => ?_
        by_contra hopen
        exact hclosed ((h.fetch_lease other).mpr ⟨l, hl, huuid, by simpa using hopen⟩)
    · rw [hkey other hother]
      refine h.gone other fun l hl huuid => hall l (mem_updateWhere.mpr (.inr ⟨hl, ?_⟩)) huuid
      simp [huuid, hother]

lemma Mirrored.elapse (ms : ℕ) : (s.elapse ms).Mirrored := by
  refine ⟨h.unique, h.stored, fun uuid hall => ?_⟩
  cases hfind : find (s.elapse ms).now ((s.elapse ms).keys.lease uuid) with
  | none => rfl
  | some e =>
    -- what is found later was there before
    obtain ⟨he, hlive⟩ := find_eq_some hfind
    have hlasts : Lasts (s.elapse ms).now (s.keys.lease uuid) := ⟨e, he, hlive⟩
    have hnone := h.gone uuid hall
    rw [hlasts.find_eq (s.now_le_elapse ms)] at hnone
    exact absurd (he.symm.trans hnone) (by simp)

end

/-! ## Counting open leases -/

lemma openCount_grant (s : SlotSystem) (uuid : String) {ms : ℤ} (hlease : 0 < ms) :
    (s.grant uuid ms).openCount = s.openCount + 1 := by
  have hopen : (SlotLease.mk uuid (s.now + ms) none).isOpen s.now = true :=
    SlotLease.isOpen_iff.mpr ⟨rfl, by simp only; omega⟩
  rw [openCount, grant_now, grant, List.countP_append, List.countP_singleton, hopen]
  rfl

lemma Mirrored.openCount_release_found (h : s.Mirrored)
    (hfound : fetch s.now (s.keys.lease uuid) = some uuid) :
    (s.release uuid).openCount + 1 = s.openCount := by
  obtain ⟨l, hl, rfl, hopen⟩ := (h.fetch_lease uuid).mp hfound
  rw [openCount, release_now]
  exact h.unique.countP_updateWhere_add_one hl hopen (SlotLease.isOpen_release s.now s.now l)

lemma Mirrored.openCount_release_stale (h : s.Mirrored)
    (hstale : fetch s.now (s.keys.lease uuid) ≠ some uuid) :
    (s.release uuid).openCount = s.openCount := by
  rw [openCount, release_now, SlotSystem.release, countP_updateWhere]
  refine List.countP_congr fun l hl => ?_
  by_cases huuid : l.uuid = uuid
  · have hclosed : l.isOpen s.now = false := by
      by_contra hopen
      exact hstale ((h.fetch_lease uuid).mpr ⟨l, hl, huuid, by simpa using hopen⟩)
    simp [huuid, hclosed, SlotLease.isOpen_release]
  · simp [huuid]

lemma openCount_elapse (s : SlotSystem) (ms : ℕ) : (s.elapse ms).openCount ≤ s.openCount := by
  refine List.countP_mono_left fun l _ hopen => ?_
  obtain ⟨hnone, hle⟩ := SlotLease.isOpen_iff.mp hopen
  exact SlotLease.isOpen_iff.mpr ⟨hnone, Int.le_trans (s.now_le_elapse ms) hle⟩

end SlotSystem

end WispaceBot
