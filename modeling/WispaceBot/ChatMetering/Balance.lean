import WispaceBot.ChatMetering.Release

/-!
# The balance of the ledger

A transaction does four kinds of things to the two tables: a reservation is charged under a fresh
key, reservations are delivered or completed, reservations are refunded and released, or refunded
rows are deleted.  Each of these moves keeps the tables `Balanced`: every counter is the number of
reservations of its bucket that are not refunded.
-/

namespace WispaceBot

open List Table ChatRateLimitRepository

/-! ## Moves -/

/-- What a transaction does to the tables, with the keys it charges and refunds. -/
inductive LedgerMove : MeteringDb → List (Platform × String) → List (Platform × String) →
    MeteringDb → Prop
  | charge {db : MeteringDb} {row : ChatIdempotency} {guard : ChatDailyUsage → Bool}
      (hstatus : row.status = .reserved) (hcolon : ':' ∉ row.externalUserId.toList)
      (hfresh : ∀ r ∈ db.idempotency, r.key ≠ row.key)
      (hcharged : (upsertUsage row.bucket guard db.usage).2 = true) :
      LedgerMove db [row.key] []
        ⟨(upsertUsage row.bucket guard db.usage).1, db.idempotency ++ [row]⟩
  | advance {db : MeteringDb} {p : ChatIdempotency → Bool} {status : ChatIdempotencyStatus}
      (hstatus : status.isCharged = true)
      (hp : ∀ r ∈ db.idempotency, p r = true → r.status = .reserved ∨ r.status = .delivered) :
      LedgerMove db [] [] { db with idempotency := updateWhere p (setStatus status) db.idempotency }
  | refund {db : MeteringDb} {p : ChatIdempotency → Bool}
      (hp : ∀ r ∈ db.idempotency, p r = true → r.status = .reserved) :
      LedgerMove db [] ((db.idempotency.filter p).map (·.key))
        ⟨release (db.idempotency.filter p) db.usage,
          updateWhere p (setStatus .refunded) db.idempotency⟩
  | delete {db : MeteringDb} {p : ChatIdempotency → Bool}
      (hp : ∀ r ∈ db.idempotency, p r = true → r.status = .refunded) :
      LedgerMove db [] [] { db with idempotency := deleteWhere p db.idempotency }

section

variable (status : ChatIdempotencyStatus) (row : ChatIdempotency)
include status row

@[simp] lemma setStatus_key :
    (setStatus status row).key = row.key := rfl

@[simp] lemma setStatus_bucket :
    (setStatus status row).bucket = row.bucket := rfl

@[simp] lemma setStatus_status :
    (setStatus status row).status = status := rfl

end

/-! ## Charged reservations of a bucket -/

variable {rows : List ChatIdempotency}

lemma chargedCount_append {row : ChatIdempotency} (hstat : row.status.isCharged = true)
    (bucket : QuotaBucket) :
    chargedCount (rows ++ [row]) bucket =
      chargedCount rows bucket + if row.bucket = bucket then 1 else 0 := by
  simp [chargedCount, hstat]

variable {p : ChatIdempotency → Bool}

lemma chargedCount_advance {status : ChatIdempotencyStatus} (hstat : status.isCharged = true)
    (hp : ∀ r ∈ rows, p r = true → r.status.isCharged = true) (bucket : QuotaBucket) :
    chargedCount (updateWhere p (setStatus status) rows) bucket = chargedCount rows bucket := by
  rw [chargedCount, countP_updateWhere]
  refine countP_congr fun r hr => ?_
  cases hpr : p r with
  | false => simp
  | true => simp [hstat, hp r hr hpr]

lemma chargedCount_refund (hp : ∀ r ∈ rows, p r = true → r.status.isCharged = true)
    (bucket : QuotaBucket) :
    chargedCount (updateWhere p (setStatus .refunded) rows) bucket +
      bucketCount (rows.filter p) bucket = chargedCount rows bucket := by
  induction rows with
  | nil => rfl
  | cons r _ ih =>
    have hrest := ih fun q hq => hp q (mem_cons_of_mem r hq)
    have hr := hp r mem_cons_self
    simp only [chargedCount, bucketCount, updateWhere, map_cons, countP_cons,
      filter_cons] at hrest ⊢
    cases hpr : p r with
    | false =>
      simp only [Bool.false_eq_true, if_false]
      omega
    | true =>
      have hrefunded : ChatIdempotencyStatus.refunded.isCharged = false := rfl
      simp only [if_true, countP_cons, setStatus_bucket, setStatus_status, hr hpr, hrefunded,
        Bool.and_false, Bool.and_true, Bool.false_eq_true, if_false]
      omega

lemma chargedCount_delete (hp : ∀ r ∈ rows, p r = true → r.status.isCharged = false)
    (bucket : QuotaBucket) :
    chargedCount (deleteWhere p rows) bucket = chargedCount rows bucket := by
  rw [chargedCount, deleteWhere, countP_filter]
  refine countP_congr fun r hr => ?_
  cases hpr : p r with
  | false => simp
  | true => simp [hp r hr hpr]

variable {bucket : QuotaBucket}

lemma chargedCount_eq_zero (h : ∀ r ∈ rows, r.status.isCharged = true → r.bucket ≠ bucket) :
    chargedCount rows bucket = 0 := by
  refine countP_eq_zero.mpr fun r hr => ?_
  rw [Bool.and_eq_true, decide_eq_true_eq]
  rintro ⟨hbuck, hcharged⟩
  exact h r hr hcharged hbuck

/-! ## Charging a counter -/

@[simp] lemma firstCharge_bucket (bucket : QuotaBucket) :
    (firstCharge bucket).bucket = bucket := rfl

variable {usage : List ChatDailyUsage}

lemma usageOf_eq_of_mem {u : ChatDailyUsage} (hunique : UniqueOn ChatDailyUsage.bucket usage)
    (hu : u ∈ usage) (hbuck : u.bucket = bucket) : usageOf usage bucket = u.freeFormCount := by
  unfold usageOf
  cases hfind : usage.find? fun row => row.bucket = bucket with
  | none => exact absurd hbuck (by simpa using find?_eq_none.mp hfind u hu)
  | some v =>
    have hv : v.bucket = bucket := by simpa using find?_some hfind
    obtain rfl : v = u :=
      hunique.eq_of_key_eq (mem_of_find?_eq_some hfind) hu (hv.trans hbuck.symm)
    rfl

lemma usageOf_eq_zero (h : ∀ u ∈ usage, u.bucket ≠ bucket) : usageOf usage bucket = 0 := by
  have hnone : usage.find? (fun row => row.bucket = bucket) = none :=
    find?_eq_none.mpr fun u hu => by simpa using h u hu
  rw [usageOf, hnone]
  rfl

variable {guard : ChatDailyUsage → Bool}

section

variable (hunique : UniqueOn ChatDailyUsage.bucket usage)
  (hcharged : (upsertUsage bucket guard usage).2 = true)
include hunique hcharged

lemma upsertUsage_cases :
    ((∀ u ∈ usage, u.bucket ≠ bucket) ∧
      (upsertUsage bucket guard usage).1 = usage ++ [firstCharge bucket]) ∨
    ∃ q ∈ usage, q.bucket = bucket ∧ guard q = true ∧ (upsertUsage bucket guard usage).1 =
        updateWhere (fun u => u.bucket = bucket)
          (fun u => withCount u (u.freeFormCount + 1)) usage := by
  unfold upsertUsage insertOnConflict at hcharged ⊢
  split at hcharged
  next hany =>
    rw [if_pos hany]
    obtain ⟨q, hq, hsel⟩ := any_eq_true.mp hcharged
    rw [Bool.and_eq_true, decide_eq_true_eq, firstCharge_bucket] at hsel
    refine .inr ⟨q, hq, hsel.1, hsel.2, map_congr_left fun u hu => ?_⟩
    by_cases hbuck : u.bucket = bucket
    · obtain rfl : u = q := hunique.eq_of_key_eq hu hq (hbuck.trans hsel.1.symm)
      simp [hbuck, hsel.2, withCount]
    · simp [hbuck]
  next hany =>
    rw [if_neg hany]
    exact .inl ⟨fun u hu hbuck =>
      hany (any_eq_true.mpr ⟨u, hu, decide_eq_true hbuck⟩), rfl⟩

lemma mem_upsertUsage {u : ChatDailyUsage} :
    u ∈ (upsertUsage bucket guard usage).1 ↔ (u ∈ usage ∧ u.bucket ≠ bucket) ∨
        u = withCount (firstCharge bucket) (usageOf usage bucket + 1) := by
  rcases upsertUsage_cases hunique hcharged with ⟨hnew, hres⟩ | ⟨q, hq, hbuck, -, hres⟩
  · rw [hres, usageOf_eq_zero hnew, mem_append, mem_singleton]
    constructor
    · rintro (hold | rfl)
      · exact .inl ⟨hold, hnew u hold⟩
      · exact .inr rfl
    · rintro (⟨hold, -⟩ | rfl)
      · exact .inl hold
      · exact .inr rfl
  · have hcount : usageOf usage bucket = q.freeFormCount := by
      rw [usageOf_eq_of_mem hunique hq hbuck]
    have hraised : withCount q (q.freeFormCount + 1) =
        withCount (firstCharge bucket) (usageOf usage bucket + 1) := by
      rw [hcount, ← hbuck]
      rfl
    rw [hres, mem_updateWhere, ← hraised]
    constructor
    · rintro (⟨v, hv, hvbucket, rfl⟩ | ⟨hold, hne⟩)
      · obtain rfl : v = q := hunique.eq_of_key_eq hv hq (by simpa [hbuck] using hvbucket)
        exact .inr rfl
      · exact .inl ⟨hold, by simpa using hne⟩
    · rintro (⟨hold, hne⟩ | rfl)
      · exact .inr ⟨hold, by simpa using hne⟩
      · exact .inl ⟨q, hq, by simpa using hbuck, rfl⟩

end

/-! ## The balance -/

/-- Counters and rows have their keys, and a counter is the number of its charged rows. -/
structure Balanced (db : MeteringDb) : Prop where
  buckets : UniqueOn ChatDailyUsage.bucket db.usage
  keys : UniqueOn ChatIdempotency.key db.idempotency
  counts : ∀ u ∈ db.usage, u.freeFormCount = chargedCount db.idempotency u.bucket
  covered : ∀ r ∈ db.idempotency, r.status.isCharged = true → ∃ u ∈ db.usage, u.bucket = r.bucket
  colonFree : ∀ r ∈ db.idempotency, ':' ∉ r.externalUserId.toList

namespace Balanced

lemma empty : Balanced ⟨[], []⟩ where
  buckets := nodup_nil
  keys := nodup_nil
  counts := by simp
  covered := by simp
  colonFree := by simp

variable {db : MeteringDb}

lemma usageOf_eq (h : Balanced db) (bucket : QuotaBucket) :
    usageOf db.usage bucket = chargedCount db.idempotency bucket := by
  unfold usageOf
  cases hfind : db.usage.find? fun row => row.bucket = bucket with
  | some u =>
    have hbuck : u.bucket = bucket := by simpa using find?_some hfind
    rw [Option.map_some, Option.getD_some, h.counts u (mem_of_find?_eq_some hfind), hbuck]
  | none =>
    have hzero : chargedCount db.idempotency bucket = 0 := by
      refine chargedCount_eq_zero fun r hr hcharged hbuck => ?_
      obtain ⟨u, hu, hubucket⟩ := h.covered r hr hcharged
      exact absurd (hubucket.trans hbuck) (by simpa using find?_eq_none.mp hfind u hu)
    simp [hzero]

variable {p : ChatIdempotency → Bool}

section

variable (h : Balanced db)
include h

lemma releasable (hp : ∀ r ∈ db.idempotency, p r = true → r.status.isCharged = true) :
    Releasable (db.idempotency.filter p) db.usage := by
  intro u hu
  have hsplit := chargedCount_refund hp u.bucket
  rw [h.counts u hu]
  omega

lemma releasable_singleton {r : ChatIdempotency} (hr : r ∈ db.idempotency)
    (hcharged : r.status.isCharged = true) : Releasable [r] db.usage := by
  intro u hu
  rw [h.counts u hu, Nat.cast_le]
  by_cases hbuck : r.bucket = u.bucket
  · have hpos : 0 < chargedCount db.idempotency u.bucket :=
      countP_pos_iff.mpr ⟨r, hr, by simp [hbuck, hcharged]⟩
    have hone : bucketCount [r] u.bucket = 1 := by simp [bucketCount, hbuck]
    omega
  · have hzero : bucketCount [r] u.bucket = 0 := by simp [bucketCount, hbuck]
    omega

lemma charge {row : ChatIdempotency} {guard : ChatDailyUsage → Bool}
    (hstat : row.status = .reserved) (hcolon : ':' ∉ row.externalUserId.toList)
    (hfresh : ∀ r ∈ db.idempotency, r.key ≠ row.key)
    (hcharged : (upsertUsage row.bucket guard db.usage).2 = true) :
    Balanced ⟨(upsertUsage row.bucket guard db.usage).1, db.idempotency ++ [row]⟩ := by
  have hrow : row.status.isCharged = true := by rw [hstat]; rfl
  have hcnts : ∀ u ∈ (upsertUsage row.bucket guard db.usage).1,
      u.freeFormCount = chargedCount (db.idempotency ++ [row]) u.bucket := by
    intro u hu
    rw [chargedCount_append hrow]
    rcases (mem_upsertUsage h.buckets hcharged).mp hu with ⟨hold, hne⟩ | rfl
    · rw [if_neg (Ne.symm hne), Nat.add_zero]
      exact h.counts u hold
    · rw [withCount_bucket, firstCharge_bucket, if_pos rfl, withCount_freeFormCount,
        h.usageOf_eq row.bucket, Nat.cast_add, Nat.cast_one]
  have hcovered : ∀ r ∈ db.idempotency ++ [row], r.status.isCharged = true →
      ∃ u ∈ (upsertUsage row.bucket guard db.usage).1, u.bucket = r.bucket := by
    intro r hr hcount
    by_cases hbuck : r.bucket = row.bucket
    · exact ⟨_, (mem_upsertUsage h.buckets hcharged).mpr (.inr rfl), hbuck.symm⟩
    · have hold : r ∈ db.idempotency := by
        rcases mem_append.mp hr with hold | hnew
        · exact hold
        · obtain rfl : r = row := by simpa using hnew
          exact absurd rfl hbuck
      obtain ⟨u, hu, hubucket⟩ := h.covered r hold hcount
      rw [← hubucket] at hbuck
      exact ⟨u, (mem_upsertUsage h.buckets hcharged).mpr (.inl ⟨hu, hbuck⟩), hubucket⟩
  refine ⟨h.buckets.insertOnConflict (fun _ _ => rfl) fun hnew => hnew,
    h.keys.append_singleton hfresh, hcnts, hcovered, ?_⟩
  intro r hr
  rcases mem_append.mp hr with hold | hnew
  · exact h.colonFree r hold
  · obtain rfl : r = row := by simpa using hnew
    exact hcolon

lemma advance {status : ChatIdempotencyStatus} (hstat : status.isCharged = true)
    (hp : ∀ r ∈ db.idempotency, p r = true → r.status.isCharged = true) :
    Balanced { db with idempotency := updateWhere p (setStatus status) db.idempotency } := by
  refine ⟨h.buckets, h.keys.updateWhere (setStatus_key status), ?_, ?_, ?_⟩
  · intro u hu
    rw [chargedCount_advance hstat hp]
    exact h.counts u hu
  · intro r hr hcount
    rcases mem_updateWhere.mp hr with ⟨q, hq, hpq, rfl⟩ | ⟨hold, -⟩
    · exact h.covered q hq (hp q hq hpq)
    · exact h.covered r hold hcount
  · intro r hr
    rcases mem_updateWhere.mp hr with ⟨q, hq, -, rfl⟩ | ⟨hold, -⟩
    · exact h.colonFree q hq
    · exact h.colonFree r hold

lemma refund (hp : ∀ r ∈ db.idempotency, p r = true → r.status.isCharged = true) :
    Balanced ⟨release (db.idempotency.filter p) db.usage,
      updateWhere p (setStatus .refunded) db.idempotency⟩ := by
  refine ⟨?_, h.keys.updateWhere (setStatus_key _), ?_, ?_, ?_⟩
  · have hkept : (release (db.idempotency.filter p) db.usage).map ChatDailyUsage.bucket =
        db.usage.map ChatDailyUsage.bucket := by
      rw [release, map_map]
      rfl
    rw [UniqueOn, hkept]
    exact h.buckets
  · intro _ hu
    obtain ⟨old, hold, rfl⟩ := mem_map.mp hu
    have hsplit := chargedCount_refund hp old.bucket
    rw [withCount_bucket, withCount_freeFormCount, h.counts old hold]
    dsimp only
    omega
  · intro r hr hcount
    rcases mem_updateWhere.mp hr with ⟨q, hq, -, rfl⟩ | ⟨hold, -⟩
    · cases hcount
    · obtain ⟨_, hu, hubucket⟩ := h.covered r hold hcount
      exact ⟨_, mem_map_of_mem hu, hubucket⟩
  · intro r hr
    rcases mem_updateWhere.mp hr with ⟨q, hq, -, rfl⟩ | ⟨hold, -⟩
    · exact h.colonFree q hq
    · exact h.colonFree r hold

lemma delete (hp : ∀ r ∈ db.idempotency, p r = true → r.status.isCharged = false) :
    Balanced { db with idempotency := deleteWhere p db.idempotency } := by
  refine ⟨h.buckets, h.keys.deleteWhere, ?_, ?_, ?_⟩
  · intro u hu
    rw [chargedCount_delete hp]
    exact h.counts u hu
  · intro r hr hcount
    exact h.covered r (mem_deleteWhere.mp hr).1 hcount
  · intro r hr
    exact h.colonFree r (mem_deleteWhere.mp hr).1

lemma move {reserved refunded : List (Platform × String)} {next : MeteringDb}
    (hmove : LedgerMove db reserved refunded next) : Balanced next := by
  cases hmove with
  | charge hstat hcolon hfresh hcharged => exact h.charge hstat hcolon hfresh hcharged
  | advance hstat hp =>
    refine h.advance hstat fun r hr hpr => ?_
    rcases hp r hr hpr with hr | hr <;> rw [hr] <;> rfl
  | refund hp => exact h.refund fun r hr hpr => by rw [hp r hr hpr]; rfl
  | delete hp => exact h.delete fun r hr hpr => by rw [hp r hr hpr]; rfl

end

end Balanced

end WispaceBot
