import WispaceBot.ChatMetering.Balance
import WispaceBot.Foundation.Run

/-!
# The ledger over whole runs

In balanced tables every transaction is a sequence of at most two moves, and the clamp plays no
part.  `Metering` numbers the reservations of a key in the order they are made, and records each
refund with the number of the reservation it releases.
-/

namespace WispaceBot

open List Table Tally Pages Transition ChatRateLimitRepository

/-! ## Transactions -/

/-- A transaction of one of the platforms' repositories. -/
inductive MeteringOp
  /-- `reserveFreeFormSlotInTransaction`, with the start of the transaction. -/
  | reserve (platform : Platform) (startedAt : ℤ) (input : ReserveFreeFormSlotInput)
  /-- `refundReservedSlot`. -/
  | refund (platform : Platform) (idempotencyKey : String)
  /-- `markDeliveredSlot`. -/
  | deliver (platform : Platform) (idempotencyKey : String)
  /-- `completeReservedSlot`. -/
  | complete (platform : Platform) (idempotencyKey : String)
  /-- `recoverIdempotencyForRetry`. -/
  | recoverForRetry (platform : Platform) (idempotencyKey : String) (stuckBefore : ℤ)
  /-- `recoverAllStuckReserved`, with the days the process reads off the dates. -/
  | recoverAll (platform : Platform) (stuckBefore : ℤ) (isoDay : UsageDate → UsageDate)

namespace MeteringOp

/-- The tables after a transaction, with a function in the place of the clamp. -/
def applyWith (clamp : ℤ → ℤ) : MeteringOp → MeteringDb → MeteringDb
  | .reserve platform startedAt input, db =>
    (reserveFreeFormSlotInTransaction platform startedAt input db).1
  | .refund platform idempotencyKey, db => (refundReservedSlot clamp platform idempotencyKey db).1
  | .deliver platform idempotencyKey, db => (markDeliveredSlot platform idempotencyKey db).1
  | .complete platform idempotencyKey, db => (completeReservedSlot platform idempotencyKey db).1
  | .recoverForRetry platform idempotencyKey stuckBefore, db =>
    (recoverIdempotencyForRetry clamp platform idempotencyKey stuckBefore db).1
  | .recoverAll platform stuckBefore isoDay, db =>
    (recoverAllStuckReserved clamp isoDay platform stuckBefore db).1

def apply (op : MeteringOp) (db : MeteringDb) : MeteringDb := op.applyWith greatestZero db

/-- The row a transaction charges, if it makes a reservation. -/
def chargedRows : MeteringOp → MeteringDb → List ChatIdempotency
  | .reserve platform startedAt input, db =>
    match (reserveFreeFormSlotInTransaction platform startedAt input db).2 with
    | .reserved _ => [reservation platform startedAt input]
    | _ => []
  | _, _ => []

/-- The rows for which a transaction lowers a counter. -/
def refundedRows : MeteringOp → MeteringDb → List ChatIdempotency
  | .refund platform idempotencyKey, db =>
    (updateReturning (selects platform idempotencyKey (· = .reserved)) (setStatus .refunded)
      db.idempotency).head?.toList
  | .recoverForRetry platform idempotencyKey stuckBefore, db =>
    (db.idempotency.find? (selects platform idempotencyKey fun _ => true)).toList.filter fun row =>
      row.status = .reserved ∧ row.reservedAt < stuckBefore
  | .recoverAll platform stuckBefore _, db =>
    updateReturning (isStuck platform stuckBefore .reserved) (setStatus .refunded)
      (updateWhere (isStuck platform stuckBefore .delivered) (setStatus .completed) db.idempotency)
  | _, _ => []

def colonFree : MeteringOp → Bool
  | .reserve _ _ input => ':' ∉ input.externalUserId.toList
  | _ => true

/-- The bulk recovery does not run in a process east of UTC. -/
def KeepsDates : MeteringOp → Prop
  | .recoverAll _ _ isoDay => ChatRateLimitRepository.KeepsDates isoDay
  | _ => True

end MeteringOp

namespace MeteringSample

def date : UsageDate := ⟨"2026-01-05", by decide, by decide⟩

def input (since : ℤ) (idempotencyKey : String) : ReserveFreeFormSlotInput :=
  ⟨"u1", some 7, date, idempotencyKey, 5, some 3, some since, false⟩

def message (startedAt : ℤ) (idempotencyKey : String) : MeteringOp :=
  .reserve .messenger startedAt (input (startedAt - 60000) idempotencyKey)

def reopened : List MeteringOp :=
  [message 0 "m1", .refund .messenger "m1", .recoverForRetry .messenger "m1" 9, message 1 "m1",
    message 2 "m2", .deliver .messenger "m1", .complete .messenger "m1",
    .recoverAll .messenger 9 id]

lemma keepsDates_reopened : ∀ op ∈ reopened, op.KeepsDates := by
  simp [reopened, message, MeteringOp.KeepsDates, KeepsDates]

def bucket : QuotaBucket := ⟨.messenger, "u1", date, some 7⟩

/-- The days that a process east of UTC reads off the dates of the sample. -/
def isoDayEast (day : UsageDate) : UsageDate :=
  if day = date then ⟨"2026-01-04", by decide, by decide⟩ else day

end MeteringSample

/-! ## Transactions as moves -/

/-- An operation as a series of reservations and refunds. -/
inductive LedgerSteps : MeteringDb → List (Platform × String) → List (Platform × String) →
    MeteringDb → Prop
  | stay {db : MeteringDb} : LedgerSteps db [] [] db
  | one {db next : MeteringDb} {reserved refunded : List (Platform × String)}
      (hmove : LedgerMove db reserved refunded next) : LedgerSteps db reserved refunded next
  | two {db middle next : MeteringDb} {first second : List (Platform × String)}
      (hfirst : LedgerMove db [] first middle) (hsecond : LedgerMove middle [] second next) :
      LedgerSteps db [] (first ++ second) next

lemma reserveFreeFormSlotInTransaction_cases (p : Platform) (t₀ : ℤ)
    (input : ReserveFreeFormSlotInput) (db : MeteringDb) :
    ((reserveFreeFormSlotInTransaction p t₀ input db).1 = db ∧
      ∀ count, (reserveFreeFormSlotInTransaction p t₀ input db).2 ≠ .reserved count) ∨
    (hasKey db.idempotency (p, input.idempotencyKey) = false ∧
      burstExceeded p input (db.idempotency ++ [reservation p t₀ input]) =
        none ∧ ∃ usage, chargeUsage p input db.usage = some usage ∧
        reserveFreeFormSlotInTransaction p t₀ input db =
          (⟨usage, db.idempotency ++ [reservation p t₀ input]⟩,
            .reserved (usedAfter p input usage))) := by
  unfold reserveFreeFormSlotInTransaction tryReserveIdempotency
  cases hkey : hasKey db.idempotency (p, input.idempotencyKey) with
  | true => exact .inl ⟨rfl, fun count => by simp⟩
  | false =>
    simp only [Bool.false_eq_true, if_false]
    cases hburst : burstExceeded p input (db.idempotency ++ [reservation p t₀ input]) with
    | some count => exact .inl ⟨rfl, fun count => by simp⟩
    | none =>
      cases hcharge : chargeUsage p input db.usage with
      | none => exact .inl ⟨rfl, fun count => by simp⟩
      | some usage => exact .inr ⟨trivial, rfl, usage, rfl, rfl⟩

variable {platform : Platform}

lemma chargeUsage_eq_some {input : ReserveFreeFormSlotInput} {usage charged : List ChatDailyUsage}
    (h : chargeUsage platform input usage = some charged) :
    ∃ guard, (upsertUsage (input.bucket platform) guard usage).2 = true ∧
      charged = (upsertUsage (input.bucket platform) guard usage).1 ∧
      (∀ uid, input.userId = some uid → learnerUsage usage input.usageDate uid < input.dailyLimit) ∧
      (input.userId = none → ∀ u, guard u = true → u.freeFormCount < input.dailyLimit) := by
  unfold chargeUsage at h
  cases huser : input.userId with
  | some uid =>
    simp only [huser] at h
    split at h
    · cases h
    next _ =>
      have hflag : (upsertUsage (input.bucket platform) (fun _ => true) usage).2 = true := by
        unfold upsertUsage insertOnConflict
        split
        next hany =>
          simpa using hany
        · rfl
      refine ⟨fun _ => true, hflag, (Option.some.inj h).symm, ?_, by simp⟩
      intro other hother
      obtain rfl : uid = other := Option.some.inj hother
      omega
  | none =>
    simp only [huser] at h
    split at h
    next hflag =>
      exact ⟨_, hflag, (Option.some.inj h).symm, by simp, fun _ u hu => by simpa using hu⟩
    · cases h

variable {rows : List ChatIdempotency}

lemma hasKey_eq_false {key : Platform × String} :
    hasKey rows key = false ↔ ∀ r ∈ rows, r.key ≠ key := by
  simp [hasKey]

variable {row : ChatIdempotency} {status : ChatIdempotencyStatus → Bool} {idempotencyKey : String}

lemma selects_eq_true :
    selects platform idempotencyKey status row = true ↔
      row.key = (platform, idempotencyKey) ∧ status row.status = true := by
  simp [selects, ChatIdempotency.key, Prod.ext_iff]

lemma filter_selects (hkeys : UniqueOn ChatIdempotency.key rows) (hrow : row ∈ rows)
    (hsel : selects platform idempotencyKey status row = true) :
    rows.filter (selects platform idempotencyKey status) = [row] := by
  refine hkeys.filter_eq_singleton hrow hsel fun q _ hq => ?_
  rw [(selects_eq_true.mp hq).1, (selects_eq_true.mp hsel).1]

lemma map_key_updateReturning (p : ChatIdempotency → Bool) (status : ChatIdempotencyStatus)
    (rows : List ChatIdempotency) :
    (updateReturning p (setStatus status) rows).map (·.key) = (rows.filter p).map (·.key) := by
  rw [updateReturning, map_map]
  rfl

lemma bucketCount_updateReturning (p : ChatIdempotency → Bool) (status : ChatIdempotencyStatus)
    (rows : List ChatIdempotency) (bucket : QuotaBucket) :
    bucketCount (updateReturning p (setStatus status) rows) bucket =
      bucketCount (rows.filter p) bucket := by
  rw [bucketCount, updateReturning, countP_map]
  rfl

lemma release_updateReturning (p : ChatIdempotency → Bool) (status : ChatIdempotencyStatus)
    (rows : List ChatIdempotency) (usage : List ChatDailyUsage) :
    release (updateReturning p (setStatus status) rows) usage = release (rows.filter p) usage :=
  map_congr_left fun u _ => by rw [bucketCount_updateReturning]

namespace MeteringOp

variable {clamp : ℤ → ℤ} {db : MeteringDb} {platform : Platform}

lemma steps_reserve {t₀ : ℤ} {input : ReserveFreeFormSlotInput}
    (hcolon : ':' ∉ input.externalUserId.toList) :
    LedgerSteps db (((reserve platform t₀ input).chargedRows db).map (·.key)) []
      (reserveFreeFormSlotInTransaction platform t₀ input db).1 := by
  rcases reserveFreeFormSlotInTransaction_cases platform t₀ input db with
    ⟨hsame, href⟩ | ⟨hfresh, -, usage, hcharge, hres⟩
  · have hnothing : (reserve platform t₀ input).chargedRows db = [] := by
      cases hout : (reserveFreeFormSlotInTransaction platform t₀ input db).2 with
      | reserved count => exact absurd hout (href count)
      | _ => simp [chargedRows, hout]
    rw [hsame, hnothing]
    exact .stay
  · obtain ⟨_, hflag, rfl, -, -⟩ := chargeUsage_eq_some hcharge
    have hpaid : (reserve platform t₀ input).chargedRows db =
        [reservation platform t₀ input] := by
      simp [chargedRows, hres]
    rw [hres, hpaid]
    exact .one (.charge rfl hcolon (hasKey_eq_false.mp hfresh) hflag)

lemma refundReservedSlot_cases (platform : Platform) (idempotencyKey : String) (db : MeteringDb) :
    ((refund platform idempotencyKey).refundedRows db = [] ∧
      ∀ clamp, (refundReservedSlot clamp platform idempotencyKey db).1 = db) ∨
    ∃ row ∈ db.idempotency, selects platform idempotencyKey (· = .reserved) row = true ∧
      (refund platform idempotencyKey).refundedRows db = [setStatus .refunded row] ∧
      ∀ clamp, (refundReservedSlot clamp platform idempotencyKey db).1 =
        ⟨releaseUsage clamp row.bucket db.usage,
          updateWhere (selects platform idempotencyKey (· = .reserved)) (setStatus .refunded)
            db.idempotency⟩ := by
  simp only [refundReservedSlot, refundedRows]
  cases hhead : (updateReturning (selects platform idempotencyKey (· = .reserved))
      (setStatus .refunded) db.idempotency).head? with
  | none => exact .inl ⟨rfl, fun _ => rfl⟩
  | some refunded =>
    obtain ⟨row, hrow, hsel, rfl⟩ := mem_updateReturning.mp (mem_of_head? hhead)
    exact .inr ⟨row, hrow, hsel, rfl, fun _ => rfl⟩

lemma recoverIdempotencyForRetry_cases (platform : Platform) (idempotencyKey : String)
    (stuck : ℤ) (db : MeteringDb) :
    ((recoverForRetry platform idempotencyKey stuck).refundedRows db = [] ∧
      ∀ clamp, (recoverIdempotencyForRetry clamp platform idempotencyKey stuck db).1 = db) ∨
    (∃ row ∈ db.idempotency, row.key = (platform, idempotencyKey) ∧ row.status = .refunded ∧
      (recoverForRetry platform idempotencyKey stuck).refundedRows db = [] ∧
      ∀ clamp, (recoverIdempotencyForRetry clamp platform idempotencyKey stuck db).1 =
        { db with idempotency := deleteKey platform idempotencyKey db.idempotency }) ∨
    ∃ row ∈ db.idempotency, selects platform idempotencyKey (· = .reserved) row = true ∧
      (recoverForRetry platform idempotencyKey stuck).refundedRows db = [row] ∧
      ∀ clamp, (recoverIdempotencyForRetry clamp platform idempotencyKey stuck db).1 =
        ⟨releaseUsage clamp row.bucket db.usage, deleteKey platform idempotencyKey
          (updateWhere (selects platform idempotencyKey (· = .reserved)) (setStatus .refunded)
            db.idempotency)⟩ := by
  simp only [recoverIdempotencyForRetry, refundedRows]
  cases hfind : db.idempotency.find? (selects platform idempotencyKey fun _ => true) with
  | none => exact .inl ⟨rfl, fun _ => rfl⟩
  | some row =>
    have hmem := mem_of_find?_eq_some hfind
    have hkey := (selects_eq_true.mp (find?_some hfind)).1
    cases hstat : row.status with
    | completed | delivered => exact .inl ⟨by simp [hstat], fun _ => by simp only [hstat]⟩
    | refunded =>
      exact .inr (.inl ⟨row, hmem, hkey, hstat, by simp [hstat], fun _ => by simp only [hstat]⟩)
    | reserved =>
      by_cases hstuck : stuck ≤ row.reservedAt
      · have hnot : ¬row.reservedAt < stuck := by omega
        exact .inl ⟨by simp [hnot], fun _ => by simp only [hstat, if_pos hstuck]⟩
      · have hpre : row.reservedAt < stuck := by omega
        exact .inr (.inr ⟨row, hmem, selects_eq_true.mpr ⟨hkey, by simp [hstat]⟩,
          by simp [hstat, hpre], fun _ => by simp only [hstat, if_neg hstuck]⟩)

variable {row : ChatIdempotency}

lemma move_refund (hclamp : ∀ x, 0 ≤ x → clamp x = x) (hdb : Balanced db) {idempotencyKey : String}
    (hmem : row ∈ db.idempotency)
    (hsel : selects platform idempotencyKey (· = .reserved) row = true) :
    LedgerMove db [] [row.key] ⟨releaseUsage clamp row.bucket db.usage,
        updateWhere (selects platform idempotencyKey (· = .reserved)) (setStatus .refunded)
          db.idempotency⟩ := by
  have hres : ∀ r ∈ db.idempotency,
      selects platform idempotencyKey (· = .reserved) r = true → r.status = .reserved := by
    intro _ _ hr
    simpa using (selects_eq_true.mp hr).2
  have hfilter := filter_selects hdb.keys hmem hsel
  have hcover : Releasable [row] db.usage :=
    hdb.releasable_singleton hmem (by rw [hres row hmem hsel]; rfl)
  have hmove := LedgerMove.refund hres
  rw [hfilter] at hmove
  rw [releaseUsage_eq_release hclamp hcover]
  exact hmove

lemma steps_refund (hclamp : ∀ x, 0 ≤ x → clamp x = x) (hdb : Balanced db) (platform : Platform)
    (idempotencyKey : String) :
    LedgerSteps db [] (((refund platform idempotencyKey).refundedRows db).map (·.key))
      (refundReservedSlot clamp platform idempotencyKey db).1 := by
  rcases refundReservedSlot_cases platform idempotencyKey db with
    ⟨hrows, hres⟩ | ⟨row, hmem, hsel, hrows, hres⟩
  · rw [hrows, hres clamp]
    exact .stay
  · rw [hrows, hres clamp, map_singleton, setStatus_key]
    exact .one (move_refund hclamp hdb hmem hsel)

lemma steps_deliver (platform : Platform) (idempotencyKey : String) :
    LedgerSteps db [] [] (markDeliveredSlot platform idempotencyKey db).1 := by
  refine .one (.advance rfl fun r _ hsel => .inl ?_)
  simpa using (selects_eq_true.mp hsel).2

lemma steps_complete (platform : Platform) (idempotencyKey : String) :
    LedgerSteps db [] [] (completeReservedSlot platform idempotencyKey db).1 := by
  refine .one (.advance rfl fun r _ hsel => ?_)
  simpa using (selects_eq_true.mp hsel).2

lemma steps_recoverForRetry (hclamp : ∀ x, 0 ≤ x → clamp x = x) (hdb : Balanced db)
    (platform : Platform) (idempotencyKey : String) (stuck : ℤ) :
    LedgerSteps db []
      (((recoverForRetry platform idempotencyKey stuck).refundedRows db).map (·.key))
      (recoverIdempotencyForRetry clamp platform idempotencyKey stuck db).1 := by
  -- two rows under the key are the same row
  have honly : ∀ r ∈ db.idempotency, ∀ q ∈ db.idempotency, r.key = (platform, idempotencyKey) →
      q.key = (platform, idempotencyKey) → r = q :=
    fun r hr q hq hrkey hqkey => hdb.keys.eq_of_key_eq hr hq (hrkey.trans hqkey.symm)
  rcases recoverIdempotencyForRetry_cases platform idempotencyKey stuck db with
    ⟨hrows, hres⟩ | ⟨row, hmem, hkey, hstat, hrows, hres⟩ | ⟨row, hmem, hsel, hrows, hres⟩
  · rw [hrows, hres clamp]
    exact .stay
  · rw [hrows, hres clamp]
    refine .one (.delete fun r hr hrsel => ?_)
    rw [honly r hr row hmem (selects_eq_true.mp hrsel).1 hkey, hstat]
  · rw [hrows, hres clamp]
    refine .two (move_refund hclamp hdb hmem hsel) (.delete fun r hr hrsel => ?_)
    rcases mem_updateWhere.mp hr with ⟨_, -, -, rfl⟩ | ⟨hold, hnot⟩
    · rfl
    · rw [honly r hold row hmem (selects_eq_true.mp hrsel).1 (selects_eq_true.mp hsel).1,
        hsel] at hnot
      cases hnot

lemma isStuck_eq_true {stuck : ℤ} {status : ChatIdempotencyStatus}
    (h : isStuck platform stuck status row = true) :
    row.platform = platform ∧ row.status = status := by
  rw [isStuck, decide_eq_true_eq] at h
  exact ⟨h.1, h.2.1⟩

section

variable (hclamp : ∀ x, 0 ≤ x → clamp x = x) (hdb : Balanced db)
include hclamp hdb

lemma foldl_pages_eq_release {isoDay : UsageDate → UsageDate}
    (hdates : ChatRateLimitRepository.KeepsDates isoDay) (platform : Platform) (stuck : ℤ) :
    (pages pageSize ((updateReturning (isStuck platform stuck .reserved) (setStatus .refunded)
      db.idempotency).map (readRow isoDay))).foldl (decrementPage clamp platform) db.usage =
        release (db.idempotency.filter (isStuck platform stuck .reserved)) db.usage := by
  have hpaid : ∀ r ∈ db.idempotency, isStuck platform stuck .reserved r = true →
      r.status.isCharged = true := fun r _ hr => by rw [(isStuck_eq_true hr).2]; rfl
  have hpages := flatten_pages (by decide : 0 < pageSize)
    (updateReturning (isStuck platform stuck .reserved) (setStatus .refunded) db.idempotency)
  rw [map_readRow hdates, foldl_decrementPage hclamp, hpages, release_updateReturning]
  · intro r hr
    rw [hpages] at hr
    obtain ⟨q, -, hstuck, rfl⟩ := mem_updateReturning.mp hr
    exact (isStuck_eq_true hstuck).1
  · intro _ hr
    rw [hpages] at hr
    obtain ⟨q, hq, -, rfl⟩ := mem_updateReturning.mp hr
    exact hdb.colonFree q hq
  · rw [hpages]
    intro u hu
    rw [bucketCount_updateReturning]
    exact hdb.releasable hpaid u hu

lemma steps_recoverAll {isoDay : UsageDate → UsageDate}
    (hdates : ChatRateLimitRepository.KeepsDates isoDay) (platform : Platform) (stuck : ℤ) :
    LedgerSteps db [] (((recoverAll platform stuck isoDay).refundedRows db).map (·.key))
      (recoverAllStuckReserved clamp isoDay platform stuck db).1 := by
  have hadvance : LedgerMove db [] [] ⟨db.usage,
      updateWhere (isStuck platform stuck .delivered) (setStatus .completed) db.idempotency⟩ :=
    .advance rfl fun r _ hr => .inr (isStuck_eq_true hr).2
  have hsteps := LedgerSteps.two hadvance
    (.refund (p := isStuck platform stuck .reserved) fun r _ hr => (isStuck_eq_true hr).2)
  rw [← foldl_pages_eq_release hclamp (hdb.move hadvance) hdates] at hsteps
  simp only [refundedRows, map_key_updateReturning]
  exact hsteps

lemma steps_applyWith (op : MeteringOp) (hcolon : op.colonFree = true) (hdates : op.KeepsDates) :
    LedgerSteps db ((op.chargedRows db).map (·.key)) ((op.refundedRows db).map (·.key))
      (op.applyWith clamp db) := by
  cases op with
  | reserve => exact steps_reserve (by simpa [colonFree] using hcolon)
  | refund platform idempotencyKey => exact steps_refund hclamp hdb platform idempotencyKey
  | deliver platform idempotencyKey => exact steps_deliver platform idempotencyKey
  | complete platform idempotencyKey => exact steps_complete platform idempotencyKey
  | recoverForRetry platform idempotencyKey stuck =>
    exact steps_recoverForRetry hclamp hdb platform idempotencyKey stuck
  | recoverAll platform stuck => exact steps_recoverAll hclamp hdb hdates platform stuck

lemma applyWith_eq (op : MeteringOp) (hdates : op.KeepsDates) :
    op.applyWith clamp db = op.applyWith id db := by
  have hid : ∀ x : ℤ, 0 ≤ x → id x = x := fun _ _ => rfl
  have hrow : ∀ {platform idempotencyKey row}, row ∈ db.idempotency →
      selects platform idempotencyKey (· = .reserved) row = true →
      releaseUsage clamp row.bucket db.usage = releaseUsage id row.bucket db.usage := by
    intro platform idempotencyKey row hmem hsel
    have hstat : row.status = .reserved := by simpa using (selects_eq_true.mp hsel).2
    have hcover := hdb.releasable_singleton hmem (by rw [hstat]; rfl)
    rw [releaseUsage_eq_release hclamp hcover, releaseUsage_eq_release hid hcover]
  cases op with
  | reserve => rfl
  | deliver => rfl
  | complete => rfl
  | refund platform idempotencyKey =>
    rw [applyWith, applyWith]
    rcases refundReservedSlot_cases platform idempotencyKey db with
      ⟨-, hres⟩ | ⟨row, hmem, hsel, -, hres⟩
    · rw [hres, hres]
    · rw [hres, hres, hrow hmem hsel]
  | recoverForRetry platform idempotencyKey stuck =>
    rw [applyWith, applyWith]
    rcases recoverIdempotencyForRetry_cases platform idempotencyKey stuck db with
      ⟨-, hres⟩ | ⟨-, -, -, -, -, hres⟩ | ⟨row, hmem, hsel, -, hres⟩
    · rw [hres, hres]
    · rw [hres, hres]
    · rw [hres, hres, hrow hmem hsel]
  | recoverAll platform stuck =>
    have hmiddle : Balanced ⟨db.usage, updateWhere (isStuck platform stuck .delivered)
        (setStatus .completed) db.idempotency⟩ :=
      hdb.advance rfl fun r _ hr => by rw [(isStuck_eq_true hr).2]; rfl
    simp only [applyWith, recoverAllStuckReserved]
    rw [foldl_pages_eq_release hclamp hmiddle hdates, foldl_pages_eq_release hid hmiddle hdates]

end

end MeteringOp

/-! ## Runs -/

/-- The tables, with the reservations and the refunds made so far. -/
structure Metering where
  db : MeteringDb
  reservations : List (Platform × String)
  refunds : List ((Platform × String) × ℕ)

namespace Metering

def init : Metering := ⟨⟨[], []⟩, [], []⟩

/-- The state with other tables after some reservations and refunds. -/
def record (s : Metering) (reserved refunded : List (Platform × String)) (db : MeteringDb) :
    Metering where
  db := db
  reservations := s.reservations ++ reserved
  refunds := s.refunds ++ refunded.map fun key => (key, s.reservations.count key)

def step (s : Metering) (op : MeteringOp) : Option Metering :=
  if op.colonFree then
    some (s.record ((op.chargedRows s.db).map (·.key)) ((op.refundedRows s.db).map (·.key))
      (op.apply s.db))
  else none

end Metering

/-- The refunds are of reservations that were made, and no reservation is refunded twice. -/
structure Accounted (s : Metering) : Prop where
  nodup : s.refunds.Nodup
  numbered : ∀ refund ∈ s.refunds, 1 ≤ refund.2 ∧ refund.2 ≤ s.reservations.count refund.1
  pending : ∀ r ∈ s.db.idempotency, r.status.isCharged = true →
    1 ≤ s.reservations.count r.key ∧ (r.key, s.reservations.count r.key) ∉ s.refunds

namespace Accounted

variable {s : Metering} {next : MeteringDb} {reserved refunded : List (Platform × String)}

lemma of_rows (h : Accounted s) (hrows : ∀ r ∈ next.idempotency, r.status.isCharged = true →
      ∃ q ∈ s.db.idempotency, q.status.isCharged = true ∧ q.key = r.key) :
    Accounted (s.record [] [] next) := by
  refine ⟨by simpa [Metering.record] using h.nodup, by simpa [Metering.record] using h.numbered, ?_⟩
  intro r hr hpaid
  obtain ⟨q, hq, hqcharged, hkey⟩ := hrows r hr hpaid
  rw [← hkey]
  simpa [Metering.record] using h.pending q hq hqcharged

variable {usage : List ChatDailyUsage}

lemma charge (h : Accounted s) {row : ChatIdempotency}
    (hfresh : ∀ r ∈ s.db.idempotency, r.key ≠ row.key) :
    Accounted (s.record [row.key] [] ⟨usage, s.db.idempotency ++ [row]⟩) := by
  have href : (s.record [row.key] [] ⟨usage, s.db.idempotency ++ [row]⟩).refunds =
      s.refunds := append_nil _
  have hcount : ∀ key, (s.reservations ++ [row.key]).count key =
      s.reservations.count key + if row.key = key then 1 else 0 := by
    intro _
    rw [count_append, count_singleton]
    simp
  refine ⟨?_, ?_, ?_⟩
  · rw [href]
    exact h.nodup
  · intro refund hrefund
    rw [href] at hrefund
    have hnum := h.numbered refund hrefund
    simp only [Metering.record, hcount]
    omega
  · intro r hr hpaid
    rw [href]
    simp only [Metering.record, hcount]
    rcases mem_append.mp hr with hold | hnew
    · rw [if_neg (Ne.symm (hfresh r hold)), Nat.add_zero]
      exact h.pending r hold hpaid
    · obtain rfl : r = row := by simpa using hnew
      rw [if_pos rfl]
      refine ⟨by omega, fun hmem => ?_⟩
      have hnum := (h.numbered _ hmem).2
      dsimp only at hnum
      omega

section

variable (h : Accounted s) (hkeys : UniqueOn ChatIdempotency.key s.db.idempotency)
include h hkeys

lemma refund {p : ChatIdempotency → Bool}
    (hp : ∀ r ∈ s.db.idempotency, p r = true → r.status.isCharged = true) :
    Accounted (s.record [] ((s.db.idempotency.filter p).map (·.key))
      ⟨usage, updateWhere p (setStatus .refunded) s.db.idempotency⟩) := by
  have hnodup : ((s.db.idempotency.filter p).map (·.key)).Nodup :=
    (filter_sublist.map _).nodup hkeys
  have hinj : Function.Injective fun key : Platform × String =>
      (key, s.reservations.count key) := fun _ _ heq => congrArg Prod.fst heq
  refine ⟨?_, ?_, ?_⟩
  · refine nodup_append.mpr ⟨h.nodup, hnodup.map hinj, ?_⟩
    intro a ha _ hb hab
    obtain ⟨key, hkey, rfl⟩ := mem_map.mp hb
    obtain ⟨r, hr, rfl⟩ := mem_map.mp hkey
    obtain ⟨hmem, hpr⟩ := mem_filter.mp hr
    exact (h.pending r hmem (hp r hmem hpr)).2 (hab ▸ ha)
  · intro refund href
    simp only [Metering.record, append_nil]
    rcases mem_append.mp href with hold | hnew
    · exact h.numbered refund hold
    · obtain ⟨key, hkey, rfl⟩ := mem_map.mp hnew
      obtain ⟨r, hr, rfl⟩ := mem_map.mp hkey
      obtain ⟨hmem, hpr⟩ := mem_filter.mp hr
      exact ⟨(h.pending r hmem (hp r hmem hpr)).1, Nat.le_refl _⟩
  · intro r hr hpaid
    simp only [Metering.record, append_nil]
    rcases mem_updateWhere.mp hr with ⟨q, -, -, rfl⟩ | ⟨hold, hnot⟩
    · cases hpaid
    · refine ⟨(h.pending r hold hpaid).1, fun hmem => ?_⟩
      rcases mem_append.mp hmem with hpre | hnew
      · exact (h.pending r hold hpaid).2 hpre
      · -- the key of a selected row is not the key of a row that is left out
        obtain ⟨_, hkey, heq⟩ := mem_map.mp hnew
        obtain ⟨q, hq, rfl⟩ := mem_map.mp hkey
        obtain ⟨hqmem, hpq⟩ := mem_filter.mp hq
        obtain rfl : q = r := hkeys.eq_of_key_eq hqmem hold (congrArg Prod.fst heq)
        rw [hpq] at hnot
        cases hnot

lemma move (hmove : LedgerMove s.db reserved refunded next) :
    Accounted (s.record reserved refunded next) := by
  cases hmove with
  | charge _ _ hfresh => exact h.charge hfresh
  | advance _ hp =>
    refine h.of_rows fun r hr hpaid => ?_
    rcases mem_updateWhere.mp hr with ⟨q, hq, hpq, rfl⟩ | ⟨hold, -⟩
    · refine ⟨q, hq, ?_, rfl⟩
      rcases hp q hq hpq with hq | hq <;> rw [hq] <;> rfl
    · exact ⟨r, hold, hpaid, rfl⟩
  | refund hp => exact h.refund hkeys fun r hr hpr => by rw [hp r hr hpr]; rfl
  | delete =>
    exact h.of_rows fun r hr hpaid => ⟨r, (mem_deleteWhere.mp hr).1, hpaid, rfl⟩

end

end Accounted

variable {reserved refunded : List (Platform × String)} {db next : MeteringDb}

lemma LedgerMove.completed (hmove : LedgerMove db reserved refunded next)
    (hrow : row ∈ db.idempotency) (hcomp : row.status = .completed) :
    row ∈ next.idempotency ∧ row.key ∉ reserved := by
  cases hmove with
  | charge _ _ hfresh =>
    exact ⟨mem_append_left _ hrow, by simpa using hfresh row hrow⟩
  | advance _ hp =>
    refine ⟨mem_updateWhere.mpr (.inr ⟨hrow, ?_⟩), by simp⟩
    rw [Bool.eq_false_iff]
    intro hpr
    rcases hp row hrow hpr with hr | hr <;> rw [hcomp] at hr <;> cases hr
  | refund hp =>
    refine ⟨mem_updateWhere.mpr (.inr ⟨hrow, ?_⟩), by simp⟩
    rw [Bool.eq_false_iff]
    intro hpr
    have hr := hp row hrow hpr
    rw [hcomp] at hr
    cases hr
  | delete hp =>
    refine ⟨mem_deleteWhere.mpr ⟨hrow, ?_⟩, by simp⟩
    rw [Bool.eq_false_iff]
    intro hpr
    have hr := hp row hrow hpr
    rw [hcomp] at hr
    cases hr

lemma LedgerSteps.completed (hsteps : LedgerSteps db reserved refunded next)
    (hrow : row ∈ db.idempotency) (hcomp : row.status = .completed) :
    row ∈ next.idempotency ∧ row.key ∉ reserved := by
  cases hsteps with
  | stay => exact ⟨hrow, by simp⟩
  | one hmove => exact hmove.completed hrow hcomp
  | two hfirst hsnd =>
    exact hsnd.completed (hfirst.completed hrow hcomp).1 hcomp

namespace Metering

variable {s t : Metering} {op : MeteringOp}

lemma step_eq_some : s.step op = some t ↔
    op.colonFree = true ∧ t = s.record ((op.chargedRows s.db).map (·.key))
      ((op.refundedRows s.db).map (·.key)) (op.apply s.db) := by
  unfold step
  split
  next hcolon =>
    simp [hcolon, eq_comm]
  next hcolon =>
    simp [hcolon]

lemma greatestZero_of_nonneg (x : ℤ) (hx : 0 ≤ x) : greatestZero x = x := max_eq_left hx

lemma record_record (s : Metering) (first second : List (Platform × String))
    (middle next : MeteringDb) :
    (s.record [] first middle).record [] second next = s.record [] (first ++ second) next := by
  simp [record]

lemma record_steps {reserved refunded : List (Platform × String)} {next : MeteringDb}
    (hbal : Balanced s.db) (hacct : Accounted s)
    (hsteps : LedgerSteps s.db reserved refunded next) :
    Balanced next ∧ Accounted (s.record reserved refunded next) := by
  cases hsteps with
  | stay => exact ⟨hbal, by simpa [record] using hacct⟩
  | one hmove => exact ⟨hbal.move hmove, hacct.move hbal.keys hmove⟩
  | two hfirst hsnd =>
    have hmiddle := hbal.move hfirst
    refine ⟨hmiddle.move hsnd, ?_⟩
    rw [← record_record]
    exact (hacct.move hbal.keys hfirst).move hmiddle.keys hsnd

lemma step_sound (hs : Balanced s.db ∧ Accounted s) (hdates : op.KeepsDates)
    (hstep : s.step op = some t) : Balanced t.db ∧ Accounted t := by
  obtain ⟨hcolon, rfl⟩ := step_eq_some.mp hstep
  exact record_steps hs.1 hs.2 (op.steps_applyWith greatestZero_of_nonneg hs.1 hcolon hdates)

variable {row : ChatIdempotency}

lemma step_completed (hs : Balanced s.db) (hdates : op.KeepsDates) (hstep : s.step op = some t)
    (hrow : row ∈ s.db.idempotency) (hcomp : row.status = .completed) :
    row ∈ t.db.idempotency ∧ t.reservations.count row.key = s.reservations.count row.key := by
  obtain ⟨hcolon, rfl⟩ := step_eq_some.mp hstep
  obtain ⟨hmem, hkey⟩ :=
    (op.steps_applyWith greatestZero_of_nonneg hs hcolon hdates).completed hrow hcomp
  refine ⟨hmem, ?_⟩
  rw [record, count_append, count_eq_zero.mpr hkey, Nat.add_zero]

lemma init_sound : Balanced init.db ∧ Accounted init :=
  ⟨Balanced.empty, ⟨nodup_nil, by simp [init], by simp [init]⟩⟩

variable {ops : List MeteringOp}

lemma run_sound (hs : Balanced s.db ∧ Accounted s) (hdates : ∀ op ∈ ops, op.KeepsDates)
    (hrun : run step s ops = some t) : Balanced t.db ∧ Accounted t :=
  run_induction (C := fun _ op => op.KeepsDates)
    (fun _ _ _ hs hdates hstep => step_sound hs hdates hstep) hs (along_of_forall hdates) hrun

lemma run_completed (hs : Balanced s.db ∧ Accounted s) (hdates : ∀ op ∈ ops, op.KeepsDates)
    (hrow : row ∈ s.db.idempotency) (hcomp : row.status = .completed)
    (hrun : run step s ops = some t) :
    row ∈ t.db.idempotency ∧ t.reservations.count row.key = s.reservations.count row.key := by
  have hinv : (Balanced t.db ∧ Accounted t) ∧ row ∈ t.db.idempotency ∧
      t.reservations.count row.key = s.reservations.count row.key := by
    refine run_induction (I := fun u => (Balanced u.db ∧ Accounted u) ∧
      row ∈ u.db.idempotency ∧ u.reservations.count row.key = s.reservations.count row.key)
      ?_ ⟨hs, hrow, rfl⟩ (along_of_forall hdates) hrun
    rintro _ _ _ ⟨hu, hmem, hcount⟩ hdates hstep
    obtain ⟨hvmem, hvcount⟩ := step_completed hu.1 hdates hstep hmem hcomp
    exact ⟨step_sound hu hdates hstep, hvmem, hvcount.trans hcount⟩
  exact hinv.2

/-- Unless the bulk recovery runs in a process east of UTC, in every state reached a counter is the
number of its reservations that are not refunded.  No reservation is refunded twice, the clamp has
no effect, and a completed row stays for the rest of the run. -/
theorem ledger_balanced (ops : List MeteringOp) (s : Metering) (hdates : ∀ op ∈ ops, op.KeepsDates)
    (hrun : run step init ops = some s) :
    (s.db.usage.map ChatDailyUsage.bucket).Nodup ∧
    (∀ bucket, usageOf s.db.usage bucket = chargedCount s.db.idempotency bucket) ∧
    (s.refunds.Nodup ∧ ∀ refund ∈ s.refunds,
      1 ≤ refund.2 ∧ refund.2 ≤ s.reservations.count refund.1) ∧
    (∀ op : MeteringOp, op.KeepsDates → op.applyWith greatestZero s.db = op.applyWith id s.db) ∧
    ∀ row ∈ s.db.idempotency, row.status = .completed → ∀ more t,
      (∀ op ∈ more, op.KeepsDates) → run step s more = some t →
        row ∈ t.db.idempotency ∧ t.reservations.count row.key = s.reservations.count row.key := by
  obtain ⟨hbal, hacct⟩ := run_sound init_sound hdates hrun
  refine ⟨hbal.buckets, hbal.usageOf_eq, ⟨hacct.nodup, hacct.numbered⟩,
    fun op hop => op.applyWith_eq greatestZero_of_nonneg hbal hop, ?_⟩
  intro _ hrow hcomp _ _ hlater hmore
  exact run_completed ⟨hbal, hacct⟩ hlater hrow hcomp hmore

open MeteringSample

/-- One slot is refunded and reserved again, another is refunded: one message is charged. -/
theorem ledger_balanced_reopened :
    ∃ s, run step init reopened = some s ∧
      s.reservations = [(.messenger, "m1"), (.messenger, "m1"), (.messenger, "m2")] ∧
      s.refunds = [((.messenger, "m1"), 1), ((.messenger, "m2"), 1)] ∧ s.refunds.Nodup ∧
      chargedCount s.db.idempotency bucket = 1 ∧
      usageOf s.db.usage bucket = chargedCount s.db.idempotency bucket :=
  ⟨_, rfl, rfl, rfl, (ledger_balanced reopened _ keepsDates_reopened rfl).2.2.1.1, rfl,
    (ledger_balanced reopened _ keepsDates_reopened rfl).2.1 bucket⟩

/-- East of UTC the bulk recovery looks for a counter of the day before: the reservation is refunded
and its counter stays. -/
theorem counter_kept_east_of_utc :
    ∃ s, run step init [.reserve .messenger 0 ⟨"u1", none, date, "m1", 5, none, none, false⟩,
        .recoverAll .messenger 9 isoDayEast] = some s ∧
      s.refunds = [((.messenger, "m1"), 1)] ∧
      usageOf s.db.usage ⟨.messenger, "u1", date, none⟩ = 1 ∧
      chargedCount s.db.idempotency ⟨.messenger, "u1", date, none⟩ = 0 := by
  decide +kernel

end Metering

end WispaceBot
