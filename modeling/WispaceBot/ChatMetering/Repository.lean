import WispaceBot.Contracts
import WispaceBot.Foundation.Table
import WispaceBot.Foundation.Tally

/-!
# The quota ledger in Postgres

`ChatRateLimitRepository` charges free-form messages to two tables.  `chat_idempotency` has one row
per idempotency key with the life cycle of a reservation, `chat_daily_usage` one counter per bucket.
Each method is one transaction on both tables.

A counter is lowered by `GREATEST(free_form_count - n, 0)`.  The clamp, `greatestZero` in the code,
is an argument, so that it can be compared with its absence.  The day that the bulk recovery reads
off a `DATE` depends on the time zone of the process and is an argument too.
-/

namespace WispaceBot

/-! ## Tables -/

inductive ChatIdempotencyStatus
  | reserved
  | delivered
  | completed
  | refunded
  deriving DecidableEq

def ChatIdempotencyStatus.isCharged : ChatIdempotencyStatus → Bool
  | .refunded => false
  | _ => true

/-- A calendar date, written `YYYY-MM-DD`. -/
structure UsageDate where
  text : String
  length_eq : text.toList.length = 10
  no_colon : ':' ∉ text.toList
deriving DecidableEq

/-- A bucket of the quota: a channel on a date, for a learner or for nobody. -/
structure QuotaBucket where
  platform : Platform
  externalUserId : String
  usageDate : UsageDate
  /-- The learner who owns the usage; `none` for anonymous usage. -/
  userId : Option ℕ
deriving DecidableEq

/-- A row of `chat_daily_usage`. -/
structure ChatDailyUsage where
  platform : Platform
  externalUserId : String
  /-- The owner, `NULL` for anonymous usage. -/
  userId : Option ℕ
  usageDate : UsageDate
  freeFormCount : ℤ
deriving DecidableEq

def ChatDailyUsage.bucket (row : ChatDailyUsage) : QuotaBucket :=
  ⟨row.platform, row.externalUserId, row.usageDate, row.userId⟩

/-- A row of `chat_idempotency`. -/
structure ChatIdempotency where
  platform : Platform
  (idempotencyKey externalUserId : String)
  /-- The owner of the charge, `NULL` for anonymous usage. -/
  userId : Option ℕ
  usageDate : UsageDate
  status : ChatIdempotencyStatus
  reservedAt : ℤ
deriving DecidableEq

def ChatIdempotency.bucket (row : ChatIdempotency) : QuotaBucket :=
  ⟨row.platform, row.externalUserId, row.usageDate, row.userId⟩

/-- The primary key of `chat_idempotency`. -/
def ChatIdempotency.key (row : ChatIdempotency) : Platform × String :=
  (row.platform, row.idempotencyKey)

/-- The two tables of the metering. -/
structure MeteringDb where
  /-- `chat_daily_usage`. -/
  usage : List ChatDailyUsage
  /-- `chat_idempotency`. -/
  idempotency : List ChatIdempotency

/-- The counter of a bucket, `0` if there is none. -/
def usageOf (usage : List ChatDailyUsage) (bucket : QuotaBucket) : ℤ :=
  ((usage.find? fun row => row.bucket = bucket).map (·.freeFormCount)).getD 0

def chargedCount (rows : List ChatIdempotency) (bucket : QuotaBucket) : ℕ :=
  rows.countP fun row => decide (row.bucket = bucket) && row.status.isCharged

/-- `buildLearnerUsageQuery`: the sum over the learner's counters of a date. -/
def learnerUsage (usage : List ChatDailyUsage) (usageDate : UsageDate) (userId : ℕ) : ℤ :=
  ((usage.filter fun row => row.usageDate = usageDate ∧ row.userId = some userId).map
    (·.freeFormCount)).sum

namespace ChatRateLimitRepository

open Table Tally Pages

/-- `GREATEST(x, 0)`. -/
def greatestZero (x : ℤ) : ℤ := max x 0

/-! ## Reserving -/

/-- The argument of `reserveFreeFormSlotInTransaction`. -/
structure ReserveFreeFormSlotInput where
  externalUserId : String
  userId : Option ℕ
  usageDate : UsageDate
  idempotencyKey : String
  dailyLimit : ℤ
  (burstLimit burstSince : Option ℤ)
  burstCountsRefunded : Bool

def ReserveFreeFormSlotInput.burst (input : ReserveFreeFormSlotInput) : Option (ℤ × ℤ) :=
  input.burstLimit.bind fun limit => input.burstSince.map fun since => (limit, since)

def ReserveFreeFormSlotInput.bucket (input : ReserveFreeFormSlotInput) (platform : Platform) :
    QuotaBucket :=
  ⟨platform, input.externalUserId, input.usageDate, input.userId⟩

inductive ReserveFreeFormSlotOutcome
  | reserved (freeFormCount : ℤ)
  | idempotencyConflict
  | dailyLimitExceeded
  | burstLimitExceeded (count : ℕ)

/-- The row a reservation inserts; `reserved_at` is the start of the transaction. -/
def reservation (platform : Platform) (startedAt : ℤ) (input : ReserveFreeFormSlotInput) :
    ChatIdempotency where
  platform := platform
  idempotencyKey := input.idempotencyKey
  externalUserId := input.externalUserId
  userId := input.userId
  usageDate := input.usageDate
  status := .reserved
  reservedAt := startedAt

def hasKey (rows : List ChatIdempotency) (key : Platform × String) : Bool :=
  rows.any fun row => row.key = key

/-- `tryReserveIdempotency`: `ON CONFLICT (platform, idempotency_key) DO NOTHING`. -/
def tryReserveIdempotency (platform : Platform) (startedAt : ℤ) (input : ReserveFreeFormSlotInput)
    (rows : List ChatIdempotency) : Option (List ChatIdempotency) :=
  if hasKey rows (platform, input.idempotencyKey) then none
  else some (rows ++ [reservation platform startedAt input])

def countsForBurst (burstCountsRefunded : Bool) (status : ChatIdempotencyStatus) : Bool :=
  status.isCharged || burstCountsRefunded

/-- The reservations of a user since the start of the burst window. -/
def burstCount (platform : Platform) (externalUserId : String) (since : ℤ)
    (burstCountsRefunded : Bool) (rows : List ChatIdempotency) : ℕ :=
  rows.countP fun row => decide (row.platform = platform ∧ row.externalUserId = externalUserId ∧
    since < row.reservedAt) && countsForBurst burstCountsRefunded row.status

/-- The burst count, if it is over the limit; `rows` has the reservation itself. -/
def burstExceeded (platform : Platform) (input : ReserveFreeFormSlotInput)
    (rows : List ChatIdempotency) : Option ℕ :=
  match input.burst with
  | none => none
  | some (limit, since) =>
    let count := burstCount platform input.externalUserId since input.burstCountsRefunded rows
    if limit < count then some count else none

def firstCharge (bucket : QuotaBucket) : ChatDailyUsage :=
  ⟨bucket.platform, bucket.externalUserId, bucket.userId, bucket.usageDate, 1⟩

/-- The flag says whether a row came back. -/
def upsertUsage (bucket : QuotaBucket) (guard : ChatDailyUsage → Bool)
    (usage : List ChatDailyUsage) : List ChatDailyUsage × Bool :=
  insertOnConflict ChatDailyUsage.bucket guard
    (fun row => { row with freeFormCount := row.freeFormCount + 1 }) (firstCharge bucket) usage

section

variable (platform : Platform) (input : ReserveFreeFormSlotInput) (usage : List ChatDailyUsage)

/-- A learner's usage is summed before the upsert, anonymous usage is checked by the upsert. -/
def chargeUsage : Option (List ChatDailyUsage) :=
  match input.userId with
  | some userId =>
    if input.dailyLimit ≤ learnerUsage usage input.usageDate userId then none
    else some (upsertUsage (input.bucket platform) (fun _ => true) usage).1
  | none =>
    let charged := upsertUsage (input.bucket platform)
      (fun row => row.freeFormCount < input.dailyLimit) usage
    if charged.2 then some charged.1 else none

def usedAfter : ℤ :=
  match input.userId with
  | some userId => learnerUsage usage input.usageDate userId
  | none => usageOf usage (input.bucket platform)

end

def reserveFreeFormSlotInTransaction (platform : Platform) (startedAt : ℤ)
    (input : ReserveFreeFormSlotInput) (db : MeteringDb) :
    MeteringDb × ReserveFreeFormSlotOutcome :=
  match tryReserveIdempotency platform startedAt input db.idempotency with
  | none => (db, .idempotencyConflict)
  | some rows =>
    match burstExceeded platform input rows with
    | some count => (db, .burstLimitExceeded count)
    | none =>
      match chargeUsage platform input db.usage with
      | none => (db, .dailyLimitExceeded)
      | some usage => (⟨usage, rows⟩, .reserved (usedAfter platform input usage))

/-! ## Refunding and completing -/

def selects (platform : Platform) (idempotencyKey : String)
    (status : ChatIdempotencyStatus → Bool) (row : ChatIdempotency) : Bool :=
  decide (row.platform = platform ∧ row.idempotencyKey = idempotencyKey) && status row.status

def setStatus (status : ChatIdempotencyStatus) (row : ChatIdempotency) : ChatIdempotency :=
  { row with status := status }

def releaseUsage (clamp : ℤ → ℤ) (bucket : QuotaBucket) (usage : List ChatDailyUsage) :
    List ChatDailyUsage :=
  updateWhere (fun row => row.bucket = bucket)
    (fun row => { row with freeFormCount := clamp (row.freeFormCount - 1) }) usage

/-- `refundReservedSlot`: the row says which bucket was charged. -/
def refundReservedSlot (clamp : ℤ → ℤ) (platform : Platform) (idempotencyKey : String)
    (db : MeteringDb) : MeteringDb × Bool :=
  let selected := selects platform idempotencyKey (· = .reserved)
  match (updateReturning selected (setStatus .refunded) db.idempotency).head? with
  | none => (db, false)
  | some row =>
    (⟨releaseUsage clamp row.bucket db.usage,
      updateWhere selected (setStatus .refunded) db.idempotency⟩, true)

section

variable (platform : Platform) (idempotencyKey : String) (db : MeteringDb)

def completeReservedSlot : MeteringDb × Bool :=
  let selected := selects platform idempotencyKey fun status =>
    status = .reserved ∨ status = .delivered
  ({ db with idempotency := updateWhere selected (setStatus .completed) db.idempotency },
    !(updateReturning selected (setStatus .completed) db.idempotency).isEmpty)

def markDeliveredSlot : MeteringDb × Bool :=
  let selected := selects platform idempotencyKey (· = .reserved)
  ({ db with idempotency := updateWhere selected (setStatus .delivered) db.idempotency },
    !(updateReturning selected (setStatus .delivered) db.idempotency).isEmpty)

end

/-! ## Recovering -/

inductive RecoverIdempotencyOutcome
  | reopened
  | inFlight
  | delivered
  | completed
  | notFound
  deriving DecidableEq

def deleteKey (platform : Platform) (idempotencyKey : String) (rows : List ChatIdempotency) :
    List ChatIdempotency :=
  deleteWhere (selects platform idempotencyKey fun _ => true) rows

/-- `recoverIdempotencyForRetry`: a stuck reservation is refunded, and a refunded one is deleted. -/
def recoverIdempotencyForRetry (clamp : ℤ → ℤ) (platform : Platform) (idempotencyKey : String)
    (stuckBefore : ℤ) (db : MeteringDb) : MeteringDb × RecoverIdempotencyOutcome :=
  match db.idempotency.find? (selects platform idempotencyKey fun _ => true) with
  | none => (db, .notFound)
  | some row =>
    match row.status with
    | .completed => (db, .completed)
    | .delivered => (db, .delivered)
    | .reserved =>
      if stuckBefore ≤ row.reservedAt then (db, .inFlight)
      else
        let selected := selects platform idempotencyKey (· = .reserved)
        (⟨releaseUsage clamp row.bucket db.usage, deleteKey platform idempotencyKey
          (updateWhere selected (setStatus .refunded) db.idempotency)⟩, .reopened)
    | .refunded =>
      ({ db with idempotency := deleteKey platform idempotencyKey db.idempotency }, .reopened)

/-- The row has had this status since before the cutoff. -/
def isStuck (platform : Platform) (stuckBefore : ℤ) (status : ChatIdempotencyStatus)
    (row : ChatIdempotency) : Bool :=
  decide (row.platform = platform ∧ row.status = status ∧ row.reservedAt < stuckBefore)

/-- The map key of an anonymous row, `${usageDate}:${externalUserId}`. -/
def anonymousKey (row : ChatIdempotency) : Option String :=
  match row.userId with
  | none => some (row.usageDate.text ++ ":" ++ row.externalUserId)
  | some _ => none

/-- The map key of a learner's row, `${usageDate}:${userId}:${externalUserId}`. -/
def learnerKey (row : ChatIdempotency) : Option String :=
  match row.userId with
  | none => none
  | some userId =>
    some (row.usageDate.text ++ ":" ++ toString userId ++ ":" ++ row.externalUserId)

/-- `key.split(':')`. -/
def splitKey (key : String) : List String := (key.toList.splitOn ':').map String.ofList

/-- `String(raw ?? '').slice(0, 10)`. -/
def sliceDate (raw : Option String) : String := String.ofList ((raw.getD "").toList.take 10)

section

variable (platform : Platform) (row : ChatDailyUsage) (key : String)

/-- An anonymous counter is the one a map key was built for, as far as the parts of the key tell. -/
def matchesAnonymous : Bool :=
  let parts := splitKey key
  decide (row.platform = platform ∧ row.usageDate.text = sliceDate parts[0]? ∧
    some row.externalUserId = parts[1]? ∧ row.userId = none)

/-- A learner's counter is the one a map key was built for, as far as the parts of the key tell. -/
def matchesLearner : Bool :=
  let parts := splitKey key
  decide (row.platform = platform ∧ row.userId.isSome = true ∧
    row.userId = parts[1]?.bind (·.toNat?) ∧ row.usageDate.text = sliceDate parts[0]? ∧
    some row.externalUserId = parts[2]?)

end

/-- `UPDATE … FROM (VALUES …)`: every counter is lowered by the count of the entry it matches. -/
def decrementMatching (clamp : ℤ → ℤ) (isMatch : ChatDailyUsage → String → Bool)
    (entries : List (String × ℕ)) (usage : List ChatDailyUsage) : List ChatDailyUsage :=
  usage.map fun row =>
    match entries.find? fun entry => isMatch row entry.1 with
    | none => row
    | some entry => { row with freeFormCount := clamp (row.freeFormCount - entry.2) }

def decrementPage (clamp : ℤ → ℤ) (platform : Platform) (usage : List ChatDailyUsage)
    (page : List ChatIdempotency) : List ChatDailyUsage :=
  let anonymousUsageDecrement := tally (page.filterMap anonymousKey)
  let learnerUsageDecrement := tally (page.filterMap learnerKey)
  decrementMatching clamp (matchesLearner platform) learnerUsageDecrement
    (decrementMatching clamp (matchesAnonymous platform) anonymousUsageDecrement usage)

def pageSize : ℕ := 1000

/-- A refunded row as the loops over a page read it.  The driver makes a `Date` of the `DATE`, at
midnight in the time zone of the process, and `toISOString` writes the UTC day of that instant. -/
def readRow (isoDay : UsageDate → UsageDate) (row : ChatIdempotency) : ChatIdempotency :=
  { row with usageDate := isoDay row.usageDate }

/-- The process is in UTC or west of it, where midnight of a date is on that date in UTC too. -/
def KeepsDates (isoDay : UsageDate → UsageDate) : Prop := ∀ date, isoDay date = date

/-- `recoverAllStuckReserved`: stuck deliveries are completed, stuck reservations refunded. -/
def recoverAllStuckReserved (clamp : ℤ → ℤ) (isoDay : UsageDate → UsageDate) (platform : Platform)
    (stuckBefore : ℤ) (db : MeteringDb) : MeteringDb × List String :=
  let delivered := isStuck platform stuckBefore .delivered
  let deliveredRows := updateReturning delivered (setStatus .completed) db.idempotency
  let finalized := updateWhere delivered (setStatus .completed) db.idempotency
  let reserved := isStuck platform stuckBefore .reserved
  let rows := updateReturning reserved (setStatus .refunded) finalized
  (⟨(pages pageSize (rows.map (readRow isoDay))).foldl (decrementPage clamp platform) db.usage,
      updateWhere reserved (setStatus .refunded) finalized⟩,
    deliveredRows.map (·.idempotencyKey) ++ rows.map (·.idempotencyKey))

end ChatRateLimitRepository

end WispaceBot
