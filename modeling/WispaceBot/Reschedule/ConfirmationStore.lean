import Mathlib.Data.List.Sort
import WispaceBot.Contracts
import WispaceBot.Foundation.Table

/-!
# The staged-request store

The table `reschedule_confirmations` holds at most one staged request per learner.  A request is
staged as `pending`, claimed by `takeValid` with a fresh lease token (`processing`), and given back
or removed by the holder of the lease.  The recovery cron reverts or cancels old claims by row id.
`now` is the clock of the database, `appNow` that of the bot.  The columns take every value, and
`uuid` columns are compared as texts, as the database does for canonical ones.
-/

namespace WispaceBot

inductive RescheduleSchedulingMode
  | defaultNextDaySameTime
  | explicit
  deriving DecidableEq

/-- The `status` column of `reschedule_confirmations`. -/
inductive ConfirmationStatus
  | pending
  | processing
  | confirmed
  | cancelled
  deriving DecidableEq

/-- A row of `reschedule_confirmations`.  `externalId` is the storage key `platform:externalId`. -/
structure RescheduleConfirmationEntity where
  id : ℕ
  (externalId toolName platform : String)
  userId : ℤ
  (mappingVersion intentHash argsHash nonce : String)
  calendarId : ℤ
  schedulingMode : RescheduleSchedulingMode
  (newLocalDate newTime : Option String)
  sessionLabel : String
  status : ConfirmationStatus
  leaseToken : Option String
  processingStartedAt : Option ℤ
  expiresAt : ℤ
  deriving DecidableEq

/-- The `status` column of `reschedule_confirmation_attempts`. -/
inductive RescheduleAttemptStatus
  | attempting
  | confirmed
  deriving DecidableEq

/-- The `notification_status` column of `reschedule_confirmation_attempts`. -/
inductive RescheduleNotificationStatus
  | pending
  | deferred
  | delivered
  | ambiguous
  | abandoned
  deriving DecidableEq

/-- `externalId` is the raw id of the learner on the platform, not the storage key. -/
structure RescheduleConfirmationAttemptEntity where
  platform : Platform
  (externalId nonce : String)
  userId : ℤ
  status : RescheduleAttemptStatus
  scheduledTimeLabel : Option String
  notificationStatus : RescheduleNotificationStatus
  notificationAttempts : ℕ
  nextNotificationAttemptAt : Option ℤ

/-- The two tables, with the next value of the serial `reschedule_confirmations.id`. -/
structure RescheduleDb where
  confirmations : List RescheduleConfirmationEntity
  attempts : List RescheduleConfirmationAttemptEntity
  nextId : ℕ

/-- The database before the first request is staged. -/
def RescheduleDb.empty : RescheduleDb where
  confirmations := []
  attempts := []
  nextId := 1

/-- `PendingRescheduleRecord`: a staged request as the service sees it. -/
structure PendingRescheduleRecord where
  externalId : String
  (userId calendarId : ℤ)
  schedulingMode : RescheduleSchedulingMode
  (newLocalDate newTime : Option String)
  sessionLabel : String
  expiresAt : ℤ
  (leaseToken toolName platform mappingVersion intentHash argsHash nonce : Option String)
  deriving DecidableEq

/-- `RescheduleApprovalBinding`: the columns a claim may be bound to. -/
structure RescheduleApprovalBinding where
  (platform mappingVersion intentHash argsHash nonce : Option String)

inductive ReschedulePendingState
  | pending
  | processing
  | expired
  | none
  deriving DecidableEq

inductive RescheduleCancellationOutcome
  | cancelled
  | none
  | processing
  | expired
  deriving DecidableEq

/-- The fresh time to live of a request that is put back to pending: `interval '10 minutes'`. -/
def pendingIntervalMs : ℤ := 10 * 60 * 1000

namespace TypeormRescheduleStore

section

variable (platform : Platform)

/-- `key`: the storage key of a learner. -/
def key (externalId : String) : String :=
  platform.name ++ ":" ++ externalId

/-- `stripKeyPrefix`: the raw external id behind a storage key. -/
def stripKeyPrefix (externalId : String) : String :=
  let chars := (platform.name ++ ":").toList
  if chars.isPrefixOf externalId.toList then
    String.ofList (externalId.toList.drop chars.length)
  else externalId

/-- `mapRow`: a row as a staged request. -/
def mapRow (row : RescheduleConfirmationEntity) :
    PendingRescheduleRecord where
  externalId := stripKeyPrefix platform row.externalId
  toolName := some row.toolName
  platform := some row.platform
  userId := row.userId
  mappingVersion := some row.mappingVersion
  intentHash := some row.intentHash
  argsHash := some row.argsHash
  nonce := some row.nonce
  calendarId := row.calendarId
  schedulingMode := row.schedulingMode
  newLocalDate := row.newLocalDate
  newTime := row.newTime
  sessionLabel := row.sessionLabel
  expiresAt := row.expiresAt
  leaseToken := row.leaseToken

/-- The row `save` inserts.  `uuid` is the nonce drawn when the request carries none. -/
def pendingRow (uuid : String) (pending : PendingRescheduleRecord) (id : ℕ) :
    RescheduleConfirmationEntity where
  id := id
  externalId := key platform pending.externalId
  toolName := pending.toolName.getD "reschedule_study_session"
  platform := pending.platform.getD platform.name
  userId := pending.userId
  mappingVersion := pending.mappingVersion.getD ("legacy:" ++ toString pending.userId)
  intentHash := pending.intentHash.getD ""
  argsHash := pending.argsHash.getD ""
  nonce := pending.nonce.getD uuid
  calendarId := pending.calendarId
  schedulingMode := pending.schedulingMode
  newLocalDate := pending.newLocalDate
  newTime := pending.newTime
  sessionLabel := pending.sessionLabel
  status := .pending
  leaseToken := none
  processingStartedAt := none
  expiresAt := pending.expiresAt

end

/-- Everything but the row id, the key and the two lease columns. -/
def overwrite (new row : RescheduleConfirmationEntity) : RescheduleConfirmationEntity :=
  { new with
    id := row.id
    externalId := row.externalId
    leaseToken := row.leaseToken
    processingStartedAt := row.processingStartedAt }

structure StagedColumns where
  (externalId toolName platform : String)
  userId : ℤ
  (mappingVersion intentHash argsHash nonce : String)
  calendarId : ℤ
  schedulingMode : RescheduleSchedulingMode
  (newLocalDate newTime : Option String)
  sessionLabel : String

def stagedColumns (row : RescheduleConfirmationEntity) : StagedColumns where
  externalId := row.externalId
  toolName := row.toolName
  platform := row.platform
  userId := row.userId
  mappingVersion := row.mappingVersion
  intentHash := row.intentHash
  argsHash := row.argsHash
  nonce := row.nonce
  calendarId := row.calendarId
  schedulingMode := row.schedulingMode
  newLocalDate := row.newLocalDate
  newTime := row.newTime
  sessionLabel := row.sessionLabel

/-- The serial advances whether or not the insert conflicts. -/
def save (platform : Platform) (uuid : String) (pending : PendingRescheduleRecord)
    (db : RescheduleDb) : RescheduleDb × Bool :=
  let new := pendingRow platform uuid pending db.nextId
  let written := Table.insertOnConflict (·.externalId)
    (fun row => decide (row.status ≠ .processing)) (overwrite new) new db.confirmations
  ({ db with confirmations := written.1, nextId := db.nextId + 1 }, written.2)

/-- The conditions `addBinding` collects: every bound column has the bound value. -/
def bindingHolds (binding : RescheduleApprovalBinding) (row : RescheduleConfirmationEntity) :
    Bool :=
  binding.platform.all (· == row.platform) &&
    binding.mappingVersion.all (· == row.mappingVersion) &&
    binding.intentHash.all (· == row.intentHash) &&
    binding.argsHash.all (· == row.argsHash) &&
    binding.nonce.all (· == row.nonce)

/-- The `WHERE` clause of `takeValid`. -/
def claimable (platform : Platform) (now : ℤ) (externalId : String) (userId : Option ℤ)
    (binding : RescheduleApprovalBinding) (row : RescheduleConfirmationEntity) : Bool :=
  decide (row.externalId = key platform externalId) && decide (row.status = .pending) &&
    decide (now < row.expiresAt) && userId.all (· == row.userId) && bindingHolds binding row

def claimed (now : ℤ) (leaseToken : String) (row : RescheduleConfirmationEntity) :
    RescheduleConfirmationEntity :=
  { row with
    status := .processing
    leaseToken := some leaseToken
    processingStartedAt := some now }

/-- `takeValid`: claim the learner's unexpired pending request. -/
def takeValid (platform : Platform) (now : ℤ) (leaseToken externalId : String)
    (userId : Option ℤ) (binding : RescheduleApprovalBinding) (db : RescheduleDb) :
    RescheduleDb × Option PendingRescheduleRecord :=
  let p := claimable platform now externalId userId binding
  ({ db with confirmations := Table.updateWhere p (claimed now leaseToken) db.confirmations },
    ((Table.updateReturning p (claimed now leaseToken) db.confirmations).head?).map
      (mapRow platform))

/-- The row is claimed under the key of the learner with this very lease. -/
def heldBy (platform : Platform) (externalId leaseToken : String)
    (row : RescheduleConfirmationEntity) : Bool :=
  decide (row.externalId = key platform externalId) && decide (row.status = .processing) &&
    decide (row.leaseToken = some leaseToken)

/-- What putting a claimed row back to pending writes. -/
def rearmed (now : ℤ) (row : RescheduleConfirmationEntity) : RescheduleConfirmationEntity :=
  { row with
    status := .pending
    leaseToken := none
    processingStartedAt := none
    expiresAt := now + pendingIntervalMs }

/-- What releasing a stale row without re-arming it writes. -/
def released (row : RescheduleConfirmationEntity) : RescheduleConfirmationEntity :=
  { row with
    status := .cancelled
    leaseToken := none
    processingStartedAt := none }

section

variable (platform : Platform)

/-- `revertToPending`: the holder of the lease gives the request back. -/
def revertToPending (now : ℤ) (externalId leaseToken : String) (db : RescheduleDb) : RescheduleDb :=
  { db with
    confirmations :=
      Table.updateWhere (heldBy platform externalId leaseToken) (rearmed now) db.confirmations }

/-- `cancelClaimed`: the holder of the lease removes the request. -/
def cancelClaimed (externalId leaseToken : String) (db : RescheduleDb) : RescheduleDb :=
  { db with
    confirmations := Table.deleteWhere (heldBy platform externalId leaseToken) db.confirmations }

/-- The rows `cancelPending` deletes. -/
def cancellable (externalId : String) (nonce : Option String) (row : RescheduleConfirmationEntity) :
    Bool :=
  decide (row.externalId = key platform externalId) && decide (row.status ≠ .processing) &&
    nonce.all (· == row.nonce)

/-- `cancelPending`: remove the learner's request unless it is being processed. -/
def cancelPending (externalId : String) (nonce : Option String) (db : RescheduleDb) :
    RescheduleDb × RescheduleCancellationOutcome :=
  if db.confirmations.any (cancellable platform externalId nonce) then
    ({ db with
        confirmations :=
          Table.deleteWhere (cancellable platform externalId nonce) db.confirmations },
      .cancelled)
  else if db.confirmations.any fun row =>
      decide (row.externalId = key platform externalId) && decide (row.status = .processing) &&
        nonce.all (· == row.nonce) then
    (db, .processing)
  else (db, .none)

/-- The rows the lazy expiry of `getPendingState` deletes. -/
def lapsed (now : ℤ) (externalId : String) (row : RescheduleConfirmationEntity) : Bool :=
  decide (row.externalId = key platform externalId) && decide (row.status = .pending) &&
    decide (row.expiresAt ≤ now)

/-- Expiry is read off the clock of the bot, the deletion off that of the database. -/
def getPendingState (appNow now : ℤ) (externalId : String) (db : RescheduleDb) :
    RescheduleDb × ReschedulePendingState :=
  match db.confirmations.find? fun row => decide (row.externalId = key platform externalId) with
  | none => (db, .none)
  | some row =>
    match row.status with
    | .processing => (db, .processing)
    | .confirmed | .cancelled => (db, .none)
    | .pending =>
      if row.expiresAt ≤ appNow then
        ({ db with
            confirmations := Table.deleteWhere (lapsed platform now externalId) db.confirmations },
          .expired)
      else (db, .pending)

end

/-- The external id is the column itself, that is, the storage key. -/
structure StaleRow where
  id : ℕ
  (externalId nonce : String)
  deriving DecidableEq

/-- The rows `listStaleProcessing` selects. -/
def isStale (staleAfterMs now : ℤ) (row : RescheduleConfirmationEntity) : Bool :=
  decide (row.status = .processing) &&
    row.processingStartedAt.any (fun startedAt => decide (startedAt < now - staleAfterMs)) &&
    row.leaseToken.isSome

/-- The columns `listStaleProcessing` selects. -/
def toStaleRow (row : RescheduleConfirmationEntity) : StaleRow where
  id := row.id
  externalId := row.externalId
  nonce := row.nonce

/-- The first 200 stale claims in the order of their row ids, over all platforms. -/
def listStaleProcessing (staleAfterMs now : ℤ) (db : RescheduleDb) : List StaleRow :=
  (((db.confirmations.filter (isStale staleAfterMs now)).insertionSort
    fun a b => a.id ≤ b.id).take 200).map toStaleRow

def claimedWithId (id : ℕ) (row : RescheduleConfirmationEntity) : Bool :=
  decide (row.id = id) && decide (row.status = .processing)

/-- `revertStaleRow`: put a listed row back to pending. -/
def revertStaleRow (now : ℤ) (id : ℕ) (db : RescheduleDb) : RescheduleDb :=
  { db with
    confirmations := Table.updateWhere (claimedWithId id) (rearmed now) db.confirmations }

/-- `cancelStaleRow`: release a listed row without re-arming it. -/
def cancelStaleRow (id : ℕ) (db : RescheduleDb) : RescheduleDb :=
  { db with
    confirmations := Table.updateWhere (claimedWithId id) released db.confirmations }

/-! ## What the reading methods remove -/

lemma cancelPending_fst (p : Platform) (ext : String) (nonce : Option String) (db : RescheduleDb) :
    (cancelPending p ext nonce db).1 = db ∨
      (cancelPending p ext nonce db).1 =
        { db with
          confirmations :=
            Table.deleteWhere (cancellable p ext nonce) db.confirmations } := by
  unfold cancelPending
  split
  · exact .inr rfl
  · split <;> exact .inl rfl

lemma getPendingState_fst (p : Platform) (appNow now : ℤ) (ext : String) (db : RescheduleDb) :
    (getPendingState p appNow now ext db).1 = db ∨
      (getPendingState p appNow now ext db).1 =
        { db with
          confirmations := Table.deleteWhere (lapsed p now ext) db.confirmations } := by
  unfold getPendingState
  split
  · exact .inl rfl
  · split
    · exact .inl rfl
    · exact .inl rfl
    · exact .inl rfl
    · split
      · exact .inr rfl
      · exact .inl rfl

/-! ## Storage keys -/

lemma key_inj {p q : Platform} {a b : String} (h : key p a = key q b) : p = q ∧ a = b :=
  Platform.name_colon_inj h

lemma stripKeyPrefix_key (p : Platform) (ext : String) : stripKeyPrefix p (key p ext) = ext := by
  simp [stripKeyPrefix, key, String.toList_append]

end TypeormRescheduleStore

end WispaceBot
