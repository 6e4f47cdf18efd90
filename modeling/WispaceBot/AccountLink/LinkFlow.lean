import WispaceBot.AccountLink.OwnershipTransactions
import WispaceBot.Foundation.Script

/-!
# Completing a link, and reconciling

A callback identifies the account, observes its mapping, verifies the token, records an intent and
writes the mapping (`complete`).  A scheduled pass picks up intents that were left (`runBatch`).
Both are scripts over the calls to their ports, for Discord and Zalo; Messenger has its own.

The two queries of `getLink` are two calls, and a pause is one call with its jitter.  Display names,
counters, log lines and what only the hooks read are left out.
-/

namespace WispaceBot

open Script OwnershipTx

structure VerifyIntentIdentity where
  externalUserId : String
  (userId intentGeneration : ℤ)
  deriving DecidableEq

deriving instance DecidableEq for LinkMappingObservation

structure VerifyIntentRecord extends VerifyIntentIdentity where
  verifiedAt : ℤ
  mappingObservation : LinkMappingObservation
  deriving DecidableEq

structure LinkStateSnapshot where
  state : PlatformLinkState
  revokedAt : Option ℤ

/-- The errors that the scripts tell apart. -/
inductive LinkError
  /-- An error whose name has `OwnershipConflict` in it. -/
  | ownershipConflict
  /-- An error with the name `AbortError`. -/
  | abort
  | other
  | linkTokenRejected
  | linkPersistenceExhausted (cause : LinkError)
  | linkConflict (cause : LinkError)

def LinkError.isOwnershipConflict : LinkError → Bool
  | .ownershipConflict => true
  | _ => false

/-- `defaultShouldRetry`. -/
def LinkError.shouldRetry : LinkError → Bool
  | .abort => false
  | error => !error.isOwnershipConflict

/-- What a callback and a pass ask of the database, WISPACE and the clock. -/
inductive LinkCall
  | exchange
  /-- The first query of `getLink`: the generation of the row of the mapping. -/
  | findLink (externalUserId : String)
  /-- The second query of `getLink`: the generation of the last tombstone. -/
  | findTombstone (externalUserId : String)
  | verifyToken (externalUserId : String)
  | recordVerify (externalUserId : String) (userId : ℤ)
      (mappingObservation : LinkMappingObservation)
  | upsertLink (userId : ℤ) (externalUserId : String)
      (mappingObservation : LinkMappingObservation)
  | consumeRecord (intent : VerifyIntentIdentity)
  | clearClarification (externalUserId : String)
  | afterCommit (externalUserId : String) (userId : ℤ)
  | sleep (nominalMs : ℤ)
  | readClock
  | listStaleRecords (olderThanMs : ℤ)
  | findUserId (externalUserId : String)
  | getLinkState (externalUserId : String)
  | isFreshRelink (externalUserId : String) (userId : ℤ)
  | onReconciled (externalUserId : String) (userId : ℤ)
  deriving DecidableEq

abbrev LinkCall.Answer : LinkCall → Type
  | .exchange => String
  | .findLink _ => Option ℤ
  | .findTombstone _ => Option ℤ
  -- the user, if the token is valid
  | .verifyToken _ => Option ℤ
  | .recordVerify _ _ _ => ℤ
  | .upsertLink _ _ _ => Unit
  | .consumeRecord _ => Bool
  | .clearClarification _ => Unit
  -- whether the next action is to join the community
  | .afterCommit _ _ => Bool
  | .sleep _ => Unit
  | .readClock => ℤ
  | .listStaleRecords _ => List VerifyIntentRecord
  | .findUserId _ => Option ℤ
  | .getLinkState _ => Option LinkStateSnapshot
  | .isFreshRelink _ _ => Bool
  | .onReconciled _ _ => Unit

abbrev LinkScript (α : Type) := Script LinkCall LinkCall.Answer LinkError α

namespace LinkScript

def perform (c : LinkCall) : LinkScript c.Answer :=
  Script.perform c

/-- `retry`, from some attempt on, with so many attempts left after it. -/
def retryFrom {α : Type} (operation : LinkScript α) (baseDelayMs : ℤ) :
    (attempt left : ℕ) → LinkScript α
  | _, 0 => operation
  | attempt, left + 1 => Script.tryCatch operation fun error =>
      if error.shouldRetry then do
        perform (.sleep (baseDelayMs * attempt))
        retryFrom operation baseDelayMs (attempt + 1) left
      else .throw error

/-- `LinkRetryOptions`, as far as the bots set them. -/
structure RetryOptions where
  (maxAttempts baseDelayMs : ℤ)

def defaultCompletionRetry : RetryOptions := ⟨3, 500⟩

def defaultReconcileRetry : RetryOptions := ⟨3, 1000⟩

def retry {α : Type} (operation : LinkScript α) (options : RetryOptions) : LinkScript α :=
  retryFrom operation (max 0 options.baseDelayMs) 1 ((max 1 options.maxAttempts).toNat - 1)

def bestEffort {α : Type} (operation : LinkScript α) : LinkScript Unit :=
  Script.tryCatch (do let _ ← operation; pure ()) fun _ => pure ()

def onlyIf (condition : Bool) (operation : LinkScript Unit) : LinkScript Unit :=
  if condition then operation else pure ()

/-- `consumeRecord`; whether there was a row does not matter. -/
def consumeRecord (intent : VerifyIntentIdentity) : LinkScript Unit := do
  let _ ← perform (.consumeRecord intent)

/-! ## The callback -/

/-- `getMappingObservation` of Discord and of Zalo. -/
def getMappingObservation (externalUserId : String) :
    LinkScript LinkMappingObservation := do
  let link : Option ℤ ← perform (.findLink externalUserId)
  match link with
  | some generation => pure (.present generation)
  | none => do
    let tombstone : Option ℤ ← perform (.findTombstone externalUserId)
    pure (.absent tombstone)

def afterUpsert (consumeVerifyIntentAfterCommit : Bool) (intent : VerifyIntentIdentity) :
    LinkScript Bool := do
  onlyIf (!consumeVerifyIntentAfterCommit) (bestEffort (consumeRecord intent))
  bestEffort (perform (.clearClarification intent.externalUserId))
  let result ← Script.tryCatch
    (do
      let nextAction ← perform (.afterCommit intent.externalUserId intent.userId)
      pure (some nextAction))
    fun _ => pure none
  onlyIf (consumeVerifyIntentAfterCommit && result.isSome) (bestEffort (consumeRecord intent))
  pure (result.getD false)

def onUpsertError (intent : VerifyIntentIdentity) (error : LinkError) : LinkScript Unit :=
  if !error.isOwnershipConflict then .throw (.linkPersistenceExhausted error)
  else do
    bestEffort (consumeRecord intent)
    .throw (.linkConflict error)

section

variable (consumeVerifyIntentAfterCommit : Bool)

def commit (intent : VerifyIntentIdentity)
    (mappingObservation : LinkMappingObservation) : LinkScript Bool := do
  Script.tryCatch
    (retry (perform (.upsertLink intent.userId intent.externalUserId mappingObservation))
      defaultCompletionRetry)
    (onUpsertError intent)
  afterUpsert consumeVerifyIntentAfterCommit intent

def afterVerification (externalUserId : String)
    (mappingObservation : LinkMappingObservation) : Option ℤ → LinkScript Bool
  | none => .throw .linkTokenRejected
  | some userId => do
    let intentGeneration : ℤ ← Script.tryCatch
      (retry (perform (.recordVerify externalUserId userId mappingObservation))
        defaultCompletionRetry)
      fun error => .throw (.linkPersistenceExhausted error)
    commit consumeVerifyIntentAfterCommit ⟨externalUserId, userId, intentGeneration⟩
      mappingObservation

/-- `LinkCompletionCore.complete`; whether the next action is to join the community. -/
def complete : LinkScript Bool := do
  let externalUserId : String ← perform .exchange
  let mappingObservation ← getMappingObservation externalUserId
  let verification : Option ℤ ← perform (.verifyToken externalUserId)
  afterVerification consumeVerifyIntentAfterCommit externalUserId mappingObservation verification

end

/-! ## The pass -/

/-- What a pass did with one intent. -/
inductive LinkReconcileOutcome
  | reconciled
  | alreadyCommitted
  | dropped
  | mismatched
  | failed

structure LinkReconcileBatchResult where
  (records reconciled alreadyCommitted dropped mismatched failed : ℕ)

def LinkReconcileBatchResult.count (result : LinkReconcileBatchResult) :
    LinkReconcileOutcome → LinkReconcileBatchResult
  | .reconciled => { result with reconciled := result.reconciled + 1 }
  | .alreadyCommitted => { result with alreadyCommitted := result.alreadyCommitted + 1 }
  | .dropped => { result with dropped := result.dropped + 1 }
  | .mismatched => { result with mismatched := result.mismatched + 1 }
  | .failed => { result with failed := result.failed + 1 }

structure ReconcileOptions where
  (staleAgeMs maxRecordAgeMs : ℤ)
  maxRecords : ℕ
  consumeVerifyIntentAfterReconciled : Bool

/-- What the state of a link says about an intent. -/
inductive Verdict
  | free
  | blocked
  | unsure

/-- `isBlocked`, up to the question for a fresh link. -/
def verdict (verifiedAt : ℤ) : Option LinkStateSnapshot → Verdict
  | none => .free
  | some ⟨.confirmedRevoked, _⟩ => .blocked
  | some ⟨.active, _⟩ => .free
  | some ⟨.locallyUnlinked, some revokedAt⟩ => if verifiedAt ≤ revokedAt then .blocked else .unsure
  | some _ => .unsure

def isBlocked (record : VerifyIntentRecord) (state : Option LinkStateSnapshot) : LinkScript Bool :=
  match verdict record.verifiedAt state with
  | .free => pure false
  | .blocked => pure true
  | .unsure => do
    let fresh : Bool ← perform (.isFreshRelink record.externalUserId record.userId)
    pure (!fresh)

/-- `runReconciledSideEffect`. -/
def sideEffect (options : ReconcileOptions) (operation : LinkScript Unit) : LinkScript Unit :=
  Script.tryCatch operation fun error =>
    if options.consumeVerifyIntentAfterReconciled then .throw error else pure ()

/-- The intent is consumed before the hook, or after it. -/
def finish (options : ReconcileOptions) (record : VerifyIntentRecord)
    (operation : LinkScript Unit) : LinkScript Unit := do
  bestEffort (perform (.clearClarification record.externalUserId))
  onlyIf (!options.consumeVerifyIntentAfterReconciled) (consumeRecord record.toVerifyIntentIdentity)
  sideEffect options operation
  onlyIf options.consumeVerifyIntentAfterReconciled (consumeRecord record.toVerifyIntentIdentity)

def dropRecord (record : VerifyIntentRecord) : LinkScript LinkReconcileOutcome := do
  consumeRecord record.toVerifyIntentIdentity
  pure .dropped

def onReconcileError (record : VerifyIntentRecord) (error : LinkError) : LinkScript Bool :=
  if !error.isOwnershipConflict then .throw error
  else do
    consumeRecord record.toVerifyIntentIdentity
    pure false

section

variable (options : ReconcileOptions) (record : VerifyIntentRecord)

def recommit :
    LinkScript LinkReconcileOutcome := do
  let written ← Script.tryCatch
    (do
      retry (perform (.upsertLink record.userId record.externalUserId record.mappingObservation))
        defaultReconcileRetry
      pure true)
    (onReconcileError record)
  if written then do
    finish options record (perform (.onReconciled record.externalUserId record.userId))
    pure .reconciled
  else pure .mismatched

def unmapped :
    LinkScript LinkReconcileOutcome := do
  let now : ℤ ← perform .readClock
  if options.maxRecordAgeMs ≤ now - record.verifiedAt then dropRecord record
  else do
    let state : Option LinkStateSnapshot ← perform (.getLinkState record.externalUserId)
    let blocked ← isBlocked record state
    if blocked then dropRecord record else recommit options record

def reconcileRecord :
    LinkScript LinkReconcileOutcome := do
  let existingUserId : Option ℤ ← perform (.findUserId record.externalUserId)
  if existingUserId = some record.userId then do
    finish options record (do
      let _ ← perform (.getLinkState record.externalUserId)
      perform (.onReconciled record.externalUserId record.userId))
    pure .alreadyCommitted
  else unmapped options record

end

/-- The loop over the records; an error ends a record, not the pass. -/
def reconcileRecords (options : ReconcileOptions) :
    List VerifyIntentRecord → LinkReconcileBatchResult → LinkScript LinkReconcileBatchResult
  | [], result => pure result
  | record :: records, result => do
    let outcome ← Script.tryCatch (reconcileRecord options record) fun _ => pure .failed
    reconcileRecords options records (result.count outcome)

def runBatch (options : ReconcileOptions) : LinkScript LinkReconcileBatchResult := do
  let listed : List VerifyIntentRecord ← perform (.listStaleRecords options.staleAgeMs)
  let records := listed.take options.maxRecords
  reconcileRecords options records ⟨records.length, 0, 0, 0, 0, 0⟩

lemma uses_bestEffort {α : Type} {P : LinkCall → Prop} {op : LinkScript α}
    (hop : op.Uses P) : (bestEffort op).Uses P :=
  Uses.tryCatch (Uses.bind hop fun _ => trivial) fun _ => trivial

end LinkScript

end WispaceBot
