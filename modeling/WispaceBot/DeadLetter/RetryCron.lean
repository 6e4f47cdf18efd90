import WispaceBot.Contracts
import WispaceBot.Foundation.Json
import WispaceBot.Foundation.Script

/-!
# Replaying dead letters

A cron lists the rows of `webhook_dead_letters` that wait, claims each under a lease, sends its
message again and writes what came of it.  The send and the write share one `try`.

One row is followed; a tick is a script of calls and claims the row at most once, so that its own
name serves as the lease token.  The column that keeps the text of the error is left out.
-/

namespace WispaceBot

/-! ## Rows -/

/-- `WebhookDeadLetterDirection`. -/
inductive DeadLetterDirection
  | inbound
  | outbound
  deriving DecidableEq

/-- The values of `webhook_dead_letters.status`. -/
inductive DeadLetterStatus
  | pending
  | processing
  | replayed
  | abandoned
  deriving DecidableEq

/-- `WebhookDeadLetterEntity`. -/
structure DeadLetter (τ : Type) where
  platform : Platform
  externalUserId : Option String
  direction : DeadLetterDirection
  rawPayload : Json
  retryCount : ℤ
  status : DeadLetterStatus
  replayedAt : Option ℤ
  deliveryKey : Option String
  deliveryStatus : Option DeliveryOutcome
  processingStartedAt : Option ℤ
  leaseToken : Option τ
  leaseExpiresAt : Option ℤ
  updatedAt : ℤ

structure DeadLetterClaim (τ : Type) where
  leaseToken : τ
  deliveryKey : String

namespace DeadLetter

variable {τ : Type} [DecidableEq τ]

/-- The clause of `listPendingForRetry`. -/
def isPendingForRetry (platform : Platform) (maxRetries olderThan : ℤ) (row : DeadLetter τ) :
    Bool :=
  decide (row.platform = platform ∧ row.status = .pending ∧ row.direction = .outbound ∧
    row.retryCount < maxRetries ∧ row.updatedAt < olderThan)

/-- `claimForRetry`; the key is used if there is none yet. -/
def claimForRetry (token : τ) (newKey : String) (now leaseMs : ℤ) (row : DeadLetter τ) :
    Option (DeadLetterClaim τ × DeadLetter τ) :=
  if row.status = .pending ∧ row.direction = .outbound then
    let deliveryKey := row.deliveryKey.getD newKey
    some (⟨token, deliveryKey⟩, { row with
      status := .processing
      leaseToken := some token
      leaseExpiresAt := some (now + leaseMs)
      processingStartedAt := some now
      deliveryKey := some deliveryKey
      updatedAt := now })
  else none

def ownedBy (token : τ) (row : DeadLetter τ) : Bool :=
  decide (row.status = .processing ∧ row.leaseToken = some token)

def markReplayed (deliveryKey : String) (now : ℤ) (row : DeadLetter τ) : DeadLetter τ :=
  { row with
    status := .replayed
    replayedAt := some now
    deliveryStatus := some .sent
    deliveryKey := some deliveryKey
    updatedAt := now }

def markAbandoned (deliveryStatus : Option DeliveryOutcome) (now : ℤ) (row : DeadLetter τ) :
    DeadLetter τ :=
  { row with
    status := .abandoned
    deliveryStatus := deliveryStatus.or row.deliveryStatus
    updatedAt := now }

def incrementRetry (now : ℤ) (row : DeadLetter τ) : DeadLetter τ :=
  { row with
    retryCount := row.retryCount + 1
    status := .pending
    leaseToken := none
    leaseExpiresAt := none
    processingStartedAt := none
    updatedAt := now }

end DeadLetter

/-! ## The cron -/

/-- The calls of a tick. -/
inductive DeadLetterCall (τ : Type)
  | listPendingForRetry (platform : Platform) (maxRetries minRetryAgeMs : ℤ)
  | claimForRetry (leaseMs : ℤ)
  | sendText (externalUserId text deliveryKey : String)
  | markReplayed (leaseToken : τ) (deliveryKey : String)
  | markAbandoned (reason : String) (externalUserId : Option String) (leaseToken : τ)
      (deliveryStatus : Option DeliveryOutcome)
  | incrementRetry (errorMessage : String) (externalUserId : Option String) (leaseToken : τ)
  deriving DecidableEq

/-- What they answer; a listing gives the row if it is in the batch. -/
abbrev DeadLetterCall.Answer {τ : Type} : DeadLetterCall τ → Type
  | .listPendingForRetry _ _ _ => Option (DeadLetter τ)
  | .claimForRetry _ => Option (DeadLetterClaim τ)
  | .sendText _ _ _ => DeliveryOutcome
  | .markReplayed _ _ => Bool
  | .markAbandoned _ _ _ _ => Bool
  | .incrementRetry _ _ _ => Bool

abbrev DeadLetterScript (τ α : Type) := Script (DeadLetterCall τ) DeadLetterCall.Answer String α

def DeadLetterScript.perform {τ : Type} (c : DeadLetterCall τ) : DeadLetterScript τ c.Answer :=
  Script.perform c

inductive DeadLetterItem
  | claimSkipped
  | abandoned
  | replayed
  | retried
  | failed
  deriving DecidableEq

/-- `DeadLetterCronOptions` and the settings of `readRetrySettings`.  `extractPayload` is taken to
answer for every payload; in the source it may throw, and the entry is then retried. -/
structure DeadLetterCron where
  platform : Platform
  extractPayload : Json → Option String × Option String
  abandonReason : String
  retryAmbiguous : Bool
  maskExternalIdInText : String → Option String → String
  (maxRetries minRetryAgeMs leaseMs : ℤ)

namespace DeadLetterCron

open DeadLetterScript

variable {τ : Type}

section

variable (cron : DeadLetterCron) (entry : DeadLetter τ)

def isLast : Bool :=
  decide (entry.retryCount + 1 ≥ cron.maxRetries)

def handleFailure (errorMsg : String) (leaseToken : τ) : DeadLetterScript τ Bool :=
  if cron.isLast entry then
    perform (.markAbandoned errorMsg entry.externalUserId leaseToken none)
  else perform (.incrementRetry errorMsg entry.externalUserId leaseToken)

/-- What is reported after `handleFailure`. -/
def failureItem : DeadLetterItem :=
  if cron.isLast entry then .abandoned else .retried

def afterSend (claimed : DeadLetterClaim τ) :
    DeliveryOutcome → DeadLetterScript τ DeadLetterItem
  | .sent => do
    let _ ← perform (.markReplayed claimed.leaseToken claimed.deliveryKey)
    pure .replayed
  | .ambiguous =>
    if cron.retryAmbiguous then do
      let _ ← perform (.incrementRetry "ambiguous delivery — retried with the same delivery key"
        entry.externalUserId claimed.leaseToken)
      pure .retried
    else do
      let _ ← perform (.markAbandoned "ambiguous delivery — not auto-retried"
        entry.externalUserId claimed.leaseToken (some .ambiguous))
      pure .abandoned
  | .rateLimited => do
    let _ ← perform (.markAbandoned "outbound_rate_limited" entry.externalUserId
      claimed.leaseToken (some .rateLimited))
    pure .abandoned
  | .notSent => do
    let _ ← cron.handleFailure entry "send failed" claimed.leaseToken
    pure (cron.failureItem entry)

/-- The `try` of `retryEntry` from the claim on. -/
def attempt (claimed : DeadLetterClaim τ) : DeadLetterScript τ DeadLetterItem :=
  let payload := cron.extractPayload entry.rawPayload
  if isFalsy payload.1 || isFalsy payload.2 then do
    let _ ← perform (.markAbandoned cron.abandonReason entry.externalUserId claimed.leaseToken none)
    pure .abandoned
  else do
    let outcome : DeliveryOutcome ← perform (.sendText (payload.1.getD "") (payload.2.getD "")
      claimed.deliveryKey)
    cron.afterSend entry claimed outcome

/-- The `catch` of `retryEntry`, where the row was claimed. -/
def onError (leaseToken : τ) (error : String) : DeadLetterScript τ DeadLetterItem :=
  Script.tryCatch
    (do
      let _ ← cron.handleFailure entry (cron.maskExternalIdInText error entry.externalUserId)
        leaseToken
      pure (cron.failureItem entry))
    fun _ => pure .failed

/-- What follows on the claim; an error of the claim itself leaves no lease to give back. -/
def afterClaim :
    Except String (Option (DeadLetterClaim τ)) → DeadLetterScript τ DeadLetterItem
  | .error _ => .done .failed
  | .ok none => .done .claimSkipped
  | .ok (some claimed) =>
    Script.tryCatch (cron.attempt entry claimed) (cron.onError entry claimed.leaseToken)

def retryEntry : DeadLetterScript τ DeadLetterItem :=
  .call (.claimForRetry cron.leaseMs) fun answer => cron.afterClaim entry answer

end

/-- `handleRetry`, for the row. -/
def handleRetry (cron : DeadLetterCron) : DeadLetterScript τ (Option DeadLetterItem) := do
  let listed : Option (DeadLetter τ) ←
    perform (.listPendingForRetry cron.platform cron.maxRetries cron.minRetryAgeMs)
  match listed with
  | none => pure none
  | some entry => do
    let item ← cron.retryEntry entry
    pure (some item)

end DeadLetterCron

end WispaceBot
