import WispaceBot.Foundation.Script
import WispaceBot.ScheduledReport.ClaimRepository

/-!
# Claiming and sending a report

`claimAndSend` of Discord and Zalo, and the one of Messenger, as scripts.  Both look whether the
report was sent, claim it, send it, and mark the claim or give it back.  The bookkeeping stands in
the `try` block of the delivery, so that its errors are handled like errors of the delivery
(`onSendError`).

Errors are of any type `ε`, with the tests the code makes on them as parameters.  Messenger's
`sendReportForMapping` is given in the terms of `ReportDeliveryResult`.  Metrics are left out.
-/

namespace WispaceBot

inductive ReportRetryCause
  | capacityOverload
  deriving DecidableEq

/-- The `reason` of a `ReportDeliveryResult` that is not `ok` and not `RATE_LIMITED`. -/
inductive RefusalReason
  | windowClosed
  | deliveryFailed
  | retryable
  | notLinked
  deriving DecidableEq

def RefusalReason.name : RefusalReason → String
  | .windowClosed => "WINDOW_CLOSED"
  | .deliveryFailed => "DELIVERY_FAILED"
  | .retryable => "RETRYABLE"
  | .notLinked => "NOT_LINKED"

inductive ReportDeliveryResult
  | ok (outcome : Option DeliveryOutcome)
  | rateLimited
  | refused (reason : Option RefusalReason)
  deriving DecidableEq

/-- `ReportSendJobCreateParams`; the next try is so many minutes after the call. -/
structure RetryableFailure where
  platform : Platform
  externalUserId : String
  userId : Option ℤ
  (examDate firstAttemptDate : String)
  (maxRetries retryBackoffMinutes : ℤ)
  errorMessage : String
  retryCause : Option ReportRetryCause

/-- The calls `claimAndSend` makes. -/
inductive ReportCall (τ : Type)
  | hasSentScheduledReportOn (params : ReportClaimParams)
  | hasLoggedScheduledReportOn (params : ReportClaimParams)
  | hasAnyPlatformSentReportOn (userId : ℤ) (reportDate : String)
  | tryClaimScheduledReport (params : ReportClaimParams)
  | markScheduledReportClaimSent (params : ReportClaimParams) (token : τ)
      (record key : Option String) (outcome : Option DeliveryOutcome)
  | releaseScheduledReportClaim (params : ReportClaimParams) (token : τ)
  | generateReport
  | sendReport (reportText deliveryKey : String)
  | markSentByExternalUserExamDate (platform : Platform) (externalUserId examDate : String)
  | recordRetryableFailure (failure : RetryableFailure)

/-- What they return; of a recorded failure, whether there will be another try. -/
abbrev ReportCall.Answer {τ : Type} : ReportCall τ → Type
  | .hasSentScheduledReportOn _ => Bool
  | .hasLoggedScheduledReportOn _ => Bool
  | .hasAnyPlatformSentReportOn _ _ => Bool
  | .tryClaimScheduledReport _ => Option (ClaimedReport τ)
  | .markScheduledReportClaimSent .. => Bool
  | .releaseScheduledReportClaim _ _ => Bool
  | .generateReport => String
  | .sendReport _ _ => ReportDeliveryResult
  | .markSentByExternalUserExamDate .. => Unit
  | .recordRetryableFailure _ => Bool

abbrev ReportScript (τ ε α : Type) := Script (ReportCall τ) ReportCall.Answer ε α

structure ReportMapping where
  platform : Platform
  externalUserId : String
  userId : Option ℤ

structure ClaimAndSendResult where
  sent : ℕ := 0
  skipped : ℕ := 0
  deferred : ℕ := 0
  windowClosed : ℕ := 0
  claimSkipped : ℕ := 0
  retryQueued : ℕ := 0
  retryCause : Option ReportRetryCause := none
  failures : List (String × String) := []

/-- The settings of the outbox that `claimAndSend` reads. -/
structure OutboxSettings where
  (maxRetries retryBackoffMinutes : ℤ)

def ReportMapping.claimParams (mapping : ReportMapping) (reportDate : String) :
    ReportClaimParams where
  platform := mapping.platform
  externalUserId := mapping.externalUserId
  userId := mapping.userId
  reportDate := reportDate

def ReportMapping.deliveryKey (mapping : ReportMapping) (reportDate : String) : String :=
  mapping.platform.name ++ "-report:" ++ mapping.externalUserId ++ ":" ++ reportDate

namespace ReportScript

variable {τ ε : Type}

def perform (c : ReportCall τ) : ReportScript τ ε c.Answer :=
  Script.perform c

def markClaim (params : ReportClaimParams) (lease : Option τ) (record key : Option String)
    (outcome : Option DeliveryOutcome) : ReportScript τ ε Unit :=
  match lease with
  | some token => do
    let _ ← perform (.markScheduledReportClaimSent params token record key outcome)
  | none => pure ()

def releaseClaim (params : ReportClaimParams) (lease : Option τ) : ReportScript τ ε Unit :=
  match lease with
  | some token => do
    let _ ← perform (.releaseScheduledReportClaim params token)
  | none => pure ()

/-- The row of the outbox is marked, if the call has an exam date. -/
def markOutbox (mapping : ReportMapping) (examDate : Option String) : ReportScript τ ε Unit :=
  match examDate with
  | some date => if date = "" then pure () else
      perform (.markSentByExternalUserExamDate mapping.platform mapping.externalUserId date)
  | none => pure ()

/-- The failure of a report that will be tried again. -/
def retryableFailure (mapping : ReportMapping) (reportDate : String) (examDate : Option String)
    (settings : OutboxSettings) (message : String) (cause : Option ReportRetryCause) :
    RetryableFailure where
  platform := mapping.platform
  externalUserId := mapping.externalUserId
  userId := mapping.userId
  examDate := examDate.getD ""
  firstAttemptDate := reportDate
  maxRetries := settings.maxRetries
  retryBackoffMinutes := settings.retryBackoffMinutes
  errorMessage := message
  retryCause := cause

end ReportScript

/-! ## The service of Discord and Zalo -/

namespace ReportOrchestration

/-- The `kind` of a `ClassifiedError`. -/
inductive ErrorKind
  | retryable
  | windowClosed
  | skipped
  | failure
  deriving DecidableEq

structure ClassifiedError where
  kind : ErrorKind
  message : String
  retryCause : Option ReportRetryCause

variable {τ ε : Type}

/-- What is injected: whether there is an outbox, its settings, and `errorMessage`. -/
structure Config (ε : Type) where
  hasOutbox : Bool
  settings : OutboxSettings
  errorMessage : ε → String

/-- The options of a call; `generates` says whether `generateReport` is given. -/
structure Options (ε : Type) where
  reportDate : String
  skipAlreadySentToday : Bool
  reportText : String
  examDateForOutbox : Option String
  classifyError : Option (ε → ClassifiedError)
  (generates allowUserIdLess : Bool)

variable (config : Config ε) (mapping : ReportMapping) (opts : Options ε)

/-- `opts.classifyError ?? defaultClassifyError`. -/
def classify (error : ε) : ClassifiedError :=
  match opts.classifyError with
  | some classifyError => classifyError error
  | none => ⟨.failure, config.errorMessage error, none⟩

def outboxDate : Option String :=
  if config.hasOutbox then opts.examDateForOutbox else none

def queueRetry (message : String) (cause : Option ReportRetryCause) :
    ReportScript τ ε ClaimAndSendResult := do
  let _ ← ReportScript.perform (.recordRetryableFailure (ReportScript.retryableFailure mapping
    opts.reportDate opts.examDateForOutbox config.settings message cause))
  pure { deferred := 1, retryQueued := 1, retryCause := cause }

/-- Step 1: was the report sent, on this or on any platform? -/
def alreadySent : ReportScript τ ε Bool := do
  let sent ← ReportScript.perform (.hasSentScheduledReportOn (mapping.claimParams opts.reportDate))
  if sent then do
    ReportScript.markOutbox mapping (outboxDate config opts)
    pure true
  else match mapping.userId with
    | some userId =>
      if userId = 0 then pure false
      else ReportScript.perform (.hasAnyPlatformSentReportOn userId opts.reportDate)
    | none => pure false

def failedWith (classified : ClassifiedError) : ClaimAndSendResult :=
  match classified.kind with
  | .windowClosed => { windowClosed := 1 }
  | .skipped => { skipped := 1 }
  | _ => { failures := [(mapping.externalUserId, classified.message)] }

section

variable (lease : Option τ)

def onGenerateError (error : ε) : ReportScript τ ε ClaimAndSendResult := do
  ReportScript.releaseClaim (mapping.claimParams opts.reportDate) lease
  let classified := classify config opts error
  if (classified.kind = .retryable ∨ classified.kind = .failure ∧ opts.classifyError.isNone) ∧
      config.hasOutbox then
    queueRetry config mapping opts ("Generation failed: " ++ classified.message)
      classified.retryCause
  else pure (failedWith mapping classified)

def onRefusal (reason : Option RefusalReason) :
    ReportScript τ ε ClaimAndSendResult := do
  ReportScript.releaseClaim (mapping.claimParams opts.reportDate) lease
  if reason = some .retryable ∧ config.hasOutbox then
    queueRetry config mapping opts "Delivery failed: RETRYABLE" none
  else match reason with
    | some .windowClosed => pure { windowClosed := 1 }
    | some .notLinked => pure { skipped := 1 }
    | _ => pure { failures :=
        [(mapping.externalUserId, (reason.getD .deliveryFailed).name)] }

/-- The rest of step 5 and step 6: what follows on the result of the delivery. -/
def afterSend (result : ReportDeliveryResult) : ReportScript τ ε ClaimAndSendResult :=
  match result with
  | .ok outcome => do
    ReportScript.markClaim (mapping.claimParams opts.reportDate) lease (some "sent")
      (some (mapping.deliveryKey opts.reportDate)) (some (outcome.getD .sent))
    ReportScript.markOutbox mapping (outboxDate config opts)
    pure { sent := 1 }
  | .rateLimited => do
    -- the slot of the day is burned
    ReportScript.markClaim (mapping.claimParams opts.reportDate) lease none
      (some (mapping.deliveryKey opts.reportDate)) (some .rateLimited)
    pure { failures := [(mapping.externalUserId, "outbound_rate_limited")] }
  | .refused reason => onRefusal config mapping opts lease reason

/-- Step 7: an error in the delivery, or in what follows on it. -/
def onSendError (error : ε) : ReportScript τ ε ClaimAndSendResult := do
  ReportScript.releaseClaim (mapping.claimParams opts.reportDate) lease
  let classified := classify config opts error
  if classified.kind = .retryable ∧ config.hasOutbox then
    queueRetry config mapping opts classified.message classified.retryCause
  else pure (failedWith mapping classified)

def send (reportText : String) : ReportScript τ ε ClaimAndSendResult :=
  Script.tryCatch
    (do
      let result ← ReportScript.perform
        (.sendReport reportText (mapping.deliveryKey opts.reportDate))
      afterSend config mapping opts lease result)
    (onSendError config mapping opts lease)

/-- Steps 4 to 7.  An error of the generation is caught apart from those of the delivery. -/
def generateAndSend : ReportScript τ ε ClaimAndSendResult :=
  if opts.generates then
    .call .generateReport fun answer => match answer with
      | .ok reportText => send config mapping opts lease reportText
      | .error error => onGenerateError config mapping opts lease error
  else send config mapping opts lease opts.reportText

end

def claimAndSend : ReportScript τ ε ClaimAndSendResult :=
  if opts.skipAlreadySentToday then
    if mapping.userId.isNone && !opts.allowUserIdLess then pure { skipped := 1 }
    else do
      let sent ← alreadySent config mapping opts
      if sent then pure { skipped := 1 }
      else do
        let claim : Option (ClaimedReport τ) ← ReportScript.perform
          (.tryClaimScheduledReport (mapping.claimParams opts.reportDate))
        match claim with
        | none => pure { claimSkipped := 1 }
        | some claimed =>
          if isFalsy claimed.deliveryRecord then
            generateAndSend config mapping opts (some claimed.leaseToken)
          else do
            -- step 3: the record says that the report was delivered before a crash
            ReportScript.markClaim (mapping.claimParams opts.reportDate)
              (some claimed.leaseToken) none none none
            pure { sent := 1 }
  else generateAndSend config mapping opts none

end ReportOrchestration

/-! ## The service of Messenger -/

namespace MessengerReportOrchestration

variable {τ ε : Type}

structure Config (ε : Type) where
  settings : OutboxSettings
  errorMessage : ε → String
  /-- `error instanceof MessengerPartialSendError`. -/
  isPartialSend : ε → Bool
  /-- `isMessengerAmbiguousDeliveryError`. -/
  isAmbiguous : ε → Bool
  /-- `isStudentReportRetryableError(error) || isMessengerApiRetryable(error)`. -/
  isRetryable : ε → Bool
  /-- An `LlmOverloadError` for another reason than an unavailable Redis. -/
  isCapacityOverload : ε → Bool
  /-- `error instanceof ProactiveMessenger24hSkippedError`. -/
  isWindowSkipped : ε → Bool

structure Options where
  reportDate : String
  skipAlreadySentToday : Bool
  examDateForOutbox : Option String

variable (config : Config ε) (mapping : ReportMapping) (opts : Options)

section

variable (lease : Option τ)

def afterSend (result : ReportDeliveryResult) : ReportScript τ ε ClaimAndSendResult :=
  match result with
  | .ok _ => do
    ReportScript.markClaim (mapping.claimParams opts.reportDate) lease (some "sent")
      (some (mapping.deliveryKey opts.reportDate)) none
    ReportScript.markOutbox mapping opts.examDateForOutbox
    pure { sent := 1 }
  | .rateLimited => do
    ReportScript.markClaim (mapping.claimParams opts.reportDate) lease none
      (some (mapping.deliveryKey opts.reportDate)) (some .rateLimited)
    pure { failures := [(mapping.externalUserId, "outbound_rate_limited")] }
  | .refused _ => do
    ReportScript.releaseClaim (mapping.claimParams opts.reportDate) lease
    pure { windowClosed := 1 }

/-- The day is burned, because the learner has or may have the report. -/
def burn (outcome : Option DeliveryOutcome) :
    ReportScript τ ε ClaimAndSendResult := do
  ReportScript.markClaim (mapping.claimParams opts.reportDate) lease (some "sent")
    (some (mapping.deliveryKey opts.reportDate)) outcome
  ReportScript.markOutbox mapping opts.examDateForOutbox
  pure { sent := 1 }

/-- The last part of the `catch` block: the claim is given back. -/
def giveUp (error : ε) : ReportScript τ ε ClaimAndSendResult := do
  ReportScript.releaseClaim (mapping.claimParams opts.reportDate) lease
  if config.isRetryable error then
    let cause := if config.isCapacityOverload error then some .capacityOverload else none
    match opts.examDateForOutbox with
    | some date =>
      if date = "" then pure { deferred := 1, retryCause := cause }
      else do
        let queued ← ReportScript.perform (.recordRetryableFailure (ReportScript.retryableFailure
          mapping opts.reportDate (some date) config.settings (config.errorMessage error) cause))
        pure { deferred := 1, retryQueued := if queued then 1 else 0, retryCause := cause }
    | none => pure { deferred := 1, retryCause := cause }
  else if config.isWindowSkipped error then pure { windowClosed := 1 }
  else pure { failures := [(mapping.externalUserId, config.errorMessage error)] }

/-- A partial delivery burns the day, and so does one without a verdict if there is a claim. -/
def onSendError (error : ε) : ReportScript τ ε ClaimAndSendResult :=
  if config.isPartialSend error then
    burn mapping opts lease (if config.isAmbiguous error then some .ambiguous else none)
  else if config.isAmbiguous error ∧ lease.isSome then burn mapping opts lease (some .ambiguous)
  else giveUp config mapping opts lease error

/-- The `try` statement. -/
def send : ReportScript τ ε ClaimAndSendResult :=
  Script.tryCatch
    (do
      let result ← ReportScript.perform (.sendReport "" (mapping.deliveryKey opts.reportDate))
      afterSend mapping opts lease result)
    (onSendError config mapping opts lease)

end

/-- `claimAndSendInner`, for a mapping with a PSID. -/
def claimAndSend : ReportScript τ ε ClaimAndSendResult :=
  if mapping.externalUserId = "" then pure { skipped := 1 }
  else if opts.skipAlreadySentToday then
    if mapping.userId.isNone then pure { skipped := 1 }
    else do
      let sent ← ReportScript.perform
        (.hasLoggedScheduledReportOn (mapping.claimParams opts.reportDate))
      if sent then do
        ReportScript.markOutbox mapping opts.examDateForOutbox
        pure { skipped := 1 }
      else do
        let claim : Option (ClaimedReport τ) ← ReportScript.perform
          (.tryClaimScheduledReport (mapping.claimParams opts.reportDate))
        match claim with
        | none => pure { claimSkipped := 1 }
        | some claimed =>
          if isFalsy claimed.deliveryRecord then
            send config mapping opts (some claimed.leaseToken)
          else do
            ReportScript.markClaim (mapping.claimParams opts.reportDate)
              (some claimed.leaseToken) none none none
            pure { sent := 1 }
  else send config mapping opts none

end MessengerReportOrchestration

end WispaceBot
