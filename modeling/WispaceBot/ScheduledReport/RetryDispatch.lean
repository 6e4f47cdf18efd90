import WispaceBot.ScheduledReport.SendJobRepository

/-!
# Retrying scheduled reports

The retry dispatchers claim the due rows of the outbox one by one, call `claimAndSend` for the day
of the first attempt, and mark the row; beside them the daily wave marks rows and records failures.
All are scripts.  `readClock` is `Date.now()`, `retryAt` is `reportRetryAt` with its jitter, and the
account reader and `claimAndSend` may answer anything.
-/

namespace WispaceBot

open Script

/-- What Discord's account reader says of an account. -/
structure ReportAccount where
  linkState : Option PlatformLinkState
  userId : Option ℤ

/-- The calls of the retry dispatchers, and of the daily wave to the outbox. -/
inductive OutboxCall
  | readClock
  | retryAt (minutes : ℤ)
  | resetStuckProcessingJobs (platform : Platform) (olderThan : ℤ)
  | findDueJobs (platform : Platform) (now : ℤ)
  | claimJob (platform : Platform) (jobId : ℕ) (leaseMs : ℤ)
  | markSent (platform : Platform) (jobId : ℕ) (leaseToken : Option ℕ)
  | markFailed (platform : Platform) (failure : ReportJobFailure)
  | findLinkStateByExternalUserId (externalUserId : String)
  | findActiveMappingByPsid (psid : String)
  | findMappingStateByPsid (psid : String)
  | resolveExamDate (externalUserId fallback : String)
  /-- With `skipAlreadySentToday` and `attempt: 'retry'`. -/
  | claimAndSend (mapping : ReportMapping) (reportDate examDateForOutbox : String)
      (retryCause : Option ReportRetryCause)
  | findJob (platform : Platform) (externalUserId examDate : String)
  | saveJob (existing : ReportSendJob) (failure : RetryableFailure) (retryAt : ℤ)
  | insertJob (failure : RetryableFailure) (retryAt : ℤ)
  | markSentByExternalUserExamDate (platform : Platform) (externalUserId examDate : String)

abbrev OutboxCall.Answer : OutboxCall → Type
  | .readClock => ℤ
  | .retryAt _ => ℤ
  | .resetStuckProcessingJobs _ _ => Unit
  | .findDueJobs _ _ => List ReportSendJob
  | .claimJob _ _ _ => Option ReportSendJob
  | .markSent _ _ _ => Unit
  | .markFailed _ _ => Unit
  | .findLinkStateByExternalUserId _ => Option ReportAccount
  | .findActiveMappingByPsid _ => Option ReportMapping
  | .findMappingStateByPsid _ => Option PlatformLinkState
  | .resolveExamDate _ _ => String × ℤ
  | .claimAndSend .. => ClaimAndSendResult
  | .findJob _ _ _ => Option ReportSendJob
  | .saveJob .. => Unit
  | .insertJob _ _ => Unit
  | .markSentByExternalUserExamDate _ _ _ => Unit

abbrev OutboxScript (ε α : Type) := Script OutboxCall OutboxCall.Answer ε α

namespace OutboxScript

variable {ε : Type}

def perform (c : OutboxCall) : OutboxScript ε c.Answer :=
  Script.perform c

/-- The time of the next try is taken before the read.  A row that was sent is left alone. -/
def recordRetryableFailure (failure : RetryableFailure) : OutboxScript ε Unit := do
  let now : ℤ ← perform .readClock
  let retryAt := now + failure.retryBackoffMinutes * 60000
  let existing : Option ReportSendJob ← perform
    (.findJob failure.platform failure.externalUserId failure.examDate)
  match existing with
  | some job => if job.status = .sent then pure () else perform (.saveJob job failure retryAt)
  | none => perform (.insertJob failure retryAt)

def failure (job : ReportSendJob) (leaseToken : Option ℕ) (errorMessage : String) (retryCount : ℤ)
    (nextRetryAt : Option ℤ) (terminal : Bool) (cause : Option ReportRetryCause) :
    ReportJobFailure where
  jobId := job.id
  leaseToken := leaseToken
  errorMessage := errorMessage
  retryCount := retryCount
  nextRetryAt := nextRetryAt
  terminal := terminal
  retryCause := cause

/-- The `catch` block of both dispatchers, after the claim. -/
def onItemError (platform : Platform) (minutes : ℤ) (claimed : ReportSendJob) (message : String) :
    OutboxScript ε Unit :=
  Script.tryCatch
    (if claimed.leaseToken.isSome then
      if claimed.maxRetries ≤ claimed.retryCount + 1 then
        perform (.markFailed platform (failure claimed claimed.leaseToken message
          (claimed.retryCount + 1) none true none))
      else do
        let retryTime ← perform (.retryAt minutes)
        perform (.markFailed platform (failure claimed claimed.leaseToken message
          (claimed.retryCount + 1) (some retryTime) false none))
    else pure ())
    fun _ => pure ()

/-! ## Discord -/

namespace Discord

def retryBackoffMinutes : ℤ := 15

def deferredError : String := "Report generation deferred (upstream retryable)"

/-- The counters are those of the row as it was read, not as it was claimed. -/
def settle (job : ReportSendJob) (leaseToken : Option ℕ) (result : ClaimAndSendResult) :
    OutboxScript ε Unit :=
  if result.sent > 0 then perform (.markSent .discord job.id leaseToken)
  else if result.skipped > 0 then perform (.markSent .discord job.id leaseToken)
  else if result.claimSkipped > 0 then do
    let retryTime ← perform (.retryAt retryBackoffMinutes)
    perform (.markFailed .discord (failure job leaseToken "Report claim exists for today"
      job.retryCount (some retryTime) false none))
  else if result.deferred > 0 then
    if job.maxRetries ≤ job.retryCount + 1 then
      perform (.markFailed .discord (failure job leaseToken deferredError (job.retryCount + 1) none
        true result.retryCause))
    else do
      let retryTime ← perform (.retryAt retryBackoffMinutes)
      perform (.markFailed .discord (failure job leaseToken deferredError (job.retryCount + 1)
        (some retryTime) false result.retryCause))
  else if result.windowClosed > 0 then
    perform (.markFailed .discord (failure job leaseToken "Exam window closed" job.maxRetries none
      true none))
  else match result.failures with
    | [] => pure ()
    | (_, error) :: _ =>
      if error = "outbound_rate_limited" then
        perform (.markFailed .discord (failure job leaseToken error (job.retryCount + 1) none true
          none))
      else do
        let retryTime ← perform (.retryAt retryBackoffMinutes)
        perform (.markFailed .discord (failure job leaseToken error (job.retryCount + 1)
          (some retryTime) (decide (job.maxRetries ≤ job.retryCount + 1)) none))

/-- The account is not linked for now, or for good. -/
def unlinked (job : ReportSendJob) (leaseToken : Option ℕ) (account : Option ReportAccount) :
    OutboxScript ε Unit :=
  if account.bind (·.linkState) = some .temporarilyUnknown then do
    let retryTime ← perform (.retryAt retryBackoffMinutes)
    perform (.markFailed .discord (failure job leaseToken
      "WISPACE link status temporarily unknown" (job.retryCount + 1) (some retryTime)
      (decide (job.maxRetries ≤ job.retryCount + 1)) none))
  else
    perform (.markFailed .discord (failure job leaseToken "No active Discord account link"
      (job.retryCount + 1) none true none))

def afterClaim (job claimed : ReportSendJob) : OutboxScript ε Unit := do
  let account : Option ReportAccount ← perform (.findLinkStateByExternalUserId job.externalUserId)
  match account with
  | none => unlinked job claimed.leaseToken none
  | some link =>
    if link.linkState.all (fun state => decide (state = .active)) then do
      let result ← perform (.claimAndSend ⟨.discord, job.externalUserId, link.userId⟩
        claimed.firstAttemptDate job.examDate job.retryCause)
      settle job claimed.leaseToken result
    else unlinked job claimed.leaseToken (some link)

def item (leaseMs : ℤ) (message : ε → String) (job : ReportSendJob) : OutboxScript ε Unit :=
  .call (.claimJob .discord job.id leaseMs) fun answer => match answer with
    | .ok (some claimed) => Script.tryCatch (afterClaim job claimed) fun error =>
        onItemError .discord retryBackoffMinutes claimed (message error)
    | .ok none => pure ()
    | .error _ => pure ()

/-- `dispatchDueReportRetriesWithItems`. -/
def dispatchDueReportRetries (leaseMs : ℤ) (message : ε → String) : OutboxScript ε Unit := do
  let now : ℤ ← perform .readClock
  perform (.resetStuckProcessingJobs .discord (now - 2 * leaseMs))
  let dueJobs : List ReportSendJob ← perform (.findDueJobs .discord now)
  dueJobs.forM (item leaseMs message)

end Discord

/-! ## Messenger -/

namespace Messenger

/-- The settings of the outbox the dispatcher reads. -/
structure Settings where
  (leaseMs retryBackoffMinutes : ℤ)

section

variable (settings : Settings) (claimed : ReportSendJob)

/-- The counters are those of the row as it was claimed. -/
def settle (result : ClaimAndSendResult) : OutboxScript ε Unit :=
  if result.sent > 0 then perform (.markSent .messenger claimed.id claimed.leaseToken)
  else if result.skipped > 0 then perform (.markSent .messenger claimed.id claimed.leaseToken)
  else if result.claimSkipped > 0 then do
    let retryTime ← perform (.retryAt settings.retryBackoffMinutes)
    perform (.markFailed .messenger (failure claimed claimed.leaseToken
      "Report claim exists for today (R4)" claimed.retryCount (some retryTime) false none))
  else if result.deferred > 0 then do
    let retryTime ← perform (.retryAt settings.retryBackoffMinutes)
    perform (.markFailed .messenger (failure claimed claimed.leaseToken
      "Wispace API retryable (R3/R5)" (claimed.retryCount + 1)
      (if claimed.maxRetries ≤ claimed.retryCount + 1 then none else some retryTime)
      (decide (claimed.maxRetries ≤ claimed.retryCount + 1)) result.retryCause))
  else if result.windowClosed > 0 then
    perform (.markFailed .messenger (failure claimed claimed.leaseToken
      "Messenger 24h window closed" claimed.maxRetries none true none))
  else match result.failures with
    | [] => pure ()
    | (_, error) :: _ =>
      perform (.markFailed .messenger (failure claimed claimed.leaseToken error
        claimed.maxRetries none true none))

/-- There is no mapping to send to: for now, or for good. -/
def unmapped (state : Option PlatformLinkState) : OutboxScript ε Unit :=
  if state = some .temporarilyUnknown then do
    let retryTime ← perform (.retryAt settings.retryBackoffMinutes)
    perform (.markFailed .messenger (failure claimed claimed.leaseToken
      "WISPACE link status temporarily unknown" (claimed.retryCount + 1) (some retryTime)
      (decide (claimed.maxRetries ≤ claimed.retryCount + 1)) none))
  else
    perform (.markFailed .messenger (failure claimed claimed.leaseToken
      "Active mapping not found" claimed.maxRetries none true none))

/-- A claimed row.  The state is read after the mapping was not found. -/
def afterClaim (examDate : String) :
    OutboxScript ε Unit := do
  let found : Option ReportMapping ← perform (.findActiveMappingByPsid claimed.externalUserId)
  match found.filter (fun mapping => decide (mapping.externalUserId ≠ "")) with
  | some mapping => do
    let result ← perform (.claimAndSend mapping claimed.firstAttemptDate examDate
      claimed.retryCause)
    settle settings claimed result
  | none => do
    let state ← perform (.findMappingStateByPsid claimed.externalUserId)
    unmapped settings claimed state

end

/-- A due row: if the exam is over it is closed without a claim, and without a lease token. -/
def item (settings : Settings) (message : ε → String) (job : ReportSendJob) : OutboxScript ε Unit :=
  Script.tryCatch
    (do
      let exam : String × ℤ ← perform (.resolveExamDate job.externalUserId job.examDate)
      if exam.2 < 0 then
        perform (.markFailed .messenger (failure job none
          "Exam date passed without successful report (R5)" job.maxRetries none true none))
      else do
        let claim : Option ReportSendJob ← perform (.claimJob .messenger job.id settings.leaseMs)
        match claim with
        | none => pure ()
        | some claimed =>
          Script.tryCatch (afterClaim settings claimed exam.1)
            (fun error => onItemError .messenger settings.retryBackoffMinutes claimed
              (message error)))
    (fun _ => pure ())

/-- `dispatchDueReportRetriesWithItems`. -/
def dispatchDueReportRetries (settings : Settings) (message : ε → String) :
    OutboxScript ε Unit := do
  let now : ℤ ← perform .readClock
  perform (.resetStuckProcessingJobs .messenger (now - 10 * 60 * 1000))
  let dueJobs : List ReportSendJob ← perform (.findDueJobs .messenger now)
  dueJobs.forM (item settings message)

end Messenger

/-! ## The calls for one row -/

/-- The calls a dispatcher makes for a row that was due. -/
def ForRow : OutboxCall → Prop
  | .readClock => False
  | .resetStuckProcessingJobs _ _ => False
  | .findDueJobs _ _ => False
  | .findJob _ _ _ => False
  | .saveJob .. => False
  | .insertJob _ _ => False
  | .markSentByExternalUserExamDate _ _ _ => False
  | _ => True

variable {p : Platform}

lemma forRow_later {minutes : ℤ} {failed : ℤ → ReportJobFailure} :
    (perform (.retryAt minutes) >>= fun time => perform (.markFailed p (failed time)) :
      OutboxScript ε Unit).Uses ForRow :=
  Uses.bind (Uses.perform trivial) fun _ => Uses.perform trivial

variable {claimed job : ReportSendJob}

lemma forRow_onItemError {minutes : ℤ} {msg : String} :
    (onItemError p minutes claimed msg : OutboxScript ε Unit).Uses ForRow := by
  refine Uses.tryCatch ?_ fun _ => trivial
  split
  · split
    · exact Uses.perform trivial
    · exact forRow_later
  · trivial

variable {result : ClaimAndSendResult} {tok : Option ℕ}

lemma forRow_discordSettle : (Discord.settle job tok result : OutboxScript ε Unit).Uses ForRow := by
  unfold Discord.settle
  repeat' split
  all_goals first | exact Uses.perform trivial | exact forRow_later | trivial

lemma forRow_unlinked {account : Option ReportAccount} :
    (Discord.unlinked job tok account : OutboxScript ε Unit).Uses ForRow := by
  unfold Discord.unlinked
  split
  · exact forRow_later
  · exact Uses.perform trivial

variable {msg : ε → String}

lemma forRow_discordItem {ms : ℤ} : (Discord.item ms msg job).Uses ForRow := by
  have hcl : ∀ claimed : ReportSendJob,
      (Discord.afterClaim job claimed : OutboxScript ε Unit).Uses ForRow := by
    intro claimed
    refine Uses.bind (Uses.perform trivial) fun account => ?_
    split
    · exact forRow_unlinked
    · split
      · exact Uses.bind (Uses.perform trivial) fun _ => forRow_discordSettle
      · exact forRow_unlinked
  refine ⟨trivial, fun ans => ?_⟩
  match ans with
  | .ok (some claimed) => exact Uses.tryCatch (hcl claimed) fun _ => forRow_onItemError
  | .ok none => trivial
  | .error _ => trivial

variable {cfg : Messenger.Settings}

lemma forRow_messengerSettle :
    (Messenger.settle cfg claimed result : OutboxScript ε Unit).Uses ForRow := by
  unfold Messenger.settle
  repeat' split
  all_goals first | exact Uses.perform trivial | exact forRow_later | trivial

lemma forRow_unmapped {state : Option PlatformLinkState} :
    (Messenger.unmapped cfg claimed state : OutboxScript ε Unit).Uses ForRow := by
  unfold Messenger.unmapped
  split
  · exact forRow_later
  · exact Uses.perform trivial

lemma forRow_messengerItem : (Messenger.item cfg msg job).Uses ForRow := by
  have hcl : ∀ (claimed : ReportSendJob) (examDate : String),
      (Messenger.afterClaim cfg claimed examDate : OutboxScript ε Unit).Uses ForRow := by
    intro _ _
    refine Uses.bind (Uses.perform trivial) fun found => ?_
    split
    · exact Uses.bind (Uses.perform trivial) fun _ => forRow_messengerSettle
    · exact Uses.bind (Uses.perform trivial) fun _ => forRow_unmapped
  refine Uses.tryCatch (Uses.bind (Uses.perform trivial) fun exam => ?_) fun _ => trivial
  split
  · exact Uses.perform trivial
  · refine Uses.bind (Uses.perform trivial) fun claim => ?_
    split
    · trivial
    · exact Uses.tryCatch (hcl _ _) fun _ => forRow_onItemError

end OutboxScript

end WispaceBot
