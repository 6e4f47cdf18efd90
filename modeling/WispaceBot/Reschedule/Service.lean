import Mathlib.Algebra.Ring.Int.Defs
import WispaceBot.Reschedule.AttemptStore

/-!
# The confirmation service

Each of `stage`, `confirm` and `cancel` is a sequence of awaited calls, given by its program
counter, the call it awaits next, and a step function that makes this call and runs on to the next
one.  What the world answers is in an environment `Env`.
-/

namespace WispaceBot

open TypeormRescheduleStore TypeormRescheduleAttemptStore

/-! ## Constants and guards -/

def pendingRescheduleTtlMs : ℤ := 10 * 60 * 1000

def rescheduleUnavailableMessage : String :=
  "Mình chưa đổi được lịch lúc này. Bạn thử lại sau hoặc đổi trực tiếp trên app WISPACE nhé."

def rescheduleInProgressMessage : String :=
  "Yêu cầu đổi lịch trước đang được xử lý. Bạn thử lại sau nhé."

def rescheduleScopeErrorMessage : String :=
  "Không thể xác thực buổi học này trong lịch của bạn. Bạn chọn lại từ danh sách lịch học nhé."

def rescheduleCancelledMessage : String :=
  "Đã hủy yêu cầu đổi lịch. Lịch học giữ nguyên nhé."

def rescheduleCancelProcessingMessage : String :=
  "Yêu cầu đổi lịch đã bắt đầu xử lý nên mình không thể dừng giữa chừng. " ++
    "Mình sẽ báo kết quả khi xong nhé."

def rescheduleCancelNoneMessage : String :=
  "Mình không thấy yêu cầu đổi lịch nào đang chờ xác nhận."

def rescheduleExpiredMessage : String :=
  "Yêu cầu đổi lịch đã hết hạn. Bạn nhắn lại nhu cầu đổi lịch để tạo yêu cầu mới nhé."

/-- `RESCHEDULE_INVALID_TOKEN_MESSAGE`, also written out at several places of the service. -/
def rescheduleInvalidTokenMessage : String :=
  "Không thể xác thực yêu cầu đổi lịch này. Bạn nhắn lại nhu cầu đổi lịch nhé."

/-- The reply of `confirm` when nothing is staged any more. -/
def rescheduleNothingPendingMessage : String :=
  "Không còn yêu cầu đổi lịch đang chờ xác nhận. Bạn nhắn lại nhu cầu đổi lịch nhé."

inductive RescheduleScopeFailureReason
  | scopeMismatch
  | scopeUnverified
  deriving DecidableEq

/-- `Number.isSafeInteger(n) && n > 0`. -/
def isPositiveSafeInteger (n : ℤ) : Bool :=
  decide (0 < n) && decide (n ≤ 2 ^ 53 - 1)

def getRescheduleScopeFailureReason (ownerUserId : Option ℤ) (expectedUserId : ℤ) :
    Option RescheduleScopeFailureReason :=
  match ownerUserId with
  | none => some .scopeUnverified
  | some owner =>
    if !isPositiveSafeInteger owner || !isPositiveSafeInteger expectedUserId then
      some .scopeUnverified
    else if owner = expectedUserId then none
    else some .scopeMismatch

/-- The character classes of `APPROVAL_TOKEN_RE`. -/
inductive TokenClass
  | hex
  | dash
  | four
  | variant

/-- The characters of a class; the expression ignores case. -/
def TokenClass.accepts : TokenClass → Char → Bool
  | .hex, c =>
    decide ('0' ≤ c ∧ c ≤ '9') || decide ('a' ≤ c ∧ c ≤ 'f') || decide ('A' ≤ c ∧ c ≤ 'F')
  | .dash, c => c == '-'
  | .four, c => c == '4'
  | .variant, c => ['8', '9', 'a', 'b', 'A', 'B'].contains c

/-- `APPROVAL_TOKEN_RE`: a version 4 UUID. -/
def approvalTokenRe : List TokenClass :=
  List.replicate 8 .hex ++ [.dash] ++ List.replicate 4 .hex ++ [.dash, .four] ++
    List.replicate 3 .hex ++ [.dash, .variant] ++ List.replicate 3 .hex ++ [.dash] ++
    List.replicate 12 .hex

/-- The text matches the classes from its start to its end. -/
def TokenClass.fullMatch : List TokenClass → List Char → Bool
  | [], [] => true
  | k :: ks, c :: cs => k.accepts c && fullMatch ks cs
  | _, _ => false

def isValidApprovalToken (value : String) : Bool :=
  TokenClass.fullMatch approvalTokenRe value.toList

/-! ## The environment of a step -/

/-- How an awaited store call ends for its caller.  A call that fails may have been applied. -/
inductive Reply
  | returned
  | failed (applied : Bool)
  deriving DecidableEq

def Reply.applied : Reply → Bool
  | .returned => true
  | .failed applied => applied

/-- A store call: the database it leaves and the answer, `none` when the call fails. -/
def Reply.call {α : Type} (reply : Reply) (f : RescheduleDb → RescheduleDb × α)
    (db : RescheduleDb) : RescheduleDb × Option α :=
  match reply with
  | .returned => ((f db).1, some (f db).2)
  | .failed true => ((f db).1, none)
  | .failed false => (db, none)

/-- A store call that answers nothing; the flag says whether it returned. -/
def Reply.exec (reply : Reply) (f : RescheduleDb → RescheduleDb) (db : RescheduleDb) :
    RescheduleDb × Bool :=
  match reply with
  | .returned => (f db, true)
  | .failed true => (f db, false)
  | .failed false => (db, false)

/-- How `rescheduleSession` ends for its caller. -/
inductive WriteReply
  | returned (scheduledTimeLabel : String)
  | scopeError (reason : RescheduleScopeFailureReason)
  | failed

structure CalendarEntryView where
  calendarId : ℤ
  scheduledTimeLabel : String
  ownerUserId : Option ℤ

/-- What the surroundings answer at a step. -/
structure Env where
  /-- `Date.now()` of the bot. -/
  appNow : ℤ
  /-- `now()` of the database. -/
  now : ℤ
  /-- `randomUUID()`. -/
  uuid : String
  reply : Reply
  /-- The answer of `consumeRescheduleBudget`. -/
  consumed : Bool
  /-- The answer of `rescheduleSession`. -/
  write : WriteReply
  /-- The answer of `listUpcomingEntries`. -/
  upcoming : List CalendarEntryView
  /-- `signal.aborted` before the call. -/
  abortedBefore : Bool
  /-- `signal.aborted` after the call. -/
  (aborted abortError : Bool)

/-- The attempt store is always supplied. -/
structure RescheduleConfirmationOptions where
  (consumeRescheduleBudget refundRescheduleBudget : Bool)
  rescheduleBudgetExceededMessage : Option String

/-! ## `confirm` -/

/-- The arguments of a call of `confirm`, with the platform of the bot that serves it. -/
structure ConfirmCall where
  platform : Platform
  externalId : String
  userId : Option ℤ
  approvalToken : Option String
  binding : Option RescheduleApprovalBinding

/-- What a call of `confirm` ends with. -/
inductive ConfirmReply
  | confirmed (scheduledTimeLabel : String) (replayed : Bool)
  | refused (message : String)
  | unknownOutcome
  | threw

/-- The check after `takeValid` leaves a nonempty nonce, which is `pending.nonce ?? approvalToken`.
-/
structure Claim where
  pending : PendingRescheduleRecord
  (leaseToken attemptNonce : String)

/-- Why `rescheduleSession` did not return. -/
inductive WriteFailure
  | scopeError (reason : RescheduleScopeFailureReason)
  | transient

/-- The awaited call a run of `confirm` makes next. -/
inductive ConfirmPc
  /-- The guard and the first `getPendingState`. -/
  | start
  /-- `takeValid`. -/
  | take
  /-- `findAttempt` after an empty claim. -/
  | findRecorded
  /-- The second `getPendingState` after an empty claim. -/
  | recheckState
  /-- `consumeRescheduleBudget`. -/
  | consume (claim : Claim)
  /-- `findAttempt` for the claimed request. -/
  | lookup (claim : Claim)
  /-- `beginAttempt`. -/
  | begin (claim : Claim)
  /-- `rescheduleSession`. -/
  | write (claim : Claim)
  /-- `confirmAttempt`. -/
  | record (claim : Claim) (scheduledTimeLabel : String)
  /-- `cancelClaimed` after a committed write. -/
  | cleanup (claim : Claim) (scheduledTimeLabel : String)
  /-- `clearAttempt` after a failed write. -/
  | clear (claim : Claim) (cause : WriteFailure)
  /-- `refundRescheduleBudget`. -/
  | refund (claim : Claim) (cause : WriteFailure)
  /-- `cancelClaimed` after a scope error. -/
  | drop (claim : Claim)
  /-- `revertToPending` before answering. -/
  | giveBack (leaseToken : String) (answer : ConfirmReply)
  | done (answer : ConfirmReply)

namespace ConfirmCall

def token (call : ConfirmCall) : String :=
  call.approvalToken.getD ""

/-- The guard of `confirm` lets the call through. -/
def accepted (call : ConfirmCall) : Bool :=
  !isFalsy call.approvalToken && isValidApprovalToken call.token && call.userId.isSome &&
    call.binding.any fun b => !isFalsy b.platform && !isFalsy b.mappingVersion

/-- The binding handed to `takeValid`: the caller's, with the approval token as its nonce. -/
def claimBinding (call : ConfirmCall) : RescheduleApprovalBinding :=
  { call.binding.getD ⟨none, none, none, none, none⟩ with nonce := some call.token }

/-- From the answer of `takeValid` to the next awaited call. -/
def afterTake (options : RescheduleConfirmationOptions) : Option PendingRescheduleRecord → ConfirmPc
  | none => .findRecorded
  | some pending =>
    match pending.leaseToken with
    | none => .done (.refused rescheduleInvalidTokenMessage)
    | some leaseToken =>
      if leaseToken = "" then .done (.refused rescheduleInvalidTokenMessage)
      else if pending.toolName ≠ some "reschedule_study_session" ∨ isFalsy pending.intentHash ∨
          isFalsy pending.argsHash ∨ isFalsy pending.nonce then
        .giveBack leaseToken (.refused rescheduleInvalidTokenMessage)
      else
        let claim : Claim := ⟨pending, leaseToken, pending.nonce.getD ""⟩
        if options.consumeRescheduleBudget then .consume claim else .lookup claim

/-- From the state seen after an empty claim to the answer. -/
def afterRecheck : ReschedulePendingState → ConfirmReply
  | .expired => .refused rescheduleExpiredMessage
  | .processing => .refused rescheduleInProgressMessage
  | .pending | .none => .refused rescheduleNothingPendingMessage

def afterRefund (claim : Claim) : WriteFailure → ConfirmPc
  | .scopeError _ => .drop claim
  | .transient => .giveBack claim.leaseToken (.refused rescheduleUnavailableMessage)

/-- One awaited call of `confirm`: the database it leaves and the call to make next. -/
def step (options : RescheduleConfirmationOptions) (call : ConfirmCall) (env : Env)
    (db : RescheduleDb) : ConfirmPc → RescheduleDb × ConfirmPc
  | .start =>
    if !call.accepted then (db, .done (.refused rescheduleInvalidTokenMessage))
    else
      let (db', state) :=
        env.reply.call (getPendingState call.platform env.appNow env.now call.externalId) db
      match state with
      | none => (db', .done .threw)
      | some .expired => (db', .done (.refused rescheduleExpiredMessage))
      | some _ => (db', .take)
  | .take =>
    let (db', taken) :=
      env.reply.call
        (takeValid call.platform env.now env.uuid call.externalId call.userId call.claimBinding) db
    match taken with
    | none => (db', .done .threw)
    | some pending => (db', afterTake options pending)
  | .findRecorded =>
    if env.reply ≠ .returned then (db, .done .threw)
    else
      match findAttempt call.platform call.externalId call.token db with
      | none => (db, .recheckState)
      | some recorded =>
        match recorded.status with
        | .confirmed => (db, .done (.confirmed (recorded.scheduledTimeLabel.getD "") true))
        | .attempting => (db, .done .unknownOutcome)
  | .recheckState =>
    let (db', state) :=
      env.reply.call (getPendingState call.platform env.appNow env.now call.externalId) db
    match state with
    | none => (db', .done .threw)
    | some state => (db', .done (afterRecheck state))
  | .consume claim =>
    if env.reply ≠ .returned then (db, .done .threw)
    else if env.consumed then (db, .lookup claim)
    else
      (db, .giveBack claim.leaseToken
        (.refused (options.rescheduleBudgetExceededMessage.getD rescheduleUnavailableMessage)))
  | .lookup claim =>
    if env.reply ≠ .returned then (db, .done .threw)
    else
      -- only an open attempt stops the call; a confirmed one does not
      match (findAttempt call.platform call.externalId claim.attemptNonce db).map
        RescheduleConfirmationAttemptEntity.status with
      | some .attempting => (db, .giveBack claim.leaseToken .unknownOutcome)
      | _ => (db, .begin claim)
  | .begin claim =>
    let (db', returned) :=
      env.reply.exec
        (beginAttempt call.platform call.externalId claim.attemptNonce claim.pending.userId) db
    if returned then (db', .write claim) else (db', .done .threw)
  | .write claim =>
    match env.write with
    | .returned scheduledTimeLabel => (db, .record claim scheduledTimeLabel)
    | .scopeError reason => (db, .clear claim (.scopeError reason))
    | .failed => (db, .clear claim .transient)
  | .record claim scheduledTimeLabel =>
    let (db', recorded) :=
      env.reply.call
        (confirmAttempt call.platform call.externalId claim.attemptNonce scheduledTimeLabel) db
    match recorded with
    | none => (db', .done .unknownOutcome)
    | some false => (db', .done .unknownOutcome)
    | some true => (db', .cleanup claim scheduledTimeLabel)
  | .cleanup claim scheduledTimeLabel =>
    -- a failed cleanup is logged and swallowed
    let (db', _) := env.reply.exec (cancelClaimed call.platform call.externalId claim.leaseToken) db
    (db', .done (.confirmed scheduledTimeLabel false))
  | .clear claim cause =>
    -- a failed clear is swallowed
    let (db', _) := env.reply.exec
      (clearAttempt call.platform call.externalId claim.attemptNonce) db
    (db', if options.refundRescheduleBudget then .refund claim cause else afterRefund claim cause)
  | .refund claim cause =>
    if env.reply ≠ .returned then (db, .done .threw) else (db, afterRefund claim cause)
  | .drop claim =>
    let (db', returned) :=
      env.reply.exec (cancelClaimed call.platform call.externalId claim.leaseToken) db
    (db', .done (if returned then .refused rescheduleScopeErrorMessage else .threw))
  | .giveBack leaseToken answer =>
    let (db', returned) :=
      env.reply.exec (revertToPending call.platform env.now call.externalId leaseToken) db
    (db', .done (if returned then answer else .threw))
  | .done answer => (db, .done answer)

end ConfirmCall

/-! ## `stage` -/

/-- `StageInput`, with the platform of the bot that serves it. -/
structure StageInput where
  botPlatform : Platform
  externalId : String
  (userId calendarId : ℤ)
  schedulingMode : RescheduleSchedulingMode
  (newLocalDate newTime platform mappingVersion intent canonicalArgs : Option String)

/-- What a call of `stage` ends with. -/
inductive StageReply
  | staged (sessionLabel summary confirmationToken : String)
  | error (message : String)
  | aborted
  | threw

/-- The awaited call a run of `stage` makes next. -/
inductive StagePc
  /-- The guard and `listUpcomingEntries`. -/
  | start
  | save (matchedEntry : CalendarEntryView)
  /-- `cancelPending` after an abort, and the same call once more if it fails. -/
  | abort (nonce : String) (retry : Bool)
  | done (answer : StageReply)

namespace StageInput

def buildSummary (input : StageInput) (sessionLabel : String) : String :=
  match input.schedulingMode with
  | .explicit =>
    let datePart := if isFalsy input.newLocalDate then []
      else ["ngày " ++ input.newLocalDate.getD ""]
    let timePart := if isFalsy input.newTime then [] else ["lúc " ++ input.newTime.getD ""]
    match datePart ++ timePart with
    | [] => "Dời buổi " ++ sessionLabel ++ " theo thời gian bạn vừa nêu?"
    | parts => "Dời buổi " ++ sessionLabel ++ " sang " ++ " ".intercalate parts ++ "?"
  | .defaultNextDaySameTime => "Dời buổi " ++ sessionLabel ++ " sang ngày kế tiếp cùng giờ?"

/-- The guard of `stage` lets the input through. -/
def accepted (input : StageInput) : Bool :=
  !isBlank input.platform && !isBlank input.mappingVersion && !isBlank input.intent &&
    !isBlank input.canonicalArgs

section

variable (sha256 : String → String) (input : StageInput) (env : Env)

/-- The record `stage` saves.  The guard has refused an input without canonical arguments. -/
def pendingRecord (matchedEntry : CalendarEntryView) : PendingRescheduleRecord where
  externalId := input.externalId
  userId := input.userId
  calendarId := matchedEntry.calendarId
  schedulingMode := input.schedulingMode
  newLocalDate := input.newLocalDate
  newTime := input.newTime
  sessionLabel := matchedEntry.scheduledTimeLabel
  expiresAt := env.appNow + pendingRescheduleTtlMs
  leaseToken := none
  toolName := some "reschedule_study_session"
  platform := input.platform
  mappingVersion := input.mappingVersion
  intentHash := some (sha256 (trim (input.intent.getD "")))
  argsHash := some (sha256 (input.canonicalArgs.getD ""))
  nonce := some env.uuid

/-- One awaited call of `stage`: the database it leaves and the call to make next. -/
def step (db : RescheduleDb) :
    StagePc → RescheduleDb × StagePc
  | .start =>
    if env.abortedBefore then (db, .done .aborted)
    else if !input.accepted then (db, .done (.error rescheduleInvalidTokenMessage))
    else if env.reply ≠ .returned then
      (db, .done (if env.aborted || env.abortError then .aborted else .threw))
    else if env.aborted then (db, .done .aborted)
    else
      match env.upcoming.find? fun entry => decide (entry.calendarId = input.calendarId) with
      | none => (db, .done (.error rescheduleScopeErrorMessage))
      | some entry =>
        match getRescheduleScopeFailureReason entry.ownerUserId input.userId with
        | some _ => (db, .done (.error rescheduleScopeErrorMessage))
        | none => (db, .save entry)
  | .save entry =>
    let (db', saved) :=
      env.reply.call
        (TypeormRescheduleStore.save input.botPlatform env.uuid
          (input.pendingRecord sha256 env entry)) db
    match saved with
    | none =>
      (db', if env.aborted || env.abortError then .abort env.uuid true else .done .threw)
    | some saved =>
      (db',
        if env.aborted then .abort env.uuid true
        else if !saved then .done (.error rescheduleInProgressMessage)
        else
          .done (.staged entry.scheduledTimeLabel (input.buildSummary entry.scheduledTimeLabel)
            env.uuid))
  | .abort nonce retry =>
    let (db', outcome) :=
      env.reply.call (cancelPending input.botPlatform input.externalId (some nonce)) db
    (db', if outcome.isNone && retry then .abort nonce false else .done .aborted)
  | .done answer => (db, .done answer)

end

end StageInput

/-! ## `cancel` -/

/-- The arguments of a call of `cancel`, with the platform of the bot that serves it. -/
structure CancelCall where
  platform : Platform
  externalId : String
  approvalToken : Option String

/-- The awaited call a run of `cancel` makes next; `done none` when a call failed. -/
inductive CancelPc
  /-- The guard and `getPendingState`. -/
  | start
  /-- `cancelPending`. -/
  | remove
  | done (message : Option String)

namespace CancelCall

/-- The reply `cancel` gives for an outcome. -/
def message : RescheduleCancellationOutcome → String
  | .cancelled => rescheduleCancelledMessage
  | .processing => rescheduleCancelProcessingMessage
  | .expired => rescheduleExpiredMessage
  | .none => rescheduleCancelNoneMessage

/-- One awaited call of `cancel`: the database it leaves and the call to make next. -/
def step (call : CancelCall) (env : Env) (db : RescheduleDb) : CancelPc → RescheduleDb × CancelPc
  | .start =>
    if call.approvalToken.any fun token => !isValidApprovalToken token then
      (db, .done (some rescheduleInvalidTokenMessage))
    else
      let (db', state) :=
        env.reply.call (getPendingState call.platform env.appNow env.now call.externalId) db
      match state with
      | none => (db', .done none)
      | some .expired => (db', .done (some (message .expired)))
      | some _ => (db', .remove)
  | .remove =>
    let (db', outcome) :=
      env.reply.call (cancelPending call.platform call.externalId call.approvalToken) db
    (db', .done (outcome.map message))
  | .done answer => (db, .done answer)

end CancelCall

end WispaceBot
