import Mathlib.Algebra.Order.Group.Int
import WispaceBot.Contracts

/-!
# The rows of `study_reminder_jobs`

One row is the reminder of one session of one learner on one platform.  Each statement is a function
of a row, `none` where its `WHERE` clause does not select the row; `applyExisting` is what the sync
does to a row that exists.  Lease tokens are numbers, generations are integers.
-/

namespace WispaceBot

/-- `StudyReminderJobStatus`. -/
inductive JobStatus
  | pending
  | processing
  | sent
  | failed
  | cancelled
  deriving DecidableEq

/-- `isTerminalDeliveryOutcome`: after such an outcome the provider is not asked again. -/
def DeliveryOutcome.isTerminal : DeliveryOutcome → Bool
  | .notSent => false
  | _ => true

/-- `StudyReminderJobEntity`. -/
structure StudyReminderJob where
  id : ℕ
  platform : Platform
  externalUserId : String
  (userId mappingGeneration : Option ℤ)
  sessionKey : String
  (scheduledAt remindAt : ℤ)
  topic : Option String
  status : JobStatus
  (retryCount maxRetries : ℤ)
  nextRetryAt : Option ℤ
  lastError : Option String
  sentAt : Option ℤ
  leaseToken : Option ℕ
  leaseExpiresAt : Option ℤ
  (deliveryRecord deliveryKey : Option String)
  deliveryStatus : Option DeliveryOutcome
  processingStartedAt : Option ℤ
  updatedAt : ℤ
  deriving DecidableEq

structure UpsertStudyReminderJobInput where
  platform : Platform
  externalUserId : String
  (userId mappingGeneration : Option ℤ)
  sessionKey : String
  (scheduledAt remindAt : ℤ)
  topic : Option String
  maxRetries : ℤ

namespace StudyReminderJob

/-! ## Which rows are due -/

/-- `studyReminderDispatchPredicateSql`. -/
def dispatchable (job : StudyReminderJob) : Bool :=
  (job.status == .pending || (job.status == .failed && decide (job.retryCount < job.maxRetries))) &&
    (job.deliveryStatus == none ||
      (job.deliveryStatus == some .notSent && decide (job.retryCount < job.maxRetries))) &&
    job.deliveryRecord == none

/-- `findDueJobs`, for a row of the platform. -/
def isDue (now minLeadMs : ℤ) (job : StudyReminderJob) : Bool :=
  job.dispatchable && decide (job.remindAt ≤ now) && decide (now + minLeadMs < job.scheduledAt) &&
    job.nextRetryAt.all (· ≤ now)

/-! ## The statements of a worker -/

/-- `claimJob`: a row to dispatch is leased under a new token. -/
def claimJob (token : ℕ) (now leaseMs : ℤ) (job : StudyReminderJob) : Option StudyReminderJob :=
  if job.dispatchable then
    some { job with
      status := .processing
      leaseToken := some token
      leaseExpiresAt := some (now + leaseMs)
      processingStartedAt := some now
      deliveryStatus := none }
  else none

/-- The clause `lease_token = … AND status = 'processing'` that guards the writes of a worker. -/
def leasedBy (token : ℕ) (job : StudyReminderJob) : Bool :=
  job.leaseToken == some token && job.status == .processing

def unleased (job : StudyReminderJob) : StudyReminderJob :=
  { job with leaseToken := none, leaseExpiresAt := none, processingStartedAt := none }

/-- The update in `withOwnedDelivery`, which sets the delivery key of a leased row. -/
def ownDelivery (token : ℕ) (key : String) (job : StudyReminderJob) : Option StudyReminderJob :=
  if job.leasedBy token then some { job with deliveryKey := some (job.deliveryKey.getD key) }
  else none

def markSent (token : ℕ) (now : ℤ) (record key : Option String) (job : StudyReminderJob) :
    Option StudyReminderJob :=
  if job.leasedBy token then
    some { job.unleased with
      status := .sent
      sentAt := some now
      nextRetryAt := none
      lastError := none
      deliveryStatus := some .sent
      deliveryRecord := record.orElse fun _ => job.deliveryRecord
      deliveryKey := key.orElse fun _ => job.deliveryKey }
  else none

/-- The parameters of `markFailed`. -/
structure Failure where
  errorMessage : String
  retryCount : ℤ
  nextRetryAt : Option ℤ
  terminal : Bool
  deliveryStatus : DeliveryOutcome

def markFailed (token : ℕ) (failure : Failure) (job : StudyReminderJob) : Option StudyReminderJob :=
  if job.leasedBy token then
    some { job.unleased with
      status := .failed
      retryCount := failure.retryCount
      lastError := some failure.errorMessage
      nextRetryAt := if failure.terminal then none else failure.nextRetryAt
      deliveryStatus := some failure.deliveryStatus }
  else none

def cancelled (job : StudyReminderJob) : StudyReminderJob :=
  { job.unleased with
    status := .cancelled
    nextRetryAt := none
    deliveryRecord := none
    deliveryKey := none
    deliveryStatus := none }

def markCancelled (token : ℕ) (reason : String) (job : StudyReminderJob) :
    Option StudyReminderJob :=
  if job.leasedBy token then some { job.cancelled with lastError := some reason } else none

/-! ## Recovery and sync -/

/-- The lease of a row in flight has run out, or it has none and is old. -/
def isStuck (now olderThan : ℤ) (job : StudyReminderJob) : Bool :=
  job.status == .processing &&
    match job.leaseExpiresAt with
    | some expiry => decide (expiry < now)
    | none => decide ((job.processingStartedAt.getD job.updatedAt) ≤ olderThan)

/-- `resetStuckProcessingJobs`: the provider may have accepted the message. -/
def resetStuck (now olderThan : ℤ) (target : JobStatus) (job : StudyReminderJob) :
    Option StudyReminderJob :=
  if job.isStuck now olderThan then
    some { job.unleased with
      status := target
      deliveryStatus := some .ambiguous
      nextRetryAt := none }
  else none

/-- `cancelStaleJobsForExternalUserId`, for a row of the platform and the external user. -/
def cancelStale (activeSessionKeys : List String) (horizonEnd : ℤ) (statuses : List JobStatus)
    (job : StudyReminderJob) : Option StudyReminderJob :=
  if job.status ∈ statuses ∧ job.sessionKey ∉ activeSessionKeys ∧ job.scheduledAt ≤ horizonEnd then
    some job.cancelled
  else none

/-- `buildNewEntity`. -/
def ofInput (id : ℕ) (now : ℤ) (input : UpsertStudyReminderJobInput) : StudyReminderJob where
  id := id
  platform := input.platform
  externalUserId := input.externalUserId
  userId := input.userId
  mappingGeneration := input.mappingGeneration
  sessionKey := input.sessionKey
  scheduledAt := input.scheduledAt
  remindAt := input.remindAt
  topic := input.topic
  status := .pending
  retryCount := 0
  maxRetries := input.maxRetries
  nextRetryAt := none
  lastError := none
  sentAt := none
  leaseToken := none
  leaseExpiresAt := none
  deliveryRecord := none
  deliveryKey := none
  deliveryStatus := none
  processingStartedAt := none
  updatedAt := now

/-- `hasScheduleChanged`. -/
def scheduleChanged (job : StudyReminderJob) (input : UpsertStudyReminderJobInput) : Bool :=
  job.scheduledAt != input.scheduledAt || job.remindAt != input.remindAt || input.topic != job.topic

def isOlderGeneration (existing incoming : Option ℤ) : Bool :=
  match existing, incoming with
  | some old, some new => decide (new < old)
  | _, _ => false

section

variable (job : StudyReminderJob)

def ownerChanged (input : UpsertStudyReminderJobInput) : Bool :=
  (input.mappingGeneration.isSome && job.mappingGeneration != input.mappingGeneration) ||
    (input.userId.isSome && job.userId != input.userId)

def isTerminalStoredFailure : Bool :=
  match job.deliveryStatus with
  | some .notSent => decide (job.maxRetries ≤ job.retryCount)
  | some _ => true
  | none => false

section

variable (input : UpsertStudyReminderJobInput)

/-- The columns the sync writes into a row in any case. -/
def scheduledBy : StudyReminderJob :=
  { job with
    userId := input.userId.orElse fun _ => job.userId
    mappingGeneration := input.mappingGeneration.orElse fun _ => job.mappingGeneration
    scheduledAt := input.scheduledAt
    remindAt := input.remindAt
    topic := input.topic.orElse fun _ => job.topic
    maxRetries := input.maxRetries }

def reopenToPending : StudyReminderJob :=
  { (job.scheduledBy input).unleased with
    status := .pending
    retryCount := 0
    sentAt := none
    lastError := none
    nextRetryAt := none
    deliveryRecord := none
    deliveryKey := none
    deliveryStatus := none }

/-- A row whose delivery has ended for good is left to the operators. -/
def keptTerminal : StudyReminderJob :=
  { job with
    userId := input.userId.orElse fun _ => job.userId
    maxRetries := input.maxRetries
    status := if job.deliveryStatus = some .notSent then .failed else job.status }

/-- The last lines of `applyExisting`: a pending or failed row is updated in place. -/
def updatedInPlace (reopenOnlyOnScheduleChange : Bool) : StudyReminderJob :=
  let job := job.scheduledBy input
  if reopenOnlyOnScheduleChange then
    if job.status = .failed then
      { job with status := .pending, nextRetryAt := none, lastError := none }
    else job
  else { job with status := .pending, retryCount := 0, lastError := none, nextRetryAt := none }

end

end

def applyExisting (input : UpsertStudyReminderJobInput) (reopenOnlyOnScheduleChange : Bool)
    (job : StudyReminderJob) : StudyReminderJob :=
  if isOlderGeneration job.mappingGeneration input.mappingGeneration then job
  else match job.status with
    | .sent => if job.scheduleChanged input then job.reopenToPending input else job
    | .processing =>
      -- the owner of a row in flight is not rewritten: the delivery fence cancels it
      if job.ownerChanged input then job
      else if reopenOnlyOnScheduleChange && !job.scheduleChanged input then job
      else job.reopenToPending input
    | .cancelled => job.reopenToPending input
    | .pending | .failed =>
      if job.scheduleChanged input then job.reopenToPending input
      else if job.isTerminalStoredFailure then job.keptTerminal input
      else job.updatedInPlace input reopenOnlyOnScheduleChange

/-! ## What the statements leave -/

variable {job : StudyReminderJob}

lemma ite_some_eq_some {p : Prop} [Decidable p] {row : StudyReminderJob} :
    (if p then some job else none) = some row ↔ p ∧ job = row := by
  split <;> simp [*]

def isOpen (job : StudyReminderJob) : Bool :=
  job.dispatchable || job.status == .cancelled

lemma isOpen_eq_false_of_status (h : job.status = .processing ∨ job.status = .sent) :
    job.isOpen = false := by
  rcases h with h | h <;> simp [isOpen, dispatchable, h]

lemma isOpen_eq_false_of_outcome {out : DeliveryOutcome} (hstat : job.status ≠ .cancelled)
    (hout : job.deliveryStatus = some out) (hterm : out.isTerminal = true) :
    job.isOpen = false := by
  have hnotSent : out ≠ .notSent := by
    rintro rfl
    cases hterm
  simp [isOpen, dispatchable, hstat, hout, hnotSent]

lemma status_of_leasedBy {tok : ℕ} (h : job.leasedBy tok = true) :
    job.leaseToken = some tok ∧ job.status = .processing := by
  simpa [leasedBy] using h

variable {input : UpsertStudyReminderJobInput}

lemma applyExisting_of_own (hown : job.scheduleChanged input = false) :
    job.applyExisting input true = job ∨
      (job.status = .cancelled ∧ job.applyExisting input true = job.reopenToPending input) ∨
      (job.status = .pending ∨ job.status = .failed) ∧ (job.isTerminalStoredFailure = true ∧
            job.applyExisting input true = job.keptTerminal input ∨
          job.isTerminalStoredFailure = false ∧
            job.applyExisting input true = job.updatedInPlace input true) := by
  unfold applyExisting
  by_cases hold : isOlderGeneration job.mappingGeneration input.mappingGeneration = true
  · exact .inl (if_pos hold)
  · rw [if_neg hold]
    cases hstat : job.status with
    | sent => simp [hown]
    | processing => simp [hown]
    | cancelled => simp
    | pending | failed => cases hfail : job.isTerminalStoredFailure <;> simp [hown]

lemma dispatchable_iff :
    job.dispatchable = true ↔
      (job.status = .pending ∨ job.status = .failed ∧ job.retryCount < job.maxRetries) ∧
      (job.deliveryStatus = none ∨
        job.deliveryStatus = some .notSent ∧ job.retryCount < job.maxRetries) ∧
      job.deliveryRecord = none := by
  simp [dispatchable, and_assoc]

lemma not_dispatchable_of_terminalStoredFailure (h : job.isTerminalStoredFailure = true) :
    job.dispatchable = false := by
  by_contra hdisp
  obtain ⟨-, hdelivery, -⟩ := dispatchable_iff.mp (Bool.not_eq_false _ ▸ hdisp)
  rcases hdelivery with hnone | ⟨hnotSent, _⟩
  · simp [isTerminalStoredFailure, hnone] at h
  · simp only [isTerminalStoredFailure, hnotSent, decide_eq_true_eq] at h
    omega

lemma isTerminalStoredFailure_keptTerminal (hretries : input.maxRetries = job.maxRetries)
    (h : job.isTerminalStoredFailure = true) :
    (job.keptTerminal input).isTerminalStoredFailure = true := by
  simpa only [isTerminalStoredFailure, keptTerminal, hretries] using h

structure Kept (job : StudyReminderJob) (input : UpsertStudyReminderJobInput)
    (row : StudyReminderJob) : Prop where
  status : row.status = .pending ∨ row.status = .failed
  retryCount : row.retryCount = job.retryCount
  deliveryStatus : row.deliveryStatus = job.deliveryStatus
  leaseToken : row.leaseToken = job.leaseToken
  maxRetries : row.maxRetries = input.maxRetries
  outcome : row.status = .failed → row.deliveryStatus ≠ none

lemma kept_keptTerminal (hstat : job.status = .pending ∨ job.status = .failed)
    (hterm : job.isTerminalStoredFailure = true) : Kept job input (job.keptTerminal input) where
  status := by
    simp only [keptTerminal]
    split
    · exact .inr rfl
    · exact hstat
  retryCount := rfl
  deliveryStatus := rfl
  leaseToken := rfl
  maxRetries := rfl
  outcome := by
    intro _ hnone
    have hnone : job.deliveryStatus = none := hnone
    simp [isTerminalStoredFailure, hnone] at hterm

lemma updatedInPlace_columns (input : UpsertStudyReminderJobInput)
    (hstat : job.status = .pending ∨ job.status = .failed) :
    (job.updatedInPlace input true).status = .pending ∧
      (job.updatedInPlace input true).deliveryRecord = job.deliveryRecord ∧
      Kept job input (job.updatedInPlace input true) := by
  have hpend : (job.updatedInPlace input true).status = .pending := by
    rcases hstat with h | h <;> simp [updatedInPlace, scheduledBy, h]
  have hcols : (job.updatedInPlace input true).retryCount = job.retryCount ∧
      (job.updatedInPlace input true).deliveryStatus = job.deliveryStatus ∧
      (job.updatedInPlace input true).leaseToken = job.leaseToken ∧
      (job.updatedInPlace input true).maxRetries = input.maxRetries ∧
      (job.updatedInPlace input true).deliveryRecord = job.deliveryRecord := by
    unfold updatedInPlace
    rw [if_pos rfl]
    split <;> exact ⟨rfl, rfl, rfl, rfl, rfl⟩
  obtain ⟨hcount, hdelivery, hlease, hmax, hrec⟩ := hcols
  refine ⟨hpend, hrec, .inl hpend, hcount, hdelivery, hlease, hmax, ?_⟩
  intro hfail
  rw [hpend] at hfail
  cases hfail

lemma applyExisting_kept (hown : job.scheduleChanged input = false) :
    job.applyExisting input true = job ∨
      (job.status = .cancelled ∧ job.applyExisting input true = job.reopenToPending input) ∨
      (job.status = .pending ∨ job.status = .failed) ∧
        Kept job input (job.applyExisting input true) := by
  rcases applyExisting_of_own hown with heq | hcanc | ⟨hstat, hcase⟩
  · exact .inl heq
  · exact .inr (.inl hcanc)
  · refine .inr (.inr ⟨hstat, ?_⟩)
    rcases hcase with ⟨hterm, heq⟩ | ⟨-, heq⟩
    · rw [heq]
      exact kept_keptTerminal hstat hterm
    · rw [heq]
      exact (updatedInPlace_columns input hstat).2.2

lemma dispatchable_of_updatedInPlace (hretries : input.maxRetries = job.maxRetries)
    (hstat : job.status = .pending ∨ job.status = .failed)
    (hfailed : job.status = .failed → job.deliveryStatus ≠ none)
    (h : (job.updatedInPlace input true).dispatchable = true) : job.dispatchable = true := by
  obtain ⟨-, hrec, hkept⟩ := updatedInPlace_columns input hstat
  obtain ⟨-, hout, hnone⟩ := dispatchable_iff.mp h
  rw [hkept.deliveryStatus, hkept.retryCount, hkept.maxRetries, hretries] at hout
  rw [hrec] at hnone
  refine dispatchable_iff.mpr ⟨?_, hout, hnone⟩
  rcases hstat with hpend | hfail
  · exact .inl hpend
  · rcases hout with hmissing | ⟨-, hleft⟩
    · exact absurd hmissing (hfailed hfail)
    · exact .inr ⟨hfail, hleft⟩

section

variable (hown : job.scheduleChanged input = false) (hretries : input.maxRetries = job.maxRetries)
include hown hretries

lemma dispatchable_of_applyExisting (hlive : job.status ≠ .cancelled)
    (hfail : job.status = .failed → job.deliveryStatus ≠ none)
    (h : (job.applyExisting input true).dispatchable = true) : job.dispatchable = true := by
  rcases applyExisting_of_own hown with heq | ⟨hcanc, -⟩ | ⟨hstat, hcase⟩
  · rwa [heq] at h
  · exact absurd hcanc hlive
  · rcases hcase with ⟨hterm, heq⟩ | ⟨-, heq⟩
    · rw [heq, not_dispatchable_of_terminalStoredFailure
        (isTerminalStoredFailure_keptTerminal hretries hterm)] at h
      cases h
    · rw [heq] at h
      exact dispatchable_of_updatedInPlace hretries hstat hfail h

lemma isOpen_of_applyExisting (hfail : job.status = .failed → job.deliveryStatus ≠ none)
    (h : (job.applyExisting input true).isOpen = true) : job.isOpen = true := by
  rcases applyExisting_kept hown with heq | ⟨hcanc, -⟩ | ⟨hstat, hkept⟩
  · rwa [heq] at h
  · simp [isOpen, hcanc]
  · have hlive : job.status ≠ .cancelled := by
      rcases hstat with h | h <;> simp [h]
    have hstill : (job.applyExisting input true).status ≠ .cancelled := by
      rcases hkept.status with h | h <;> simp [h]
    rw [isOpen, beq_eq_false_iff_ne.mpr hstill, Bool.or_false] at h
    rw [isOpen, dispatchable_of_applyExisting hown hretries hlive hfail h, Bool.true_or]

end

end StudyReminderJob

end WispaceBot
