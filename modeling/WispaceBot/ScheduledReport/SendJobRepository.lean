import WispaceBot.ScheduledReport.ClaimAndSend

/-!
# The outbox of scheduled reports

`report_send_jobs` holds the reports that may be tried again, one row for an account and an exam
date.  A statement is a function of a row, `none` where its `WHERE` clause does not select it;
`recordRetryableFailure` saves all columns of the entity it has read.  Lease tokens are numbers; the
cut of long error texts is left out.  What the driver makes of a `DATE` in a row that `claimJob`
returns is an argument of `returned`.
-/

namespace WispaceBot

/-- `ReportSendJobStatus`. -/
inductive ReportJobStatus
  | pending
  | processing
  | sent
  | failed
  deriving DecidableEq

/-- `ReportSendJobEntity`. -/
structure ReportSendJob where
  id : ℕ
  platform : Platform
  externalUserId : String
  userId : Option ℤ
  (examDate firstAttemptDate : String)
  status : ReportJobStatus
  (retryCount maxRetries : ℤ)
  nextRetryAt : Option ℤ
  lastError : Option String
  retryCause : Option ReportRetryCause
  sentAt : Option ℤ
  leaseToken : Option ℕ
  leaseExpiresAt : Option ℤ
  updatedAt : ℤ

/-- `ReportSendJobUpdateParams`. -/
structure ReportJobFailure where
  jobId : ℕ
  leaseToken : Option ℕ
  errorMessage : String
  retryCount : ℤ
  nextRetryAt : Option ℤ
  terminal : Bool
  retryCause : Option ReportRetryCause

namespace ReportSendJob

def accountKey (job : ReportSendJob) : Platform × String × String :=
  (job.platform, job.externalUserId, job.examDate)

/-! ## Statements -/

/-- The clause of `findDueJobs`. -/
def isDue (platform : Platform) (now : ℤ) (job : ReportSendJob) : Bool :=
  decide (job.platform = platform ∧ job.status = .failed ∧ job.retryCount < job.maxRetries) &&
    job.nextRetryAt.any (· ≤ now)

lemma isDue_iff {p : Platform} {now : ℤ} {job : ReportSendJob} :
    isDue p now job = true ↔ job.platform = p ∧ job.status = .failed ∧
      job.retryCount < job.maxRetries ∧ ∃ time ∈ job.nextRetryAt, time ≤ now := by
  simp [isDue, and_assoc, Option.any_eq_true]

/-- The `UPDATE` of `claimJob`. -/
def claimJob (platform : Platform) (jobId token : ℕ) (now leaseMs : ℤ) (job : ReportSendJob) :
    Option ReportSendJob :=
  if job.id = jobId ∧ job.platform = platform ∧ job.status = .failed then
    some { job with
      status := .processing
      leaseToken := some token
      leaseExpiresAt := some (now + leaseMs) }
  else none

/-- The row that `RETURNING *` hands on.  `mapEntity` casts what the driver makes of a `DATE`;
`date` is the text that this has as a report date. -/
def returned (date : String → String) (job : ReportSendJob) : ReportSendJob :=
  { job with examDate := date job.examDate, firstAttemptDate := date job.firstAttemptDate }

def markedSent (now : ℤ) (job : ReportSendJob) : ReportSendJob :=
  { job with
    status := .sent
    sentAt := some now
    nextRetryAt := none
    lastError := none
    retryCause := none
    updatedAt := now }

section

variable (platform : Platform)

/-- `markSent`: only the lease token is checked. -/
def markSent (jobId token : ℕ) (now : ℤ) (job : ReportSendJob) : Option ReportSendJob :=
  if job.id = jobId ∧ job.platform = platform ∧ job.leaseToken = some token then
    some (job.markedSent now)
  else none

/-- The clause of `markFailed`: the lease token is checked if there is one, and nothing else. -/
def FailureSelects (failure : ReportJobFailure) (job : ReportSendJob) : Prop :=
  job.id = failure.jobId ∧ job.platform = platform ∧
    failure.leaseToken.all (fun token => decide (job.leaseToken = some token)) = true
  deriving Decidable

def markFailed (failure : ReportJobFailure) (now : ℤ) (job : ReportSendJob) :
    Option ReportSendJob :=
  if FailureSelects platform failure job then
    some { job with
      status := .failed
      retryCount := failure.retryCount
      lastError := some failure.errorMessage
      retryCause := failure.retryCause
      nextRetryAt := if failure.terminal then none else failure.nextRetryAt
      updatedAt := now }
  else none

def markSentByExternalUserExamDate (externalUserId examDate : String) (now : ℤ)
    (job : ReportSendJob) : Option ReportSendJob :=
  if job.accountKey = (platform, externalUserId, examDate) ∧
      job.status ∈ [.failed, .processing, .pending] then
    some (job.markedSent now)
  else none

/-- `resetStuckProcessingJobs`. -/
def resetStuckProcessing (now olderThan : ℤ) (job : ReportSendJob) : Option ReportSendJob :=
  if job.platform = platform ∧ job.status = .processing ∧
      (match job.leaseExpiresAt with
        | some expiry => decide (expiry < now)
        | none => decide (job.updatedAt < olderThan)) = true then
    some { job with status := .failed, updatedAt := now }
  else none

end

lemma id_of_clause {p : Prop} [Decidable p] {job written row : ReportSendJob}
    (hid : written.id = job.id) (h : (if p then some written else none) = some row) :
    row.id = job.id := by
  obtain ⟨-, ⟨⟩⟩ := Option.ite_none_right_eq_some.mp h
  exact hid

/-! ## `recordRetryableFailure` -/

def failedAgain (failure : RetryableFailure) (retryAt now : ℤ) (existing : ReportSendJob) :
    ReportSendJob :=
  { existing with
    retryCount := existing.retryCount + 1
    maxRetries := failure.maxRetries
    lastError := some failure.errorMessage
    retryCause := failure.retryCause
    nextRetryAt :=
      if failure.maxRetries ≤ existing.retryCount + 1 then none else some retryAt
    status := .failed
    userId := failure.userId.orElse fun _ => existing.userId
    updatedAt := now }

/-- A new row; its `id` is drawn by the database. -/
def failedFirst (failure : RetryableFailure) (id : ℕ) (retryAt now : ℤ) : ReportSendJob where
  id := id
  platform := failure.platform
  externalUserId := failure.externalUserId
  userId := failure.userId
  examDate := failure.examDate
  firstAttemptDate := failure.firstAttemptDate
  status := .failed
  retryCount := 1
  maxRetries := failure.maxRetries
  nextRetryAt := if failure.maxRetries ≤ 1 then none else some retryAt
  lastError := some failure.errorMessage
  retryCause := failure.retryCause
  sentAt := none
  leaseToken := none
  leaseExpiresAt := none
  updatedAt := now

end ReportSendJob

/-! ## The table -/

/-- The rows, and the next `id`. -/
structure ReportOutbox where
  jobs : List ReportSendJob
  nextId : ℕ

namespace ReportOutbox

open ReportSendJob

def exec (statement : ReportSendJob → Option ReportSendJob) (outbox : ReportOutbox) :
    ReportOutbox :=
  { outbox with
    jobs := Table.updateWhere (fun job => (statement job).isSome)
      (fun job => (statement job).getD job) outbox.jobs }

/-- The row of an `id`. -/
def jobWith (outbox : ReportOutbox) (id : ℕ) : Option ReportSendJob :=
  Table.lookup ReportSendJob.id id outbox.jobs

/-- The read of `recordRetryableFailure`. -/
def jobFor (outbox : ReportOutbox) (platform : Platform) (externalUserId examDate : String) :
    Option ReportSendJob :=
  Table.lookup accountKey (platform, externalUserId, examDate) outbox.jobs

def findDueJobs (outbox : ReportOutbox) (platform : Platform) (now : ℤ) : List ReportSendJob :=
  ((outbox.jobs.filter (isDue platform now)).mergeSort fun a b =>
    decide (a.nextRetryAt.getD 0 ≤ b.nextRetryAt.getD 0)).take 50

/-- `save` of an entity that was read; if the row is gone it is inserted. -/
def save (entity : ReportSendJob) (outbox : ReportOutbox) : ReportOutbox :=
  if (outbox.jobWith entity.id).isSome then
    outbox.exec fun job => if job.id = entity.id then some entity else none
  else { outbox with jobs := outbox.jobs ++ [entity] }

section

variable (failure : RetryableFailure) (retryAt now : ℤ) (outbox : ReportOutbox)

/-- `save` of a new entity; the unique index refuses a second row for an account and an exam. -/
def insert : Option (ReportSendJob × ReportOutbox) :=
  if (outbox.jobFor failure.platform failure.externalUserId failure.examDate).isSome then none
  else
    let job := failedFirst failure outbox.nextId retryAt now
    some (job, { jobs := outbox.jobs ++ [job], nextId := outbox.nextId + 1 })

/-- `recordRetryableFailure` without anything in between. -/
def recordRetryableFailure : Option (ReportSendJob × ReportOutbox) :=
  match outbox.jobFor failure.platform failure.externalUserId failure.examDate with
  | some existing =>
    if existing.status = .sent then some (existing, outbox)
    else
      let saved := existing.failedAgain failure retryAt now
      some (saved, outbox.save saved)
  | none => outbox.insert failure retryAt now

end

variable {outbox : ReportOutbox}

lemma isDue_of_findDueJobs {p : Platform} {now : ℤ} {job : ReportSendJob}
    (h : job ∈ outbox.findDueJobs p now) : isDue p now job = true :=
  (List.mem_filter.mp (List.mem_mergeSort.mp (List.mem_of_mem_take h))).2

variable {stmt : ReportSendJob → Option ReportSendJob}

lemma jobWith_exec (hid : ∀ job row, stmt job = some row → row.id = job.id)
    (outbox : ReportOutbox) (id : ℕ) :
    (outbox.exec stmt).jobWith id = (outbox.jobWith id).map fun job => (stmt job).getD job := by
  have hset : ∀ job, ((stmt job).getD job).id = job.id := by
    intro job
    cases hrow : stmt job with
    | none => rfl
    | some row => exact hid job row hrow
  rw [exec, jobWith, Table.lookup_updateWhere hset]
  refine congrArg (fun f => Option.map f _) (funext fun job => ?_)
  cases stmt job <;> rfl

/-! ## Rows that were sent -/

/-- The row of the `id` has status `sent`. -/
def SentRow (outbox : ReportOutbox) (id : ℕ) : Prop :=
  ∃ job, outbox.jobWith id = some job ∧ job.status = .sent
  deriving Decidable

variable {id : ℕ}

lemma SentRow.exec (h : outbox.SentRow id) (hid : ∀ job row, stmt job = some row → row.id = job.id)
    (hkeep : ∀ job row, outbox.jobWith id = some job → job.status = .sent →
      stmt job = some row → row.status = .sent) :
    (outbox.exec stmt).SentRow id := by
  obtain ⟨job, hjob, hsent⟩ := h
  refine ⟨(stmt job).getD job, ?_, ?_⟩
  · rw [jobWith_exec hid, hjob]
    rfl
  · cases hrow : stmt job with
    | none => exact hsent
    | some row => exact hkeep job row hjob hsent hrow

lemma SentRow.append (h : outbox.SentRow id) (job : ReportSendJob) (nextId : ℕ) :
    (ReportOutbox.mk (outbox.jobs ++ [job]) nextId).SentRow id := by
  obtain ⟨row, hrow, hsent⟩ := h
  refine ⟨row, ?_, hsent⟩
  rw [jobWith] at hrow
  rw [jobWith, Table.lookup_append_singleton, hrow]
  rfl

end ReportOutbox

end WispaceBot
