import WispaceBot.Foundation.Table
import WispaceBot.StudyReminder.JobRow

/-!
# The sync of reminder jobs with the calendar

`syncOneMapping` inserts or updates a job for every session within the horizon and cancels the jobs
of the others; on a platform that is not canonical it only cancels.  The sync is a list of
statements; one that fails ends it, and other writers may come in between.
-/

namespace WispaceBot

open List Option

open StudyReminderJob hiding id
open Table

/-! ## The statements on the table -/

/-- The unique index of `study_reminder_jobs`. -/
abbrev JobKey := Platform × String × String

def StudyReminderJob.entityKey (job : StudyReminderJob) : JobKey :=
  (job.platform, job.externalUserId, job.sessionKey)

def UpsertStudyReminderJobInput.inputKey (input : UpsertStudyReminderJobInput) : JobKey :=
  (input.platform, input.externalUserId, input.sessionKey)

def jobOf (key : JobKey) (jobs : List StudyReminderJob) : Option StudyReminderJob :=
  lookup entityKey key jobs

/-- A statement that changes the rows of a scope it selects. -/
def updateJobs (scope : StudyReminderJob → Bool)
    (statement : StudyReminderJob → Option StudyReminderJob) (jobs : List StudyReminderJob) :
    List StudyReminderJob :=
  updateWhere scope (fun job => (statement job).getD job) jobs

/-- `known` are the rows it has read; a second input for a new row violates the unique index. -/
def upsertJob (known : List StudyReminderJob) (id : ℕ) (now : ℤ)
    (reopenOnlyOnScheduleChange : Bool) (input : UpsertStudyReminderJobInput)
    (jobs : List StudyReminderJob) : Option (List StudyReminderJob) :=
  if (jobOf input.inputKey known).isSome then
    some (updateWhere (fun job => decide (job.entityKey = input.inputKey))
      (applyExisting input reopenOnlyOnScheduleChange) jobs)
  else if (jobOf input.inputKey jobs).isSome then none
  else some (jobs ++ [ofInput id now input])

/-- The loop of `upsertPendingJobs`, with the next identifier. -/
def upsertJobs (known : List StudyReminderJob) (now : ℤ) (reopenOnlyOnScheduleChange : Bool) :
    ℕ → List UpsertStudyReminderJobInput → List StudyReminderJob → Option (List StudyReminderJob)
  | _, [], jobs => some jobs
  | id, input :: inputs, jobs =>
    (upsertJob known id now reopenOnlyOnScheduleChange input jobs).bind
      (upsertJobs known now reopenOnlyOnScheduleChange (id + 1) inputs)

/-- `upsertPendingJobs`: one transaction, `none` if it is rolled back. -/
def upsertPendingJobs (id : ℕ) (now : ℤ) (reopenOnlyOnScheduleChange : Bool)
    (inputs : List UpsertStudyReminderJobInput) (jobs : List StudyReminderJob) :
    Option (List StudyReminderJob) :=
  upsertJobs jobs now reopenOnlyOnScheduleChange id inputs jobs

def cancelStaleJobsForExternalUserId (platform : Platform) (externalUserId : String)
    (activeSessionKeys : List String) (horizonEnd : ℤ) (statuses : List JobStatus)
    (jobs : List StudyReminderJob) : List StudyReminderJob :=
  updateJobs (fun job => decide (job.platform = platform ∧ job.externalUserId = externalUserId))
    (cancelStale activeSessionKeys horizonEnd statuses) jobs

def cancelJobsFromOtherPlatforms (userId : ℤ) (currentPlatform : Platform)
    (statuses : List JobStatus) (jobs : List StudyReminderJob) : List StudyReminderJob :=
  if userId = 0 then jobs
  else updateWhere (fun job => decide (job.userId = some userId ∧ job.platform ≠ currentPlatform ∧
    job.status ∈ statuses)) cancelled jobs

/-! ## The sync of a mapping -/

structure UserLink where
  externalUserId : String
  (userId mappingGeneration : Option ℤ)

structure StudySessionRecord where
  sessionKey : String
  scheduledAt : ℤ
  topic : Option String

/-- The settings a sync uses; the reminder comes `remindBeforeMs` before the session. -/
structure SyncSettings where
  (maxRetries remindBeforeMs : ℤ)

def defaultStaleCancelStatuses : List JobStatus := [.pending, .failed]

/-- `onUserSync` holds the statuses the hook cancels on other platforms. -/
structure SyncCall where
  platform : Platform
  mapping : UserLink
  settings : SyncSettings
  horizonEnd : ℤ
  staleCancelStatuses : Option (List JobStatus)
  onUserSync : Option (List JobStatus)
  canonical : Except String (Option Platform)
  sessions : Except String (List StudySessionRecord)

/-- The statements of a sync. -/
inductive SyncStatement
  | cancelOthers (userId : ℤ) (platform : Platform) (statuses : List JobStatus)
  | upsert (inputs : List UpsertStudyReminderJobInput)
  | cancelStale (platform : Platform) (externalUserId : String) (activeSessionKeys : List String)
      (horizonEnd : ℤ) (statuses : List JobStatus)

namespace SyncCall

section

variable (call : SyncCall) (userId : ℤ)

def inputFor (session : StudySessionRecord) :
    UpsertStudyReminderJobInput where
  platform := call.platform
  externalUserId := call.mapping.externalUserId
  userId := some userId
  mappingGeneration := call.mapping.mappingGeneration
  sessionKey := session.sessionKey
  scheduledAt := session.scheduledAt
  remindAt := session.scheduledAt - call.settings.remindBeforeMs
  topic := session.topic
  maxRetries := call.settings.maxRetries

/-- The inputs for the sessions within the horizon. -/
def batch (sessions : List StudySessionRecord) : List UpsertStudyReminderJobInput :=
  (sessions.filter fun session => decide (session.scheduledAt ≤ call.horizonEnd)).map
    (call.inputFor userId)

/-- What is done with the sessions of the calendar. -/
def syncSessions (sessions : List StudySessionRecord) : List SyncStatement :=
  let batch := call.batch userId sessions
  (if batch.isEmpty then [] else [.upsert batch]) ++
    [.cancelStale call.platform call.mapping.externalUserId (batch.map (·.sessionKey))
      call.horizonEnd (call.staleCancelStatuses.getD defaultStaleCancelStatuses)]

end

/-- As long as none fails; a missing user, or a resolver or calendar that fails, end it earlier. -/
def statements (call : SyncCall) : List SyncStatement :=
  if call.mapping.externalUserId = "" then []
  else match call.mapping.userId, call.canonical with
    | some userId, .ok canonical =>
      if canonical = some call.platform then
        (match call.onUserSync with
          | some statuses =>
            if userId = 0 then [] else [.cancelOthers userId call.platform statuses]
          | none => []) ++
        (match call.sessions with
          | .ok sessions => call.syncSessions userId sessions
          | .error _ => [])
      else [.cancelStale call.platform call.mapping.externalUserId [] call.horizonEnd
        [.pending, .failed]]
    | _, _ => []

end SyncCall

/-- A statement on the table; `none` if it is rolled back. -/
def SyncStatement.exec (id : ℕ) (now : ℤ) :
    SyncStatement → List StudyReminderJob → Option (List StudyReminderJob)
  | .cancelOthers userId platform statuses, jobs =>
    some (cancelJobsFromOtherPlatforms userId platform statuses jobs)
  | .upsert inputs, jobs => upsertPendingJobs id now true inputs jobs
  | .cancelStale platform externalUserId keys horizonEnd statuses, jobs =>
    some (cancelStaleJobsForExternalUserId platform externalUserId keys horizonEnd statuses jobs)

/-- The statements one after the other, up to one that fails. -/
def runStatements (id : ℕ) (now : ℤ) :
    List SyncStatement → List StudyReminderJob → List StudyReminderJob
  | [], jobs => jobs
  | statement :: rest, jobs =>
    match statement.exec id now jobs with
    | some jobs' => runStatements id now rest jobs'
    | none => jobs

/-- `syncOneMapping` with nothing in between. -/
def syncOneMapping (id : ℕ) (now : ℤ) (call : SyncCall) (jobs : List StudyReminderJob) :
    List StudyReminderJob :=
  runStatements id now call.statements jobs

lemma SyncCall.mem_statements {call : SyncCall} {statement : SyncStatement}
    (h : statement ∈ call.statements) :
    (∃ userId statuses, call.onUserSync = some statuses ∧
        statement = .cancelOthers userId call.platform statuses) ∨
      (∃ userId sessions, call.sessions = .ok sessions ∧
        statement = .upsert (call.batch userId sessions)) ∨
      ∃ keys statuses, statement = .cancelStale call.platform call.mapping.externalUserId keys
          call.horizonEnd statuses ∧
        (statuses = defaultStaleCancelStatuses ∨ call.staleCancelStatuses = some statuses) := by
  unfold statements at h
  split at h
  · cases h
  · split at h
    next userId _ _ _ =>
      split at h
      · rcases mem_append.mp h with hhook | hsessions
        · -- the hook for other platforms
          split at hhook
          next statuses hhooked =>
            split at hhook
            · cases hhook
            · exact .inl ⟨userId, statuses, hhooked, mem_singleton.mp hhook⟩
          · cases hhook
        · split at hsessions
          next sessions hlist =>
            rcases mem_append.mp hsessions with hupsert | hstale
            · split at hupsert
              · cases hupsert
              · exact .inr (.inl ⟨userId, sessions, hlist, mem_singleton.mp hupsert⟩)
            · refine .inr (.inr ⟨_, _, mem_singleton.mp hstale, ?_⟩)
              cases call.staleCancelStatuses with
              | none => exact .inl rfl
              | some => exact .inr rfl
          · cases hsessions
      · exact .inr (.inr ⟨[], _, mem_singleton.mp h, .inl rfl⟩)
    · cases h

/-! ## Generations -/

/-- What a delivery is for: the schedule and the topic of a session. -/
structure ScheduleGeneration where
  (scheduledAt remindAt : ℤ)
  topic : Option String
  deriving DecidableEq

def StudyReminderJob.generation (job : StudyReminderJob) : ScheduleGeneration :=
  ⟨job.scheduledAt, job.remindAt, job.topic⟩

def UpsertStudyReminderJobInput.generation (input : UpsertStudyReminderJobInput) :
    ScheduleGeneration :=
  ⟨input.scheduledAt, input.remindAt, input.topic⟩

variable {input : UpsertStudyReminderJobInput} {job : StudyReminderJob}

lemma StudyReminderJob.scheduleChanged_eq_false_iff :
    job.scheduleChanged input = false ↔ job.generation = input.generation := by
  simp only [scheduleChanged, StudyReminderJob.generation, UpsertStudyReminderJobInput.generation,
    ScheduleGeneration.mk.injEq, Bool.or_eq_false_iff, bne_eq_false_iff_eq, and_assoc]
  exact and_congr_right fun _ => and_congr_right fun _ => eq_comm

lemma StudyReminderJob.generation_applyExisting (h : job.generation = input.generation) :
    (job.applyExisting input true).generation = job.generation := by
  have hsched : (job.scheduledBy input).generation = job.generation := by
    have htopic : job.topic = input.topic := congrArg ScheduleGeneration.topic h
    rw [h]
    simp only [StudyReminderJob.generation, UpsertStudyReminderJobInput.generation, scheduledBy,
      htopic]
    cases input.topic <;> rfl
  rcases applyExisting_of_own (scheduleChanged_eq_false_iff.mpr h) with heq | ⟨-, heq⟩ | ⟨-, hcase⟩
  · rw [heq]
  · rw [heq]
    exact hsched
  · rcases hcase with ⟨-, heq⟩ | ⟨-, heq⟩
    · rw [heq]
      rfl
    · rw [heq, updatedInPlace, if_pos rfl]
      split <;> exact hsched

/-! ## The row of a key -/

section Row

variable {key : JobKey} {jobs jobs' : List StudyReminderJob}

lemma entityKey_updatedInPlace (job : StudyReminderJob) (input : UpsertStudyReminderJobInput)
    (reopen : Bool) : (job.updatedInPlace input reopen).entityKey = job.entityKey := by
  unfold updatedInPlace
  dsimp only
  split
  · split <;> rfl
  · rfl

lemma entityKey_applyExisting (input : UpsertStudyReminderJobInput) (reopen : Bool)
    (job : StudyReminderJob) : (job.applyExisting input reopen).entityKey = job.entityKey := by
  have hupdated := entityKey_updatedInPlace job input reopen
  unfold applyExisting
  repeat' split
  all_goals first | rfl | assumption

lemma entityKey_ofInput (id : ℕ) (now : ℤ) (input : UpsertStudyReminderJobInput) :
    (ofInput id now input).entityKey = input.inputKey :=
  rfl

variable {statement : StudyReminderJob → Option StudyReminderJob}

lemma entityKey_getD (hkey : ∀ job row, statement job = some row → row.entityKey = job.entityKey)
    (job : StudyReminderJob) : ((statement job).getD job).entityKey = job.entityKey := by
  cases hrow : statement job with
  | none => rfl
  | some row => exact hkey job row hrow

variable {scope : StudyReminderJob → Bool}

lemma jobOf_updateJobs (hkey : ∀ job row, statement job = some row → row.entityKey = job.entityKey)
    (jobs : List StudyReminderJob) :
    jobOf key (updateJobs scope statement jobs) =
      (jobOf key jobs).map fun job => if scope job then (statement job).getD job else job :=
  lookup_updateWhere (entityKey_getD hkey) jobs

lemma uniqueOn_updateJobs (huniq : UniqueOn entityKey jobs)
    (hkey : ∀ job row, statement job = some row → row.entityKey = job.entityKey) :
    UniqueOn entityKey (updateJobs scope statement jobs) :=
  huniq.updateWhere (entityKey_getD hkey)

lemma entityKey_cancelStale (keys : List String) (horizonEnd : ℤ) (statuses : List JobStatus)
    (job row : StudyReminderJob) (hrow : cancelStale keys horizonEnd statuses job = some row) :
    row.entityKey = job.entityKey := by
  obtain ⟨-, rfl⟩ := ite_some_eq_some.mp hrow
  rfl

def applyAll (reopenOnlyOnScheduleChange : Bool) (inputs : List UpsertStudyReminderJobInput)
    (job : StudyReminderJob) : StudyReminderJob :=
  inputs.foldl (fun job input => job.applyExisting input reopenOnlyOnScheduleChange) job

@[simp] lemma applyAll_nil (reopen : Bool) : applyAll reopen [] = id :=
  rfl

def inputsFor (key : JobKey) (inputs : List UpsertStudyReminderJobInput) :
    List UpsertStudyReminderJobInput :=
  inputs.filter fun input => decide (input.inputKey = key)

variable {known : List StudyReminderJob} {now : ℤ} {id : ℕ} {reopen : Bool}
  {input : UpsertStudyReminderJobInput}

lemma jobOf_upsertJob_of_ne (hne : input.inputKey ≠ key)
    (h : upsertJob known id now reopen input jobs = some jobs') :
    jobOf key jobs' = jobOf key jobs := by
  unfold upsertJob at h
  split at h
  · cases h
    rw [jobOf, lookup_updateWhere (entityKey_applyExisting input reopen), ← jobOf]
    cases hjob : jobOf key jobs with
    | none => rfl
    | some job =>
      have hkey : job.entityKey = key := key_of_lookup hjob
      simp [hkey, Ne.symm hne]
  · split at h
    · cases h
    · cases h
      rw [jobOf, lookup_append_singleton, entityKey_ofInput, if_neg hne, or_none, ← jobOf]

lemma jobOf_upsertJob_known (hknown : (jobOf key known).isSome = true)
    (h : upsertJob known id now reopen input jobs = some jobs') :
    jobOf key jobs' = (jobOf key jobs).map (applyAll reopen (inputsFor key [input])) := by
  by_cases hinput : input.inputKey = key
  · subst hinput
    rw [upsertJob, if_pos hknown] at h
    cases h
    rw [jobOf, lookup_updateWhere (entityKey_applyExisting input reopen), ← jobOf]
    refine Option.map_congr fun job hjob => ?_
    have hkey : job.entityKey = input.inputKey := key_of_lookup hjob
    simp [applyAll, inputsFor, hkey]
  · rw [jobOf_upsertJob_of_ne hinput h]
    simp [inputsFor, hinput]

lemma jobOf_created (hnone : jobOf input.inputKey jobs = none) :
    jobOf input.inputKey (jobs ++ [ofInput id now input]) = some (ofInput id now input) := by
  rw [jobOf, lookup_append_singleton, ← jobOf, hnone, entityKey_ofInput, if_pos rfl, none_or]

variable {inputs : List UpsertStudyReminderJobInput}

lemma jobOf_upsertJobs_known (hknown : (jobOf key known).isSome = true)
    (h : upsertJobs known now reopen id inputs jobs = some jobs') :
    jobOf key jobs' = (jobOf key jobs).map (applyAll reopen (inputsFor key inputs)) := by
  induction inputs generalizing id jobs with
  | nil =>
    cases h
    simp [inputsFor]
  | cons _ _ ih =>
    obtain ⟨_, hmid, hrest⟩ := bind_eq_some_iff.mp h
    rw [ih hrest, jobOf_upsertJob_known hknown hmid, Option.map_map]
    congr 1
    funext job
    simp [applyAll, inputsFor, ← foldl_append, ← filter_append]

lemma jobOf_upsertJobs_new (hknown : (jobOf key known).isSome = false)
    (h : upsertJobs known now reopen id inputs jobs = some jobs') :
    jobOf key jobs' = jobOf key jobs ∨ jobOf key jobs = none ∧
      ∃ id', ∃ input ∈ inputsFor key inputs, jobOf key jobs' = some (ofInput id' now input) := by
  induction inputs generalizing id jobs with
  | nil =>
    cases h
    exact .inl rfl
  | cons input inputs ih =>
    obtain ⟨mid, hmid, hrest⟩ := bind_eq_some_iff.mp h
    by_cases hinput : input.inputKey = key
    · -- the row is created here, and a second input for it would fail
      subst hinput
      unfold upsertJob at hmid
      rw [if_neg (by simp [hknown])] at hmid
      split at hmid
      · cases hmid
      next hfree =>
        cases hmid
        have hnone : jobOf input.inputKey jobs = none := by simpa using hfree
        refine .inr ⟨hnone, id, input, by simp [inputsFor], ?_⟩
        rcases ih hrest with hsame | ⟨hmissing, -⟩
        · rw [hsame, jobOf_created hnone]
        · rw [jobOf_created hnone] at hmissing
          cases hmissing
    · have hmiddle : jobOf key mid = jobOf key jobs := jobOf_upsertJob_of_ne hinput hmid
      have hinputs : inputsFor key (input :: inputs) = inputsFor key inputs := by
        simp [inputsFor, hinput]
      rw [hinputs, ← hmiddle]
      exact ih hrest

def SyncStatement.cancels : SyncStatement → List JobStatus
  | .cancelOthers _ _ statuses | .cancelStale _ _ _ _ statuses => statuses
  | .upsert _ => []

def SyncStatement.inputsFor (key : JobKey) : SyncStatement → List UpsertStudyReminderJobInput
  | .upsert inputs => WispaceBot.inputsFor key inputs
  | _ => []

/-- What a statement of a sync does to the row of a key. -/
inductive SyncedRow (key : JobKey) (statement : SyncStatement) :
    Option StudyReminderJob → Option StudyReminderJob → Prop
  | applied (row : Option StudyReminderJob) :
      SyncedRow key statement row (row.map (applyAll true (statement.inputsFor key)))
  | cancelled {job : StudyReminderJob} (hstatus : job.status ∈ statement.cancels) :
      SyncedRow key statement (some job) (some job.cancelled)
  | created (id : ℕ) (now : ℤ) {input : UpsertStudyReminderJobInput}
      (hinput : input ∈ statement.inputsFor key) :
      SyncedRow key statement none (some (ofInput id now input))

variable {statement : SyncStatement}

lemma SyncedRow.same (h : statement.inputsFor key = []) (row : Option StudyReminderJob) :
    SyncedRow key statement row row := by
  have happ : SyncedRow key statement row (row.map (applyAll true (statement.inputsFor key))) :=
    .applied row
  rwa [h, applyAll_nil, Option.map_id, id] at happ

lemma syncedRow_exec (h : statement.exec id now jobs = some jobs') :
    SyncedRow key statement (jobOf key jobs) (jobOf key jobs') := by
  cases statement with
  | cancelOthers =>
    cases h
    unfold cancelJobsFromOtherPlatforms
    split
    · exact .same rfl _
    · have hkey : ∀ job : StudyReminderJob, job.cancelled.entityKey = job.entityKey := fun _ => rfl
      rw [jobOf, jobOf, lookup_updateWhere hkey, ← jobOf]
      cases jobOf key jobs with
      | none => exact .same rfl none
      | some job =>
        rw [map_some]
        split
        next hsel =>
          exact .cancelled (of_decide_eq_true hsel).2.2
        · exact .same rfl (some job)
  | upsert =>
    cases hknown : (jobOf key jobs).isSome with
    | true =>
      rw [jobOf_upsertJobs_known hknown h]
      exact .applied _
    | false =>
      have hnone : jobOf key jobs = none := by simpa using hknown
      rcases jobOf_upsertJobs_new hknown h with hsame | ⟨-, id', _, hinput, hcreated⟩
      · rw [hsame, hnone]
        exact .applied none
      · rw [hcreated, hnone]
        exact .created id' now hinput
  | cancelStale _ _ keys horizonEnd statuses =>
    cases h
    rw [cancelStaleJobsForExternalUserId,
      jobOf_updateJobs (entityKey_cancelStale keys horizonEnd statuses)]
    cases jobOf key jobs with
    | none => exact .same rfl none
    | some job =>
      rw [map_some]
      split
      · cases hrow : cancelStale keys horizonEnd statuses job with
        | none => exact .same rfl (some job)
        | some =>
          obtain ⟨hsel, rfl⟩ := ite_some_eq_some.mp hrow
          exact .cancelled hsel.1
      · exact .same rfl (some job)

lemma uniqueOn_upsertJobs (huniq : UniqueOn entityKey jobs)
    (h : upsertJobs known now reopen id inputs jobs = some jobs') : UniqueOn entityKey jobs' := by
  induction inputs generalizing id jobs with
  | nil =>
    cases h
    exact huniq
  | cons input _ ih =>
    obtain ⟨_, hmid, hrest⟩ := bind_eq_some_iff.mp h
    refine ih ?_ hrest
    unfold upsertJob at hmid
    split at hmid
    · cases hmid
      exact huniq.updateWhere (entityKey_applyExisting input reopen)
    · split at hmid
      · cases hmid
      next hfree =>
        cases hmid
        have hnone : jobOf input.inputKey jobs = none := by simpa using hfree
        exact huniq.append_singleton (lookup_eq_none_iff.mp hnone)

lemma uniqueOn_exec (huniq : UniqueOn entityKey jobs)
    (h : statement.exec id now jobs = some jobs') : UniqueOn entityKey jobs' := by
  cases statement with
  | cancelOthers =>
    cases h
    unfold cancelJobsFromOtherPlatforms
    split
    · exact huniq
    · exact huniq.updateWhere fun _ => rfl
  | upsert => exact uniqueOn_upsertJobs huniq h
  | cancelStale _ _ keys horizonEnd statuses =>
    cases h
    exact uniqueOn_updateJobs huniq (entityKey_cancelStale keys horizonEnd statuses)

end Row

end WispaceBot
