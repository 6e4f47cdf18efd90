import WispaceBot.Foundation.Run
import WispaceBot.StudyReminder.Sync

/-!
# Outcomes that stay

When the provider may have accepted a reminder or refused it for good, `applyExisting` keeps the
row.  But a sync that does not find the session, or runs on a platform that is not canonical, clears
the outcome with its cancellation, and the next sync reopens the row.  As long as no sync brings
back, with its old schedule, a session whose row was cancelled, the row is not dispatched again
(`terminal_outcome_stays`).  The state also holds the schedule for which an outcome was recorded.
-/

namespace WispaceBot

open Transition Table
open StudyReminderJob hiding id

/-- The outcome `ambiguous` or `rate_limited` is recorded. -/
def StudyReminderJob.hasTerminalOutcome (job : StudyReminderJob) : Bool :=
  job.deliveryStatus == some .ambiguous || job.deliveryStatus == some .rateLimited

/-! ## The jobs and their syncs -/

/-- The jobs, and the generation for which an outcome was recorded in the row that is watched. -/
structure OutcomeSystem where
  jobs : List StudyReminderJob
  recorded : Option ScheduleGeneration

/-- The statements on the rows of the jobs. -/
inductive OutcomeEvent
  | claim (jobId token : ℕ) (now leaseMs : ℤ)
  | markFailed (jobId token : ℕ) (failure : Failure)
  /-- `resetStuckProcessingJobs`, with the target `pending` or `failed`. -/
  | resetStuck (platform : Platform) (now olderThan : ℤ) (toPending : Bool)
  /-- A statement of a sync; new rows get identifiers from `id` on. -/
  | sync (call : SyncCall) (index id : ℕ) (now : ℤ)

namespace OutcomeSystem

/-- A statement that is no sync: it may record an outcome in the watched row. -/
def update (key : JobKey) (scope : StudyReminderJob → Bool)
    (statement : StudyReminderJob → Option StudyReminderJob) (s : OutcomeSystem) :
    OutcomeSystem where
  jobs := updateJobs scope statement s.jobs
  recorded := match (jobOf key s.jobs).filter scope >>= statement with
    | some row => if row.hasTerminalOutcome then some row.generation else s.recorded
    | none => s.recorded

/-- A statement of a sync: another generation clears the record. -/
def synced (key : JobKey) (statement : SyncStatement) (id : ℕ) (now : ℤ) (s : OutcomeSystem) :
    OutcomeSystem :=
  match statement.exec id now s.jobs with
  | some jobs =>
    { jobs := jobs
      recorded := if (statement.inputsFor key).all fun input => s.recorded == some input.generation
        then s.recorded else none }
  | none => s

def step (key : JobKey) (s : OutcomeSystem) : OutcomeEvent → Option OutcomeSystem
  | .claim jobId token now leaseMs =>
    some (s.update key (fun job => decide (job.id = jobId)) (claimJob token now leaseMs))
  | .markFailed jobId token failure =>
    some (s.update key (fun job => decide (job.id = jobId))
      (StudyReminderJob.markFailed token failure))
  | .resetStuck platform now olderThan toPending =>
    some (s.update key (fun job => decide (job.platform = platform))
      (StudyReminderJob.resetStuck now olderThan (if toPending then .pending else .failed)))
  | .sync call index id now =>
    call.statements[index]?.map fun statement => s.synced key statement id now

/-- No sync brings back, with the recorded schedule, a session whose row is cancelled. -/
def sparesCancelled (key : JobKey) (s : OutcomeSystem) : OutcomeEvent → Bool
  | .sync call index _ _ =>
    match call.statements[index]?, jobOf key s.jobs with
    | some statement, some job => !(job.status == .cancelled &&
        (statement.inputsFor key).any fun input => s.recorded == some input.generation)
    | _, _ => true
  | _ => true

/-! ## Rows with an outcome -/

/-- The row waits with an outcome of this generation. -/
structure Holds (g : ScheduleGeneration) (job : StudyReminderJob) : Prop where
  generation : job.generation = g
  waits : job.status = .pending ∨ job.status = .failed
  outcome : job.hasTerminalOutcome = true

variable {key : JobKey} {g : ScheduleGeneration} {job row : StudyReminderJob}

lemma isTerminalStoredFailure_of_outcome (h : job.hasTerminalOutcome = true) :
    job.isTerminalStoredFailure = true ∧ job.deliveryStatus ≠ some .notSent := by
  rcases Bool.or_eq_true_iff.mp h with h | h
  · rw [beq_iff_eq] at h
    simp [isTerminalStoredFailure, h]
  · rw [beq_iff_eq] at h
    simp [isTerminalStoredFailure, h]

lemma Holds.not_dispatchable (h : Holds g job) : job.dispatchable = false :=
  not_dispatchable_of_terminalStoredFailure (isTerminalStoredFailure_of_outcome h.outcome).1

lemma Holds.applyExisting (h : Holds g job) {input : UpsertStudyReminderJobInput}
    (hinput : input.generation = g) : Holds g (job.applyExisting input true) := by
  obtain ⟨hterm, _⟩ := isTerminalStoredFailure_of_outcome h.outcome
  have hown : job.scheduleChanged input = false :=
    scheduleChanged_eq_false_iff.mpr (h.generation.trans hinput.symm)
  rcases applyExisting_of_own hown with heq | ⟨hcanc, -⟩ | ⟨-, hcase⟩
  · rw [heq]
    exact h
  · rcases h.waits with hwaits | hwaits <;> rw [hwaits] at hcanc <;> cases hcanc
  · rcases hcase with ⟨-, heq⟩ | ⟨hnot, -⟩
    · have hkept : Kept job input (job.keptTerminal input) := kept_keptTerminal h.waits hterm
      rw [heq]
      exact ⟨h.generation, hkept.status, h.outcome⟩
    · rw [hterm] at hnot
      cases hnot

lemma Holds.applyAll {inputs : List UpsertStudyReminderJobInput} (h : Holds g job)
    (hinputs : ∀ input ∈ inputs, input.generation = g) : Holds g (applyAll true inputs job) := by
  induction inputs generalizing job with
  | nil => exact h
  | cons input _ ih =>
    exact ih (h.applyExisting (hinputs input List.mem_cons_self))
      fun input' hinput' => hinputs input' (List.mem_cons_of_mem _ hinput')

/-! ## Runs -/

/-- The row of an outcome that was recorded still has it, or is cancelled. -/
def Recorded (key : JobKey) (s : OutcomeSystem) : Prop :=
  ∀ g, s.recorded = some g → ∃ job, jobOf key s.jobs = some job ∧
    (Holds g job ∨ job.status = .cancelled ∧ job.generation = g)

/-- The statements that record outcomes, and the claim. -/
structure Worker (statement : StudyReminderJob → Option StudyReminderJob) : Prop where
  key : ∀ job row, statement job = some row → row.entityKey = job.entityKey
  generation : ∀ job row, statement job = some row → row.generation = job.generation
  selects : ∀ job row, statement job = some row → job.dispatchable = true ∨ job.status = .processing
  waits : ∀ job row, statement job = some row → row.hasTerminalOutcome = true →
    row.status = .pending ∨ row.status = .failed

lemma worker_claimJob (tok : ℕ) (now ms : ℤ) : Worker (claimJob tok now ms) := by
  constructor <;> intro _ _ hrow <;> obtain ⟨hselects, rfl⟩ := ite_some_eq_some.mp hrow
  · rfl
  · rfl
  · exact .inl hselects
  · intro hout
    cases hout

lemma worker_markFailed (tok : ℕ) (fail : Failure) :
    Worker (StudyReminderJob.markFailed tok fail) := by
  constructor <;> intro _ _ hrow <;> obtain ⟨hselects, rfl⟩ := ite_some_eq_some.mp hrow
  · rfl
  · rfl
  · exact .inr (status_of_leasedBy hselects).2
  · exact fun _ => .inr rfl

lemma worker_resetStuck (now olderThan : ℤ) (toPending : Bool) :
    Worker (StudyReminderJob.resetStuck now olderThan
      (if toPending then .pending else .failed)) := by
  constructor <;> intro _ _ hrow <;> obtain ⟨hselects, rfl⟩ := ite_some_eq_some.mp hrow
  · rfl
  · rfl
  · have hstuck := (Bool.and_eq_true_iff.mp hselects).1
    exact .inr (beq_iff_eq.mp hstuck)
  · intro _
    cases toPending
    · exact .inr rfl
    · exact .inl rfl

lemma Recorded.update {s : OutcomeSystem} (h : Recorded key s)
    {stmt : StudyReminderJob → Option StudyReminderJob} (hworker : Worker stmt)
    (scope : StudyReminderJob → Bool) : Recorded key (s.update key scope stmt) := by
  intro g hg
  have hafter : jobOf key (s.update key scope stmt).jobs =
      (jobOf key s.jobs).map fun job => if scope job then (stmt job).getD job else job :=
    jobOf_updateJobs hworker.key s.jobs
  rw [hafter]
  simp only [OutcomeSystem.update] at hg
  cases hhit : (jobOf key s.jobs).filter scope >>= stmt with
  | none =>
    -- the row is not written
    rw [hhit] at hg
    obtain ⟨job, hjob, hkept⟩ := h g hg
    refine ⟨job, ?_, hkept⟩
    rw [hjob] at hhit ⊢
    cases hscope : scope job with
    | false => simp [hscope]
    | true =>
      have hnone : stmt job = none := by simpa [Option.filter, hscope] using hhit
      simp [hscope, hnone]
  | some row =>
    simp only [hhit] at hg
    obtain ⟨job, hsel, hrow⟩ := Option.bind_eq_some_iff.mp hhit
    obtain ⟨hjob, hscope⟩ := Option.filter_eq_some_iff.mp hsel
    refine ⟨row, by simp [hjob, hscope, hrow], ?_⟩
    split at hg
    next hout =>
      exact .inl ⟨Option.some.inj hg, hworker.waits job row hrow hout, hout⟩
    · -- a row with an outcome is neither to be dispatched nor in flight
      obtain ⟨job', hjob', hkept⟩ := h g hg
      obtain rfl : job = job' := Option.some.inj (hjob.symm.trans hjob')
      rcases hworker.selects job row hrow with hdisp | hproc
      · rcases hkept with hholds | ⟨hcanc, -⟩
        · rw [hholds.not_dispatchable] at hdisp
          cases hdisp
        · simp [dispatchable, hcanc] at hdisp
      · rcases hkept with hholds | ⟨hcanc, -⟩
        · rcases hholds.waits with hwaits | hwaits <;> rw [hwaits] at hproc <;>
            cases hproc
        · rw [hcanc] at hproc
          cases hproc

lemma Recorded.synced {s : OutcomeSystem} (h : Recorded key s) {stmt : SyncStatement}
    (id : ℕ) (now : ℤ) (hspare : ∀ job, jobOf key s.jobs = some job → job.status = .cancelled →
      ∀ input ∈ stmt.inputsFor key, s.recorded ≠ some input.generation) :
    Recorded key (s.synced key stmt id now) := by
  unfold OutcomeSystem.synced
  cases hexec : stmt.exec id now s.jobs with
  | none => exact h
  | some jobs =>
    intro g hg
    dsimp only at hg ⊢
    split at hg
    next hall =>
      -- every input brings the recorded schedule
      have hinputs : ∀ input ∈ stmt.inputsFor key, input.generation = g := by
        intro input hinput
        have hsame := List.all_eq_true.mp hall input hinput
        rw [beq_iff_eq, hg] at hsame
        exact (Option.some.inj hsame).symm
      obtain ⟨job, hjob, hkept⟩ := h g hg
      have hsync : SyncedRow key stmt (jobOf key s.jobs) (jobOf key jobs) :=
        syncedRow_exec hexec
      rw [hjob] at hsync
      generalize hnext : jobOf key jobs = next at hsync ⊢
      cases hsync with
      | applied =>
        refine ⟨_, rfl, ?_⟩
        rcases hkept with hholds | ⟨hcanc, hgen⟩
        · exact .inl (hholds.applyAll hinputs)
        · -- a cancelled row has no input
          have hempty : stmt.inputsFor key = [] := by
            refine List.eq_nil_iff_forall_not_mem.mpr fun input hinput => ?_
            refine hspare job hjob hcanc input hinput ?_
            rw [hg, hinputs input hinput]
          rw [hempty, applyAll_nil]
          exact .inr ⟨hcanc, hgen⟩
      | cancelled =>
        refine ⟨_, rfl, .inr ⟨rfl, ?_⟩⟩
        rcases hkept with hholds | ⟨-, hgen⟩
        · exact hholds.generation
        · exact hgen
    · cases hg

lemma recorded_step {s t : OutcomeSystem} {e : OutcomeEvent} (h : Recorded key s)
    (hspare : s.sparesCancelled key e = true) (hstep : s.step key e = some t) : Recorded key t := by
  cases e with
  | claim _ tok now ms =>
    cases hstep
    exact h.update (worker_claimJob tok now ms) _
  | markFailed _ tok fail =>
    cases hstep
    exact h.update (worker_markFailed tok fail) _
  | resetStuck _ now olderThan toPending =>
    cases hstep
    exact h.update (worker_resetStuck now olderThan toPending) _
  | sync _ _ id now =>
    obtain ⟨stmt, hstmt, rfl⟩ := Option.map_eq_some_iff.mp hstep
    refine h.synced id now ?_
    intro _ hjob hcanc input hinput hrec
    have hany : (stmt.inputsFor key).any (fun input => s.recorded == some input.generation) =
        true :=
      List.any_eq_true.mpr ⟨input, hinput, beq_iff_eq.mpr hrec⟩
    simp [sparesCancelled, hstmt, hjob, hcanc, hany] at hspare

/-- A job whose terminal outcome was recorded is not dispatched again, unless a sync brings back a
cancelled one. -/
theorem terminal_outcome_stays (key : JobKey) (jobs : List StudyReminderJob)
    (events : List OutcomeEvent) {s : OutcomeSystem}
    (hspares : Along (step key) (fun s e => s.sparesCancelled key e = true) ⟨jobs, none⟩ events)
    (hrun : run (step key) ⟨jobs, none⟩ events = some s) {g : ScheduleGeneration}
    (hrecorded : s.recorded = some g) {job : StudyReminderJob}
    (hjob : jobOf key s.jobs = some job) :
    job.dispatchable = false := by
  have hstart : Recorded key ⟨jobs, none⟩ := by
    rintro g ⟨⟩
  have hkept : Recorded key s :=
    run_induction (fun _ _ _ h hspares hstep => recorded_step h hspares hstep) hstart hspares hrun
  obtain ⟨job', hjob', hcase⟩ := hkept g hrecorded
  obtain rfl : job = job' := Option.some.inj (hjob.symm.trans hjob')
  rcases hcase with hholds | ⟨hcanc, -⟩
  · exact hholds.not_dispatchable
  · simp [dispatchable, hcanc]

/-! ## A session that is missing for a while -/

namespace Sample

/-- The reminder of a session at noon, in flight under the token 1. -/
def inFlight : StudyReminderJob where
  id := 1
  platform := .discord
  externalUserId := "wumpus"
  userId := some 7
  mappingGeneration := some 1
  sessionKey := "calendar-5"
  scheduledAt := 43200000
  remindAt := 41400000
  topic := some "Reading"
  status := .processing
  retryCount := 0
  maxRetries := 3
  nextRetryAt := none
  lastError := none
  sentAt := none
  leaseToken := some 1
  leaseExpiresAt := some 42000000
  deliveryRecord := none
  deliveryKey := some "k"
  deliveryStatus := none
  processingStartedAt := some 41400000
  updatedAt := 41400000

/-- The failure `processJob` writes for an ambiguous delivery. -/
def ambiguousFailure : Failure where
  errorMessage := "ambiguous delivery — not auto-retried"
  retryCount := 1
  nextRetryAt := none
  terminal := true
  deliveryStatus := .ambiguous

/-- A sync on the canonical platform that finds these sessions. -/
def syncOf (sessions : List StudySessionRecord) : SyncCall where
  platform := .discord
  mapping := ⟨"wumpus", some 7, some 1⟩
  settings := ⟨3, 1800000⟩
  horizonEnd := 128000000
  staleCancelStatuses := none
  onUserSync := none
  canonical := .ok (some .discord)
  sessions := .ok sessions

def noonSession : StudySessionRecord := ⟨"calendar-5", 43200000, some "Reading"⟩

def missing : List OutcomeEvent :=
  [.markFailed 1 1 ambiguousFailure, .sync (syncOf [noonSession]) 0 2 41500000,
    .sync (syncOf [noonSession]) 1 2 41500000, .sync (syncOf []) 0 2 41600000]

end Sample

/-- The session is missing from the calendar and its row stays closed. -/
theorem terminal_outcome_stays_missing :
    ∃ s job,
      run (step Sample.inFlight.entityKey) ⟨[Sample.inFlight], none⟩ Sample.missing = some s ∧
      s.recorded = some Sample.inFlight.generation ∧
      jobOf Sample.inFlight.entityKey s.jobs = some job ∧ job.dispatchable = false := by
  simp only [exists_and_left]
  refine exists_end (A := fun s => s.recorded = some Sample.inFlight.generation ∧
    (jobOf Sample.inFlight.entityKey s.jobs).isSome = true) (by decide +kernel) ?_
  rintro _ hrun ⟨hrec, hsome⟩
  obtain ⟨job, hjob⟩ := Option.isSome_iff_exists.mp hsome
  exact ⟨hrec, job, hjob, terminal_outcome_stays Sample.inFlight.entityKey
    [Sample.inFlight] Sample.missing (by decide +kernel) hrun hrec hjob⟩

/-- When the session is back with its old schedule, its reminder is to be dispatched again. -/
theorem terminal_outcome_reopened :
    ∃ s job, run (step Sample.inFlight.entityKey) ⟨[Sample.inFlight], none⟩
        (Sample.missing ++ [.sync (Sample.syncOf [Sample.noonSession]) 0 2 41700000]) = some s ∧
      s.recorded = some Sample.inFlight.generation ∧
      jobOf Sample.inFlight.entityKey s.jobs = some job ∧
      job.generation = Sample.inFlight.generation ∧ job.dispatchable = true := by
  simp only [exists_and_left]
  decide +kernel

end OutcomeSystem

end WispaceBot
