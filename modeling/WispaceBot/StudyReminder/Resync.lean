import WispaceBot.StudyReminder.Sync

/-!
# Syncing twice

`upsertPendingJobs` for the same sessions again should change nothing, and should not reopen a row
that was sent in between.  Three rows are different.  A topic the calendar no longer has stays in
the row and counts as a change each time; a row in flight for another owner keeps its old schedule;
and the retries of a row that was not sent are compared with one limit the first time and with
another the second.  For all other rows the second call does nothing (`upserted_twice_iff`).
-/

namespace WispaceBot

open Table

namespace StudyReminderJob

/-- The columns of the delivery. -/
def columns (job : StudyReminderJob) :=
  (job.status, job.retryCount, job.nextRetryAt, job.leaseToken, job.leaseExpiresAt,
    job.deliveryRecord, job.deliveryKey, job.deliveryStatus)

/-- A worker that has the row, or claims it, marks it as sent. -/
def MarkedSent (job row : StudyReminderJob) : Prop :=
  ∃ leased token now record key, (leased = job ∨ ∃ claimedAt leaseMs,
    job.claimJob token claimedAt leaseMs = some leased) ∧
      leased.markSent token now record key = some row

section

variable (input : UpsertStudyReminderJobInput) (reopen : Bool) (job : StudyReminderJob)

/-- A call does nothing to the row, nor once the row is sent. -/
def Fixed : Prop :=
  (job.applyExisting input reopen).columns = job.columns ∧
    ∀ row, job.MarkedSent row → row.applyExisting input reopen = row

def TopicKept : Prop :=
  input.topic = none → job.topic = none

/-- The limit is reached after the call as it was before. -/
def LimitKept : Prop :=
  if job.maxRetries ≤ job.retryCount then input.maxRetries ≤ job.retryCount
  else (if reopen then job.retryCount else 0) < input.maxRetries

/-- The second call of an upsert finds the row as the first one left it, also when it was sent in
between. -/
def Steady : Prop :=
  isOlderGeneration job.mappingGeneration input.mappingGeneration = true ∨ match job.status with
    | .sent | .cancelled => job.TopicKept input
    | .processing => if job.ownerChanged input then
        job.scheduleChanged input = true → job.leaseToken = none else job.TopicKept input
    | .pending | .failed => job.TopicKept input ∧ (job.scheduleChanged input = false →
        job.deliveryStatus = some .notSent → job.LimitKept input reopen)

end

variable {input : UpsertStudyReminderJobInput} {reopen : Bool} {job row : StudyReminderJob}

def Sendable (job : StudyReminderJob) : Prop :=
  job.dispatchable = true ∨ job.status = .processing ∧ job.leaseToken ≠ none

lemma MarkedSent.cases (h : job.MarkedSent row) :
    job.Sendable ∧
      row.status = .sent ∧ row.generation = job.generation ∧
      row.mappingGeneration = job.mappingGeneration ∧ row.entityKey = job.entityKey := by
  obtain ⟨leased, token, now, record, key, hleased, hmark⟩ := h
  obtain ⟨hby, rfl⟩ := ite_some_eq_some.mp hmark
  rcases hleased with rfl | ⟨claimedAt, leaseMs, hclaim⟩
  · obtain ⟨htoken, hstat⟩ := status_of_leasedBy hby
    exact ⟨.inr ⟨hstat, by simp [htoken]⟩, rfl, rfl, rfl, rfl⟩
  · obtain ⟨hdisp, rfl⟩ := ite_some_eq_some.mp hclaim
    exact ⟨.inl hdisp, rfl, rfl, rfl, rfl⟩

/-- A row that can be claimed is marked in the end. -/
lemma Sendable.exists_markedSent (h : job.Sendable) : ∃ row, job.MarkedSent row := by
  rcases h with hdisp | ⟨hstat, hlease⟩
  · exact ⟨_, _, 0, 0, none, none, .inr ⟨0, 0, if_pos hdisp⟩, if_pos (by simp [leasedBy])⟩
  · obtain ⟨token, htoken⟩ := Option.ne_none_iff_exists'.mp hlease
    exact ⟨_, job, token, 0, none, none, .inl rfl, if_pos (by simp [leasedBy, hstat, htoken])⟩

lemma applyExisting_of_older (reopen : Bool)
    (h : isOlderGeneration job.mappingGeneration input.mappingGeneration = true) :
    job.applyExisting input reopen = job :=
  if_pos h

variable (hnew : isOlderGeneration job.mappingGeneration input.mappingGeneration = false)

lemma isOlderGeneration_scheduledBy (job : StudyReminderJob) (input : UpsertStudyReminderJobInput) :
    isOlderGeneration (job.scheduledBy input).mappingGeneration input.mappingGeneration =
      false := by
  cases h : input.mappingGeneration <;> cases h' : job.mappingGeneration <;>
    simp [isOlderGeneration, scheduledBy, h, h']

lemma scheduleChanged_scheduledBy :
    (job.scheduledBy input).scheduleChanged input = false ↔ job.TopicKept input := by
  cases h : input.topic <;> cases h' : job.topic <;>
    simp [scheduleChanged, scheduledBy, TopicKept, h, h']

lemma topicKept_of_unchanged (h : job.scheduleChanged input = false) : job.TopicKept input := by
  have htopic := congrArg ScheduleGeneration.topic (scheduleChanged_eq_false_iff.mp h)
  exact htopic.trans

include hnew

/-- A row that is sent is reopened if its schedule counts as changed. -/
lemma sentPart_iff : (∀ row, job.MarkedSent row → row.applyExisting input reopen = row) ↔
    (job.Sendable → job.scheduleChanged input = false) := by
  have hsent : ∀ row, job.MarkedSent row → (row.applyExisting input reopen = row ↔
      job.scheduleChanged input = false) := by
    intro row hrow
    obtain ⟨-, hstat, hgen, hmap, -⟩ := hrow.cases
    have hsame : row.scheduleChanged input = job.scheduleChanged input := by
      rw [Bool.eq_iff_iff, ← Bool.not_eq_false, ← Bool.not_eq_false, scheduleChanged_eq_false_iff,
        scheduleChanged_eq_false_iff, hgen]
    unfold applyExisting
    rw [hmap, hnew, hstat, hsame]
    cases job.scheduleChanged input with
    | false => simp
    | true =>
      have hne : row.reopenToPending input ≠ row := fun h => by
        have hpend := congrArg status h
        rw [hstat] at hpend
        cases hpend
      simpa using hne
  constructor
  · intro h hsend
    obtain ⟨row, hrow⟩ := hsend.exists_markedSent
    exact (hsent row hrow).mp (h row hrow)
  · exact fun h row hrow => (hsent row hrow).mpr (h hrow.cases.1)

omit hnew in
lemma fixed_reopenToPending : (job.reopenToPending input).Fixed input reopen ↔
    job.TopicKept input := by
  let row := job.reopenToPending input
  have hgen : isOlderGeneration row.mappingGeneration input.mappingGeneration = false :=
    isOlderGeneration_scheduledBy job input
  have hchanged : row.scheduleChanged input = (job.scheduledBy input).scheduleChanged input := rfl
  have hsend : row.Sendable := .inl rfl
  have hcols : (row.applyExisting input reopen).columns = row.columns := by
    unfold applyExisting
    rw [hgen]
    cases row.scheduleChanged input <;> cases reopen <;> rfl
  rw [Fixed, sentPart_iff hgen, hchanged, ← scheduleChanged_scheduledBy]
  exact ⟨fun h => h.2 hsend, fun h => ⟨hcols, fun _ => h⟩⟩

section Waiting

variable (hsched : job.scheduleChanged input = false)
  (hstat : job.status = .pending ∨ job.status = .failed)
include hsched hstat

lemma applyExisting_waiting : job.applyExisting input reopen =
    if job.isTerminalStoredFailure then job.keptTerminal input
    else job.updatedInPlace input reopen := by
  unfold applyExisting
  rcases hstat with h | h <;> simp [hnew, h, hsched]

lemma fixed_waiting : job.Fixed input reopen ↔ if job.isTerminalStoredFailure then
      job.deliveryStatus = some .notSent → job.status = .failed
    else
      job.status = .pending ∧ (reopen = false → job.retryCount = 0 ∧ job.nextRetryAt = none) := by
  rw [Fixed, sentPart_iff hnew, and_iff_left fun _ => hsched,
    applyExisting_waiting hnew hsched hstat]
  cases job.isTerminalStoredFailure with
  | true =>
    by_cases hdel : job.deliveryStatus = some .notSent
    · simp [keptTerminal, columns, hdel, eq_comm]
    · simp [keptTerminal, columns, hdel]
  | false => cases reopen <;> rcases hstat with h | h <;>
      simp [updatedInPlace, scheduledBy, columns, h, eq_comm]

lemma fixed_keptTerminal (hterm : job.isTerminalStoredFailure = true) :
    (job.keptTerminal input).Fixed input reopen ↔
      (job.deliveryStatus = some .notSent → input.maxRetries ≤ job.retryCount) := by
  rw [@fixed_waiting _ _ (job.keptTerminal input) hnew hsched
    (kept_keptTerminal hstat hterm).status]
  cases hdel : job.deliveryStatus with
  | none => simp [isTerminalStoredFailure, hdel] at hterm
  | some outcome =>
    cases outcome with
    | notSent => simp [isTerminalStoredFailure, keptTerminal, hdel]
    | _ => simp [isTerminalStoredFailure, keptTerminal, hdel]

omit hnew in
lemma fixed_updatedInPlace (hterm : job.isTerminalStoredFailure = false) :
    (job.updatedInPlace input reopen).Fixed input reopen ↔
      (job.deliveryStatus = some .notSent →
        (if reopen then job.retryCount else 0) < input.maxRetries) := by
  obtain ⟨row, hrow⟩ : ∃ row, row = job.updatedInPlace input reopen := ⟨_, rfl⟩
  have hpend : row.status = .pending := by
    cases reopen <;> rcases hstat with h | h <;> simp [hrow, updatedInPlace, scheduledBy, h]
  have hcols : row.deliveryStatus = job.deliveryStatus ∧ row.maxRetries = input.maxRetries ∧
      row.retryCount = (if reopen then job.retryCount else 0) ∧
      (reopen = false → row.retryCount = 0 ∧ row.nextRetryAt = none) ∧
      row.generation = (job.scheduledBy input).generation ∧
      row.mappingGeneration = (job.scheduledBy input).mappingGeneration := by
    cases reopen <;> rcases hstat with h | h <;>
      simp [hrow, updatedInPlace, scheduledBy, h, StudyReminderJob.generation]
  obtain ⟨hdel, hmax, hcount, hreset, hgen, hmap⟩ := hcols
  have hsame : row.scheduleChanged input = false := by
    rw [scheduleChanged_eq_false_iff, hgen, ← scheduleChanged_eq_false_iff]
    exact scheduleChanged_scheduledBy.mpr (topicKept_of_unchanged hsched)
  have hnew : isOlderGeneration row.mappingGeneration input.mappingGeneration = false :=
    hmap ▸ isOlderGeneration_scheduledBy job input
  rw [← hrow, fixed_waiting hnew hsame (.inl hpend), ← hcount, ← hdel]
  cases houtcome : row.deliveryStatus with
  | none => simpa [isTerminalStoredFailure, houtcome, hpend] using hreset
  | some outcome =>
    cases outcome with
    | notSent =>
      by_cases hle : row.maxRetries ≤ row.retryCount
      · simp [isTerminalStoredFailure, houtcome, hpend, hle, ← hmax]
      · simpa [isTerminalStoredFailure, houtcome, hpend, hle, ← hmax, not_le.mp hle] using hreset
    | _ => simp [isTerminalStoredFailure, ← hdel, houtcome] at hterm

end Waiting

lemma fixed_of_waiting (hstat : job.status = .pending ∨ job.status = .failed) :
    (job.applyExisting input reopen).Fixed input reopen ↔ job.TopicKept input ∧
      (job.scheduleChanged input = false → job.deliveryStatus = some .notSent →
        job.LimitKept input reopen) := by
  cases hsched : job.scheduleChanged input with
  | true =>
    have heq : job.applyExisting input reopen = job.reopenToPending input := by
      unfold applyExisting
      rcases hstat with h | h <;> simp [hnew, h, hsched]
    simp [heq, fixed_reopenToPending]
  | false =>
    rw [applyExisting_waiting hnew hsched hstat, LimitKept,
      and_iff_right (topicKept_of_unchanged hsched), imp_iff_right (rfl : false = false)]
    cases hterm : job.isTerminalStoredFailure with
    | true =>
      rw [if_pos rfl, fixed_keptTerminal hnew hsched hstat hterm]
      refine forall_congr' fun hdel => ?_
      rw [if_pos (by simpa [isTerminalStoredFailure, hdel] using hterm)]
    | false =>
      rw [if_neg (by simp), fixed_updatedInPlace hsched hstat hterm]
      refine forall_congr' fun hdel => ?_
      have hleft : job.retryCount < job.maxRetries := by
        simpa [isTerminalStoredFailure, hdel] using hterm
      rw [if_neg (not_le.mpr hleft)]

omit hnew in
/-- The rows for which a second call does nothing. -/
lemma fixed_iff_steady : (job.applyExisting input reopen).Fixed input reopen ↔
    job.Steady input reopen := by
  unfold Steady
  cases hold : isOlderGeneration job.mappingGeneration input.mappingGeneration with
  | true =>
    rw [applyExisting_of_older reopen hold]
    refine iff_of_true ⟨by rw [applyExisting_of_older reopen hold], fun row hrow => ?_⟩ (.inl rfl)
    exact applyExisting_of_older reopen (hrow.cases.2.2.2.1 ▸ hold)
  | false =>
    have hsame (heq : job.applyExisting input reopen = job) :
        (job.applyExisting input reopen).Fixed input reopen ↔
          (job.Sendable → job.scheduleChanged input = false) := by
      rw [heq, Fixed, heq, sentPart_iff hold, and_iff_right rfl]
    have hreopened (heq : job.applyExisting input reopen = job.reopenToPending input) :
        (job.applyExisting input reopen).Fixed input reopen ↔ job.TopicKept input := by
      rw [heq, fixed_reopenToPending]
    simp only [Bool.false_eq_true, false_or]
    cases hstat : job.status with
    | pending => exact fixed_of_waiting hold (.inl hstat)
    | failed => exact fixed_of_waiting hold (.inr hstat)
    | cancelled => exact hreopened (by simp [applyExisting, hold, hstat])
    | sent =>
      cases hsched : job.scheduleChanged input with
      | true => exact hreopened (by simp [applyExisting, hold, hstat, hsched])
      | false =>
        rw [hsame (by simp [applyExisting, hold, hstat, hsched])]
        exact iff_of_true (fun _ => hsched) (topicKept_of_unchanged hsched)
    | processing =>
      cases howner : job.ownerChanged input with
      | true =>
        rw [hsame (by simp [applyExisting, hold, hstat, howner])]
        cases job.scheduleChanged input <;> simp [Sendable, dispatchable, hstat]
      | false =>
        cases hsched : job.scheduleChanged input with
        | true => simpa using hreopened (by simp [applyExisting, hold, hstat, howner, hsched])
        | false =>
          have hkept := topicKept_of_unchanged hsched
          cases reopen with
          | true =>
            rw [hsame (by simp [applyExisting, hold, hstat, howner, hsched])]
            exact iff_of_true (fun _ => hsched) hkept
          | false => simpa using hreopened (by simp [applyExisting, hold, hstat, howner])

omit hnew in
lemma fixed_ofInput (id : ℕ) (now : ℤ) : (ofInput id now input).Fixed input reopen := by
  have hgen : isOlderGeneration input.mappingGeneration input.mappingGeneration = false := by
    cases h : input.mappingGeneration <;> simp [isOlderGeneration]
  have hsame : (ofInput id now input).scheduleChanged input = false :=
    scheduleChanged_eq_false_iff.mpr rfl
  exact (@fixed_waiting _ _ (ofInput id now input) hgen hsame (.inl rfl)).mpr
    ⟨rfl, fun _ => ⟨rfl, rfl⟩⟩

end StudyReminderJob

/-! ## The table -/

section Table

open StudyReminderJob

variable {inputs : List UpsertStudyReminderJobInput} {input : UpsertStudyReminderJobInput}
  {jobs jobs' known : List StudyReminderJob} {key : JobKey} {now : ℤ} {id : ℕ} {reopen : Bool}

lemma jobOf_upsertJobs_of_ne (hne : ∀ input ∈ inputs, input.inputKey ≠ key)
    (h : upsertJobs known now reopen id inputs jobs = some jobs') :
    jobOf key jobs' = jobOf key jobs := by
  induction inputs generalizing id jobs with
  | nil =>
    cases h
    rfl
  | cons input inputs ih =>
    obtain ⟨mid, hmid, hrest⟩ := Option.bind_eq_some_iff.mp h
    rw [ih (fun i hi => hne i (List.mem_cons_of_mem _ hi)) hrest]
    exact jobOf_upsertJob_of_ne (hne input List.mem_cons_self) hmid

/-- Inputs with different keys do not get in each other's way: each updates or makes its row. -/
lemma upsertJobs_distinct (hdistinct : (inputs.map (·.inputKey)).Nodup)
    (hknown : ∀ input ∈ inputs, (jobOf input.inputKey known).isSome =
      (jobOf input.inputKey jobs).isSome) :
    ∃ jobs', upsertJobs known now reopen id inputs jobs = some jobs' ∧
      ∀ input ∈ inputs, ∃ id', jobOf input.inputKey jobs' = some
        (((jobOf input.inputKey jobs).map (applyExisting input reopen)).getD
          (ofInput id' now input)) := by
  induction inputs generalizing id jobs with
  | nil => exact ⟨jobs, rfl, by simp⟩
  | cons input inputs ih =>
    obtain ⟨hfree, hdistinct⟩ := List.nodup_cons.mp hdistinct
    obtain ⟨hisSome, hknown⟩ := List.forall_mem_cons.mp hknown
    have hother : ∀ i ∈ inputs, input.inputKey ≠ i.inputKey := fun i hi heq =>
      hfree (List.mem_map.mpr ⟨i, hi, heq.symm⟩)
    obtain ⟨mid, hmid, hrow⟩ : ∃ mid, upsertJob known id now reopen input jobs = some mid ∧
        jobOf input.inputKey mid = some (((jobOf input.inputKey jobs).map
          (applyExisting input reopen)).getD (ofInput id now input)) := by
      cases hrow : jobOf input.inputKey jobs with
      | none =>
        rw [hrow] at hisSome
        exact ⟨_, by rw [upsertJob, if_neg (by simp [hisSome]), if_neg (by simp [hrow])],
          jobOf_created hrow⟩
      | some job =>
        have hstored : (jobOf input.inputKey known).isSome = true := by
          rw [hisSome, hrow, Option.isSome_some]
        have hmid : upsertJob known id now reopen input jobs = some _ := if_pos hstored
        refine ⟨_, hmid, ?_⟩
        rw [jobOf_upsertJob_known hstored hmid, hrow]
        simp [inputsFor, applyAll]
    have hkept : ∀ i ∈ inputs, jobOf i.inputKey mid = jobOf i.inputKey jobs := fun i hi =>
      jobOf_upsertJob_of_ne (hother i hi) hmid
    obtain ⟨jobs', hrest, hrows⟩ := @ih mid (id + 1) hdistinct fun i hi => by
      rw [hkept i hi]
      exact hknown i hi
    refine ⟨jobs', by simp [upsertJobs, hmid, hrest], List.forall_mem_cons.mpr ⟨⟨id, ?_⟩, ?_⟩⟩
    · rw [jobOf_upsertJobs_of_ne (fun i hi => (hother i hi).symm) hrest, hrow]
    · intro i hi
      rw [← hkept i hi]
      exact hrows i hi

variable (hdistinct : (inputs.map (·.inputKey)).Nodup)
include hdistinct

lemma exists_upserted (id : ℕ) (now : ℤ) (reopen : Bool) (jobs : List StudyReminderJob) :
    ∃ jobs', upsertPendingJobs id now reopen inputs jobs = some jobs' ∧
      ∀ input ∈ inputs, ∃ id', jobOf input.inputKey jobs' = some
        (((jobOf input.inputKey jobs).map (applyExisting input reopen)).getD
          (ofInput id' now input)) :=
  upsertJobs_distinct hdistinct fun _ _ => rfl

/-- What a call makes of a row that is there. -/
lemma jobOf_upserted {row : StudyReminderJob} (hrow : jobOf key jobs = some row)
    (h : upsertPendingJobs id now reopen inputs jobs = some jobs') :
    jobOf key jobs' = some row ∨ ∃ input ∈ inputs, input.inputKey = key ∧
      jobOf key jobs' = some (row.applyExisting input reopen) := by
  by_cases hkey : ∃ input ∈ inputs, input.inputKey = key
  · obtain ⟨input, hinput, rfl⟩ := hkey
    obtain ⟨_, hupsert, hrows⟩ := exists_upserted hdistinct id now reopen jobs
    obtain ⟨⟩ := hupsert.symm.trans h
    obtain ⟨_, hlast⟩ := hrows input hinput
    rw [hrow] at hlast
    exact .inr ⟨input, hinput, rfl, hlast⟩
  · rw [← hrow]
    exact .inl (jobOf_upsertJobs_of_ne (by simpa using hkey) h)

omit hdistinct in
/-- The second call changes no column of a delivery and reopens no row that was sent after the first
one, if and only if every row it finds is steady.  With the unique index a key has one row. -/
theorem upserted_twice_iff (jobs : List StudyReminderJob)
    (inputs : List UpsertStudyReminderJobInput) (now : ℤ) (reopen : Bool) (id id' : ℕ)
    (hdistinct : (inputs.map (·.inputKey)).Nodup) :
    ∃ once twice, upsertPendingJobs id now reopen inputs jobs = some once ∧
      upsertPendingJobs id' now reopen inputs once = some twice ∧
      ((∀ key, (jobOf key twice).map columns = (jobOf key once).map columns) ∧
        (∀ key job row, jobOf key once = some job → job.MarkedSent row →
          ∀ sent later, jobOf key sent = some row →
            upsertPendingJobs id' now reopen inputs sent = some later →
            jobOf key later = some row) ↔
      ∀ input ∈ inputs, ∀ job, jobOf input.inputKey jobs = some job → job.Steady input reopen) := by
  obtain ⟨once, honce, hrows⟩ := exists_upserted hdistinct id now reopen jobs
  obtain ⟨twice, htwice, hagain⟩ := exists_upserted hdistinct id' now reopen once
  refine ⟨once, twice, honce, htwice, ⟨?_, ?_⟩⟩
  · rintro ⟨hcols, hsent⟩ input hinput job hjob
    obtain ⟨_, hrow⟩ := hrows input hinput
    obtain ⟨_, hrow'⟩ := hagain input hinput
    rw [hjob] at hrow
    rw [hrow] at hrow'
    refine fixed_iff_steady.mp ⟨?_, fun row hmark => ?_⟩
    · have hcol := hcols input.inputKey
      rw [hrow, hrow'] at hcol
      exact Option.some.inj hcol
    · -- the row as a table of its own
      have hkey : row.entityKey = input.inputKey := hmark.cases.2.2.2.2.trans (key_of_lookup hrow)
      have hsingle : jobOf input.inputKey [row] = some row := by simp [jobOf, lookup, hkey]
      obtain ⟨later, hlater, hlast⟩ := exists_upserted hdistinct id' now reopen [row]
      obtain ⟨_, hlast⟩ := hlast input hinput
      rw [hsingle, hsent _ _ _ hrow hmark _ _ hsingle hlater] at hlast
      exact (Option.some.inj hlast).symm
  · intro hsteady
    have hfixed : ∀ input ∈ inputs, ∀ job, jobOf input.inputKey once = some job →
        job.Fixed input reopen := by
      intro input hinput job hjob
      obtain ⟨_, hrow⟩ := hrows input hinput
      obtain ⟨⟩ := hrow.symm.trans hjob
      cases hstored : jobOf input.inputKey jobs with
      | none => exact fixed_ofInput _ _
      | some stored => exact fixed_iff_steady.mpr (hsteady input hinput stored hstored)
    refine ⟨fun key => ?_, fun key job row hjob hmark sent later hsent hlater => ?_⟩
    · cases hjob : jobOf key once with
      | none =>
        have hne : ∀ input ∈ inputs, input.inputKey ≠ key := by
          rintro input hinput rfl
          obtain ⟨_, hrow⟩ := hrows input hinput
          simp [hjob] at hrow
        rw [jobOf_upsertJobs_of_ne hne htwice, hjob]
      | some job =>
        rcases jobOf_upserted hdistinct hjob htwice with h | ⟨input, hinput, rfl, h⟩
        · rw [h]
        · rw [h]
          exact congrArg some (hfixed input hinput job hjob).1
    · rcases jobOf_upserted hdistinct hsent hlater with h | ⟨input, hinput, rfl, h⟩
      · exact h
      · rw [h, (hfixed input hinput job hjob).2 row hmark]

end Table

/-! ## A session that lost its topic -/

def untitled : UpsertStudyReminderJobInput :=
  ⟨.messenger, "psid-1", some 7, some 1, "s", 3600000, 0, none, 3⟩

/-- The row of the session when it had a topic. -/
def titled : StudyReminderJob :=
  .ofInput 1 0 { untitled with topic := some "Speaking" }

/-- Another session, which has kept its topic. -/
def essay : UpsertStudyReminderJobInput :=
  { untitled with sessionKey := "t", topic := some "Writing" }

open StudyReminderJob in
/-- Of the two rows only that of the first session is not steady. -/
theorem upserted_twice_iff_untitled :
    ¬ titled.Steady untitled true ∧ (ofInput 2 0 essay).Steady essay true ∧
    ∃ once twice, upsertPendingJobs 3 0 true [untitled, essay] [titled, ofInput 2 0 essay] =
        some once ∧
      upsertPendingJobs 3 0 true [untitled, essay] once = some twice ∧
      ((∀ key, (jobOf key twice).map columns = (jobOf key once).map columns) ∧
        (∀ key job row, jobOf key once = some job → job.MarkedSent row →
          ∀ sent later, jobOf key sent = some row →
            upsertPendingJobs 3 0 true [untitled, essay] sent = some later →
            jobOf key later = some row) ↔
      ∀ input ∈ [untitled, essay], ∀ job,
        jobOf input.inputKey [titled, ofInput 2 0 essay] = some job → job.Steady input true) := by
  refine ⟨?_, ?_, upserted_twice_iff _ _ _ _ _ _ (by decide)⟩
  · rintro (hold | ⟨htopic, -⟩)
    · exact absurd hold (by decide)
    · exact absurd (htopic rfl) (by decide)
  · exact .inr ⟨fun hnone => absurd hnone (by decide), fun _ hstat => absurd hstat (by decide)⟩

/-- The row is sent after the first call, and pending again after the second. -/
theorem sent_row_reopened :
    ∃ once job row later, upsertPendingJobs 2 0 true [untitled] [titled] = some once ∧
      jobOf untitled.inputKey once = some job ∧ job.MarkedSent row ∧ row.status = .sent ∧
      upsertPendingJobs 2 0 true [untitled] [row] = some later ∧
      (jobOf untitled.inputKey later).map (·.status) = some .pending :=
  ⟨_, _, _, _, rfl, rfl, ⟨_, 0, 0, none, none, .inr ⟨0, 0, rfl⟩, rfl⟩, rfl, rfl, rfl⟩

end WispaceBot
