import WispaceBot.StudyReminder.Dispatch
import WispaceBot.StudyReminder.Sync

/-!
# The evening rollover

Due reminders are dispatched every few minutes, jobs are synced every half hour, and in the evening
the jobs that are sent are deleted and synced again.  When that happens too early, the job is
created again and the learner reminded a second time (`reminded_twice`).  If a rollover finds the
job sent only when no reminder may be sent any more, there is at most one (`reminded_at_most_once`).
-/

namespace WispaceBot

open List Option Transition Table
open StudyReminderJob hiding id

/-! ## The worker of a platform -/

structure WorkerSettings where
  platform : Platform
  sync : SyncSettings
  (minLeadMs horizonMs stuckProcessingMs leaseMs : ℤ)

structure MappingSync where
  mapping : UserLink
  canonical : Except String (Option Platform)
  sessions : Except String (List StudySessionRecord)

/-- How `processJob` ends for a due job. -/
inductive Verdict
  | skip
  | cancel (reason : String)
  | retry (error : ClassifiedError)
  | send (deliveryKey : String)

/-- `processJob` for a due job, from the claim to the last statement. -/
def processJob (now leaseMs : ℤ) (verdict : StudyReminderJob → Verdict) (job : StudyReminderJob) :
    Option StudyReminderJob :=
  match verdict job with
  | .skip => none
  | .cancel reason => (job.claimJob job.id now leaseMs).bind (markCancelled job.id reason)
  | .retry error => (job.claimJob job.id now leaseMs).bind fun claimed =>
      claimed.markFailed job.id (notSentFailure claimed error)
  | .send deliveryKey => (job.claimJob job.id now leaseMs).bind fun claimed =>
      (claimed.ownDelivery job.id deliveryKey).bind
        (markSent job.id now (some "sent") (some deliveryKey))

/-- `deleteSentJobs`, without an age. -/
def deleteSentJobs (platform : Platform) (jobs : List StudyReminderJob) : List StudyReminderJob :=
  deleteWhere (fun job => job.status == .sent && decide (job.platform = platform)) jobs

def freshId (jobs : List StudyReminderJob) : ℕ :=
  jobs.foldr (fun job next => max (job.id + 1) next) 1

namespace WorkerSettings

variable (c : WorkerSettings)

/-- The call of `syncOneMapping` for a mapping. -/
def syncCall (now : ℤ) (m : MappingSync) : SyncCall where
  platform := c.platform
  mapping := m.mapping
  settings := c.sync
  horizonEnd := now + c.horizonMs
  staleCancelStatuses := none
  onUserSync := none
  canonical := m.canonical
  sessions := m.sessions

/-- `syncUpcomingSessions` over all mappings. -/
def syncUpcomingSessions (now : ℤ) (mappings : List MappingSync) (jobs : List StudyReminderJob) :
    List StudyReminderJob :=
  mappings.foldl (fun jobs m => syncOneMapping (freshId jobs) now (c.syncCall now m) jobs) jobs

/-- The due jobs of the platform, as `findDueJobs` selects them. -/
def findDueJobs (now : ℤ) (job : StudyReminderJob) : Bool :=
  decide (job.platform = c.platform) && job.isDue now c.minLeadMs

def recovered (now : ℤ) (jobs : List StudyReminderJob) : List StudyReminderJob :=
  updateJobs (fun job => decide (job.platform = c.platform))
    (resetStuck now (now - c.stuckProcessingMs) .failed) jobs

def sends (now : ℤ) (verdict : StudyReminderJob → Verdict) (job : StudyReminderJob) : Bool :=
  c.findDueJobs now job && match verdict job with
    | .send _ => true
    | _ => false

end WorkerSettings

/-! ## The system -/

/-- The clock, the jobs, and the reminders that learners have got. -/
structure RolloverSystem where
  now : ℤ
  jobs : List StudyReminderJob
  delivered : List JobKey

/-- The ticks of the worker. -/
inductive RolloverEvent
  | dispatch (now : ℤ) (verdict : StudyReminderJob → Verdict)
  | sync (now : ℤ) (mappings : List MappingSync)
  | rollover (now : ℤ) (mappings : List MappingSync)

namespace RolloverEvent

def time : RolloverEvent → ℤ
  | .dispatch now _ | .sync now _ | .rollover now _ => now

def mappings : RolloverEvent → List MappingSync
  | .dispatch _ _ => []
  | .sync _ mappings | .rollover _ mappings => mappings

end RolloverEvent

namespace RolloverSystem

def dispatchDueReminders (c : WorkerSettings) (now : ℤ) (verdict : StudyReminderJob → Verdict)
    (s : RolloverSystem) : RolloverSystem :=
  let jobs := c.recovered now s.jobs
  { now := now
    jobs := updateJobs (c.findDueJobs now) (processJob now c.leaseMs verdict) jobs
    delivered := s.delivered ++ (jobs.filter (c.sends now verdict)).map entityKey }

def step (c : WorkerSettings) (s : RolloverSystem) (e : RolloverEvent) : Option RolloverSystem :=
  if s.now ≤ e.time then
    match e with
    | .dispatch now verdict => some (s.dispatchDueReminders c now verdict)
    | .sync now mappings =>
      some { s with now := now, jobs := c.syncUpcomingSessions now mappings s.jobs }
    | .rollover now mappings =>
      let kept := deleteSentJobs c.platform s.jobs
      some { s with now := now, jobs := c.syncUpcomingSessions now mappings kept }
  else none

end RolloverSystem

/-! ## A session that does not change -/

/-- A session of a user, which the results are about. -/
structure WatchedSession where
  externalUserId : String
  session : StudySessionRecord

namespace WatchedSession

variable (c : WorkerSettings) (w : WatchedSession)

def key : JobKey :=
  (c.platform, w.externalUserId, w.session.sessionKey)

def generation : ScheduleGeneration :=
  ⟨w.session.scheduledAt, w.session.scheduledAt - c.sync.remindBeforeMs, w.session.topic⟩

/-- A sync of the user that lists the session lists it as it is. -/
def KeptBy (m : MappingSync) : Prop :=
  m.mapping.externalUserId = w.externalUserId → ∀ sessions, m.sessions = .ok sessions →
    ∀ x ∈ sessions, x.sessionKey = w.session.sessionKey → x = w.session

def closed (now : ℤ) : Prop :=
  w.session.scheduledAt ≤ now + c.minLeadMs
  deriving Decidable

/-- A rollover finds the job of the session sent only when the session is closed. -/
def purgesClosed (s : RolloverSystem) : RolloverEvent → Bool
  | .rollover now _ =>
    match jobOf (w.key c) s.jobs with
    | some job => job.status != .sent || decide (w.closed c now)
    | none => true
  | _ => true

end WatchedSession

/-! ## The job of the session -/

/-- The job of the session has the session's schedule. -/
structure Tidy (key : JobKey) (g : ScheduleGeneration) (jobs : List StudyReminderJob) : Prop where
  unique : UniqueOn entityKey jobs
  own : ∀ job, jobOf key jobs = some job → job.generation = g

def IsSent (key : JobKey) (jobs : List StudyReminderJob) : Prop :=
  ∃ job, jobOf key jobs = some job ∧ job.status = .sent

section Sync

variable {key : JobKey} {g : ScheduleGeneration} {jobs jobs' : List StudyReminderJob}

lemma applyAll_keeps {inputs : List UpsertStudyReminderJobInput} {job : StudyReminderJob}
    (hinputs : ∀ input ∈ inputs, input.generation = g) (hown : job.generation = g) :
    (applyAll true inputs job).generation = g ∧
      (job.status = .sent → (applyAll true inputs job).status = .sent) := by
  induction inputs generalizing job with
  | nil => exact ⟨hown, fun hsent => hsent⟩
  | cons input _ ih =>
    have hsame : job.generation = input.generation :=
      hown.trans (hinputs input mem_cons_self).symm
    obtain ⟨hgen, hstat⟩ := ih
      (fun input' hinput' => hinputs input' (mem_cons_of_mem _ hinput'))
      ((generation_applyExisting hsame).trans hown)
    refine ⟨hgen, fun hsent => hstat ?_⟩
    rcases applyExisting_kept (scheduleChanged_eq_false_iff.mpr hsame) with heq | ⟨h, -⟩ | ⟨h, -⟩
    · rw [heq]
      exact hsent
    · rw [hsent] at h
      cases h
    · rcases h with h | h <;> rw [hsent] at h <;> cases h

/-- A statement of a sync that brings the session's own schedule and cancels no sent row. -/
structure Spares (key : JobKey) (g : ScheduleGeneration) (statement : SyncStatement) : Prop where
  generation : ∀ input ∈ statement.inputsFor key, input.generation = g
  sent : JobStatus.sent ∉ statement.cancels

variable {stmt : SyncStatement} {now : ℤ}

lemma Tidy.exec {id : ℕ} (h : Tidy key g jobs) (hspare : Spares key g stmt)
    (hexec : stmt.exec id now jobs = some jobs') :
    Tidy key g jobs' ∧ (IsSent key jobs → IsSent key jobs') := by
  have hsync : SyncedRow key stmt (jobOf key jobs) (jobOf key jobs') := syncedRow_exec hexec
  have huniq := uniqueOn_exec h.unique hexec
  have hown := h.own
  suffices hrow : (∀ job, jobOf key jobs' = some job → job.generation = g) ∧
      (IsSent key jobs → IsSent key jobs') from ⟨⟨huniq, hrow.1⟩, hrow.2⟩
  unfold IsSent
  generalize jobOf key jobs = row at hsync hown ⊢
  generalize jobOf key jobs' = row' at hsync ⊢
  cases hsync with
  | applied =>
    cases row with
    | none => simp
    | some job =>
      obtain ⟨hgen, hstat⟩ := applyAll_keeps hspare.generation (hown job rfl)
      refine ⟨?_, ?_⟩
      · rintro _ ⟨⟩
        exact hgen
      · rintro ⟨_, ⟨⟩, hsent⟩
        exact ⟨_, rfl, hstat hsent⟩
  | @cancelled job hstat =>
    refine ⟨?_, ?_⟩
    · rintro _ ⟨⟩
      exact hown job rfl
    · rintro ⟨_, ⟨⟩, hsent⟩
      rw [hsent] at hstat
      exact absurd hstat hspare.sent
  | created _ _ hinput =>
    refine ⟨?_, ?_⟩
    · rintro _ ⟨⟩
      exact hspare.generation _ hinput
    · rintro ⟨_, ⟨⟩, -⟩

lemma Tidy.runStatements {stmts : List SyncStatement} (id : ℕ) (now : ℤ)
    (hspare : ∀ stmt ∈ stmts, Spares key g stmt) (h : Tidy key g jobs) :
    Tidy key g (runStatements id now stmts jobs) ∧
      (IsSent key jobs → IsSent key (runStatements id now stmts jobs)) := by
  induction stmts generalizing jobs with
  | nil => exact ⟨h, fun hsent => hsent⟩
  | cons stmt _ ih =>
    unfold WispaceBot.runStatements
    cases hexec : stmt.exec id now jobs with
    | none => exact ⟨h, fun hsent => hsent⟩
    | some =>
      obtain ⟨hmid, hsentMid⟩ := h.exec (hspare stmt mem_cons_self) hexec
      obtain ⟨hend, hsentEnd⟩ := ih
        (fun statement' hstmt' => hspare statement' (mem_cons_of_mem _ hstmt')) hmid
      exact ⟨hend, fun hsent => hsentEnd (hsentMid hsent)⟩

variable {c : WorkerSettings} {w : WatchedSession}

lemma spares_syncCall {m : MappingSync} (hkept : w.KeptBy m)
    (h : stmt ∈ (c.syncCall now m).statements) : Spares (w.key c) (w.generation c) stmt := by
  rcases SyncCall.mem_statements h with ⟨_, _, hhook, -⟩ | ⟨_, sessions, hlist, rfl⟩ |
    ⟨keys, statuses, rfl, hstatuses⟩
  · cases hhook
  · refine ⟨?_, by simp [SyncStatement.cancels]⟩
    intro input hinput
    obtain ⟨hbatch, hkey⟩ := mem_filter.mp hinput
    obtain ⟨x, hx, rfl⟩ := mem_map.mp hbatch
    -- an input for the key of the session is made from the session
    obtain ⟨-, hlearn, hsession⟩ : c.platform = c.platform ∧
        m.mapping.externalUserId = w.externalUserId ∧ x.sessionKey = w.session.sessionKey := by
      simpa [UpsertStudyReminderJobInput.inputKey, SyncCall.inputFor, WorkerSettings.syncCall,
        WatchedSession.key] using hkey
    have hsame := hkept hlearn sessions hlist x (mem_filter.mp hx).1 hsession
    rw [hsame]
    rfl
  · refine ⟨by rintro _ ⟨⟩, ?_⟩
    rcases hstatuses with rfl | hstatuses
    · simp [SyncStatement.cancels, defaultStaleCancelStatuses]
    · cases hstatuses

lemma Tidy.syncUpcomingSessions {mappings : List MappingSync} (hkept : ∀ m ∈ mappings, w.KeptBy m)
    (h : Tidy (w.key c) (w.generation c) jobs) :
    Tidy (w.key c) (w.generation c) (c.syncUpcomingSessions now mappings jobs) ∧
      (IsSent (w.key c) jobs → IsSent (w.key c) (c.syncUpcomingSessions now mappings jobs)) := by
  induction mappings generalizing jobs with
  | nil => exact ⟨h, fun hsent => hsent⟩
  | cons m _ ih =>
    obtain ⟨hfirst, hsentFirst⟩ := h.runStatements (freshId jobs) now
      fun stmt hstmt => spares_syncCall (hkept m mem_cons_self) hstmt
    obtain ⟨hrest, hsentRest⟩ := ih (fun m' hm' => hkept m' (mem_cons_of_mem _ hm')) hfirst
    exact ⟨hrest, fun hsent => hsentRest (hsentFirst hsent)⟩

lemma Tidy.deleteSentJobs {p : Platform} (h : Tidy key g jobs) :
    Tidy key g (deleteSentJobs p jobs) where
  unique := h.unique.deleteWhere
  own := by
    intro job hjob
    rw [WispaceBot.deleteSentJobs, jobOf, h.unique.lookup_deleteWhere] at hjob
    exact h.own job (filter_eq_some_iff.mp hjob).1

end Sync

/-! ## Dispatching -/

section Dispatch

variable {key : JobKey} {g : ScheduleGeneration} {jobs : List StudyReminderJob}
  {verdict : StudyReminderJob → Verdict}

lemma processJob_keeps {now ms : ℤ} {job row : StudyReminderJob}
    (h : processJob now ms verdict job = some row) :
    row.entityKey = job.entityKey ∧ row.generation = job.generation := by
  unfold processJob at h
  split at h
  · cases h
  · obtain ⟨claimed, hclaim, hcancel⟩ := bind_eq_some_iff.mp h
    obtain ⟨-, rfl⟩ := ite_some_eq_some.mp hclaim
    obtain ⟨-, rfl⟩ := ite_some_eq_some.mp hcancel
    exact ⟨rfl, rfl⟩
  · obtain ⟨claimed, hclaim, hfail⟩ := bind_eq_some_iff.mp h
    obtain ⟨-, rfl⟩ := ite_some_eq_some.mp hclaim
    obtain ⟨-, rfl⟩ := ite_some_eq_some.mp hfail
    exact ⟨rfl, rfl⟩
  · obtain ⟨_, hclaim, hsend⟩ := bind_eq_some_iff.mp h
    obtain ⟨_, hown, hsent⟩ := bind_eq_some_iff.mp hsend
    obtain ⟨-, rfl⟩ := ite_some_eq_some.mp hclaim
    obtain ⟨-, rfl⟩ := ite_some_eq_some.mp hown
    obtain ⟨-, rfl⟩ := ite_some_eq_some.mp hsent
    exact ⟨rfl, rfl⟩

variable {job : StudyReminderJob}

lemma processJob_send (now ms : ℤ) {key : String} (hdisp : job.dispatchable = true)
    (hverd : verdict job = .send key) :
    ∃ row, processJob now ms verdict job = some row ∧ row.status = .sent := by
  simp [processJob, hverd, claimJob, hdisp, ownDelivery, leasedBy, markSent]

variable {stmt : StudyReminderJob → Option StudyReminderJob} {scope : StudyReminderJob → Bool}

lemma Tidy.updateJobs (h : Tidy key g jobs)
    (hkeeps : ∀ job row, stmt job = some row →
      row.entityKey = job.entityKey ∧ row.generation = job.generation) :
    Tidy key g (updateJobs scope stmt jobs) where
  unique := uniqueOn_updateJobs h.unique fun job row hrow => (hkeeps job row hrow).1
  own := by
    intro row hrow
    rw [jobOf_updateJobs fun job row hrow => (hkeeps job row hrow).1] at hrow
    obtain ⟨job, hjob, rfl⟩ := map_eq_some_iff.mp hrow
    split
    · cases hstmt : stmt job with
      | none => exact h.own job hjob
      | some row => exact (hkeeps job row hstmt).2.trans (h.own job hjob)
    · exact h.own job hjob

lemma IsSent.updateJobs (hkeeps : ∀ job row, stmt job = some row → row.entityKey = job.entityKey)
    (hspare : ∀ job, job.status = .sent → scope job = true → stmt job = none)
    (h : IsSent key jobs) : IsSent key (updateJobs scope stmt jobs) := by
  obtain ⟨job, hjob, hsent⟩ := h
  refine ⟨job, ?_, hsent⟩
  rw [jobOf_updateJobs hkeeps, hjob, map_some]
  split
  next hscope =>
    rw [hspare job hsent hscope, getD_none]
  · rfl

lemma resetStuck_keeps {now olderThan : ℤ} {target : JobStatus} (job row : StudyReminderJob)
    (h : resetStuck now olderThan target job = some row) :
    row.entityKey = job.entityKey ∧ row.generation = job.generation := by
  obtain ⟨-, rfl⟩ := ite_some_eq_some.mp h
  exact ⟨rfl, rfl⟩

variable {c : WorkerSettings} {w : WatchedSession}

lemma IsSent.recovered {now : ℤ} (h : IsSent key jobs) : IsSent key (c.recovered now jobs) := by
  refine h.updateJobs (fun job row hrow => (resetStuck_keeps job row hrow).1) ?_
  intro _ hsent _
  simp [resetStuck, isStuck, hsent]

lemma of_findDueJobs {now : ℤ} (h : c.findDueJobs now job = true) :
    job.dispatchable = true ∧ job.status ≠ .sent ∧ now + c.minLeadMs < job.scheduledAt := by
  simp only [WorkerSettings.findDueJobs, isDue, Bool.and_eq_true, decide_eq_true_eq] at h
  obtain ⟨-, ⟨⟨hdisp, -⟩, hlead⟩, -⟩ := h
  refine ⟨hdisp, ?_, hlead⟩
  intro hsent
  simp [dispatchable, hsent] at hdisp

end Dispatch

/-! ## At most one reminder -/

/-- The invariant of a session: after its reminder the job is sent, or the session is closed. -/
structure Reminded (c : WorkerSettings) (w : WatchedSession) (s : RolloverSystem) : Prop where
  tidy : Tidy (w.key c) (w.generation c) s.jobs
  once : s.delivered.count (w.key c) ≤ 1
  kept : s.delivered.count (w.key c) ≠ 0 → w.closed c s.now ∨ IsSent (w.key c) s.jobs

namespace Reminded

variable {c : WorkerSettings} {w : WatchedSession} {s t : RolloverSystem} {now : ℤ}

lemma closed_mono (hle : s.now ≤ now) (h : w.closed c s.now) : w.closed c now := by
  unfold WatchedSession.closed at *
  omega

lemma dispatch (h : Reminded c w s) (hle : s.now ≤ now) (verdict : StudyReminderJob → Verdict) :
    Reminded c w (s.dispatchDueReminders c now verdict) := by
  have hrecovered : Tidy (w.key c) (w.generation c) (c.recovered now s.jobs) :=
    h.tidy.updateJobs resetStuck_keeps
  have hprocess : ∀ job row, processJob now c.leaseMs verdict job = some row →
      row.entityKey = job.entityKey ∧ row.generation = job.generation :=
    fun job row hrow => processJob_keeps hrow
  have hcount : (s.dispatchDueReminders c now verdict).delivered.count (w.key c) =
      s.delivered.count (w.key c) +
        if (jobOf (w.key c) (c.recovered now s.jobs)).any (c.sends now verdict) then 1 else 0 := by
    rw [RolloverSystem.dispatchDueReminders, count_append,
      hrecovered.unique.count_map_filter, jobOf]
  have hsent : IsSent (w.key c) s.jobs →
      IsSent (w.key c) (s.dispatchDueReminders c now verdict).jobs := by
    intro hsent
    refine hsent.recovered.updateJobs (fun job row hrow => (hprocess job row hrow).1) ?_
    intro job hstat hdue
    exact absurd hstat (of_findDueJobs hdue).2.1
  cases hsends : (jobOf (w.key c) (c.recovered now s.jobs)).any (c.sends now verdict) with
  | false =>
    rw [hsends] at hcount
    refine ⟨hrecovered.updateJobs hprocess, ?_, ?_⟩
    · rw [hcount]
      exact h.once
    · intro hdeliv
      rw [hcount] at hdeliv
      rcases h.kept hdeliv with hclosed | hstays
      · exact .inl (closed_mono hle hclosed)
      · exact .inr (hsent hstays)
  | true =>
    rw [hsends] at hcount
    obtain ⟨job, hjob, hsend⟩ := (any_eq_true _ _).mp hsends
    obtain ⟨hdue, hverd⟩ := Bool.and_eq_true_iff.mp hsend
    obtain ⟨hdisp, hnot, _⟩ := of_findDueJobs hdue
    have hsched : job.scheduledAt = w.session.scheduledAt :=
      congrArg ScheduleGeneration.scheduledAt (hrecovered.own job hjob)
    -- a reminder that was sent before would have left a sent job, or closed the session
    have hnone : s.delivered.count (w.key c) = 0 := by
      by_contra hdeliv
      rcases h.kept hdeliv with hclosed | hstays
      · have hnow := closed_mono hle hclosed
        unfold WatchedSession.closed at hnow
        omega
      · obtain ⟨job', hjob', hsent'⟩ := (hstays.recovered : IsSent _ (c.recovered now s.jobs))
        obtain rfl : job = job' := Option.some.inj (hjob.symm.trans hjob')
        exact hnot hsent'
    refine ⟨hrecovered.updateJobs hprocess, ?_, ?_⟩
    · rw [hcount, hnone]
      decide
    · intro _
      refine .inr ?_
      split at hverd
      next _ hsendVerdict =>
        obtain ⟨row, hrow, hstat⟩ := processJob_send now c.leaseMs hdisp hsendVerdict
        refine ⟨row, ?_, hstat⟩
        rw [RolloverSystem.dispatchDueReminders,
          jobOf_updateJobs fun job row hrow => (hprocess job row hrow).1, hjob]
        simp [hdue, hrow]
      · cases hverd

variable {mappings : List MappingSync}

section

variable (h : Reminded c w s) (hle : s.now ≤ now) (hkept : ∀ m ∈ mappings, w.KeptBy m)
include h hle hkept

lemma sync :
    Reminded c w { s with now := now, jobs := c.syncUpcomingSessions now mappings s.jobs } := by
  obtain ⟨htidy, hsent⟩ := h.tidy.syncUpcomingSessions hkept
  refine ⟨htidy, h.once, fun hdeliv => ?_⟩
  rcases h.kept hdeliv with hclosed | hstays
  · exact .inl (closed_mono hle hclosed)
  · exact .inr (hsent hstays)

lemma rollover
    (hcloses : ∀ job, jobOf (w.key c) s.jobs = some job → job.status = .sent → w.closed c now) :
    Reminded c w { s with
      now := now
      jobs := c.syncUpcomingSessions now mappings (deleteSentJobs c.platform s.jobs) } := by
  obtain ⟨htidy, -⟩ := h.tidy.deleteSentJobs.syncUpcomingSessions hkept
  refine ⟨htidy, h.once, fun hdeliv => .inl ?_⟩
  rcases h.kept hdeliv with hclosed | ⟨job, hjob, hsent⟩
  · exact closed_mono hle hclosed
  · exact hcloses job hjob hsent

end

lemma of_step {e : RolloverEvent} (h : Reminded c w s) (hkept : ∀ m ∈ e.mappings, w.KeptBy m)
    (hcloses : w.purgesClosed c s e = true) (hstep : s.step c e = some t) : Reminded c w t := by
  unfold RolloverSystem.step at hstep
  split at hstep
  next hle =>
    cases e with
    | dispatch _ verdict =>
      cases hstep
      exact h.dispatch hle verdict
    | sync =>
      cases hstep
      exact h.sync hle hkept
    | rollover now =>
      cases hstep
      refine h.rollover hle hkept ?_
      intro _ hjob hsent
      have hclosed : w.closed c now := by
        simpa [WatchedSession.purgesClosed, hjob, hsent] using hcloses
      exact hclosed
  · cases hstep

end Reminded

/-- A session whose schedule does not change is reminded of at most once, if a rollover purges its
sent job only when the session is closed. -/
theorem reminded_at_most_once (c : WorkerSettings) (w : WatchedSession) (now : ℤ)
    (jobs : List StudyReminderJob) (events : List RolloverEvent) {s : RolloverSystem}
    (hunique : UniqueOn entityKey jobs)
    (hown : ∀ job, jobOf (w.key c) jobs = some job → job.generation = w.generation c)
    (hkept : ∀ e ∈ events, ∀ m ∈ e.mappings, w.KeptBy m)
    (hcloses : Along (RolloverSystem.step c) (fun s e => w.purgesClosed c s e = true)
      ⟨now, jobs, []⟩ events) (hrun : run (RolloverSystem.step c) ⟨now, jobs, []⟩ events = some s) :
    s.delivered.count (w.key c) ≤ 1 := by
  have hstart : Reminded c w ⟨now, jobs, []⟩ := ⟨⟨hunique, hown⟩, by simp, by simp⟩
  have hend : Reminded c w s :=
    run_induction (fun _ _ _ h hboth hstep => h.of_step hboth.1 hboth.2 hstep) hstart
      ((along_of_forall hkept).and hcloses) hrun
  exact hend.once

/-! ## A late session -/

namespace LateSession

/-- The default settings: half an hour before the session, not in the last five minutes. -/
def settings : WorkerSettings where
  platform := .discord
  sync := ⟨3, 1800000⟩
  minLeadMs := 300000
  horizonMs := 86400000
  stuckProcessingMs := 600000
  leaseMs := 600000

def watched : WatchedSession := ⟨"wumpus", ⟨"calendar-5", 84000000, some "Reading"⟩⟩

def mapping : MappingSync :=
  ⟨⟨"wumpus", some 7, some 1⟩, .ok (some .discord), .ok [watched.session]⟩

def dispatchAt (now : ℤ) : RolloverEvent := .dispatch now fun _ => .send "k"

def quietEvening : List RolloverEvent :=
  [.sync 81000000 [mapping], dispatchAt 82200000, .sync 82800000 [mapping],
    .rollover 86400000 [mapping], dispatchAt 86460000]

def lateEvening : List RolloverEvent :=
  [.sync 81000000 [mapping], dispatchAt 82200000, .rollover 82800000 [mapping], dispatchAt 82860000]

lemma keptBy_of_mappings {events : List RolloverEvent}
    (h : ∀ e ∈ events, ∀ m ∈ e.mappings, m = mapping) :
    ∀ e ∈ events, ∀ m ∈ e.mappings, watched.KeptBy m := by
  intro e he m hm
  rw [h e he m hm]
  rintro - _ ⟨⟩ _ hx -
  exact mem_singleton.mp hx

end LateSession

open LateSession

/-- A rollover after the session does no harm. -/
theorem reminded_at_most_once_quietEvening :
    ∃ s, run (RolloverSystem.step settings) ⟨0, [], []⟩ quietEvening =
        some s ∧ s.delivered.count (watched.key settings) = 1 := by
  have hkept : ∀ e ∈ quietEvening, ∀ m ∈ e.mappings, watched.KeptBy m :=
    keptBy_of_mappings (by simp [quietEvening, dispatchAt, RolloverEvent.mappings])
  refine exists_end (A := fun s => 1 ≤ s.delivered.count (watched.key
    settings)) (by decide +kernel) fun s hrun hs => Nat.le_antisymm ?_ hs
  exact reminded_at_most_once settings watched 0 []
    quietEvening (by simp [UniqueOn]) (by rintro job ⟨⟩) hkept (by decide +kernel) hrun

/-- With the rollover at 23:00 the learner of a session at 23:20 is reminded twice. -/
theorem reminded_twice :
    (∀ e ∈ lateEvening, ∀ m ∈ e.mappings, watched.KeptBy m) ∧
      (run (RolloverSystem.step settings) ⟨0, [], []⟩ lateEvening).map
        (fun s => s.delivered.count (watched.key settings)) = some 2 := by
  constructor
  · exact keptBy_of_mappings (by simp [lateEvening, dispatchAt, RolloverEvent.mappings])
  · decide +kernel

end WispaceBot
