import WispaceBot.ScheduledReport.RetryDispatch

/-!
# What a queued retry comes to

`claimAndSend` answers `retryQueued: 1` after it has called `recordRetryableFailure`, whatever that
has done.  The outbox has one row for an account and an exam date, while there is a report for every
day, so a retry may be lost (`retry_lost`).  `queued_iff` says exactly when it is queued.  The date
that the driver hands on with a claimed row, and the number of rows that are due at the same time,
are part of the condition.

The call runs alone on the outbox; every other call may answer anything.
-/

namespace WispaceBot

open List Option Script ReportOrchestration ReportSendJob ReportCall ReportOutbox

namespace QueuedRetry

variable {τ ε : Type}

/-! ## The outbox along a call -/

/-- The outbox, the outbox before the last failure was recorded, and the number of calls so far. -/
structure Trail where
  (outbox before : ReportOutbox)
  calls : ℕ

def recorded (failure : RetryableFailure) (now : ℤ) (outbox : ReportOutbox) : ReportOutbox :=
  ((outbox.recordRetryableFailure failure (now + failure.retryBackoffMinutes * 60000) now).map
    Prod.snd).getD outbox

def succeeded {α : Type} : Except ε α → Bool
  | .ok _ => true
  | .error _ => false

section

variable (clock : ℕ → ℤ) (done : ℕ → Bool)

/-- `clock` gives the times of the calls, `done` says which failed ones have their effect. -/
def Trail.note (t : Trail) :
    (c : ReportCall τ) → Except ε c.Answer → Trail
  | .recordRetryableFailure failure, answer =>
    if succeeded answer || done t.calls then
      ⟨recorded failure (clock t.calls) t.outbox, t.outbox, t.calls + 1⟩
    else { t with calls := t.calls + 1 }
  | .markSentByExternalUserExamDate platform externalUserId examDate, answer =>
    if succeeded answer || done t.calls then
      { t with
        outbox := t.outbox.exec (markSentByExternalUserExamDate platform
          externalUserId examDate (clock t.calls))
        calls := t.calls + 1 }
    else { t with calls := t.calls + 1 }
  | _, _ => { t with calls := t.calls + 1 }

/-- The trail as a monitor, which allows everything. -/
def monitor :
    Monitor (ReportCall τ) Answer ε Trail where
  allowed := fun _ _ => True
  possible := fun _ _ => True
  after := Trail.note clock done

def trail (outbox : ReportOutbox) (record : List (Entry (ReportCall τ) Answer ε)) :
    Trail :=
  (monitor clock done).watch ⟨outbox, outbox, 0⟩ record

end

/-! ## What it means to be queued -/

/-- A dispatch that claims the row and finds the account linked calls `claimAndSend` for the day. -/
def RetriesFor (ε : Type) (date : String → String) (job : ReportSendJob) (reportDate : String) :
    Prop :=
  ∀ (leaseMs : ℤ) (message : ε → String) (token : ℕ) (now : ℤ) (claimed : ReportSendJob)
    (userId : Option ℤ) (rest : List (Entry OutboxCall OutboxCall.Answer ε))
    (result : Except ε Unit),
    job.claimJob .discord job.id token now leaseMs = some claimed →
    (OutboxScript.Discord.item leaseMs message job).Ends
      (⟨.claimJob .discord job.id leaseMs, .ok (some (claimed.returned date))⟩ ::
        ⟨.findLinkStateByExternalUserId job.externalUserId, .ok (some ⟨some .active, userId⟩)⟩ ::
        rest) result →
    ∃ mapping cause answer others,
      rest = ⟨.claimAndSend mapping reportDate job.examDate cause, answer⟩ :: others

/-- The row of the account is due at the time of its next try, and is tried for the day. -/
def Queued (ε : Type) (date : String → String) (outbox : ReportOutbox)
    (externalUserId examDate reportDate : String) : Prop :=
  ∃ job time, outbox.jobFor .discord externalUserId examDate = some job ∧
    job.nextRetryAt = some time ∧ job ∈ outbox.findDueJobs .discord time ∧
    RetriesFor ε date job reportDate

/-- The row as the failure finds it lets the retry be queued, and its date comes back as the day. -/
def Accepts (date : String → String) (row : Option ReportSendJob) (maxRetries : ℤ)
    (reportDate : String) : Prop :=
  match row with
  | none => 1 < maxRetries ∧ date reportDate = reportDate
  | some job => job.status ≠ .sent ∧ job.retryCount + 1 < maxRetries ∧
      date job.firstAttemptDate = reportDate

/-- When the row of the account is due again, fewer than 50 other rows are. -/
def HasRoom (outbox : ReportOutbox) (externalUserId examDate : String) : Prop :=
  ∀ job ∈ outbox.jobFor .discord externalUserId examDate, ∀ time ∈ job.nextRetryAt,
    (outbox.jobs.filter (isDue .discord time)).length ≤ 50

variable {date : String → String} {job : ReportSendJob}

lemma retriesFor_iff {day : String} (hplat : job.platform = .discord)
    (hfail : job.status = .failed) :
    RetriesFor ε date job day ↔ date job.firstAttemptDate = day := by
  constructor
  · intro h
    -- a run in which the report is sent
    let claimed : ReportSendJob :=
      { job with status := .processing, leaseToken := some 0, leaseExpiresAt := some (0 + 0) }
    have hclaim : job.claimJob .discord job.id 0 0 0 = some claimed :=
      if_pos ⟨rfl, hplat, hfail⟩
    obtain ⟨_, _, ans, others, hrest⟩ := h 0 (fun _ => "") 0 0 claimed none
      [⟨.claimAndSend ⟨.discord, job.externalUserId, none⟩ (date job.firstAttemptDate) job.examDate
          job.retryCause, .ok { sent := 1 }⟩,
        ⟨.markSent .discord job.id (some 0), .ok ()⟩] (.ok ()) hclaim
      ⟨_, _, rfl, _, _, rfl, _, _, rfl, _, _, rfl, rfl, rfl⟩
    have hhead := (List.cons.inj hrest).1
    have hcall := congrArg Sigma.fst hhead
    injection hcall
  · rintro rfl _ _ _ _ _ _ _ _ hclaim hends
    obtain ⟨-, ⟨⟩⟩ := ite_none_right_eq_some.mp hclaim
    obtain ⟨_, _, hfirst, hends⟩ := hends
    obtain ⟨⟨⟩, rfl⟩ := List.cons.inj hfirst
    obtain ⟨_, _, hsnd, hends⟩ := hends
    obtain ⟨⟨⟩, rfl⟩ := List.cons.inj hsnd
    obtain ⟨ans, others, hthird, -⟩ := hends
    exact ⟨_, _, ans, others, hthird⟩

variable {outbox : ReportOutbox}

lemma mem_findDueJobs {p : Platform} {now : ℤ}
    (hfew : (outbox.jobs.filter (isDue p now)).length ≤ 50) (hjob : job ∈ outbox.jobs)
    (hdue : job.isDue p now = true) : job ∈ outbox.findDueJobs p now := by
  rw [findDueJobs, take_of_length_le (by rwa [length_mergeSort]), mem_mergeSort, mem_filter]
  exact ⟨hjob, hdue⟩

lemma queued_iff_of_jobFor {ext examDate day : String} (hroom : HasRoom outbox ext examDate)
    (hjob : outbox.jobFor .discord ext examDate = some job) :
    Queued ε date outbox ext examDate day ↔
      job.status = .failed ∧ job.retryCount < job.maxRetries ∧ job.nextRetryAt.isSome = true ∧
        date job.firstAttemptDate = day := by
  have hplat : job.platform = .discord :=
    congrArg Prod.fst (Table.key_of_lookup hjob : job.accountKey = _)
  constructor
  · rintro ⟨other, time, hother, htime, hdue, hret⟩
    obtain rfl : job = other := Option.some.inj (hjob.symm.trans hother)
    obtain ⟨-, hfail, hcount, -⟩ :=
      isDue_iff.mp (isDue_of_findDueJobs hdue)
    exact ⟨hfail, hcount, by simp [htime], (retriesFor_iff hplat hfail).mp hret⟩
  · rintro ⟨hfail, hcount, hsome, hdate⟩
    obtain ⟨time, htime⟩ := isSome_iff_exists.mp hsome
    refine ⟨job, time, hjob, htime, ?_, (retriesFor_iff hplat hfail).mpr hdate⟩
    exact mem_findDueJobs (hroom job hjob time htime) (Table.mem_of_lookup hjob)
      (isDue_iff.mpr ⟨hplat, hfail, hcount, time, htime, le_rfl⟩)

/-! ## What `recordRetryableFailure` leaves -/

section Recorded

variable {outbox : ReportOutbox} {p : Platform} {ext examDate : String}
  {old saved : ReportSendJob} {fail : RetryableFailure} {now : ℤ}

lemma jobFor_save (hex : outbox.jobFor p ext examDate = some old)
    (hid : saved.id = old.id) (hkey : saved.accountKey = old.accountKey) :
    (outbox.save saved).jobFor p ext examDate = some saved := by
  have hthere : (outbox.jobWith saved.id).isSome = true := by
    rw [jobWith, isSome_iff_ne_none, ne_eq, Table.lookup_eq_none_iff]
    intro hnone
    exact hnone old (Table.mem_of_lookup hex) hid.symm
  have hkeySaved : saved.accountKey = (p, ext, examDate) :=
    hkey.trans (Table.key_of_lookup hex)
  rw [save, if_pos hthere]
  refine Table.lookup_replace hex ?_ (fun job hjob => ?_) hkeySaved
  · simp [hid]
  · obtain ⟨_, hrow⟩ := isSome_iff_exists.mp hjob
    obtain ⟨-, ⟨⟩⟩ := ite_none_right_eq_some.mp hrow
    rw [hrow]
    rfl

lemma jobFor_append {job : ReportSendJob} {nextId : ℕ} (hnone : outbox.jobFor p ext examDate = none)
    (hkey : job.accountKey = (p, ext, examDate)) :
    (mk (outbox.jobs ++ [job]) nextId).jobFor p ext examDate = some job := by
  rw [jobFor] at hnone
  rw [jobFor, Table.lookup_append_singleton, hnone, if_pos hkey]
  rfl

lemma queued_recorded_iff (hplat : fail.platform = .discord)
    (hroom : HasRoom (recorded fail now outbox) fail.externalUserId fail.examDate) :
    Queued ε date (recorded fail now outbox) fail.externalUserId fail.examDate
        fail.firstAttemptDate ↔
      Accepts date (outbox.jobFor .discord fail.externalUserId fail.examDate)
        fail.maxRetries fail.firstAttemptDate := by
  cases hrow : outbox.jobFor .discord fail.externalUserId fail.examDate with
  | none =>
    have hrec : recorded fail now outbox =
        ⟨outbox.jobs ++ [failedFirst fail outbox.nextId
          (now + fail.retryBackoffMinutes * 60000) now], outbox.nextId + 1⟩ := by
      simp [recorded, ReportOutbox.recordRetryableFailure, ReportOutbox.insert, hplat, hrow]
    rw [hrec] at hroom ⊢
    rw [queued_iff_of_jobFor hroom (jobFor_append hrow (by rw [← hplat]; rfl))]
    by_cases hmax : fail.maxRetries ≤ 1
    · simp [Accepts, failedFirst, hmax]
    · simp [Accepts, failedFirst, hmax, not_le.mp hmax]
  | some old =>
    by_cases hsent : old.status = .sent
    · have hrec : recorded fail now outbox = outbox := by
        simp [recorded, ReportOutbox.recordRetryableFailure, hplat, hrow, hsent]
      rw [hrec] at hroom ⊢
      rw [queued_iff_of_jobFor hroom hrow]
      simp [Accepts, hsent]
    · have hrec : recorded fail now outbox = outbox.save
          (old.failedAgain fail (now + fail.retryBackoffMinutes * 60000) now) := by
        simp [recorded, ReportOutbox.recordRetryableFailure, hplat, hrow, hsent]
      rw [hrec] at hroom ⊢
      rw [queued_iff_of_jobFor hroom (jobFor_save hrow rfl rfl)]
      by_cases hmax : fail.maxRetries ≤ old.retryCount + 1
      · simp [Accepts, failedAgain, hsent, hmax, not_lt.mpr hmax]
      · simp [Accepts, failedAgain, hsent, hmax, not_le.mp hmax]

end Recorded

/-! ## `claimAndSend` -/

section Call

open ReportOrchestration

variable {clock : ℕ → ℤ} {done : ℕ → Bool} {config : ReportOrchestration.Config ε}
  {mapping : ReportMapping} {opts : Options ε} {lease : Option τ} {t : Trail}

/-- A result with a queued retry comes right after a failure was recorded for the day. -/
def Settled (config : ReportOrchestration.Config ε) (mapping : ReportMapping)
    (opts : Options ε) (result : ClaimAndSendResult) (t : Trail) : Prop :=
  result.retryQueued = 1 → ∃ message cause now,
    t.outbox = recorded (ReportScript.retryableFailure mapping opts.reportDate
      opts.examDateForOutbox config.settings message cause) now t.before

lemma follows_any {α : Type} {x : ReportScript τ ε α} :
    x.Follows (monitor clock done) t (fun _ _ => True) fun _ _ => True := by
  induction x generalizing t with
  | done => trivial
  | throw => trivial
  | call _ _ ih => exact ⟨trivial, fun ans _ => ih ans⟩

abbrev Settles (clock : ℕ → ℤ) (done : ℕ → Bool) (config : ReportOrchestration.Config ε)
    (mapping : ReportMapping) (opts : Options ε) (t : Trail)
    (x : ReportScript τ ε ClaimAndSendResult) : Prop :=
  x.Follows (monitor clock done) t (Settled config mapping opts) fun _ _ => True

lemma settled_after {α : Type} {x : ReportScript τ ε α}
    {f : α → ReportScript τ ε ClaimAndSendResult}
    (hf : ∀ a t, Settles clock done config mapping opts t (f a)) :
    Settles clock done config mapping opts t (x >>= f) :=
  Follows.bind (follows_any.imp (fun a q _ => hf a q) fun _ _ _ => trivial)

lemma settled_pure {result : ClaimAndSendResult} (h : result.retryQueued = 0) :
    Settles clock done config mapping opts t (pure result : ReportScript τ ε _) := by
  intro hqueued
  rw [h] at hqueued
  cases hqueued

lemma settled_queueRetry {msg : String} {cause : Option ReportRetryCause} :
    Settles clock done config mapping opts t
      (queueRetry config mapping opts msg cause : ReportScript τ ε _) := by
  refine Follows.bind (Follows.perform trivial (fun ans _ => ?_) fun _ _ => trivial)
  intro _
  exact ⟨msg, cause, clock t.calls, rfl⟩

lemma retryQueued_failedWith {classified : ClassifiedError} :
    (failedWith mapping classified).retryQueued = 0 := by
  rw [failedWith]
  split <;> rfl

lemma settled_onGenerateError {error : ε} :
    Settles clock done config mapping opts t (onGenerateError config mapping opts lease error) := by
  refine settled_after fun _ t => ?_
  simp only
  split
  · exact settled_queueRetry
  · exact settled_pure retryQueued_failedWith

lemma settled_onRefusal {reason : Option RefusalReason} :
    Settles clock done config mapping opts t (onRefusal config mapping opts lease reason) := by
  refine settled_after fun _ t => ?_
  split
  · exact settled_queueRetry
  · split
    · exact settled_pure rfl
    · exact settled_pure rfl
    · exact settled_pure rfl

lemma settled_afterSend {result : ReportDeliveryResult} :
    Settles clock done config mapping opts t (afterSend config mapping opts lease result) := by
  cases result with
  | ok => exact settled_after fun _ _ => settled_after fun _ _ => settled_pure rfl
  | rateLimited => exact settled_after fun _ _ => settled_pure rfl
  | refused => exact settled_onRefusal

lemma settled_onSendError {error : ε} :
    Settles clock done config mapping opts t (onSendError config mapping opts lease error) := by
  refine settled_after fun _ t => ?_
  simp only
  split
  · exact settled_queueRetry
  · exact settled_pure retryQueued_failedWith

lemma settled_send {text : String} :
    Settles clock done config mapping opts t (send config mapping opts lease text) := by
  refine Follows.tryCatch ?_
  have hbody : Settles clock done config mapping opts t (ReportScript.perform (.sendReport text
      (mapping.deliveryKey opts.reportDate)) >>= afterSend config mapping opts lease) :=
    settled_after fun _ _ => settled_afterSend
  exact hbody.imp (fun _ _ h => h) fun _ _ _ => settled_onSendError

lemma settled_generateAndSend :
    Settles clock done config mapping opts t (generateAndSend config mapping opts lease) := by
  rw [generateAndSend]
  split
  · refine ⟨trivial, fun ans _ => ?_⟩
    cases ans with
    | ok => exact settled_send
    | error => exact settled_onGenerateError
  · exact settled_send

lemma settled_claimAndSend :
    Settles clock done config mapping opts t
      (claimAndSend config mapping opts : ReportScript τ ε _) := by
  rw [claimAndSend]
  split
  · split
    · exact settled_pure rfl
    · refine settled_after fun sent t => ?_
      split
      · exact settled_pure rfl
      · refine settled_after fun claim t => ?_
        split
        · exact settled_pure rfl
        · split
          · exact settled_generateAndSend
          · exact settled_after fun _ _ => settled_pure rfl
  · exact settled_generateAndSend

end Call

/-- A call that answers `retryQueued: 1` has queued a retry exactly if the row accepts it, as long
as fewer than 50 other rows are due with it. -/
theorem queued_iff (clock : ℕ → ℤ) (done : ℕ → Bool) (date : String → String)
    (outbox : ReportOutbox) (config : ReportOrchestration.Config ε) (externalUserId : String)
    (userId : Option ℤ) (opts : Options ε) {record : List (Entry (ReportCall τ) Answer ε)}
    {result : ClaimAndSendResult}
    (hends : (claimAndSend config ⟨.discord, externalUserId, userId⟩ opts).Ends
      record (.ok result)) (hqueued : result.retryQueued = 1)
    (hroom : HasRoom (trail clock done outbox record).outbox externalUserId
      (opts.examDateForOutbox.getD "")) :
    Queued ε date (trail clock done outbox record).outbox externalUserId
        (opts.examDateForOutbox.getD "") opts.reportDate ↔
      Accepts date ((trail clock done outbox record).before.jobFor .discord externalUserId
        (opts.examDateForOutbox.getD "")) config.settings.maxRetries opts.reportDate := by
  have hset : Settled config ⟨.discord, externalUserId, userId⟩ opts result
      (trail clock done outbox record) :=
    (settled_claimAndSend.of_ends (fun _ _ => trivial) hends).1 result rfl
  obtain ⟨_, _, _, hrec⟩ := hset hqueued
  rw [hrec] at hroom ⊢
  exact queued_recorded_iff rfl hroom

/-! ## An exam window of two days -/

def botConfig : ReportOrchestration.Config Unit :=
  ⟨true, ⟨3, 15⟩, fun _ => "error"⟩

section

variable (day : String)

/-- The report of learner 7 for a day, before the exam on 2026-09-01. -/
def dayOptions : Options Unit where
  reportDate := day
  skipAlreadySentToday := true
  reportText := ""
  examDateForOutbox := some "2026-09-01"
  classifyError := some fun _ => ⟨.failure, "error", none⟩
  generates := true
  allowUserIdLess := false

def dayCall : ReportScript ℕ Unit ClaimAndSendResult :=
  claimAndSend botConfig ⟨.discord, "d-7", some 7⟩ (dayOptions day)

def dayClaim : ReportClaimParams :=
  ⟨.discord, "d-7", some 7, day⟩

def deliveryRecord (result : ReportDeliveryResult) :
    List (Entry (ReportCall ℕ) Answer Unit) :=
  [⟨.hasSentScheduledReportOn (dayClaim day), .ok false⟩,
    ⟨.hasAnyPlatformSentReportOn 7 day, .ok false⟩,
    ⟨.tryClaimScheduledReport (dayClaim day), .ok (some ⟨0, none, none⟩)⟩,
    ⟨.generateReport, .ok "report"⟩,
    ⟨.sendReport "report" (ReportMapping.deliveryKey ⟨.discord, "d-7", some 7⟩ day), .ok result⟩]

/-- The record of a delivery that may be tried again. -/
def refusedRecord : List (Entry (ReportCall ℕ) Answer Unit) :=
  deliveryRecord day (.refused (some .retryable)) ++
    [⟨.releaseScheduledReportClaim (dayClaim day) 0, .ok true⟩,
      ⟨.recordRetryableFailure (ReportScript.retryableFailure ⟨.discord, "d-7", some 7⟩ day
        (some "2026-09-01") ⟨3, 15⟩ "Delivery failed: RETRYABLE" none), .ok true⟩]

def sentRecord : List (Entry (ReportCall ℕ) Answer Unit) :=
  deliveryRecord day (.ok none) ++
    [⟨.markScheduledReportClaimSent (dayClaim day) 0 (some "sent")
        (some (ReportMapping.deliveryKey ⟨.discord, "d-7", some 7⟩ day)) (some .sent), .ok true⟩,
      ⟨.markSentByExternalUserExamDate .discord "d-7" "2026-09-01", .ok ()⟩]

end

def outboxAfter (now : ℤ) (outbox : ReportOutbox)
    (record : List (Entry (ReportCall ℕ) Answer Unit)) : ReportOutbox :=
  (trail (fun _ => now) (fun _ => false) outbox record).outbox

lemma dayCall_ends (day : String) :
    (dayCall day).Ends (refusedRecord day) (.ok { deferred := 1, retryQueued := 1 }) ∧
      (dayCall day).Ends (sentRecord day) (.ok { sent := 1 }) :=
  ⟨⟨_, _, rfl, _, _, rfl, _, _, rfl, _, _, rfl, _, _, rfl, _, _, rfl, _, _, rfl, rfl, rfl⟩,
    ⟨_, _, rfl, _, _, rfl, _, _, rfl, _, _, rfl, _, _, rfl, _, _, rfl, _, _, rfl, rfl, rfl⟩⟩

/-- The first failure of the window is queued. -/
theorem queued_iff_first :
    Queued Unit id (outboxAfter 0 ⟨[], 0⟩ (refusedRecord "2026-08-07")) "d-7" "2026-09-01"
      "2026-08-07" := by
  have hroom : HasRoom (outboxAfter 0 ⟨[], 0⟩ (refusedRecord "2026-08-07")) "d-7"
      "2026-09-01" := by
    have hone : (outboxAfter 0 ⟨[], 0⟩ (refusedRecord "2026-08-07")).jobs.length ≤ 50 := by
      decide +kernel
    exact fun _ _ _ _ => (length_filter_le _ _).trans hone
  have hrow : (trail (fun _ => 0) (fun _ => false) ⟨[], 0⟩
      (refusedRecord "2026-08-07")).before.jobFor .discord "d-7" "2026-09-01" = none := by
    decide +kernel
  refine (queued_iff (fun _ => 0) (fun _ => false) id ⟨[], 0⟩ botConfig "d-7" (some 7)
    (dayOptions "2026-08-07") (dayCall_ends "2026-08-07").1 rfl hroom).mpr ?_
  have haccepts : Accepts id none 3 "2026-08-07" := by
    simp [Accepts]
  exact hrow ▸ haccepts

/-- After a day that was retried and sent, the retry of the next day is lost: its row is `sent`. -/
theorem retry_lost :
    (dayCall "2026-08-07").Ends (refusedRecord "2026-08-07")
        (.ok { deferred := 1, retryQueued := 1 }) ∧
      (dayCall "2026-08-07").Ends (sentRecord "2026-08-07") (.ok { sent := 1 }) ∧
      (dayCall "2026-08-08").Ends (refusedRecord "2026-08-08")
        (.ok { deferred := 1, retryQueued := 1 }) ∧
      ∀ date, ¬ Queued Unit date (outboxAfter 86400000 (outboxAfter 900000 (outboxAfter 0 ⟨[], 0⟩
        (refusedRecord "2026-08-07")) (sentRecord "2026-08-07")) (refusedRecord "2026-08-08"))
        "d-7" "2026-09-01" "2026-08-08" := by
  refine ⟨(dayCall_ends _).1, (dayCall_ends _).2, (dayCall_ends _).1, fun _ => ?_⟩
  have hstat : ((outboxAfter 86400000 (outboxAfter 900000 (outboxAfter 0 ⟨[], 0⟩
      (refusedRecord "2026-08-07")) (sentRecord "2026-08-07"))
      (refusedRecord "2026-08-08")).jobFor .discord "d-7" "2026-09-01").map (·.status) =
      some .sent := by
    decide +kernel
  rintro ⟨_, _, hjob, -, hdue, -⟩
  obtain ⟨-, hfail, -⟩ := isDue_iff.mp (isDue_of_findDueJobs hdue)
  rw [hjob, map_some, hfail] at hstat
  cases hstat

end QueuedRetry

end WispaceBot
