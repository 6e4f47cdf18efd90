import WispaceBot.AccountLink.OwnershipTransactions

/-!
# The ownership fence around a reminder

A reminder is sent inside a transaction that holds the lock of the account, the row of its link and
the row of the job; as long as `send` runs, the link is the active link of the owner named by the
job, and the job is in flight under the lease of the worker (`send_is_fenced`).  Only `deliver`
calls the provider (`quiet_program`, `safe_deliver`).
-/

namespace WispaceBot

open RowLocking
open StudyReminderJob hiding id

namespace OwnershipTx

/-- A transaction on the reminder jobs or on the links. -/
inductive Request
  | claimJob (id token : ℕ) (now leaseMs : ℤ)
  | deliver (claimed : ClaimedDelivery)
  | markSent (id token : ℕ) (now : ℤ) (record key : Option String)
  | markFailed (id token : ℕ) (failure : Failure)
  | markCancelled (id token : ℕ) (reason : String)
  | resetStuckProcessingJobs (now olderThan : ℤ) (target : JobStatus)
  | syncJob (id : ℕ) (input : UpsertStudyReminderJobInput) (reopenOnlyOnScheduleChange : Bool)
  | upsertLink (platform : LinkPlatform) (userId : ℤ) (externalUserId : String)
      (observation : LinkMappingObservation)
  | unlink (now : ℤ) (platform : LinkPlatform) (externalUserId : String)
      (expected : Option PrivacyExpectedMapping)
  | delete (now : ℤ) (platform : LinkPlatform) (externalUserId : String)
      (expected : Option PrivacyExpectedMapping)
  | applyObservation (platform : LinkPlatform) (externalUserId : String)
      (observation : PlatformLinkObservation) (expectedGeneration : Option ℤ)

def updateJob (statement : StudyReminderJob → Option StudyReminderJob) (id : ℕ) :
    OwnershipTx Unit := do
  let _ ← writeJob (fun job => (statement job).map some) id

def Request.program : Request → OwnershipTx Unit
  | .claimJob id token now leaseMs => updateJob (StudyReminderJob.claimJob token now leaseMs) id
  | .deliver claimed => OwnershipTx.deliver claimed
  | .markSent id token now record key =>
    updateJob (StudyReminderJob.markSent token now record key) id
  | .markFailed id token failure => updateJob (StudyReminderJob.markFailed token failure) id
  | .markCancelled id token reason => updateJob (StudyReminderJob.markCancelled token reason) id
  | .resetStuckProcessingJobs now olderThan target =>
    writeJobs fun job => (job.resetStuck now olderThan target).map some
  | .syncJob id input reopen => updateJob (fun job => some (job.applyExisting input reopen)) id
  | .upsertLink platform userId externalUserId observation =>
    OwnershipTx.upsertLink platform userId externalUserId observation
  | .unlink now platform externalUserId expected =>
    OwnershipTx.unlink now platform externalUserId expected
  | .delete now platform externalUserId expected =>
    OwnershipTx.delete now platform externalUserId expected
  | .applyObservation platform externalUserId observation expectedGeneration =>
    OwnershipTx.applyObservation platform externalUserId observation expectedGeneration

/-! ## The writers do not send -/

section Quiet

variable {p : LinkPlatform} {user : String}

lemma quiet_lock (key : OwnershipKey) : (lock key).Quiet :=
  fun _ => trivial

lemma quiet_lockLink : (lockLink p user).Quiet :=
  fun _ => trivial

lemma quiet_writeLink (stmt : Option AccountLink → Option (Option AccountLink)) :
    (writeLink p user stmt).Quiet :=
  fun _ => trivial

lemma quiet_writeJobs (stmt : StudyReminderJob → Option (Option StudyReminderJob)) :
    (writeJobs stmt).Quiet := by
  intro rows
  refine Program.Quiet.forM (fun id => ?_) rows.jobIds
  have hwrite : (writeJob stmt id).Quiet := fun _ => trivial
  exact hwrite.bind fun _ => trivial

lemma quiet_removeLinks (uid : ℤ) (externalUserIds : List String) :
    (removeLinks p uid externalUserIds).Quiet := by
  induction externalUserIds with
  | nil => trivial
  | cons _ _ ih =>
    refine (quiet_writeLink _).bind fun removed => ?_
    exact ih.bind fun _ => trivial

lemma quiet_writeLocalUnlinkAudit (now gen : ℤ) : (writeLocalUnlinkAudit now p user gen).Quiet :=
  fun _ => trivial

lemma quiet_displace (uid : ℤ) : (displace p uid user).Quiet := by
  intro _
  refine (Program.Quiet.forM (fun other => quiet_lock _) _).bind fun _ => ?_
  refine (quiet_removeLinks uid _).bind fun displaced => ?_
  exact Program.Quiet.forM (fun other => quiet_writeJobs _) displaced

lemma quiet_findLink : (findLink p user).Quiet := by
  have hread : (readLink p user).Quiet := fun _ => trivial
  refine hread.bind fun found => ?_
  cases found with
  | none => trivial
  | some => exact (quiet_lock _).bind fun _ => quiet_lockLink

lemma quiet_upsertLink (uid : ℤ) (obs : LinkMappingObservation) :
    (upsertLink p uid user obs).Quiet := by
  refine (quiet_lock _).bind fun _ => quiet_findLink.bind fun old => ?_
  split
  · trivial
  split
  · trivial
  have hgen : (insertGenerationFor p user old).Quiet := by
    cases old with
    | some => trivial
    | none => exact fun _ => trivial
  refine hgen.bind fun insertGeneration => ?_
  split
  · trivial
  refine (quiet_displace uid).bind fun _ => (quiet_writeLink _).bind fun written => ?_
  split
  · exact quiet_writeJobs _
  · trivial

lemma quiet_unlink (now : ℤ) (expected : Option PrivacyExpectedMapping) :
    (unlink now p user expected).Quiet := by
  refine (quiet_lock _).bind fun _ => (quiet_lock _).bind fun _ => ?_
  refine quiet_lockLink.bind fun mapping => ?_
  split
  · trivial
  cases mapping with
  | none =>
    have hread : (latestTombstone p user).Quiet := fun _ => trivial
    refine hread.bind fun previous => ?_
    exact (quiet_writeLocalUnlinkAudit _ _).bind fun _ => quiet_writeJobs _
  | some =>
    dsimp only
    split
    · trivial
    refine (quiet_writeLocalUnlinkAudit _ _).bind fun _ => ?_
    refine (quiet_writeJobs _).bind fun _ => ?_
    exact (quiet_writeLink _).bind fun _ => trivial

lemma quiet_deleteElsewhere (now uid : ℤ) : (deleteElsewhere now p uid).Quiet := by
  intro _
  have hfence : ∀ other, (fenceElsewhere now p uid other).Quiet := by
    intro other
    have hread : (readLink p other).Quiet := fun _ => trivial
    refine hread.bind fun mapping => ?_
    cases mapping with
    | none => trivial
    | some =>
      dsimp only
      split
      · refine (quiet_lock _).bind fun _ => ?_
        exact (quiet_writeLocalUnlinkAudit _ _).bind fun _ => quiet_writeJobs _
      · trivial
  refine (Program.Quiet.forM hfence _).bind fun _ => ?_
  intro _
  exact (quiet_removeLinks uid _).bind fun _ => trivial

lemma quiet_delete (now : ℤ) (expected : Option PrivacyExpectedMapping) :
    (OwnershipTx.delete now p user expected).Quiet := by
  refine (quiet_lock _).bind fun _ => (quiet_lock _).bind fun _ => ?_
  refine quiet_lockLink.bind fun mapping => ?_
  split
  · trivial
  cases mapping with
  | none => exact quiet_writeJobs _
  | some link =>
    refine (quiet_writeLocalUnlinkAudit _ _).bind fun _ => ?_
    refine (quiet_writeJobs _).bind fun _ => (quiet_writeLink _).bind fun _ => ?_
    split
    · exact (quiet_deleteElsewhere now link.userId).bind fun _ => quiet_writeJobs _
    · exact quiet_writeJobs _

lemma quiet_applyObservation (obs : PlatformLinkObservation) (gen : Option ℤ) :
    (applyObservation p user obs gen).Quiet := by
  have hrevoke : (revoke p user).Quiet :=
    (quiet_writeLink _).bind fun _ => quiet_writeJobs _
  have hset : ∀ state, (do
      let _ ← writeLink p user (setState state) : OwnershipTx Unit).Quiet :=
    fun state => (quiet_writeLink _).bind fun _ => trivial
  refine (quiet_lock _).bind fun _ => quiet_lockLink.bind fun current => ?_
  cases current with
  | none => trivial
  | some =>
    dsimp only
    split
    · trivial
    split
    · trivial
    cases obs with
    | active =>
      dsimp only
      split
      · exact hrevoke
      split
      · trivial
      · exact hset _
    | unknown =>
      dsimp only
      split
      · trivial
      · exact hset _
    | revoked =>
      dsimp only
      split
      · trivial
      · exact hrevoke

lemma quiet_program {req : Request} (hother : ∀ claimed, req ≠ .deliver claimed) :
    req.program.Quiet := by
  have hupd : ∀ stmt id, (updateJob stmt id).Quiet := by
    intro stmt id
    have hwrite : (writeJob (fun job => (stmt job).map some) id).Quiet := fun _ => trivial
    exact hwrite.bind fun _ => trivial
  cases req with
  | claimJob id => exact hupd _ id
  | deliver claimed => exact absurd rfl (hother claimed)
  | markSent id => exact hupd _ id
  | markFailed id => exact hupd _ id
  | markCancelled id => exact hupd _ id
  | resetStuckProcessingJobs => exact quiet_writeJobs _
  | syncJob id => exact hupd _ id
  | upsertLink => exact quiet_upsertLink _ _
  | unlink => exact quiet_unlink _ _
  | delete => exact quiet_delete _ _
  | applyObservation =>
    exact quiet_applyObservation _ _

end Quiet

/-! ## The delivery holds what it has checked -/

/-- The link is active and the one of the job, and the job is leased by this delivery. -/
def Authorized (claimed : ClaimedDelivery) (rows : OwnershipKey → Option OwnershipRow) : Prop :=
  (∃ link, rows (.link claimed.platform claimed.job.externalUserId) = some (.link link) ∧
    link.linkState = .active ∧ claimed.job.userId = some link.userId ∧
    claimed.job.mappingGeneration = some link.mappingGeneration) ∧
  ∃ job, rows (.job claimed.job.id) = some (.job job) ∧ job.status = .processing ∧
    job.leaseToken = some claimed.leaseToken

def HoldsAuthorization (claimed : ClaimedDelivery)
    (view : OwnershipKey → Option (Option OwnershipRow)) : Prop :=
  ∀ rows, (∀ key row, view key = some row → rows key = row) → Authorized claimed rows

section Safe

variable {α : Type} {Φ : ClaimedDelivery → (OwnershipKey → Option (Option OwnershipRow)) → Prop}
  {view writes : OwnershipKey → Option (Option OwnershipRow)}

lemma safe_lock_bind {key : OwnershipKey} {next : Unit → OwnershipTx α}
    (h : ∀ c, Safe Φ (next ()) (Function.update view key (some c)) writes) :
    Safe Φ (lock key >>= next) view writes :=
  fun c _ => h c

lemma safe_lockLink_bind {p : LinkPlatform} {user : String}
    {next : Option AccountLink → OwnershipTx α} (hunwr : writes (.link p user) = none)
    (hnone : Safe Φ (next none) view writes) (hsome : ∀ link, Safe Φ (next (some link))
      (Function.update view (.link p user) (some (some (.link link)))) writes) :
    Safe Φ (lockLink p user >>= next) view writes := by
  intro c _
  rw [hunwr, Option.getD_none]
  match c with
  | none => exact hnone
  | some (.link link) => exact hsome link
  | some (.audit tombs) => exact hnone
  | some (.job job) => exact hnone

lemma safe_writeJob_bind {id : ℕ} {stmt : StudyReminderJob → Option (Option StudyReminderJob)}
    {next : Option (Option StudyReminderJob) → OwnershipTx α} (hunwr : writes (.job id) = none)
    (hnone : Safe Φ (next none) view writes)
    (hsome : ∀ job row, stmt job = some row → Safe Φ (next (some row))
      (Function.update view (.job id) (some (some (.job job))))
      (Function.update writes (.job id) (some (row.map .job)))) :
    Safe Φ (writeJob stmt id >>= next) view writes := by
  intro c _
  rw [hunwr, Option.getD_none]
  match c with
  | none => exact hnone
  | some (.link link) => exact hnone
  | some (.audit tombs) => exact hnone
  | some (.job job) =>
    have hselect : (jobIn (some (.job job))).bind stmt = stmt job := rfl
    cases hrow : stmt job with
    | none =>
      simp only [hselect, hrow]
      exact hnone
    | some row =>
      simp only [hselect, hrow]
      exact hsome job row hrow

end Safe

lemma safe_withOwnedDelivery {claimed : ClaimedDelivery} {par : OwnedDeliveryParams}
    (hplat : par.platform = claimed.platform) (hjob : par.jobId = claimed.job.id)
    (htoken : par.leaseToken = claimed.leaseToken)
    (hext : par.externalUserId = claimed.job.externalUserId)
    (huser : claimed.job.userId = some par.userId)
    (hgen : claimed.job.mappingGeneration = some par.mappingGeneration) :
    Safe HoldsAuthorization (withOwnedDelivery par (.call claimed fun _ => pure ()))
      (fun _ => none) fun _ => none := by
  refine safe_lock_bind fun _ => ?_
  refine safe_lockLink_bind rfl (fun _ _ => trivial) fun link => ?_
  dsimp only
  split
  case h_1 | h_2 | h_3 => trivial
  case h_4 hact =>
    split
    · trivial
    rename_i howner
    obtain ⟨howned, hcur⟩ := not_or.mp howner
    refine safe_writeJob_bind rfl trivial fun job row hrow => ?_
    -- the update has checked the lease
    have hlease : job.leasedBy par.leaseToken = true := by
      unfold ownJob ownDelivery at hrow
      split at hrow
      · split at hrow
        · assumption
        · cases hrow
      · cases hrow
    obtain ⟨hlsd, hstat⟩ := status_of_leasedBy hlease
    refine ⟨fun rows hrows => ?_, fun _ => trivial⟩
    refine ⟨⟨link, hrows _ _ ?_, hact, ?_, ?_⟩, job, hrows _ _ ?_, hstat, ?_⟩
    · simp [hplat, hext]
    · rw [huser, not_not.mp howned]
    · rw [hgen, not_not.mp hcur]
    · simp [hjob]
    · rw [hlsd, htoken]

lemma safe_deliver (claimed : ClaimedDelivery) :
    Safe HoldsAuthorization (OwnershipTx.deliver claimed) (fun _ => none) fun _ => none := by
  unfold OwnershipTx.deliver
  split
  case h_1 uid gen huser hgen =>
    exact (safe_withOwnedDelivery rfl rfl rfl rfl huser hgen).map
  case h_2 => trivial

lemma safe_program (req : Request) :
    Safe HoldsAuthorization req.program (fun _ => none) fun _ => none := by
  by_cases hdeliver : ∃ claimed, req = .deliver claimed
  · obtain ⟨claimed, rfl⟩ := hdeliver
    exact safe_deliver claimed
  · have hother : ∀ claimed, req ≠ .deliver claimed := by
      intro claimed hcl
      exact hdeliver ⟨claimed, hcl⟩
    exact (quiet_program hother).safe _ _

/-- However the requests are interleaved: as long as a worker is in `send`, it is authorized. -/
theorem send_is_fenced {ι : Type} [DecidableEq ι] (committed : OwnershipKey → Option OwnershipRow)
    (requests : ι → Request) {events : List (Event ι Rows)}
    {s : Database ι OwnershipKey OwnershipRow Rows ClaimedDelivery}
    (hrun : Transition.run Database.step
      (Database.init committed fun i => (requests i).program) events = some s)
    {i : ι} {claimed : ClaimedDelivery} (hsending : s.calling i = some claimed) :
    Authorized claimed s.committed := by
  obtain ⟨_, hauthorized, hheld⟩ :=
    Database.fenced (fun i => safe_program (requests i)) hrun hsending
  exact hauthorized s.committed fun key row hrow => (hheld key row hrow).2

def claimedSeven : ClaimedDelivery where
  platform := .zalo
  job := {
    StudyReminderJob.ofInput 3 0 {
      platform := .zalo
      externalUserId := "z-1"
      userId := some 7
      mappingGeneration := some 2
      sessionKey := "s"
      scheduledAt := 100
      remindAt := 50
      topic := none
      maxRetries := 3 } with
    status := .processing
    leaseToken := some 11 }
  leaseToken := 11
  deliveryKey := "study-reminder:3"

def rowsOfSeven : OwnershipKey → Option OwnershipRow
  | .link .zalo externalUserId =>
    if externalUserId = "z-1" then some (.link ⟨7, .active, 2⟩) else none
  | .job id => if id = 3 then some (.job claimedSeven.job) else none
  | _ => none

/-- The user unlinks while the reminder is being sent. -/
theorem send_is_fenced_unlinking : ∃ s, Transition.run Database.step
      (Database.init rowsOfSeven fun deliver : Bool => Request.program
        (if deliver then .deliver claimedSeven else .unlink 60 .zalo "z-1" none))
      [.run true ⟨[], []⟩, .run false ⟨[], []⟩, .run true ⟨[], []⟩, .run true ⟨[], []⟩] = some s ∧
    s.calling true = some claimedSeven ∧ Authorized claimedSeven s.committed :=
  Transition.exists_end (A := fun s => s.calling true = some claimedSeven) (by decide +kernel)
    fun _ hrun hsending => ⟨hsending, send_is_fenced rowsOfSeven _ hrun hsending⟩

end OwnershipTx

end WispaceBot
