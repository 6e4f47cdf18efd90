import WispaceBot.Foundation.RowLocking
import WispaceBot.StudyReminder.JobRow

/-!
# The transactions that write account links

A link says which user an external account belongs to, in which state and in which generation of
ownership.  Its writers are `upsertLink`, `unlink`, `delete` and `applyObservation`; the delivery of
a reminder reads it in `withOwnedDelivery`.  All take the advisory lock of the account first, except
that `upsertLink` takes it only where it finds a link.  The Messenger bot keeps its mappings in
other tables; its `delete`, which removes links of these platforms as well, is left out.

Lock keys do not collide, and a row is found under its unique external account, as it is when its
lock is taken.  A statement over many rows looks at them one by one.  The audit table is kept for
the tombstones only.
-/

namespace WispaceBot

open RowLocking
open StudyReminderJob hiding id

/-- The platforms that keep their links in a table of their own with a unique index. -/
inductive LinkPlatform
  | discord
  | zalo
  deriving DecidableEq

def LinkPlatform.platform : LinkPlatform → Platform
  | .discord => .discord
  | .zalo => .zalo

/-- The platform whose links `delete` removes as well. -/
def LinkPlatform.other : LinkPlatform → LinkPlatform
  | .discord => .zalo
  | .zalo => .discord

structure AccountLink where
  userId : ℤ
  linkState : PlatformLinkState
  mappingGeneration : ℤ
  deriving DecidableEq

/-- A `locally_unlinked` row of the audit table, with the time at which its transaction began. -/
structure Tombstone where
  (createdAt mappingGeneration : ℤ)

/-- The rows and advisory locks that the transactions use. -/
inductive OwnershipKey
  /-- `study-reminder:ownership:mutation`. -/
  | mutation
  /-- `study-reminder:ownership:` followed by the platform and the external account. -/
  | ownership (platform : LinkPlatform) (externalUserId : String)
  | link (platform : LinkPlatform) (externalUserId : String)
  | audit (platform : LinkPlatform) (externalUserId : String)
  | job (id : ℕ)
  deriving DecidableEq

/-- What a row holds. -/
inductive OwnershipRow
  | link (link : AccountLink)
  | audit (tombstones : List Tombstone)
  | job (job : StudyReminderJob)

/-- The rows that a query of a transaction finds, by key. -/
structure Rows where
  jobIds : List ℕ
  externalUserIds : List String

/-- A reminder that a worker is about to send: the job as it was claimed, and the lease. -/
structure ClaimedDelivery where
  platform : LinkPlatform
  job : StudyReminderJob
  leaseToken : ℕ
  deliveryKey : String
  deriving DecidableEq

abbrev OwnershipTx (α : Type) := Program OwnershipKey OwnershipRow Rows ClaimedDelivery α

namespace OwnershipTx

/-! ## Statements -/

def linkOf : Option OwnershipRow → Option AccountLink
  | some (.link link) => some link
  | _ => none

def tombstonesOf : Option OwnershipRow → List Tombstone
  | some (.audit tombstones) => tombstones
  | _ => []

def jobIn : Option OwnershipRow → Option StudyReminderJob
  | some (.job job) => some job
  | _ => none

def lock (key : OwnershipKey) : OwnershipTx Unit :=
  .access key (fun _ => .hold) fun _ => .done ()

/-- `acquireStudyReminderOwnershipMutationLock`. -/
def lockMutation : OwnershipTx Unit :=
  lock .mutation

section

variable (platform : LinkPlatform) (externalUserId : String)

/-- `acquireStudyReminderOwnershipLock`. -/
def lockOwnership : OwnershipTx Unit :=
  lock (.ownership platform externalUserId)

/-- `SELECT … FOR UPDATE` on the link of an account; where there is no row nothing is locked. -/
def lockLink : OwnershipTx (Option AccountLink) :=
  .access (.link platform externalUserId)
    (fun row => if (linkOf row).isSome then .hold else .skip) fun row => .done (linkOf row)

def readLink : OwnershipTx (Option AccountLink) :=
  .access (.link platform externalUserId) (fun _ => .skip) fun row => .done (linkOf row)

/-- `none` if the statement does not select the row, otherwise the row it leaves. -/
def writeLink (statement : Option AccountLink → Option (Option AccountLink)) :
    OwnershipTx (Option (Option AccountLink)) :=
  .access (.link platform externalUserId)
    (fun row => match statement (linkOf row) with
      | some link => .put (link.map .link)
      | none => .skip)
    fun row => .done (statement (linkOf row))

end

section

variable (statement : StudyReminderJob → Option (Option StudyReminderJob))

/-- A statement on jobs: `none` if it does not select a row, otherwise the row it leaves. -/
def writeJob (id : ℕ) : OwnershipTx (Option (Option StudyReminderJob)) :=
  .access (.job id)
    (fun row => match (jobIn row).bind statement with
      | some job => .put (job.map .job)
      | none => .skip)
    fun row => .done ((jobIn row).bind statement)

def writeJobs : OwnershipTx Unit :=
  .ask fun rows => rows.jobIds.forM fun id => do
    let _ ← writeJob statement id

end

/-- The generation of the last tombstone: by the time of its transaction, then by insertion. -/
def latest (tombstones : List Tombstone) : Option ℤ :=
  (tombstones.foldl (fun last tombstone => match last with
    | some found => if found.createdAt ≤ tombstone.createdAt then some tombstone else last
    | none => some tombstone) none).map (·.mappingGeneration)

/-- The generation of the last tombstone of an account. -/
def latestTombstone (platform : LinkPlatform) (externalUserId : String) : OwnershipTx (Option ℤ) :=
  .access (.audit platform externalUserId) (fun _ => .skip)
    fun row => .done (latest (tombstonesOf row))

def writeLocalUnlinkAudit (now : ℤ) (platform : LinkPlatform) (externalUserId : String)
    (generation : ℤ) : OwnershipTx Unit :=
  .access (.audit platform externalUserId)
    (fun row => .put (some (.audit (tombstonesOf row ++ [⟨now, generation⟩])))) fun _ => .done ()

/-! ## Jobs of an account that lost its owner -/

section

variable (platform : LinkPlatform) (externalUserId : String)

/-- The jobs of an account that can still be cancelled. -/
def cancellable (job : StudyReminderJob) : Bool :=
  decide (job.platform = platform.platform ∧ job.externalUserId = externalUserId ∧
    job.status ∈ [.pending, .processing, .failed])

/-- `cancelStudyReminderJobsForOwnershipChange`. -/
def cancelJobsForOwnershipChange (generation : Option ℤ) (reason : String) : OwnershipTx Unit :=
  writeJobs fun job =>
    if cancellable platform externalUserId job ∧
        generation.all (fun g => job.mappingGeneration.all (· < g)) then
      some (some { job.cancelled with lastError := some reason })
    else none

/-- `cancelLocalUnlinkWork` and `suspendPendingWork`, for the reminder jobs. -/
def suspendJobs (reason : String) : OwnershipTx Unit :=
  writeJobs fun job =>
    if cancellable platform externalUserId job then
      some (some { job with
        status := .cancelled
        leaseToken := none
        leaseExpiresAt := none
        lastError := some reason })
    else none

end

/-! ## Linking -/

/-- What a callback has seen of the link before it verifies the token. -/
inductive LinkMappingObservation
  | absent (generation : Option ℤ)
  | present (generation : ℤ)

def alreadyCommitted (userId : ℤ) : Option AccountLink → Bool
  | some link => decide (link.userId = userId ∧ link.linkState = .active)
  | none => false

def conflicts (existing : Option AccountLink) : LinkMappingObservation → Bool
  | .present generation => existing.all fun link => decide (link.mappingGeneration ≠ generation)
  | .absent _ => existing.isSome

/-- The tombstone of a missing link is not the one that was observed. -/
def staleAbsence (insertGeneration : ℤ) : LinkMappingObservation → Bool
  | .present _ => false
  | .absent none => decide (0 < insertGeneration - 1)
  | .absent (some generation) => decide (insertGeneration - 1 ≠ generation)

/-- `INSERT … ON CONFLICT (platform, external_user_id) DO UPDATE … WHERE …`. -/
def upsertRow (userId : ℤ) (observation : LinkMappingObservation) (insertGeneration : ℤ) :
    Option AccountLink → Option (Option AccountLink)
  | none => some (some ⟨userId, .active, insertGeneration⟩)
  | some link =>
    match observation with
    | .absent _ => none
    | .present generation =>
      if link.mappingGeneration = generation then
        some (some {
          userId := userId
          linkState := .active
          mappingGeneration :=
            if link.linkState ≠ .active ∨ link.userId ≠ userId then link.mappingGeneration + 1
            else link.mappingGeneration })
      else none

def removeOwnedBy (userId : ℤ) : Option AccountLink → Option (Option AccountLink)
  | some link => if link.userId = userId then some none else none
  | none => none

/-- The links of the user among these accounts are deleted; the accounts that lost one. -/
def removeLinks (platform : LinkPlatform) (userId : ℤ) :
    List String → OwnershipTx (List String)
  | [] => pure []
  | externalUserId :: rest => do
    let removed ← writeLink platform externalUserId (removeOwnedBy userId)
    let others ← removeLinks platform userId rest
    pure (if removed.isSome then externalUserId :: others else others)

/-- The other accounts of the user lose their link and their jobs. -/
def displace (platform : LinkPlatform) (userId : ℤ) (externalUserId : String) : OwnershipTx Unit :=
  .ask fun rows => do
    let candidates := rows.externalUserIds.filter fun other => decide (other ≠ externalUserId)
    candidates.forM (lockOwnership platform)
    let displaced ← removeLinks platform userId candidates
    displaced.forM fun other =>
      cancelJobsForOwnershipChange platform other none "mapping_ownership_changed"

/-- The generation of a new row: `nextMappingGenerationAfterTombstone` where there is none yet. -/
def insertGenerationFor (platform : LinkPlatform) (externalUserId : String) :
    Option AccountLink → OwnershipTx ℤ
  | some _ => pure 1
  | none => do
    let previous ← latestTombstone platform externalUserId
    pure (match previous with
      | some generation => generation + 1
      | none => 1)

/-- The first statement of `upsertLink`.  The advisory lock is taken in a join with the link, and so
only where there is one. -/
def findLink (platform : LinkPlatform) (externalUserId : String) :
    OwnershipTx (Option AccountLink) := do
  let found ← readLink platform externalUserId
  match found with
  | some _ => do
    lockOwnership platform externalUserId
    lockLink platform externalUserId
  | none => pure none

/-- `upsertLink` of the Discord and the Zalo bot. -/
def upsertLink (platform : LinkPlatform) (userId : ℤ) (externalUserId : String)
    (observation : LinkMappingObservation) : OwnershipTx Unit := do
  lockMutation
  let existing ← findLink platform externalUserId
  if alreadyCommitted userId existing then pure ()
  else if conflicts existing observation then .fail
  else do
    let insertGeneration ← insertGenerationFor platform externalUserId existing
    if existing.isNone ∧ staleAbsence insertGeneration observation then .fail
    else do
      displace platform userId externalUserId
      let written ← writeLink platform externalUserId
        (upsertRow userId observation insertGeneration)
      match written with
      | some (some link) =>
        cancelJobsForOwnershipChange platform externalUserId (some link.mappingGeneration)
          "mapping_ownership_changed"
      | _ => .fail

/-! ## Privacy requests -/

structure PrivacyExpectedMapping where
  present : Bool
  (userId mappingGeneration : ℤ)

/-- `mappingMatchesExpected`, where a mapping is expected. -/
def matchesExpected (mapping : Option AccountLink) : Option PrivacyExpectedMapping → Bool
  | none => true
  | some expected =>
    match mapping with
    | none => !expected.present
    | some link => expected.present && decide (link.userId = expected.userId ∧
        link.mappingGeneration = expected.mappingGeneration)

def isTerminal (link : AccountLink) : Bool :=
  decide (link.linkState = .locallyUnlinked ∨ link.linkState = .confirmedRevoked)

/-- The update of `unlink`. -/
def unlinkRow (generation : ℤ) : Option AccountLink → Option (Option AccountLink)
  | some link =>
    if link.mappingGeneration < generation then
      some (some { link with linkState := .locallyUnlinked, mappingGeneration := generation })
    else none
  | none => none

section

variable (now : ℤ) (platform : LinkPlatform)

/-- The transaction of `PrivacyDataService.unlink`. -/
def unlink (externalUserId : String) (expected : Option PrivacyExpectedMapping) :
    OwnershipTx Unit := do
  lockMutation
  lockOwnership platform externalUserId
  let mapping ← lockLink platform externalUserId
  if !matchesExpected mapping expected then pure ()
  else match mapping with
    | none => do
      let previous ← latestTombstone platform externalUserId
      writeLocalUnlinkAudit now platform externalUserId (previous.getD 1)
      suspendJobs platform externalUserId "link_locally_unlinked"
    | some link =>
      if isTerminal link then pure ()
      else do
        writeLocalUnlinkAudit now platform externalUserId (link.mappingGeneration + 1)
        suspendJobs platform externalUserId "link_locally_unlinked"
        let _ ← writeLink platform externalUserId (unlinkRow (link.mappingGeneration + 1))

/-- The link of the user on another platform is fenced before it is deleted. -/
def fenceElsewhere (userId : ℤ) (externalUserId : String) :
    OwnershipTx Unit := do
  let mapping ← readLink platform externalUserId
  match mapping with
  | some link =>
    if link.userId = userId then do
      lockOwnership platform externalUserId
      writeLocalUnlinkAudit now platform externalUserId link.mappingGeneration
      suspendJobs platform externalUserId "link_locally_unlinked"
    else pure ()
  | none => pure ()

/-- The links of the user on another platform are deleted. -/
def deleteElsewhere (userId : ℤ) : OwnershipTx Unit :=
  .ask fun rows => do
    rows.externalUserIds.forM (fenceElsewhere now platform userId)
    .ask fun rows => do
      let _ ← removeLinks platform userId rows.externalUserIds

end

/-- The jobs of the user are deleted, or those of the account where the user is not known. -/
def deleteJobs (platform : LinkPlatform) (externalUserId : String) (userId : ℤ) :
    OwnershipTx Unit :=
  writeJobs fun job =>
    if userId ≠ 0 then if job.userId = some userId then some none else none
    else if job.platform = platform.platform ∧ job.externalUserId = externalUserId then some none
    else none

/-- The transaction of `PrivacyDataService.delete`. -/
def delete (now : ℤ) (platform : LinkPlatform) (externalUserId : String)
    (expected : Option PrivacyExpectedMapping) : OwnershipTx Unit := do
  lockMutation
  lockOwnership platform externalUserId
  let mapping ← lockLink platform externalUserId
  if !matchesExpected mapping expected then pure ()
  else match mapping with
    | some link => do
      writeLocalUnlinkAudit now platform externalUserId link.mappingGeneration
      suspendJobs platform externalUserId "link_locally_unlinked"
      let _ ← writeLink platform externalUserId fun _ => some none
      if link.userId ≠ 0 then deleteElsewhere now platform.other link.userId else pure ()
      deleteJobs platform externalUserId link.userId
    | none => deleteJobs platform externalUserId 0

/-! ## Observations -/

inductive PlatformLinkObservation
  | active (userId : ℤ)
  | unknown
  | revoked

/-- The update that `revoke` makes. -/
def revokeRow : Option AccountLink → Option (Option AccountLink)
  | some link => some (some { link with
      linkState := .confirmedRevoked
      mappingGeneration := link.mappingGeneration + 1 })
  | none => none

def setState (state : PlatformLinkState) : Option AccountLink → Option (Option AccountLink)
  | some link => some (some { link with linkState := state })
  | none => none

def revoke (platform : LinkPlatform) (externalUserId : String) : OwnershipTx Unit := do
  let _ ← writeLink platform externalUserId revokeRow
  suspendJobs platform externalUserId "link_revoked"

def applyObservation (platform : LinkPlatform) (externalUserId : String)
    (observation : PlatformLinkObservation) (expectedGeneration : Option ℤ) :
    OwnershipTx Unit := do
  lockOwnership platform externalUserId
  let current ← lockLink platform externalUserId
  match current with
  | none => pure ()
  | some link =>
    if expectedGeneration.any (fun generation => decide (link.mappingGeneration ≠ generation)) then
      pure ()
    else if link.linkState = .locallyUnlinked then pure ()
    else match observation with
      | .active userId =>
        if userId ≠ link.userId then revoke platform externalUserId
        else if link.linkState = .confirmedRevoked then pure ()
        else do
          let _ ← writeLink platform externalUserId (setState .active)
      | .unknown =>
        if link.linkState = .confirmedRevoked then pure ()
        else do
          let _ ← writeLink platform externalUserId (setState .temporarilyUnknown)
      | .revoked =>
        if link.linkState = .confirmedRevoked then pure () else revoke platform externalUserId

/-! ## Delivering -/

structure OwnedDeliveryParams where
  platform : LinkPlatform
  (jobId leaseToken : ℕ)
  externalUserId : String
  (userId mappingGeneration : ℤ)
  deliveryKey : String

inductive OwnedDeliveryResult
  | authorized
  | refused (reason : String)

/-- The update of the job in `withOwnedDelivery`. -/
def ownJob (params : OwnedDeliveryParams) (job : StudyReminderJob) :
    Option (Option StudyReminderJob) :=
  if job.platform = params.platform.platform then
    (job.ownDelivery params.leaseToken params.deliveryKey).map some
  else none

/-- `withOwnedDelivery`: the reminder is sent while the locks are held. -/
def withOwnedDelivery (params : OwnedDeliveryParams) (send : OwnershipTx Unit) :
    OwnershipTx OwnedDeliveryResult := do
  lockOwnership params.platform params.externalUserId
  let mapping ← lockLink params.platform params.externalUserId
  match mapping with
  | none => do
    let tombstone ← latestTombstone params.platform params.externalUserId
    pure (.refused (if tombstone.isSome then "locally_unlinked" else "link_status_unknown"))
  | some link =>
    match link.linkState with
    | .confirmedRevoked => pure (.refused "link_revoked")
    | .locallyUnlinked => pure (.refused "locally_unlinked")
    | .temporarilyUnknown => pure (.refused "link_status_unknown")
    | .active =>
      if link.userId ≠ params.userId ∨ link.mappingGeneration ≠ params.mappingGeneration then
        pure (.refused "mapping_ownership_changed")
      else do
        let owned ← writeJob (ownJob params) params.jobId
        if owned.isNone then pure (.refused "lease_lost")
        else do
          send
          pure .authorized

/-- The delivery of a claimed job, which names its owner as the job does. -/
def deliver (claimed : ClaimedDelivery) : OwnershipTx Unit :=
  match claimed.job.userId, claimed.job.mappingGeneration with
  | some userId, some mappingGeneration => do
    let params : OwnedDeliveryParams := {
      platform := claimed.platform
      jobId := claimed.job.id
      leaseToken := claimed.leaseToken
      externalUserId := claimed.job.externalUserId
      userId := userId
      mappingGeneration := mappingGeneration
      deliveryKey := claimed.deliveryKey }
    let _ ← withOwnedDelivery params (.call claimed fun _ => pure ())
  | _, _ => pure ()

end OwnershipTx

end WispaceBot
