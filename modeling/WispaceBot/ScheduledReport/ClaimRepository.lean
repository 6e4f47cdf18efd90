import Mathlib.Algebra.Order.Group.Int
import WispaceBot.Contracts
import WispaceBot.Foundation.Table

/-!
# Claims on scheduled reports

`PlatformReportClaimRepository` keeps the claims of learners in `learner_scheduled_report_claims`,
one row for a user and a date, and looks at the older `scheduled_report_claims` where there is no
user.  A claim is taken under a new lease token, marked `sent` or given back with it, and given back
by the clock when its lease has run out.  The learner table is there; tokens are of any type `τ`.
-/

namespace WispaceBot

open Table

/-- `ScheduledReportClaimStatus`. -/
inductive ReportClaimStatus
  | claimed
  | sent
  | released
  deriving DecidableEq

/-- A row of a claim table; the user is of type `υ`. -/
structure ReportClaim (υ τ : Type) where
  userId : υ
  reportDate : String
  platform : Platform
  externalUserId : String
  status : ReportClaimStatus
  leaseToken : Option τ
  leaseExpiresAt : Option ℤ
  (deliveryRecord deliveryKey : Option String)
  deliveryStatus : Option DeliveryOutcome
  updatedAt : ℤ

structure ReportClaims (τ : Type) where
  learner : List (ReportClaim ℤ τ)
  legacy : List (ReportClaim (Option ℤ) τ)

/-- The parameters of a claim, with the platform of the repository. -/
structure ReportClaimParams where
  platform : Platform
  externalUserId : String
  userId : Option ℤ
  reportDate : String

/-- The columns `tryClaimScheduledReport` returns. -/
structure ClaimedReport (τ : Type) where
  leaseToken : τ
  (deliveryRecord deliveryKey : Option String)

namespace ReportClaim

variable {υ τ : Type} [DecidableEq τ]

def learnerKey (row : ReportClaim ℤ τ) : ℤ × String :=
  (row.userId, row.reportDate)

def legacyKey (row : ReportClaim (Option ℤ) τ) : Platform × String × String :=
  (row.platform, row.externalUserId, row.reportDate)

def claimed (params : ReportClaimParams) (userId : υ) (token : τ) (now leaseMs : ℤ) :
    ReportClaim υ τ where
  userId := userId
  reportDate := params.reportDate
  platform := params.platform
  externalUserId := params.externalUserId
  status := .claimed
  leaseToken := some token
  leaseExpiresAt := some (now + leaseMs)
  deliveryRecord := none
  deliveryKey := none
  deliveryStatus := none
  updatedAt := now

/-- A claim that was given back is claimed again; the columns of the delivery are kept. -/
def reclaimed (new row : ReportClaim υ τ) : ReportClaim υ τ :=
  { row with
    status := .claimed
    leaseToken := new.leaseToken
    leaseExpiresAt := new.leaseExpiresAt
    updatedAt := new.updatedAt }

/-- The update of the learner table, which may give the claim to another account of the user. -/
def learnerReclaimed (new row : ReportClaim ℤ τ) : ReportClaim ℤ τ :=
  { reclaimed new row with
    platform := new.platform
    externalUserId := new.externalUserId }

def legacyReclaimed (new row : ReportClaim (Option ℤ) τ) : ReportClaim (Option ℤ) τ :=
  { reclaimed new row with userId := new.userId }

/-- The clause `status = 'claimed' AND lease_token = …`. -/
def leasedBy (token : τ) (row : ReportClaim υ τ) : Bool :=
  decide (row.status = .claimed ∧ row.leaseToken = some token)

/-- The columns `markScheduledReportClaimSent` writes. -/
def marked (record key : Option String) (outcome : Option DeliveryOutcome) (now : ℤ)
    (row : ReportClaim υ τ) : ReportClaim υ τ :=
  { row with
    status := .sent
    deliveryRecord := record.orElse fun _ => row.deliveryRecord
    deliveryKey := key.orElse fun _ => row.deliveryKey
    deliveryStatus := outcome.orElse fun _ => row.deliveryStatus
    updatedAt := now }

def givenBack (now : ℤ) (row : ReportClaim υ τ) : ReportClaim υ τ :=
  { row with status := .released, updatedAt := now }

/-- The clause of `releaseExpiredScheduledReportClaims`. -/
def expired (now olderThan : ℤ) (row : ReportClaim υ τ) : Bool :=
  decide (row.status = .claimed) &&
    match row.leaseExpiresAt with
    | some expiry => decide (expiry < now)
    | none => decide (row.updatedAt < olderThan)

def returned (row : ReportClaim υ τ) (token : τ) : ClaimedReport τ :=
  ⟨token, row.deliveryRecord, row.deliveryKey⟩

end ReportClaim

namespace ReportClaims

variable {τ : Type} [DecidableEq τ]

open ReportClaim

section

variable (params : ReportClaimParams)

/-- The learner has a claim that was sent, for the user or, without one, for the account. -/
def learnerSent (claims : ReportClaims τ) : Bool :=
  claims.learner.any fun row =>
    decide (row.reportDate = params.reportDate ∧ row.status = .sent) &&
      match params.userId with
      | some userId => decide (row.userId = userId)
      | none => decide (row.platform = params.platform ∧
          row.externalUserId = params.externalUserId)

/-- A row of the older table is about the account and the date, and does not name another user. -/
def legacyMatches (row : ReportClaim (Option ℤ) τ) : Bool :=
  decide (row.platform = params.platform ∧ row.externalUserId = params.externalUserId ∧
      row.reportDate = params.reportDate) &&
    params.userId.all fun userId => row.userId.all fun other => decide (other = userId)

def hasSentScheduledReportOn (claims : ReportClaims τ) : Bool :=
  claims.learnerSent params ||
    claims.legacy.any fun row => legacyMatches params row && decide (row.status = .sent)

end

def hasAnyPlatformSentReportOn (userId : ℤ) (reportDate : String) (claims : ReportClaims τ) :
    Bool :=
  (claims.legacy.any fun row =>
    decide (row.userId = some userId ∧ row.reportDate = reportDate ∧ row.status = .sent)) ||
  claims.learner.any fun row =>
    decide (row.userId = userId ∧ row.reportDate = reportDate ∧ row.status = .sent)

section

variable (params : ReportClaimParams)

/-- The insertion into the learner table: `none` if no row is returned. -/
def tryClaimLearner (userId : ℤ) (token : τ) (now leaseMs : ℤ) (claims : ReportClaims τ) :
    Option (ClaimedReport τ × ReportClaims τ) :=
  let new := claimed params userId token now leaseMs
  -- the `WHERE NOT EXISTS` of the `SELECT` that is inserted
  if claims.legacy.any fun row => legacyMatches params row &&
      decide (row.status = .claimed ∨ row.status = .sent) then
    none
  else match lookup learnerKey (userId, params.reportDate) claims.learner with
    | none => some (new.returned token, { claims with learner := claims.learner ++ [new] })
    | some row =>
      if row.status = .released then
        some (row.returned token, { claims with
          learner := updateWhere
            (fun other => decide (other.learnerKey = (userId, params.reportDate)))
            (learnerReclaimed new) claims.learner })
      else none

section

variable (token : τ)

/-- The insertion into the older table, for an account without a user. -/
def tryClaimLegacy (now leaseMs : ℤ) (claims : ReportClaims τ) :
    Option (ClaimedReport τ × ReportClaims τ) :=
  let new := claimed params none token now leaseMs
  match lookup legacyKey new.legacyKey claims.legacy with
  | none => some (new.returned token, { claims with legacy := claims.legacy ++ [new] })
  | some row =>
    if row.status = .released then
      some (row.returned token, { claims with
        legacy := updateWhere (fun other => decide (other.legacyKey = new.legacyKey))
          (legacyReclaimed new) claims.legacy })
    else none

def tryClaimScheduledReport (now leaseMs : ℤ) (claims : ReportClaims τ) :
    Option (ClaimedReport τ × ReportClaims τ) :=
  match params.userId with
  | some userId => claims.tryClaimLearner params userId token now leaseMs
  | none => claims.tryClaimLegacy params token now leaseMs

def learnerLeased (row : ReportClaim ℤ τ) : Bool :=
  decide (some row.userId = params.userId ∧ row.reportDate = params.reportDate) &&
    row.leasedBy token

def legacyLeased (row : ReportClaim (Option ℤ) τ) : Bool :=
  decide (row.platform = params.platform ∧ row.externalUserId = params.externalUserId ∧
      row.reportDate = params.reportDate) &&
    params.userId.all (fun userId => decide (row.userId = some userId)) && row.leasedBy token

def writeLeased (learnerSet : ReportClaim ℤ τ → ReportClaim ℤ τ)
    (legacySet : ReportClaim (Option ℤ) τ → ReportClaim (Option ℤ) τ) (claims : ReportClaims τ) :
    Bool × ReportClaims τ :=
  if claims.learner.any (learnerLeased params token) then
    (true, { claims with
      learner := updateWhere (learnerLeased params token) learnerSet claims.learner })
  else
    (claims.legacy.any (legacyLeased params token), { claims with
      legacy := updateWhere (legacyLeased params token) legacySet claims.legacy })

def markScheduledReportClaimSent (record key : Option String) (outcome : Option DeliveryOutcome)
    (now : ℤ) (claims : ReportClaims τ) : Bool × ReportClaims τ :=
  claims.writeLeased params token (marked record key outcome now) (marked record key outcome now)

def releaseScheduledReportClaim (now : ℤ) (claims : ReportClaims τ) : Bool × ReportClaims τ :=
  claims.writeLeased params token (givenBack now) (givenBack now)

end

end

/-- The first statement of `releaseExpiredScheduledReportClaims`. -/
def releaseExpiredLegacy (platform : Platform) (now olderThan : ℤ) (claims : ReportClaims τ) :
    ReportClaims τ :=
  { claims with
    legacy := updateWhere
      (fun row => decide (row.platform = platform) && row.expired now olderThan)
      (givenBack now) claims.legacy }

/-- The second statement of `releaseExpiredScheduledReportClaims`. -/
def releaseExpiredLearner (now olderThan : ℤ) (claims : ReportClaims τ) : ReportClaims τ :=
  { claims with
    learner := updateWhere (fun row => row.expired now olderThan) (givenBack now) claims.learner }

def claimOf (claims : ReportClaims τ) (userId : ℤ) (reportDate : String) :
    Option (ReportClaim ℤ τ) :=
  lookup learnerKey (userId, reportDate) claims.learner

/-! ## The claim of one learner -/

variable {claims : ReportClaims τ} {par : ReportClaimParams} {uid : ℤ} {tok : τ}
  {ans : ClaimedReport τ} {after : ReportClaims τ}

omit [DecidableEq τ] in
lemma leaseToken_of_tryClaim {now ms : ℤ}
    (hclaim : claims.tryClaimScheduledReport par tok now ms = some (ans, after)) :
    ans.leaseToken = tok := by
  unfold tryClaimScheduledReport at hclaim
  split at hclaim
  · unfold tryClaimLearner at hclaim
    split at hclaim
    · cases hclaim
    split at hclaim
    · obtain ⟨⟩ := hclaim
      rfl
    · obtain ⟨-, heq⟩ := Option.ite_none_right_eq_some.mp hclaim
      obtain ⟨⟩ := heq
      rfl
  · simp only [tryClaimLegacy] at hclaim
    split at hclaim
    · obtain ⟨⟩ := hclaim
      rfl
    · obtain ⟨-, heq⟩ := Option.ite_none_right_eq_some.mp hclaim
      obtain ⟨⟩ := heq
      rfl

lemma claimOf_tryClaim {now ms : ℤ} (huser : par.userId = some uid)
    (hclaim : claims.tryClaimScheduledReport par tok now ms = some (ans, after)) :
    (∀ row, claims.claimOf uid par.reportDate = some row → row.status = .released) ∧
    ∃ row, after.claimOf uid par.reportDate = some row ∧ row.leasedBy tok = true := by
  simp only [tryClaimScheduledReport, huser, tryClaimLearner] at hclaim
  split at hclaim
  · cases hclaim
  have hkey : (claimed par uid tok now ms : ReportClaim ℤ τ).learnerKey =
      (uid, par.reportDate) := rfl
  split at hclaim
  next hnone =>
    obtain ⟨⟩ := hclaim
    refine ⟨?_, claimed par uid tok now ms, ?_, by simp [leasedBy, claimed]⟩
    · intro row hrow
      rw [claimOf, hnone] at hrow
      cases hrow
    · rw [claimOf, lookup_append_singleton, hnone, Option.none_or, if_pos hkey]
  next row hfound =>
    split at hclaim
    next hrel =>
      obtain ⟨⟩ := hclaim
      refine ⟨?_, learnerReclaimed (claimed par uid tok now ms) row, ?_,
        by simp [leasedBy, learnerReclaimed, reclaimed, claimed]⟩
      · intro _ hrow'
        rw [claimOf, hfound] at hrow'
        obtain ⟨⟩ := hrow'
        exact hrel
      · have hsel := key_of_lookup hfound
        have hset : ∀ other : ReportClaim ℤ τ,
            (learnerReclaimed (claimed par uid tok now ms) other).learnerKey =
              other.learnerKey := fun _ => rfl
        rw [claimOf, lookup_updateWhere hset, hfound]
        simp [hsel]
    · cases hclaim

lemma claimOf_writeLeased {learnerSet : ReportClaim ℤ τ → ReportClaim ℤ τ}
    {legacySet : ReportClaim (Option ℤ) τ → ReportClaim (Option ℤ) τ}
    (hset : ∀ row, (learnerSet row).learnerKey = row.learnerKey)
    (huser : par.userId = some uid) {row : ReportClaim ℤ τ}
    (hrow : claims.claimOf uid par.reportDate = some row) (hlsd : row.leasedBy tok = true) :
    (claims.writeLeased par tok learnerSet legacySet).2.claimOf uid par.reportDate =
      some (learnerSet row) := by
  have hkey : row.learnerKey = (uid, par.reportDate) := key_of_lookup hrow
  obtain ⟨hrowUser, hrowDate⟩ := Prod.mk.inj hkey
  have hsel : learnerLeased par tok row = true := by
    simp [learnerLeased, huser, hrowUser, hrowDate, hlsd]
  have hany : claims.learner.any (learnerLeased par tok) = true :=
    List.any_eq_true.mpr ⟨row, mem_of_lookup hrow, hsel⟩
  rw [writeLeased, if_pos hany, claimOf, lookup_updateWhere hset]
  rw [claimOf] at hrow
  rw [hrow, Option.map_some, if_pos hsel]

omit [DecidableEq τ] in
lemma claimOf_releaseExpiredLearner (claims : ReportClaims τ) (now olderThan : ℤ) (uid : ℤ)
    (day : String) :
    (claims.releaseExpiredLearner now olderThan).claimOf uid day =
      (claims.claimOf uid day).map fun row =>
        if row.expired now olderThan then givenBack now row else row := by
  have hset : ∀ row : ReportClaim ℤ τ, (givenBack now row).learnerKey = row.learnerKey :=
    fun _ => rfl
  exact lookup_updateWhere hset claims.learner

end ReportClaims

end WispaceBot
