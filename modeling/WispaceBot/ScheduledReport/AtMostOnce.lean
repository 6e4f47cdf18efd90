import WispaceBot.ScheduledReport.ClaimAndSend

/-!
# One report for a learner and a day

Calls of `claimAndSend` for one learner and one day run interleaved on the claim tables; each may
crash, and expired claims are given back beside them.  A call's own name serves as its lease token.

A claim whose lease runs out after the delivery and before the mark is given back without a trace
(`reported_twice`).  As long as no claim is given back whose call is still at work or has delivered,
the report is delivered at most once (`reported_at_most_once`).
-/

namespace WispaceBot

open Function Script

namespace ReportSystem

variable {ι ε : Type}

/-- The claim tables, and the calls whose delivery has returned `ok`. -/
structure Store (ι : Type) where
  claims : ReportClaims ι
  delivered : List ι

/-- What the surroundings answer at a call. -/
structure Input (ε : Type) where
  (now leaseMs : ℤ)
  logged : Bool
  generated : Except ε String
  result : Except ε ReportDeliveryResult
  queued : Bool

/-- The statements of `releaseExpiredScheduledReportClaims`. -/
inductive Expiry
  | legacy (platform : Platform) (now olderThan : ℤ)
  | learner (now olderThan : ℤ)

/-- A delivery that has returned `ok` is noted. -/
def Store.note (s : Store ι) (i : ι) : Except ε ReportDeliveryResult → Store ι
  | .ok (.ok _) => { s with delivered := s.delivered ++ [i] }
  | _ => s

/-- How the calls of `claimAndSend` are served; the database makes no errors. -/
def serve [DecidableEq ι] (i : ι) : (c : ReportCall ι) → Input ε → Store ι →
    Option (Except ε c.Answer × Store ι)
  | .hasSentScheduledReportOn params, _, s =>
    some (.ok (s.claims.hasSentScheduledReportOn params), s)
  | .hasLoggedScheduledReportOn params, input, s =>
    some (.ok (s.claims.learnerSent params || input.logged), s)
  | .hasAnyPlatformSentReportOn userId reportDate, _, s =>
    some (.ok (s.claims.hasAnyPlatformSentReportOn userId reportDate), s)
  | .tryClaimScheduledReport params, input, s =>
    match s.claims.tryClaimScheduledReport params i input.now input.leaseMs with
    | some (claimed, claims) => some (.ok (some claimed), { s with claims := claims })
    | none => some (.ok none, s)
  | .markScheduledReportClaimSent params token record key outcome, input, s =>
    let r := s.claims.markScheduledReportClaimSent params token record key outcome input.now
    some (.ok r.1, { s with claims := r.2 })
  | .releaseScheduledReportClaim params token, input, s =>
    let r := s.claims.releaseScheduledReportClaim params token input.now
    some (.ok r.1, { s with claims := r.2 })
  | .generateReport, input, s => some (input.generated, s)
  | .sendReport _ _, input, s => some (input.result, s.note i input.result)
  | .markSentByExternalUserExamDate _ _ _, _, s => some (.ok (), s)
  | .recordRetryableFailure _, input, s => some (.ok input.queued, s)

def happen : Expiry → Store ι → Option (Store ι)
  | .legacy platform now olderThan, s =>
    some { s with claims := s.claims.releaseExpiredLegacy platform now olderThan }
  | .learner now olderThan, s =>
    some { s with claims := s.claims.releaseExpiredLearner now olderThan }

/-- A call for the learner and the day, of the service of Discord and Zalo or of Messenger's. -/
inductive Request (ε : Type)
  | shared (config : ReportOrchestration.Config ε) (platform : Platform)
      (externalUserId : String) (opts : ReportOrchestration.Options ε)
  | messenger (config : MessengerReportOrchestration.Config ε) (externalUserId : String)
      (opts : MessengerReportOrchestration.Options)

/-- The call, for a user and a date and with `skipAlreadySentToday`. -/
def Request.script (userId : ℤ) (reportDate : String) :
    Request ε → ReportScript ι ε ClaimAndSendResult
  | .shared config platform externalUserId opts =>
    ReportOrchestration.claimAndSend config ⟨platform, externalUserId, some userId⟩
      { opts with reportDate := reportDate, skipAlreadySentToday := true }
  | .messenger config externalUserId opts =>
    MessengerReportOrchestration.claimAndSend config ⟨.messenger, externalUserId, some userId⟩
      { opts with reportDate := reportDate, skipAlreadySentToday := true }

abbrev State (ι ε : Type) :=
  Crew ι (Store ι) (ReportCall ι) ReportCall.Answer ε ClaimAndSendResult

abbrev Event (ι ε : Type) := Crew.Event ι (Input ε) Expiry

def step [DecidableEq ι] (s : State ι ε) (event : Event ι ε) : Option (State ι ε) :=
  Crew.step serve happen s event

def init (claims : ReportClaims ι) (userId : ℤ) (reportDate : String)
    (requests : ι → Request ε) : State ι ε where
  shared := ⟨claims, []⟩
  scripts := fun i => some ((requests i).script userId reportDate)

/-! ## What a call may do -/

/-- How far a call has got with the learner's claim. -/
inductive Phase
  | started
  | holding
  /-- It has the claim, and its delivery has returned `ok`. -/
  | delivered
  | closed

variable (userId : ℤ) (reportDate : String)

def IsFor (params : ReportClaimParams) : Prop :=
  params.userId = some userId ∧ params.reportDate = reportDate

def monitor (i : ι) : Monitor (ReportCall ι) ReportCall.Answer ε Phase where
  allowed := fun phase c => match c with
    | .tryClaimScheduledReport params => phase = .started ∧ IsFor userId reportDate params
    | .markScheduledReportClaimSent params token _ _ _ =>
      (phase = .holding ∨ phase = .delivered) ∧ token = i ∧ IsFor userId reportDate params
    | .releaseScheduledReportClaim params token =>
      phase = .holding ∧ token = i ∧ IsFor userId reportDate params
    | .sendReport _ _ => phase = .holding
    | _ => True
  possible := fun c answer => match c with
    | .generateReport => True
    | .sendReport _ _ => True
    | .tryClaimScheduledReport _ =>
      ∃ claim : Option (ClaimedReport ι), answer = .ok claim ∧
        ∀ claimed, claim = some claimed → claimed.leaseToken = i
    | _ => ∃ a, answer = .ok a
  after := fun phase c answer => match c, answer with
    | .tryClaimScheduledReport _, .ok (some _) => .holding
    | .markScheduledReportClaimSent .., _ => .closed
    | .releaseScheduledReportClaim _ _, _ => .closed
    | .sendReport _ _, .ok (.ok _) => .delivered
    | _, _ => phase

/-- The call neither touches the claim nor delivers, and does not fail. -/
def neutral : ReportCall ι → Bool
  | .hasSentScheduledReportOn _ => true
  | .hasLoggedScheduledReportOn _ => true
  | .hasAnyPlatformSentReportOn _ _ => true
  | .markSentByExternalUserExamDate _ _ _ => true
  | .recordRetryableFailure _ => true
  | _ => false

section Follows

variable {userId : ℤ} {reportDate : String} {i : ι} {phase : Phase} {par : ReportClaimParams}

/-- The script keeps to the monitor from this phase on and does not fail. -/
abbrev Keeps {α : Type} (userId : ℤ) (reportDate : String) (i : ι) (phase : Phase)
    (x : ReportScript ι ε α) : Prop :=
  x.Follows (monitor userId reportDate i) phase (fun _ _ => True) fun _ _ => False

lemma follows_neutral {c : ReportCall ι} (hc : neutral c = true) :
    (ReportScript.perform c : ReportScript ι ε c.Answer).Follows (monitor userId reportDate i)
      phase (fun _ q => q = phase) fun _ _ => False := by
  cases c with
  | tryClaimScheduledReport => cases hc
  | markScheduledReportClaimSent => cases hc
  | releaseScheduledReportClaim => cases hc
  | generateReport => cases hc
  | sendReport => cases hc
  | _ =>
    refine Follows.perform trivial (fun _ _ => rfl) ?_
    rintro _ ⟨_, ⟨⟩⟩

lemma follows_markOutbox {mapping : ReportMapping} {examDate : Option String} :
    (ReportScript.markOutbox mapping examDate : ReportScript ι ε Unit).Follows
      (monitor userId reportDate i) phase (fun _ q => q = phase) fun _ _ => False := by
  unfold ReportScript.markOutbox
  split
  · split
    · rfl
    · exact follows_neutral rfl
  · rfl

lemma follows_markClaim (hphase : phase = .holding ∨ phase = .delivered)
    (hparams : IsFor userId reportDate par) {rec key : Option String}
    {out : Option DeliveryOutcome} :
    (ReportScript.markClaim par (some i) rec key out : ReportScript ι ε Unit).Follows
      (monitor userId reportDate i) phase (fun _ q => q = .closed) fun _ _ => False := by
  refine Follows.bind (Follows.perform ⟨hphase, rfl, hparams⟩ (fun _ _ => rfl) ?_)
  rintro _ ⟨_, ⟨⟩⟩

lemma follows_releaseClaim (hparams : IsFor userId reportDate par) :
    (ReportScript.releaseClaim par (some i) : ReportScript ι ε Unit).Follows
      (monitor userId reportDate i) .holding (fun _ q => q = .closed) fun _ _ => False := by
  refine Follows.bind (Follows.perform ⟨rfl, rfl, hparams⟩ (fun _ _ => rfl) ?_)
  rintro _ ⟨_, ⟨⟩⟩

lemma follows_sendReport {text key : String} :
    (ReportScript.perform (.sendReport text key) :
        ReportScript ι ε ReportDeliveryResult).Follows (monitor userId reportDate i) .holding
      (fun result q => (q = .holding ∨ q = .delivered) ∧
        ((∀ out, result ≠ .ok out) → q = .holding)) fun _ q => q = .holding := by
  refine Follows.perform rfl ?_ fun _ _ => rfl
  intro result _
  cases result with
  | ok out => exact ⟨.inr rfl, fun hnot => absurd rfl (hnot out)⟩
  | rateLimited | refused => exact ⟨.inl rfl, fun _ => rfl⟩

/-- The claim, and what is done with it. -/
theorem keeps_claim {next : Option (ClaimedReport ι) → ReportScript ι ε ClaimAndSendResult}
    (hparams : IsFor userId reportDate par) (hnone : Keeps userId reportDate i .started (next none))
    (hsome : ∀ claimed, claimed.leaseToken = i →
      Keeps userId reportDate i .holding (next (some claimed))) :
    Keeps userId reportDate i .started
      (ReportScript.perform (.tryClaimScheduledReport par) >>= next) := by
  refine Follows.bind (Follows.perform ⟨rfl, hparams⟩ ?_ ?_)
  · rintro claim ⟨_, ⟨⟩, hclaim⟩
    cases claim with
    | none => exact hnone
    | some claimed => exact hsome claimed (hclaim claimed rfl)
  · rintro _ ⟨_, ⟨⟩, _⟩

/-! ### The service of Discord and Zalo -/

namespace Shared

open ReportOrchestration

variable {cfg : ReportOrchestration.Config ε} {mapping : ReportMapping}
  {opts : ReportOrchestration.Options ε}

lemma follows_queueRetry {msg : String} {cause : Option ReportRetryCause} :
    Keeps userId reportDate i phase (queueRetry cfg mapping opts msg cause) :=
  Follows.andThen (follows_neutral rfl) fun _ _ _ => trivial

lemma follows_alreadySent :
    (alreadySent cfg mapping opts : ReportScript ι ε Bool).Follows
      (monitor userId reportDate i) phase (fun _ q => q = phase) fun _ _ => False := by
  refine Follows.andThen (follows_neutral rfl) ?_
  rintro _ _ rfl
  split
  · exact Follows.andThen follows_markOutbox fun _ _ h => h
  · split
    · split
      · rfl
      · exact follows_neutral rfl
    · rfl

variable (hparams : IsFor userId reportDate (mapping.claimParams opts.reportDate))
include hparams

lemma follows_onGenerateError {error : ε} :
    Keeps userId reportDate i .holding (onGenerateError cfg mapping opts (some i) error) := by
  refine Follows.andThen (follows_releaseClaim hparams) ?_
  rintro _ _ rfl
  dsimp only
  split
  · exact follows_queueRetry
  · trivial

lemma follows_afterSend {result : ReportDeliveryResult}
    (hphase : phase = .holding ∨ phase = .delivered)
    (hhold : (∀ out, result ≠ .ok out) → phase = .holding) :
    Keeps userId reportDate i phase (afterSend cfg mapping opts (some i) result) := by
  cases result with
  | ok =>
    refine Follows.andThen (follows_markClaim hphase hparams) fun _ _ _ => ?_
    exact Follows.andThen follows_markOutbox fun _ _ _ => trivial
  | rateLimited => exact Follows.andThen (follows_markClaim hphase hparams) fun _ _ _ => trivial
  | refused =>
    obtain rfl := hhold nofun
    refine Follows.andThen (follows_releaseClaim hparams) ?_
    rintro _ _ rfl
    split
    · exact follows_queueRetry
    · split <;> trivial

lemma follows_send {text : String} :
    Keeps userId reportDate i .holding (send cfg mapping opts (some i) text) := by
  refine Follows.tryCatch (Follows.bind (follows_sendReport.imp ?_ ?_))
  · intro _ _ hphase
    exact (follows_afterSend hparams hphase.1 hphase.2).imp (fun _ _ h => h) fun _ _ h => h.elim
  · rintro _ _ rfl
    refine Follows.andThen (follows_releaseClaim hparams) ?_
    rintro _ _ rfl
    dsimp only
    split
    · exact follows_queueRetry
    · trivial

lemma follows_claimAndSend (hskip : opts.skipAlreadySentToday = true) :
    Keeps userId reportDate i .started (claimAndSend cfg mapping opts) := by
  unfold claimAndSend
  rw [if_pos hskip]
  split
  · trivial
  refine Follows.andThen follows_alreadySent ?_
  rintro _ _ rfl
  split
  · trivial
  refine keeps_claim hparams trivial ?_
  rintro _ rfl
  dsimp only
  split
  · unfold generateAndSend
    split
    · refine ⟨trivial, fun ans _ => ?_⟩
      cases ans with
      | ok => exact follows_send hparams
      | error => exact follows_onGenerateError hparams
    · exact follows_send hparams
  · exact Follows.andThen (follows_markClaim (.inl rfl) hparams) fun _ _ _ => trivial

end Shared

/-! ### The service of Messenger -/

namespace Messenger

open MessengerReportOrchestration

variable {cfg : MessengerReportOrchestration.Config ε} {mapping : ReportMapping}
  {opts : MessengerReportOrchestration.Options}
  (hparams : IsFor userId reportDate (mapping.claimParams opts.reportDate))
include hparams

lemma follows_burn {out : Option DeliveryOutcome} :
    Keeps (ε := ε) userId reportDate i .holding (burn mapping opts (some i) out) := by
  refine Follows.andThen (follows_markClaim (.inl rfl) hparams) fun _ _ _ => ?_
  exact Follows.andThen follows_markOutbox fun _ _ _ => trivial

lemma follows_giveUp {error : ε} :
    Keeps userId reportDate i .holding (giveUp cfg mapping opts (some i) error) := by
  refine Follows.andThen (follows_releaseClaim hparams) ?_
  rintro _ _ rfl
  split
  · dsimp only
    split
    · split
      · trivial
      · exact Follows.andThen (follows_neutral rfl) fun _ _ _ => trivial
    · trivial
  · split <;> trivial

lemma follows_send : Keeps userId reportDate i .holding (send cfg mapping opts (some i)) := by
  refine Follows.tryCatch (Follows.bind (follows_sendReport.imp ?_ ?_))
  · intro result _ hphase
    refine Follows.imp (R := fun _ _ => False) ?_ (fun _ _ h => h) fun _ _ h => h.elim
    cases result with
    | ok =>
      refine Follows.andThen (follows_markClaim hphase.1 hparams) fun _ _ _ => ?_
      exact Follows.andThen follows_markOutbox fun _ _ _ => trivial
    | rateLimited =>
      exact Follows.andThen (follows_markClaim hphase.1 hparams) fun _ _ _ => trivial
    | refused =>
      obtain rfl := hphase.2 nofun
      exact Follows.andThen (follows_releaseClaim hparams) fun _ _ _ => trivial
  · rintro _ _ rfl
    unfold onSendError
    split
    · exact follows_burn hparams
    · split
      · exact follows_burn hparams
      · exact follows_giveUp hparams

lemma follows_claimAndSend (hskip : opts.skipAlreadySentToday = true) :
    Keeps userId reportDate i .started (claimAndSend cfg mapping opts) := by
  unfold claimAndSend
  split
  · trivial
  split
  · trivial
  refine Follows.andThen (follows_neutral rfl) ?_
  rintro _ _ rfl
  split
  · exact Follows.andThen follows_markOutbox fun _ _ _ => trivial
  refine keeps_claim hparams trivial ?_
  rintro _ rfl
  dsimp only
  split
  · exact follows_send hparams
  · exact Follows.andThen (follows_markClaim (.inl rfl) hparams) fun _ _ _ => trivial

end Messenger

lemma follows_script (req : Request ε) :
    (req.script userId reportDate).Follows (monitor userId reportDate i) .started
      (fun _ _ => True) fun _ _ => True := by
  cases req with
  | shared =>
    refine Follows.imp (Shared.follows_claimAndSend ⟨?_, ?_⟩ ?_) (fun _ _ h => h)
      fun _ _ h => h.elim <;> rfl
  | messenger =>
    refine Follows.imp (Messenger.follows_claimAndSend ⟨?_, ?_⟩ ?_) (fun _ _ h => h)
      fun _ _ h => h.elim <;> rfl

end Follows

/-! ## The claim and the calls -/

section Invariant

variable [DecidableEq ι] {userId : ℤ} {reportDate : String}

def Leased (userId : ℤ) (reportDate : String) (s : Store ι) (i : ι) : Prop :=
  ∃ row, s.claims.claimOf userId reportDate = some row ∧ row.leasedBy i = true

def Sent (userId : ℤ) (reportDate : String) (s : Store ι) : Prop :=
  ∃ row, s.claims.claimOf userId reportDate = some row ∧ row.status = .sent

/-- A call that needs the claim has it, and there was at most one delivery. -/
structure Tied (userId : ℤ) (reportDate : String) (s : Store ι) (phase : ι → Phase)
    (work : ι → Bool) : Prop where
  holding : ∀ i, phase i = .holding → work i = true → Leased userId reportDate s i
  pending : ∀ i, phase i = .delivered → Leased userId reportDate s i
  only : ∀ i, phase i = .delivered → s.delivered = [i]
  once : s.delivered = [] ∨
    ∃ i, s.delivered = [i] ∧ (Sent userId reportDate s ∨ phase i = .delivered)

lemma Leased.unique {s : Store ι} {i j : ι} (hi : Leased userId reportDate s i)
    (hj : Leased userId reportDate s j) : i = j := by
  obtain ⟨row, hrow, hlsd⟩ := hi
  obtain ⟨row', hrow', hlsd'⟩ := hj
  obtain rfl : row = row' := Option.some.inj (hrow.symm.trans hrow')
  have htoken := (of_decide_eq_true hlsd).2
  have htoken' := (of_decide_eq_true hlsd').2
  exact Option.some.inj (htoken.symm.trans htoken')

lemma Leased.not_sent {s : Store ι} {i : ι} (hi : Leased userId reportDate s i) :
    ¬ Sent userId reportDate s := by
  rintro ⟨row, hrow, hsent⟩
  obtain ⟨row', hrow', hlsd⟩ := hi
  obtain rfl : row = row' := Option.some.inj (hrow.symm.trans hrow')
  have hcl := (of_decide_eq_true hlsd).1
  rw [hsent] at hcl
  cases hcl

variable {s : Store ι} {ph : ι → Phase} {work : ι → Bool} {i : ι}

section

variable (h : Tied userId reportDate s ph work)
include h

lemma Tied.delivered_eq_nil (hlsd : Leased userId reportDate s i)
    (hphase : ph i ≠ .delivered) : s.delivered = [] := by
  rcases h.once with hnil | ⟨j, -, hsent | hj⟩
  · exact hnil
  · exact absurd hsent hlsd.not_sent
  · have hji : j = i := (h.pending j hj).unique hlsd
    exact absurd (hji ▸ hj) hphase

lemma Tied.neutral (hwork : work i = true) (b : Bool) :
    Tied userId reportDate s (update ph i (ph i)) (update work i b) := by
  rw [update_eq_self]
  refine { h with holding := fun j hj hb => h.holding j hj ?_ }
  by_cases hji : j = i
  · rw [hji]
    exact hwork
  · rwa [update_of_ne hji] at hb

lemma Tied.move (claims : ReportClaims ι) (next : Phase)
    (hfree : ∀ j, j ≠ i → ¬ Leased userId reportDate s j) (hnext : next ≠ .delivered)
    (hhold : next = .holding → Leased userId reportDate { s with claims := claims } i)
    (honce : s.delivered = [] ∨ Sent userId reportDate { s with claims := claims }) (b : Bool) :
    Tied userId reportDate { s with claims := claims } (update ph i next) (update work i b) := by
  have hnone : ∀ j, update ph i next j ≠ .delivered := by
    refine (forall_update_iff ph fun _ q => q ≠ .delivered).mpr ⟨hnext, ?_⟩
    exact fun j hji hj => hfree j hji (h.pending j hj)
  refine ⟨?_, fun j hj => absurd hj (hnone j), fun j hj => absurd hj (hnone j), ?_⟩
  · intro j hj hb
    by_cases hji : j = i
    · subst hji
      rw [update_self] at hj
      exact hhold hj
    · rw [update_of_ne hji] at hj hb
      exact absurd (h.holding j hj hb) (hfree j hji)
  · rcases honce with hnil | hsent
    · exact .inl hnil
    · exact h.once.imp_right fun ⟨j, hj, _⟩ => ⟨j, hj, .inl hsent⟩

end

variable {par : ReportClaimParams}

section

variable (h : Tied userId reportDate s ph work)
include h

lemma Tied.claim (hfor : IsFor userId reportDate par) {now ms : ℤ} {claimed : ClaimedReport ι}
    {claims : ReportClaims ι}
    (hclaim : s.claims.tryClaimScheduledReport par i now ms = some (claimed, claims)) (b : Bool) :
    Tied userId reportDate { s with claims := claims } (update ph i .holding)
      (update work i b) := by
  obtain ⟨huser, rfl⟩ := hfor
  obtain ⟨hpre, hafter⟩ := ReportClaims.claimOf_tryClaim huser hclaim
  have hfree : ∀ j, ¬ Leased userId par.reportDate s j := by
    rintro j ⟨row, hrow, hlsd⟩
    have hcl := (of_decide_eq_true hlsd).1
    rw [hpre row hrow] at hcl
    cases hcl
  refine h.move claims .holding (fun j _ => hfree j) nofun (fun _ => hafter) ?_ b
  rcases h.once with hnil | ⟨j, -, ⟨row, hrow, hsent⟩ | hj⟩
  · exact .inl hnil
  · rw [hpre row hrow] at hsent
    cases hsent
  · exact absurd (h.pending j hj) (hfree j)

lemma Tied.mark (hfor : IsFor userId reportDate par) (hlsd : Leased userId reportDate s i)
    (rec key : Option String) (out : Option DeliveryOutcome) (now : ℤ) (b : Bool) :
    Tied userId reportDate
      { s with claims :=
          (s.claims.markScheduledReportClaimSent par i rec key out now).2 }
      (update ph i .closed) (update work i b) := by
  obtain ⟨huser, rfl⟩ := hfor
  have hfree : ∀ j, j ≠ i → ¬ Leased userId par.reportDate s j :=
    fun j hj hother => hj (hother.unique hlsd)
  obtain ⟨row, hrow, hrowLeased⟩ := hlsd
  refine h.move _ .closed hfree nofun nofun (.inr ⟨row.marked rec key out now, ?_, rfl⟩) b
  have hset : ∀ row : ReportClaim ℤ ι,
      (row.marked rec key out now).learnerKey = row.learnerKey := fun _ => rfl
  exact ReportClaims.claimOf_writeLeased hset huser hrow hrowLeased

lemma Tied.release (hlsd : Leased userId reportDate s i) (hphase : ph i = .holding) (now : ℤ)
    (b : Bool) :
    Tied userId reportDate
      { s with claims := (s.claims.releaseScheduledReportClaim par i now).2 }
      (update ph i .closed) (update work i b) := by
  have hfree : ∀ j, j ≠ i → ¬ Leased userId reportDate s j :=
    fun j hj hother => hj (hother.unique hlsd)
  have hnil : s.delivered = [] := h.delivered_eq_nil hlsd (by rw [hphase]; nofun)
  exact h.move _ .closed hfree nofun nofun (.inl hnil) b

lemma Tied.deliver (hlsd : Leased userId reportDate s i) (hphase : ph i = .holding) (b : Bool) :
    Tied userId reportDate { s with delivered := s.delivered ++ [i] }
      (update ph i .delivered) (update work i b) := by
  have hnil : s.delivered = [] := h.delivered_eq_nil hlsd (by rw [hphase]; nofun)
  have hself : ∀ j, update ph i .delivered j = .delivered → j = i := by
    intro j hj
    by_contra hji
    rw [update_of_ne hji] at hj
    exact hji ((h.pending j hj).unique hlsd)
  refine ⟨?_, ?_, ?_, ?_⟩
  · intro j hj hb
    by_cases hji : j = i
    · subst hji
      exact hlsd
    · rw [update_of_ne hji] at hj hb
      exact h.holding j hj hb
  · intro j hj
    rw [hself j hj]
    exact hlsd
  · intro j hj
    rw [hself j hj]
    simp [hnil]
  · exact .inr ⟨i, by simp [hnil], .inr (update_self _ _ _)⟩

end

/-- The clock gives back no claim of a call that is still at work or has delivered. -/
def Spares (userId : ℤ) (reportDate : String) (s : Store ι) (work : ι → Bool) : Expiry → Prop
  | .legacy _ _ _ => True
  | .learner now olderThan => ∀ row, s.claims.claimOf userId reportDate = some row →
      row.expired now olderThan = true →
        ∀ i, row.leaseToken = some i → work i = false ∧ i ∉ s.delivered

lemma Tied.expire (h : Tied userId reportDate s ph work) {now olderThan : ℤ}
    (hspare : Spares userId reportDate s work (.learner now olderThan)) :
    Tied userId reportDate { s with claims := s.claims.releaseExpiredLearner now olderThan }
      ph work := by
  have hclaim := ReportClaims.claimOf_releaseExpiredLearner s.claims now olderThan userId reportDate
  -- a claim that a call needs does not expire, and one that is marked cannot
  have hkeeps : ∀ j, (work j = true ∨ j ∈ s.delivered) → Leased userId reportDate s j →
      Leased userId reportDate
        { s with claims := s.claims.releaseExpiredLearner now olderThan } j := by
    rintro j hneeds ⟨row, hrow, hlsd⟩
    have hnot : row.expired now olderThan = false := by
      by_contra hexp
      rw [Bool.not_eq_false] at hexp
      obtain ⟨hidle, hnever⟩ := hspare row hrow hexp j (of_decide_eq_true hlsd).2
      rcases hneeds with hwork | hmem
      · rw [hidle] at hwork
        cases hwork
      · exact hnever hmem
    refine ⟨row, ?_, hlsd⟩
    rw [hclaim, hrow, Option.map_some, hnot]
    rfl
  have hsent : Sent userId reportDate s → Sent userId reportDate
      { s with claims := s.claims.releaseExpiredLearner now olderThan } := by
    rintro ⟨row, hrow, hsent⟩
    refine ⟨row, ?_, hsent⟩
    rw [hclaim, hrow, Option.map_some]
    simp [ReportClaim.expired, hsent]
  refine ⟨?_, ?_, h.only, ?_⟩
  · exact fun j hj hwork => hkeeps j (.inl hwork) (h.holding j hj hwork)
  · intro j hj
    refine hkeeps j (.inr ?_) (h.pending j hj)
    rw [h.only j hj]
    exact List.mem_singleton_self j
  · rcases h.once with hnil | ⟨j, hj, hor⟩
    · exact .inl hnil
    · exact .inr ⟨j, hj, hor.imp_left hsent⟩

lemma kept_tied : Crew.Kept (monitor userId reportDate) (serve (ε := ε)) happen
    (fun _ _ _ _ => True) (Spares userId reportDate) (Tied (ι := ι) userId reportDate) where
  possible := by
    intro i c input s ans t hserve
    cases c with
    | generateReport => trivial
    | sendReport => trivial
    | tryClaimScheduledReport =>
      simp only [serve] at hserve
      split at hserve
      next claimed claims hclaim =>
        obtain ⟨⟩ := hserve
        refine ⟨some claimed, rfl, ?_⟩
        rintro _ ⟨⟩
        exact ReportClaims.leaseToken_of_tryClaim hclaim
      · obtain ⟨⟩ := hserve
        exact ⟨none, rfl, nofun⟩
    | _ =>
      obtain ⟨⟩ := hserve
      exact ⟨_, rfl⟩
  call := by
    intro s ph work i c input _ t h hwork hallow _ hserve b
    cases c with
    | tryClaimScheduledReport =>
      simp only [serve] at hserve
      split at hserve
      next _ _ hclaim =>
        obtain ⟨⟩ := hserve
        exact h.claim hallow.2 hclaim b
      · obtain ⟨⟩ := hserve
        exact h.neutral hwork b
    | markScheduledReportClaimSent _ tok rec key out =>
      obtain ⟨⟩ := hserve
      obtain ⟨hphase, rfl, hfor⟩ := hallow
      have hlsd : Leased userId reportDate s tok :=
        hphase.elim (fun hhold => h.holding tok hhold hwork) (h.pending tok)
      exact h.mark hfor hlsd rec key out input.now b
    | releaseScheduledReportClaim _ tok =>
      obtain ⟨⟩ := hserve
      obtain ⟨hphase, rfl, -⟩ := hallow
      exact h.release (h.holding tok hphase hwork) hphase input.now b
    | sendReport =>
      obtain ⟨⟩ := hserve
      have hlsd := h.holding i hallow hwork
      match input.result with
      | .ok (.ok out) => exact h.deliver hlsd hallow b
      | .ok .rateLimited => exact h.neutral hwork b
      | .ok (.refused reason) => exact h.neutral hwork b
      | .error e => exact h.neutral hwork b
    | _ =>
      obtain ⟨⟩ := hserve
      exact h.neutral hwork b
  stop := by
    intro s ph work i h
    refine { h with holding := fun j hj hwork => h.holding j hj ?_ }
    by_cases hji : j = i
    · subst hji
      rw [update_self] at hwork
      cases hwork
    · rwa [update_of_ne hji] at hwork
  other := by
    intro _ _ _ event _ h hspare hhappen
    cases event with
    | legacy =>
      obtain ⟨⟩ := hhappen
      exact ⟨h.holding, h.pending, h.only, h.once⟩
    | learner =>
      obtain ⟨⟩ := hhappen
      exact h.expire hspare

end Invariant

variable [DecidableEq ι]

/-- Whether the clock spares the calls can be computed. -/
instance (userId : ℤ) (reportDate : String) (s : Store ι) (work : ι → Bool) (event : Expiry) :
    Decidable (Spares userId reportDate s work event) := by
  unfold Spares
  split <;> infer_instance

/-- If the clock gives back no claim of a call that is at work or has delivered, a learner gets at
most one report for a date, from all bots together. -/
theorem reported_at_most_once (claims : ReportClaims ι) (userId : ℤ) (reportDate : String)
    (requests : ι → Request ε) {events : List (Event ι ε)} {s : State ι ε}
    (hspares : Transition.Along step (Crew.Meets (fun _ _ _ _ => True) (Spares userId reportDate))
      (init claims userId reportDate requests) events)
    (hrun : Transition.run step (init claims userId reportDate requests) events = some s) :
    s.shared.delivered.length ≤ 1 := by
  have hinit : (init claims userId reportDate requests).Obeys (monitor userId reportDate)
      (Tied userId reportDate) := by
    refine ⟨fun _ => .started, ?_, nofun, nofun, nofun, .inl rfl⟩
    intro i _ hscr
    obtain ⟨⟩ := hscr
    exact follows_script (requests i)
  obtain ⟨_, -, htied⟩ := Crew.Obeys.run kept_tied hinit hspares hrun
  rcases htied.once with hnil | ⟨_, hone, -⟩
  · simp [hnil]
  · simp [hone]

/-- Two bots have a report for learner 7: one on Discord and one on Zalo. -/
def twoBots (zalo : Bool) : Request Unit :=
  .shared ⟨true, ⟨3, 15⟩, fun _ => "error"⟩ (if zalo then .zalo else .discord)
    (if zalo then "z-7" else "d-7")
    { reportDate := ""
      skipAlreadySentToday := true
      reportText := "report"
      examDateForOutbox := none
      classifyError := none
      generates := false
      allowUserIdLess := false }

def delivering (zalo : Bool) (now : ℤ) : Event Bool Unit :=
  .call zalo ⟨now, 600000, false, .ok "report", .ok (.ok none), false⟩

/-- The claim of the bot that has delivered is marked, and the other bot finds it. -/
theorem reported_at_most_once_twoBots : ∃ s,
    Transition.run step (init ⟨[], []⟩ 7 "2026-08-07" twoBots)
      [delivering false 0, delivering false 0, delivering false 0, delivering false 1,
        delivering false 2, .other (.learner 600002 2), delivering true 600003] = some s ∧
    s.shared.delivered.length ≤ 1 :=
  Transition.exists_end (A := fun _ => True) (by decide +kernel) fun _ hrun _ =>
    reported_at_most_once ⟨[], []⟩ 7 "2026-08-07" twoBots (by decide +kernel) hrun

/-- The bot crashes between its delivery and its mark, and the clock gives the claim back. -/
theorem reported_twice : ∃ s, Transition.run step (init ⟨[], []⟩ 7 "2026-08-07" twoBots)
      [delivering false 0, delivering false 0, delivering false 0, delivering false 1,
        .stop false, .other (.learner 600002 2), delivering true 600003, delivering true 600003,
        delivering true 600003, delivering true 600004] = some s ∧
    s.shared.delivered = [false, true] := by
  decide +kernel

end ReportSystem

end WispaceBot
