import WispaceBot.Reschedule.Approval
import WispaceBot.Reschedule.RequestView

/-!
# The system refines the protocol of an approval

For every request the system has a view in the sense of `Approval`.  Each step is a move of the
protocol for each request (`RescheduleSystem.move_step`), provided that it does not put back a
claimed request that is confirmed or still held (`RescheduleSystem.RearmsSafely`).
-/

namespace WispaceBot

open List TypeormRescheduleStore TypeormRescheduleAttemptStore RescheduleRecoveryCron ConfirmPc
  Request ConfirmCall
open Approval (Phase Move Advances)

/-! ## What a process means for a request -/

/-- The claim a run of `confirm` works with. -/
def ConfirmPc.claim? : ConfirmPc → Option Claim
  | .consume claim | .lookup claim | .begin claim | .write claim | .record claim _
  | .cleanup claim _ | .clear claim _ | .refund claim _ | .drop claim => some claim
  | _ => none

/-- The lease and the phase of a run of `confirm` that has claimed its request. -/
def ConfirmPc.work? : ConfirmPc → Option (String × Phase)
  | .consume claim | .lookup claim => some (claim.leaseToken, .asking)
  | .begin claim => some (claim.leaseToken, .beginning)
  | .write claim => some (claim.leaseToken, .writing)
  | .record claim _ => some (claim.leaseToken, .recording)
  | .cleanup claim _ => some (claim.leaseToken, .leaving)
  | .clear claim _ => some (claim.leaseToken, .clearing)
  | .refund claim _ | .drop claim => some (claim.leaseToken, .failing)
  | .giveBack leaseToken _ => some (leaseToken, .failing)
  | _ => none

/-- The request a call of `confirm` is about. -/
def ConfirmCall.request (call : ConfirmCall) : Request :=
  ⟨call.platform, call.externalId, call.token⟩

def Proc.workFor (q : Request) : Proc → Option (String × Phase)
  | .confirm call pc => if call.request = q then pc.work? else none
  | _ => none

/-- The process is a call of `confirm` that holds the row. -/
def Proc.HoldsRow (r : RescheduleConfirmationEntity) : Proc → Prop
  | .confirm call pc => call.request.IsRow r ∧ pc.work?.any (fun work => decide work.2.Holds) = true
  | _ => False

instance (r : RescheduleConfirmationEntity) : ∀ p : Proc, Decidable (p.HoldsRow r)
  | .confirm _ _ => inferInstanceAs (Decidable (_ ∧ _))
  | .stage _ _ | .cancel _ _ | .recovery _ _ | .crashed => isFalse id

def RescheduleSystem.view (s : RescheduleSystem) (q : Request) : Approval.View ℕ String where
  staged := q ∈ s.requests
  pending := q.PendingIn s.db
  claimed := q.ClaimedIn s.db
  attempt := q.attemptIn s.db
  work i := s.procs[i]?.bind (Proc.workFor q)
  written := ∃ c ∈ s.writes, c.request = q ∧ c.returned = true

/-! ## The program counter -/

lemma ConfirmCall.afterTake_cases (opts : RescheduleConfirmationOptions)
    (pending : PendingRescheduleRecord) {tok nonce : String}
    (hlease : pending.leaseToken = some tok) (hnonce : pending.nonce = some nonce) :
    ((afterTake opts (some pending)).work? = some (tok, .asking) ∨
        (afterTake opts (some pending)).work? = some (tok, .failing) ∨
        (afterTake opts (some pending)).work? = none) ∧
      ∀ c, (afterTake opts (some pending)).claim? = some c → c.attemptNonce = nonce := by
  simp only [afterTake, hlease]
  split
  · exact ⟨.inr (.inr rfl), by simp [claim?]⟩
  · split
    · exact ⟨.inr (.inl rfl), by simp [claim?]⟩
    · split
      · exact ⟨.inl rfl, by simp [claim?, hnonce]⟩
      · exact ⟨.inl rfl, by simp [claim?, hnonce]⟩

def ConfirmPc.Keeps (pc : ConfirmPc) (claim : Claim) : Prop :=
  (∀ c, pc.claim? = some c → c = claim) ∧ ∀ l a, pc.work? = some (l, a) → l = claim.leaseToken

lemma ConfirmCall.afterRefund_work (claim : Claim) (cause : WriteFailure) :
    (afterRefund claim cause).work? = some (claim.leaseToken, .failing) := by
  cases cause <;> rfl

lemma ConfirmCall.afterRefund_keeps (claim : Claim) (cause : WriteFailure) :
    (afterRefund claim cause).Keeps claim := by
  cases cause <;> simp [afterRefund, Keeps, claim?, work?]

section

variable (options : RescheduleConfirmationOptions) (call : ConfirmCall) (env : Env)
  (db : RescheduleDb) {pc : ConfirmPc}
include options call env db

lemma ConfirmCall.step_keeps {claim : Claim} (h : pc.claim? = some claim) :
    (call.step options env db pc).2.Keeps claim := by
  cases pc with
  | consume c | lookup c | begin c | write c | record c _ | cleanup c _ | drop c =>
    obtain ⟨⟩ := h
    simp only [step]
    repeat' split
    all_goals simp [Keeps, claim?, work?]
  | clear c cause | refund c cause =>
    obtain rfl := Option.some.inj h
    simp only [step]
    split
    · simp [Keeps, claim?, work?]
    · exact afterRefund_keeps c cause
  | _ => simp [claim?] at h

lemma ConfirmCall.step_idle (hclaim : pc.claim? = none) (hpc : pc ≠ .take) :
    (call.step options env db pc).2.claim? = none ∧
      (call.step options env db pc).2.work? = none := by
  cases pc with
  | start | findRecorded | recheckState | giveBack _ _ | done _ =>
    simp only [step]
    repeat' split
    all_goals exact ⟨rfl, rfl⟩
  | take => exact absurd rfl hpc
  | _ => simp [claim?] at hclaim

end

lemma ConfirmCall.isRow_of_claimable {call : ConfirmCall} {now : ℤ}
    {r : RescheduleConfirmationEntity}
    (h : claimable call.platform now call.externalId call.userId call.claimBinding r = true) :
    call.request.IsRow r ∧ r.status = .pending := by
  simp only [claimable, bindingHolds, claimBinding, Option.all_some, Bool.and_eq_true,
    decide_eq_true_eq, beq_iff_eq] at h
  exact ⟨⟨h.1.1.1.1, h.2.2.symm⟩, h.1.1.1.2⟩

lemma ConfirmCall.step_take (opts : RescheduleConfirmationOptions) (call : ConfirmCall)
    (env : Env) {db : RescheduleDb} (hdb : db.WellFormed) :
    ((call.step opts env db .take).1 = db ∧ (call.step opts env db .take).2.claim? = none ∧
        (call.step opts env db .take).2.work? = none) ∨
      ∃ r ∈ db.confirmations, call.request.IsRow r ∧ r.status = .pending ∧
        (∀ r' ∈ (call.step opts env db .take).1.confirmations,
          r' = claimed env.now env.uuid r ∨
            (r' ∈ db.confirmations ∧ r'.externalId ≠ r.externalId)) ∧
        (call.step opts env db .take).1.attempts = db.attempts ∧
        ((call.step opts env db .take).2.work? = some (env.uuid, .asking) ∨
          (call.step opts env db .take).2.work? = some (env.uuid, .failing) ∨
          (call.step opts env db .take).2.work? = none) ∧
        ∀ c, (call.step opts env db .take).2.claim? = some c → c.attemptNonce = call.token := by
  have hcases := takeValid_cases hdb call.platform env.now env.uuid call.externalId
    call.userId call.claimBinding
  simp only [step]
  rcases hreply : env.reply with _ | applied
  · rcases hcases with hnone | ⟨r, hr, hclaim, hans, hrows⟩
    · simp only [Reply.call, hnone]
      exact .inl ⟨trivial, rfl, rfl⟩
    · obtain ⟨hrow, hpend⟩ := isRow_of_claimable hclaim
      have hafter := afterTake_cases opts (mapRow call.platform (claimed env.now env.uuid r))
        rfl rfl
      simp only [Reply.call, hans]
      refine .inr ⟨r, hr, hrow, hpend, hrows, rfl, hafter.1, fun c hc => ?_⟩
      exact (hafter.2 c hc).trans hrow.2
  · cases applied with
    | false => exact .inl ⟨rfl, rfl, rfl⟩
    | true =>
      rcases hcases with hnone | ⟨r, hr, hclaim, -, hrows⟩
      · simp only [Reply.call, hnone]
        exact .inl ⟨trivial, rfl, rfl⟩
      · obtain ⟨hrow, hpend⟩ := isRow_of_claimable hclaim
        refine .inr ⟨r, hr, hrow, hpend, hrows, rfl, .inr (.inr rfl), ?_⟩
        simp [Reply.call, claim?]

namespace RescheduleSystem

/-! ## The invariant -/

/-- What holds in every state of a run in which requests are put back safely. -/
structure Invariant (s : RescheduleSystem) : Prop where
  wellFormed : s.db.WellFormed
  view : ∀ q, Approval.Invariant (s.view q)
  known : ∀ r ∈ s.db.confirmations, ∃ q ∈ s.requests, q.IsRow r
  nonce_inj : ∀ q ∈ s.requests, ∀ q' ∈ s.requests, q.nonce = q'.nonce → q = q'
  claim_nonce : ∀ {i : ℕ} {call : ConfirmCall} {pc : ConfirmPc} {c : Claim},
    s.procs[i]? = some (.confirm call pc) → pc.claim? = some c → c.attemptNonce = call.token
  lease_drawn : ∀ {i : ℕ} {call : ConfirmCall} {pc : ConfirmPc} {l : String} {a : Phase},
    s.procs[i]? = some (.confirm call pc) → pc.work? = some (l, a) → l ∈ s.leases
  row_lease_drawn : ∀ r ∈ s.db.confirmations, r.status = .processing → ∀ l, r.leaseToken = some l →
    l ∈ s.leases
  lease_row : ∀ {i : ℕ} {call : ConfirmCall} {pc : ConfirmPc} {l : String} {a : Phase},
    s.procs[i]? = some (.confirm call pc) → pc.work? = some (l, a) →
    ∀ r ∈ s.db.confirmations, r.status = .processing → r.leaseToken = some l → call.request.IsRow r
  write_known : ∀ c ∈ s.writes, c.request ∈ s.requests
  write_once : s.writes.Pairwise fun c d => c.returned = true → c.request.nonce ≠ d.request.nonce

def ConfirmedRow (db : RescheduleDb) (r : RescheduleConfirmationEntity) : Prop :=
  ∃ a ∈ db.attempts, key a.platform a.externalId = r.externalId ∧ a.nonce = r.nonce ∧
    a.status = .confirmed
  deriving Decidable

def rearming (s : RescheduleSystem) : RescheduleEvent → Option StaleRow
  | .advance i env =>
    match s.procs[i]? with
    | some (.recovery _ (.settle row none _)) => if env.reply.applied then some row else none
    | _ => none
  | _ => none

/-- No request is rearmed that has been confirmed or is held by a confirmation in progress. -/
def RearmsSafely (s : RescheduleSystem) (e : RescheduleEvent) : Prop :=
  ∀ row ∈ s.rearming e, ∀ r ∈ s.db.confirmations, claimedWithId row.id r = true →
    ¬ ConfirmedRow s.db r ∧ ∀ p ∈ s.procs, ¬ p.HoldsRow r
  deriving Decidable

/-! ## Views after a step -/

end RescheduleSystem

def StoreOp.Removes : StoreOp → Prop
  | .getPendingState .. | .cancelPending .. | .cancelClaimed .. | .cancelStaleRow .. => True
  | _ => False

lemma StoreOp.Removes.shrinks {op : StoreOp} (h : op.Removes) (db : RescheduleDb) :
    Shrinks db (op.apply db) := by
  cases op with
  | getPendingState => exact .getPendingState ..
  | cancelPending => exact .cancelPending ..
  | cancelClaimed => exact .deleteWhere _
  | cancelStaleRow => exact .cancelStaleRow _
  | _ => exact h.elim

lemma StoreOp.MayChange.shrinks {op : Option StoreOp} {env : Env} {db db' : RescheduleDb}
    (h : StoreOp.MayChange op env db db') (hop : ∀ o, op = some o → o.Removes) :
    Shrinks db db' := by
  rcases h with rfl | ⟨o, ho, -, rfl⟩
  · exact .refl _
  · exact (hop o ho).shrinks db

namespace RescheduleSystem

section

variable {cfg : Config} {s : RescheduleSystem} {i : ℕ} {env : Env} {p : Proc} {q : Request}

lemma advance_work (hp : s.procs[i]? = some p) (j : ℕ) :
    ((s.advance cfg i env p).view q).work j =
      if j = i then (p.step cfg env s.db).2.workFor q else (s.view q).work j := by
  have hlt : i < s.procs.length := (List.getElem?_eq_some_iff.mp hp).1
  by_cases hji : j = i
  · subst hji
    simp [view, advance, hlt]
  · simp [view, advance, getElem?_set_ne (Ne.symm hji), hji]

lemma view_work (hp : s.procs[i]? = some p) : (s.view q).work i = p.workFor q := by
  simp [view, hp]

lemma work_eq_some {j : ℕ} {l : String} {a : Phase} (h : (s.view q).work j = some (l, a)) :
    ∃ call pc, s.procs[j]? = some (.confirm call pc) ∧ call.request = q ∧
      pc.work? = some (l, a) := by
  obtain ⟨p, hp, hwork⟩ := Option.bind_eq_some_iff.mp h
  cases p with
  | confirm call pc =>
    by_cases hq : call.request = q
    · exact ⟨call, pc, hp, hq, by simpa [Proc.workFor, hq] using hwork⟩
    · simp [Proc.workFor, hq] at hwork
  | _ => simp [Proc.workFor] at hwork

/-- What process `i`, which is `p`, does next is a move of the protocol for the request. -/
abbrev Moves (cfg : Config) (s : RescheduleSystem) (i : ℕ) (env : Env) (p : Proc) (q : Request) :
    Prop :=
  Move (s.view q) ((s.advance cfg i env p).view q)

variable {db' : RescheduleDb}

lemma quiet_move (hp : s.procs[i]? = some p) (hdb : (p.step cfg env s.db).1 = db')
    (hreqs : q ∉ p.requests env) (hwr : ∀ c ∈ p.writes env, c.request = q → c.returned = false)
    (hpend : q.PendingIn db' → q.PendingIn s.db) (hcl : ∀ l, q.ClaimedIn db' l → q.ClaimedIn s.db l)
    (hatt : q.attemptIn db' = q.attemptIn s.db)
    (hwork : (p.step cfg env s.db).2.workFor q = p.workFor q ∨
      (p.step cfg env s.db).2.workFor q = none) :
    s.Moves cfg i env p q := by
  subst hdb
  refine .quiet ⟨?_, hpend, hcl⟩ hatt ?_ fun j => ?_
  · simp [view, advance, hreqs]
  · constructor
    · rintro ⟨c, hc, hq, hret⟩
      rcases mem_append.mp hc with hold | hnew
      · exact ⟨c, hold, hq, hret⟩
      · exact absurd (hwr c hnew hq) (by simp [hret])
    · rintro ⟨c, hc, hq⟩
      exact ⟨c, mem_append_left _ hc, hq⟩
  · rw [advance_work hp]
    by_cases hji : j = i
    · subst hji
      rw [if_pos rfl, view_work hp]
      exact hwork
    · rw [if_neg hji]
      exact .inl rfl

lemma shrink_move (hp : s.procs[i]? = some p) (hreqs : q ∉ p.requests env)
    (hwr : ∀ c ∈ p.writes env, c.request = q → c.returned = false)
    (hop : ∀ o, p.op cfg env = some o → o.Removes)
    (hwork : (p.step cfg env s.db).2.workFor q = p.workFor q ∨
      (p.step cfg env s.db).2.workFor q = none) :
    s.Moves cfg i env p q := by
  have hdb := (p.step_db cfg env s.db).shrinks hop
  exact quiet_move hp rfl hreqs hwr hdb.pending (fun _ => hdb.claimed) (hdb.attempt q) hwork

end

/-! ## Moves of the processes -/

section

variable {cfg : Config} {s : RescheduleSystem} {i : ℕ} {env : Env}

lemma stage_move {input : StageInput} {pc : StagePc}
    (hp : s.procs[i]? = some (.stage input pc)) (hfresh : s.Fresh env (.stage input pc))
    (q : Request) : s.Moves cfg i env (.stage input pc) q := by
  cases pc with
  | save entry =>
    have hnonce : (input.pendingRecord cfg.sha256 env entry).nonce = some env.uuid := rfl
    by_cases hq : q = ⟨input.botPlatform, input.externalId, env.uuid⟩
    · subst hq
      refine .stage ?_ (by simp [view, advance, Proc.requests]) ?_
        (by simp [view, advance, Proc.writes]) ?_
      · intro hold
        exact hfresh.2 _ (mem_singleton_self _) (mem_map.mpr ⟨_, hold, rfl⟩)
      · refine attemptIn_congr ?_ _
        rcases (Proc.stage input (.save entry)).step_db cfg env s.db with hdb | ⟨o, ho, -, hdb⟩
        · exact congrArg RescheduleDb.attempts hdb
        · obtain ⟨⟩ := ho
          exact (congrArg RescheduleDb.attempts hdb).trans rfl
      · funext j
        rw [advance_work hp]
        split
        next hji =>
          rw [hji, view_work hp]
          rfl
        · rfl
    · have hreqs : q ∉ (Proc.stage input (.save entry)).requests env := by
        simpa [Proc.requests] using hq
      rcases (Proc.stage input (.save entry)).step_db cfg env s.db with hdb | ⟨o, ho, -, hdb⟩
      · exact quiet_move hp hdb hreqs (by simp [Proc.writes]) id (fun _ => id) rfl (.inr rfl)
      · obtain ⟨⟩ := ho
        obtain ⟨hpend, hcl⟩ := save_other s.db hnonce hq
        exact quiet_move hp hdb hreqs (by simp [Proc.writes]) hpend hcl
          (attemptIn_congr rfl q) (.inr rfl)
  | abort =>
    refine shrink_move hp (by simp [Proc.requests]) (by simp [Proc.writes]) (fun o ho => ?_)
      (.inr rfl)
    obtain ⟨⟩ := ho
    trivial
  | start | done _ =>
    exact shrink_move hp (by simp [Proc.requests]) (by simp [Proc.writes])
      (by simp [Proc.op, StageInput.op]) (.inr rfl)

lemma cancel_move {call : CancelCall} {pc : CancelPc}
    (hp : s.procs[i]? = some (.cancel call pc)) (q : Request) :
    s.Moves cfg i env (.cancel call pc) q := by
  refine shrink_move hp (by simp [Proc.requests]) (by simp [Proc.writes]) (fun o ho => ?_)
    (.inr rfl)
  cases pc with
  | start | remove =>
    obtain ⟨⟩ := ho
    trivial
  | done => simp [Proc.op, CancelCall.op] at ho

lemma recovery_move {p : Platform} {pc : RecoveryPc} (hI : s.Invariant)
    (hp : s.procs[i]? = some (.recovery p pc)) (hsafe : s.RearmsSafely (.advance i env))
    (q : Request) : s.Moves cfg i env (.recovery p pc) q := by
  have hreqs : q ∉ (Proc.recovery p pc).requests env := by simp [Proc.requests]
  have hwr : ∀ c ∈ (Proc.recovery p pc).writes env,
      c.request = q → c.returned = false := by simp [Proc.writes]
  cases pc with
  | settle row att rest =>
    cases att with
    | none =>
      rcases (Proc.recovery p (.settle row none rest)).step_db cfg env s.db with
        hdb | ⟨o, ho, happ, hdb⟩
      · exact quiet_move hp hdb hreqs hwr id (fun _ => id) rfl (.inr rfl)
      · obtain ⟨⟩ := ho
        obtain ⟨hpend, hcl⟩ := rearmed_cases s.db (claimedWithId row.id) env.now q
        by_cases hrow : ∃ r ∈ s.db.confirmations, q.IsRow r ∧ claimedWithId row.id r = true
        · obtain ⟨r, hr, hrow, hrowClaimed⟩ := hrow
          have hrearming : row ∈ s.rearming (.advance i env) := by simp [rearming, hp, happ]
          obtain ⟨hunconfirmed, hunheld⟩ := hsafe row hrearming r hr hrowClaimed
          obtain ⟨_, hq', hrow'⟩ := hI.known r hr
          obtain rfl := hrow.inj hrow'
          refine .rearm (by simp [view, advance, Proc.requests]) hq' ?_ ?_ ?_ ?_
            (by simp [view, advance, Proc.writes]) fun j => ?_
          · intro hconfirmed
            obtain ⟨a, ha, hid, hstat⟩ := (attemptIn_eq_some_iff hI.wellFormed).mp hconfirmed
            simp only [identity, attemptIdentity, Prod.mk.injEq] at hid
            obtain ⟨hplat, hext, hnonce⟩ := hid
            refine hunconfirmed ⟨a, ha, ?_, hnonce.trans hrow.2.symm, hstat⟩
            rw [hplat, hext]
            exact hrow.1.symm
          · intro _ _ _ hj hholds
            obtain ⟨_, _, hcall, rfl, hwork⟩ := work_eq_some hj
            exact hunheld _ (mem_of_getElem? hcall) ⟨hrow, by simp [hwork, hholds]⟩
          · intro m hm
            change q.ClaimedIn (Proc.step cfg env s.db _).1 m at hm
            rw [hdb] at hm
            exact hcl m hm
          · exact attemptIn_congr (congrArg RescheduleDb.attempts hdb) q
          · rw [advance_work hp]
            split
            · exact .inr rfl
            · exact .inl rfl
        · exact quiet_move hp hdb hreqs hwr
            (fun h => (hpend h).resolve_right hrow) hcl (attemptIn_congr rfl q)
            (.inr rfl)
    | some =>
      refine shrink_move hp hreqs hwr (fun o ho => ?_) (.inr rfl)
      obtain ⟨⟩ := ho
      trivial
  | start | lookup _ | done =>
    exact shrink_move hp hreqs hwr (by simp [Proc.op, RecoveryPc.op]) (.inr rfl)

end

/-! ## Moves of `confirm` -/

section

/-- The database and the program counter after the next step of a call. -/
abbrev after (cfg : Config) (s : RescheduleSystem) (env : Env) (call : ConfirmCall)
    (pc : ConfirmPc) : RescheduleDb × ConfirmPc :=
  call.step (cfg.options call.platform) env s.db pc

variable {cfg : Config} {s : RescheduleSystem} {i : ℕ} {env : Env} {call : ConfirmCall}
  {pc : ConfirmPc} {db' : RescheduleDb} {claim : Claim}

section

variable (hp : s.procs[i]? = some (.confirm call pc))
include hp

lemma confirm_other_move {q : Request} (hq : call.request ≠ q)
    (hdb : (s.after cfg env call pc).1 = db')
    (hwr : ∀ c ∈ (Proc.confirm call pc).writes env, c.request = q → c.returned = false)
    (hpend : q.PendingIn db' → q.PendingIn s.db) (hcl : ∀ l, q.ClaimedIn db' l → q.ClaimedIn s.db l)
    (hatt : q.attemptIn db' = q.attemptIn s.db) : s.Moves cfg i env (.confirm call pc) q :=
  quiet_move hp hdb (by simp [Proc.requests]) hwr hpend hcl hatt
    (.inr (by simp [Proc.step, Proc.workFor, hq]))

section

variable (hdb : (s.after cfg env call pc).1 = db')
  (hrows : db'.confirmations = s.db.confirmations)
include hdb hrows

lemma confirm_advances {l : String} {a b : Phase} (ha : pc.work? = some (l, a))
    (hb : (s.after cfg env call pc).2.work? = some (l, b) ∨
      (s.after cfg env call pc).2.work? = none) :
    Advances i l a b (s.view call.request)
      ((s.advance cfg i env (.confirm call pc)).view call.request) where
  staged := by simp [view, advance, Proc.requests]
  pending := by
    simp only [view, advance, Proc.step, hdb, PendingIn, hrows]
    exact id
  claimed := by
    simp only [view, advance, Proc.step, hdb, ClaimedIn, hrows]
    exact fun _ => id
  before := by
    rw [view_work hp]
    simpa [Proc.workFor] using ha
  after := by
    rw [advance_work hp, if_pos rfl]
    simpa [Proc.step, Proc.workFor] using hb
  others j hji := by rw [advance_work hp, if_neg hji]

lemma confirm_phase_move (hwr : ∀ c ∈ (Proc.confirm call pc).writes env, c.request = call.request)
    (hatt : ∀ q : Request, q ≠ call.request → q.attemptIn db' = q.attemptIn s.db)
    (hself : s.Moves cfg i env (.confirm call pc) call.request) (q : Request) :
    s.Moves cfg i env (.confirm call pc) q := by
  by_cases hq : call.request = q
  · subst hq
    exact hself
  · refine confirm_other_move hp hq hdb (fun c hc hcq => absurd ((hwr c hc).symm.trans hcq) hq)
      ?_ ?_ (hatt q (Ne.symm hq))
    · simp only [PendingIn, hrows]
      exact id
    · simp only [ClaimedIn, hrows]
      exact fun _ => id

end

lemma confirm_ended_move (hdb : (s.after cfg env call pc).1 = s.db)
    (hwr : (Proc.confirm call pc).writes env = [])
    (hended : (s.after cfg env call pc).2.work? = none) (q : Request) :
    s.Moves cfg i env (.confirm call pc) q :=
  quiet_move hp hdb (by simp [Proc.requests]) (by simp [hwr]) id (fun _ => id) rfl
    (.inr (by simp [Proc.step, Proc.workFor, hended]))

lemma confirm_quiet_move (hop : ∀ o, call.op env pc = some o → o.Removes)
    (hwr : (Proc.confirm call pc).writes env = [])
    (hwork : (s.after cfg env call pc).2.work? = pc.work? ∨
      (s.after cfg env call pc).2.work? = none) (q : Request) :
    s.Moves cfg i env (.confirm call pc) q := by
  refine shrink_move hp (by simp [Proc.requests]) (by simp [hwr]) hop ?_
  by_cases hq : call.request = q
  · simpa [Proc.step, Proc.workFor, hq] using hwork
  · simp [Proc.step, Proc.workFor, hq]

end

lemma take_move (hI : s.Invariant) (hp : s.procs[i]? = some (.confirm call .take))
    (hfresh : s.Fresh env (.confirm call .take)) (q : Request) :
    s.Moves cfg i env (.confirm call .take) q := by
  rcases call.step_take (cfg.options call.platform) env hI.wellFormed with
    ⟨hdb, -, hwork⟩ | ⟨r, hr, hrow, hpend, hrows, hatts, hwork, -⟩
  · exact confirm_ended_move hp hdb rfl hwork q
  · have hatt : ∀ q : Request,
        q.attemptIn (s.after cfg env call .take).1 = q.attemptIn s.db :=
      attemptIn_congr hatts
    by_cases hq : call.request = q
    · subst hq
      refine .claim i env.uuid (by simp [view, advance, Proc.requests]) ⟨r, hr, hrow, hpend⟩ ?_ ?_
        ?_ (hatt _) (by simp [view, advance, Proc.writes]) ?_ ?_
      · rintro ⟨r', hr', hrow', hpend'⟩
        rcases hrows r' hr' with rfl | ⟨-, hother⟩
        · simp [claimed] at hpend'
        · exact hother (hrow'.1.trans hrow.1.symm)
      · rintro m ⟨r', hr', hrow', -, hlease⟩
        rcases hrows r' hr' with rfl | ⟨-, hother⟩
        · exact (Option.some.inj hlease).symm
        · exact absurd (hrow'.1.trans hrow.1.symm) hother
      · intro j _ hj
        obtain ⟨_, _, hcall', -, hwork'⟩ := work_eq_some hj
        exact hfresh.1 env.uuid (mem_singleton_self _) (hI.lease_drawn hcall' hwork')
      · rw [advance_work hp, if_pos rfl]
        simpa [Proc.step, Proc.workFor] using hwork
      · intro _ hji
        rw [advance_work hp, if_neg hji]
    · refine confirm_other_move hp hq rfl (by simp [Proc.writes]) ?_ ?_ (hatt q)
      · rintro ⟨r', hr', hrow', hpend'⟩
        rcases hrows r' hr' with rfl | ⟨hold, -⟩
        · simp [claimed] at hpend'
        · exact ⟨r', hold, hrow', hpend'⟩
      · rintro _ ⟨r', hr', hrow', hrest⟩
        rcases hrows r' hr' with rfl | ⟨hold, -⟩
        · exact absurd (hrow.inj hrow') hq
        · exact ⟨r', hold, hrow', hrest⟩

lemma consume_move (hp : s.procs[i]? = some (.confirm call (.consume claim))) (q : Request) :
    s.Moves cfg i env (.confirm call (.consume claim)) q := by
  have hdb : (s.after cfg env call (.consume claim)).1 = s.db := by
    simp only [ConfirmCall.step]
    split
    · rfl
    · split <;> rfl
  have hwork : ((s.after cfg env call (.consume claim)).2.work? =
        (consume claim).work? ∨
      (s.after cfg env call (.consume claim)).2.work? = none) ∨
      (s.after cfg env call (.consume claim)).2.work? = some (claim.leaseToken, .failing) := by
    simp only [ConfirmCall.step]
    split
    · exact .inl (.inr rfl)
    · split
      · exact .inl (.inl rfl)
      · exact .inr rfl
  rcases hwork with hquiet | hfailing
  · exact confirm_quiet_move hp (by simp [op]) rfl hquiet q
  · exact confirm_phase_move hp hdb rfl (by simp [Proc.writes]) (fun _ _ => rfl)
      (.refuse i claim.leaseToken (confirm_advances hp hdb rfl rfl (.inl hfailing))
        (by simp [view, advance, Proc.step, hdb]) (by simp [view, advance, Proc.writes])) q

lemma lookup_move (hI : s.Invariant) (hp : s.procs[i]? = some (.confirm call (.lookup claim)))
    (q : Request) : s.Moves cfg i env (.confirm call (.lookup claim)) q := by
  have hnonce : claim.attemptNonce = call.token := hI.claim_nonce hp rfl
  have hfound : (findAttempt call.platform call.externalId claim.attemptNonce s.db).map
      RescheduleConfirmationAttemptEntity.status = call.request.attemptIn s.db := by
    rw [hnonce]
    rfl
  have hdb : (s.after cfg env call (.lookup claim)).1 = s.db := by
    simp only [ConfirmCall.step]
    split
    · rfl
    · split <;> rfl
  have hwork : (s.after cfg env call (.lookup claim)).2.work? = none ∨
      (s.after cfg env call (.lookup claim)).2.work? = some (claim.leaseToken, .failing) ∨
      (call.request.attemptIn s.db ≠ some .attempting ∧
        (s.after cfg env call (.lookup claim)).2.work? = some (claim.leaseToken, .beginning)) := by
    simp only [ConfirmCall.step, hfound]
    split
    · exact .inl rfl
    · split
      · exact .inr (.inl rfl)
      next hopen =>
        exact .inr (.inr ⟨hopen, rfl⟩)
  rcases hwork with hended | hfailing | ⟨hopen, hbeginning⟩
  · exact confirm_quiet_move hp (by simp [op]) rfl (.inr hended) q
  · exact confirm_phase_move hp hdb rfl (by simp [Proc.writes]) (fun _ _ => rfl)
      (.refuse i claim.leaseToken (confirm_advances hp hdb rfl rfl (.inl hfailing))
        (by simp [view, advance, Proc.step, hdb]) (by simp [view, advance, Proc.writes])) q
  · exact confirm_phase_move hp hdb rfl (by simp [Proc.writes]) (fun _ _ => rfl)
      (.look i claim.leaseToken (confirm_advances hp hdb rfl rfl (.inl hbeginning)) hopen
        (by simp [view, advance, Proc.step, hdb]) (by simp [view, advance, Proc.writes])) q

lemma begin_move (hI : s.Invariant) (hp : s.procs[i]? = some (.confirm call (.begin claim)))
    (q : Request) : s.Moves cfg i env (.confirm call (.begin claim)) q := by
  have hnonce : claim.attemptNonce = call.token := hI.claim_nonce hp rfl
  have hdb : (s.after cfg env call (.begin claim)).1 =
      if env.reply.applied then
        beginAttempt call.platform call.externalId call.token claim.pending.userId s.db
      else s.db := by
    simp only [ConfirmCall.step, ← hnonce, ← Reply.exec_fst]
    split <;> rfl
  have hwork : (env.reply.applied = true ∧
      (s.after cfg env call (.begin claim)).2.work? = some (claim.leaseToken, .writing)) ∨
      (s.after cfg env call (.begin claim)).2.work? = none := by
    simp only [ConfirmCall.step]
    split
    next hret =>
      exact .inl ⟨env.reply.exec_snd s.db _ hret, rfl⟩
    · exact .inr rfl
  cases happ : env.reply.applied with
  | true =>
    rw [happ, if_pos rfl] at hdb
    refine confirm_phase_move hp hdb rfl (by simp [Proc.writes])
      (fun q hq => attemptIn_beginAttempt_of_ne hI.wellFormed call.request _ hq)
      (.begin i claim.leaseToken
        (confirm_advances hp hdb rfl rfl (hwork.imp (fun h => h.2) id)) ?_
        (by simp [view, advance, Proc.writes])) q
    simp only [view, advance, Proc.step, hdb]
    exact attemptIn_beginAttempt hI.wellFormed call.request _
  | false =>
    rw [happ, if_neg (by simp)] at hdb
    have hended := hwork.resolve_left fun h => absurd (happ.symm.trans h.1) (by simp)
    exact confirm_ended_move hp hdb rfl hended q

lemma write_move (hI : s.Invariant) (hp : s.procs[i]? = some (.confirm call (.write claim)))
    (q : Request) : s.Moves cfg i env (.confirm call (.write claim)) q := by
  have hnonce : claim.attemptNonce = call.token := hI.claim_nonce hp rfl
  have hdb : (s.after cfg env call (.write claim)).1 = s.db := by
    simp only [ConfirmCall.step]
    split <;> rfl
  have hwr : ∀ c ∈ (Proc.confirm call (.write claim)).writes env, c.request = call.request := by
    simp [Proc.writes, hnonce, request]
  have hatt : ((s.advance cfg i env (.confirm call (.write claim))).view call.request).attempt =
      (s.view call.request).attempt := by simp [view, advance, Proc.step, hdb]
  refine confirm_phase_move hp hdb rfl hwr (fun _ _ => rfl) ?_ q
  cases hwrite : env.write with
  | returned =>
    exact .write i claim.leaseToken (confirm_advances hp hdb rfl rfl
      (.inl (by simp [ConfirmCall.step, hwrite, work?]))) hatt
  | scopeError _ | failed =>
    exact .fail i claim.leaseToken (confirm_advances hp hdb rfl rfl
      (.inl (by simp [ConfirmCall.step, hwrite, work?]))) hatt
      (by simp [view, advance, Proc.writes, hwrite, WriteReply.isReturned])

lemma record_move {label : String} (hI : s.Invariant)
    (hp : s.procs[i]? = some (.confirm call (.record claim label))) (q : Request) :
    s.Moves cfg i env (.confirm call (.record claim label)) q := by
  have hnonce : claim.attemptNonce = call.token := hI.claim_nonce hp rfl
  have hopen : call.request.attemptIn s.db = some .attempting := by
    have hpre : (s.view call.request).work i = some (claim.leaseToken, .recording) := by
      rw [view_work hp]
      simp [Proc.workFor, work?]
    exact (hI.view call.request).allowed hpre
  have hdb : (s.after cfg env call (.record claim label)).1 =
      if env.reply.applied then
        (confirmAttempt call.platform call.externalId call.token label s.db).1
      else s.db := by
    simp only [ConfirmCall.step, ← hnonce, ← Reply.call_fst]
    split <;> rfl
  have hwork : (env.reply.applied = true ∧
      (s.after cfg env call (.record claim label)).2.work? = some (claim.leaseToken, .leaving)) ∨
      (s.after cfg env call (.record claim label)).2.work? = none := by
    simp only [ConfirmCall.step]
    split
    · exact .inr rfl
    · exact .inr rfl
    next hret =>
      exact .inl ⟨(env.reply.call_snd s.db hret).1, rfl⟩
  cases happ : env.reply.applied with
  | true =>
    rw [happ, if_pos rfl] at hdb
    refine confirm_phase_move hp hdb rfl (by simp [Proc.writes])
      (fun q hq => attemptIn_confirmAttempt_of_ne hI.wellFormed call.request _ hq)
      (.record i claim.leaseToken
        (confirm_advances hp hdb rfl rfl (hwork.imp (fun h => h.2) id)) ?_
        (by simp [view, advance, Proc.writes])) q
    simp only [view, advance, Proc.step, hdb]
    exact attemptIn_confirmAttempt hI.wellFormed call.request _ hopen
  | false =>
    rw [happ, if_neg (by simp)] at hdb
    have hended := hwork.resolve_left fun h => absurd (happ.symm.trans h.1) (by simp)
    exact confirm_ended_move hp hdb rfl hended q

lemma clear_move {cause : WriteFailure} (hI : s.Invariant)
    (hp : s.procs[i]? = some (.confirm call (.clear claim cause))) (q : Request) :
    s.Moves cfg i env (.confirm call (.clear claim cause)) q := by
  have hnonce : claim.attemptNonce = call.token := hI.claim_nonce hp rfl
  have hdb : (s.after cfg env call (.clear claim cause)).1 =
      if env.reply.applied then clearAttempt call.platform call.externalId call.token s.db
      else s.db := by
    simp [ConfirmCall.step, ← hnonce, ← Reply.exec_fst]
  have hwork : (s.after cfg env call (.clear claim cause)).2.work? =
      some (claim.leaseToken, .failing) := by
    simp only [ConfirmCall.step]
    split
    · rfl
    · exact afterRefund_work claim cause
  cases happ : env.reply.applied with
  | true =>
    rw [happ, if_pos rfl] at hdb
    refine confirm_phase_move hp hdb rfl (by simp [Proc.writes])
      (fun q hq => attemptIn_clearAttempt_of_ne hI.wellFormed call.request hq)
      (.clear i claim.leaseToken (confirm_advances hp hdb rfl rfl (.inl hwork)) (.inl ?_)
        (by simp [view, advance, Proc.writes])) q
    simp only [view, advance, Proc.step, hdb]
    exact attemptIn_clearAttempt call.request
  | false =>
    rw [happ, if_neg (by simp)] at hdb
    refine confirm_phase_move hp hdb rfl (by simp [Proc.writes]) (fun _ _ => rfl)
      (.clear i claim.leaseToken (confirm_advances hp hdb rfl rfl (.inl hwork)) (.inr ?_)
        (by simp [view, advance, Proc.writes])) q
    simp [view, advance, Proc.step, hdb]

lemma giveBack_move {tok : String} {ans : ConfirmReply} (hI : s.Invariant)
    (hp : s.procs[i]? = some (.confirm call (.giveBack tok ans))) (q : Request) :
    s.Moves cfg i env (.confirm call (.giveBack tok ans)) q := by
  have hdb : (s.after cfg env call (.giveBack tok ans)).1 =
      if env.reply.applied then revertToPending call.platform env.now call.externalId tok s.db
      else s.db := by
    simp [ConfirmCall.step, ← Reply.exec_fst]
  have hended : (call.step (cfg.options call.platform) env s.db
      (.giveBack tok ans)).2.work? = none := rfl
  cases happ : env.reply.applied with
  | true =>
    rw [happ, if_pos rfl] at hdb
    obtain ⟨hpend, hcl⟩ := rearmed_cases s.db (heldBy call.platform call.externalId tok) env.now q
    have hheld : ∀ r ∈ s.db.confirmations, heldBy call.platform call.externalId tok r = true →
        r.status = .processing ∧ r.leaseToken = some tok ∧ call.request.IsRow r := by
      intro r hr h
      simp only [heldBy, Bool.and_eq_true, decide_eq_true_eq] at h
      exact ⟨h.1.2, h.2, hI.lease_row hp rfl r hr h.1.2 h.2⟩
    by_cases hq : call.request = q
    · subst hq
      refine .giveBack i tok (by simp [view, advance, Proc.requests]) ?_ ?_ ?_ ?_
        (by simp [view, advance, Proc.writes]) ?_
      · rw [view_work hp]
        simp [Proc.workFor, work?]
      · simp only [view, advance, Proc.step, hdb]
        intro h
        rcases hpend h with hold | ⟨r, hr, hrow, hr'⟩
        · exact .inl hold
        · obtain ⟨hstat, hlease, -⟩ := hheld r hr hr'
          exact .inr ⟨r, hr, hrow, hstat, hlease⟩
      · simp only [view, advance, Proc.step, hdb]
        exact hcl
      · simp only [view, advance, Proc.step, hdb]
        exact attemptIn_congr rfl _
      · intro _
        rw [advance_work hp]
        split
        · exact .inr (by simp [Proc.step, Proc.workFor, hended])
        · exact .inl rfl
    · refine confirm_other_move hp hq hdb (by simp [Proc.writes]) (fun h => ?_) hcl
        (attemptIn_congr rfl q)
      rcases hpend h with hold | ⟨r, hr, hrow, hr'⟩
      · exact hold
      · exact absurd ((hheld r hr hr').2.2.inj hrow) hq
  | false =>
    rw [happ, if_neg (by simp)] at hdb
    exact confirm_ended_move hp hdb rfl hended q

lemma confirm_move (hI : s.Invariant) (hp : s.procs[i]? = some (.confirm call pc))
    (hfresh : s.Fresh env (.confirm call pc)) (q : Request) :
    s.Moves cfg i env (.confirm call pc) q := by
  cases pc with
  | start | recheckState =>
    refine confirm_quiet_move hp (fun o ho => ?_) rfl (.inr ?_) q
    · obtain ⟨⟩ := ho
      trivial
    · exact (call.step_idle _ env s.db rfl (by simp)).2
  | findRecorded | done _ =>
    exact confirm_quiet_move hp (by simp [op]) rfl
      (.inr (call.step_idle _ env s.db rfl (by simp)).2) q
  | take => exact take_move hI hp hfresh q
  | consume => exact consume_move hp q
  | lookup => exact lookup_move hI hp q
  | begin => exact begin_move hI hp q
  | write => exact write_move hI hp q
  | record => exact record_move hI hp q
  | cleanup _ _ | drop _ =>
    refine confirm_quiet_move hp (fun o ho => ?_) rfl (.inr rfl) q
    obtain ⟨⟩ := ho
    trivial
  | clear => exact clear_move hI hp q
  | refund claim cause =>
    refine confirm_quiet_move hp (by simp [op]) rfl ?_ q
    simp only [ConfirmCall.step]
    split
    · exact .inr rfl
    · exact .inl (afterRefund_work claim cause)
  | giveBack => exact giveBack_move hI hp q

end

lemma move_step {cfg : Config} {s t : RescheduleSystem} {e : RescheduleEvent} (hI : s.Invariant)
    (hsafe : s.RearmsSafely e) (h : s.step cfg e = some t) (q : Request) :
    Move (s.view q) (t.view q) := by
  rcases step_cases h with ⟨p, hnew, rfl⟩ | ⟨i, _, p, rfl, hp, hfresh, rfl⟩ | ⟨i, p, hp, rfl⟩
  · refine .quiet ⟨Iff.rfl, id, fun _ => id⟩ rfl Iff.rfl fun j => .inl ?_
    by_cases hj : j < s.procs.length
    · simp [view, launch, getElem?_append_left hj]
    · -- a new process has claimed nothing
      have hnone : p.workFor q = none := by cases hnew <;> simp [Proc.workFor, work?]
      rcases hlast : (s.procs ++ [p])[j]? with _ | p'
      · simp [view, launch, hlast, getElem?_eq_none (Nat.le_of_not_lt hj)]
      · rw [getElem?_append_right (Nat.le_of_not_lt hj)] at hlast
        obtain rfl : p' = p := by simpa using mem_of_getElem? hlast
        simp [view, launch, getElem?_append_right (Nat.le_of_not_lt hj), hlast, hnone,
          getElem?_eq_none (Nat.le_of_not_lt hj)]
  · cases p with
    | confirm => exact confirm_move hI hp hfresh q
    | stage => exact stage_move hp hfresh q
    | cancel => exact cancel_move hp q
    | recovery => exact recovery_move hI hp hsafe q
    | crashed =>
      exact shrink_move hp (by simp [Proc.requests]) (by simp [Proc.writes]) (by simp [Proc.op])
        (.inr rfl)
  · have hlt : i < s.procs.length := (List.getElem?_eq_some_iff.mp hp).1
    refine .quiet ⟨Iff.rfl, id, fun _ => id⟩ rfl Iff.rfl fun j => ?_
    by_cases hji : j = i
    · subst hji
      exact .inr (by simp [view, hlt, Proc.workFor])
    · exact .inl (by simp [view, getElem?_set_ne (Ne.symm hji)])

end RescheduleSystem

end WispaceBot
