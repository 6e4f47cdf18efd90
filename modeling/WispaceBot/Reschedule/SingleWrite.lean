import WispaceBot.Reschedule.Refinement

/-!
# At most one write per approval

Along every run in which the cron puts requests back safely every request follows the protocol of
`Approval`, and after a write that has returned there is none under the same nonce (`single_write`).
In `writes_twice` the cron re-arms a request whose write is recorded as confirmed.
-/

namespace WispaceBot

open List TypeormRescheduleStore TypeormRescheduleAttemptStore RescheduleRecoveryCron Proc
open Approval (Phase)

variable {env : Env} {platform : Platform} {p : Proc}

lemma Proc.op_takeValid {cfg : Config} {now : ℤ} {tok ext : String}
    {uid : Option ℤ} {binding : RescheduleApprovalBinding}
    (h : p.op cfg env = some (.takeValid platform now tok ext uid binding)) :
    ∃ call, p = .confirm call .take ∧ tok = env.uuid ∧
      ∀ r, claimable platform now ext uid binding r = true → call.request.IsRow r := by
  cases p with
  | confirm call pc =>
    cases pc with
    | take =>
      obtain ⟨rfl, rfl, rfl, rfl, rfl, rfl⟩ := h
      exact ⟨call, rfl, rfl, fun r hr => (ConfirmCall.isRow_of_claimable hr).1⟩
    | _ => simp [op, ConfirmCall.op] at h
  | stage _ pc => cases pc <;> simp [op, StageInput.op] at h
  | cancel _ pc => cases pc <;> simp [op, CancelCall.op] at h
  | recovery _ pc =>
    cases pc with
    | settle _ att => cases att <;> simp [op, RecoveryPc.op] at h
    | _ => simp [op, RecoveryPc.op] at h
  | crashed => simp [op] at h

lemma Proc.op_save {cfg : Config} {uuid : String} {pending : PendingRescheduleRecord}
    (h : p.op cfg env = some (.save platform uuid pending)) :
    ⟨platform, pending.externalId, pending.nonce.getD uuid⟩ ∈ p.requests env := by
  cases p with
  | confirm _ pc => cases pc <;> simp [op, ConfirmCall.op] at h
  | stage _ pc =>
    cases pc with
    | save =>
      obtain ⟨rfl, rfl, rfl⟩ := h
      exact mem_singleton_self _
    | _ => simp [op, StageInput.op] at h
  | cancel _ pc => cases pc <;> simp [op, CancelCall.op] at h
  | recovery _ pc =>
    cases pc with
    | settle _ att => cases att <;> simp [op, RecoveryPc.op] at h
    | _ => simp [op, RecoveryPc.op] at h
  | crashed => simp [op] at h

lemma Proc.requests_subsingleton {q q' : Request} (hq : q ∈ p.requests env)
    (hq' : q' ∈ p.requests env) : q = q' := by
  cases p with
  | stage _ pc =>
    cases pc with
    | save =>
      rw [mem_singleton.mp hq, mem_singleton.mp hq']
    | _ => simp [requests] at hq
  | _ => simp [requests] at hq

namespace RescheduleSystem

variable {cfg : Config} {s t : RescheduleSystem} {i : ℕ} {env : Env} {p : Proc}

variable {call : ConfirmCall} {pc : ConfirmPc} {j : ℕ}

lemma advance_confirm (hp : s.procs[i]? = some p)
    (hj : (s.advance cfg i env p).procs[j]? = some (.confirm call pc)) :
    (j ≠ i ∧ s.procs[j]? = some (.confirm call pc)) ∨ (j = i ∧ ∃ pc₀, p = .confirm call pc₀ ∧
        pc = (call.step (cfg.options call.platform) env s.db pc₀).2) := by
  have hlt : i < s.procs.length := (List.getElem?_eq_some_iff.mp hp).1
  by_cases hji : j = i
  · subst hji
    have hself : (p.step cfg env s.db).2 = .confirm call pc := by
      simpa [advance, hlt] using hj
    cases p with
    | confirm _ pc₀ =>
      obtain ⟨rfl, rfl⟩ := hself
      exact .inr ⟨rfl, pc₀, rfl, rfl⟩
    | _ => simp [Proc.step] at hself
  · exact .inl ⟨hji, by simpa [advance, getElem?_set_ne (Ne.symm hji)] using hj⟩

variable {l : String} {a : Phase}

lemma lease_cases (hdb : s.db.WellFormed)
    (h : (call.step (cfg.options call.platform) env s.db pc).2.work? = some (l, a)) :
    (∃ b, pc.work? = some (l, b)) ∨ (pc = .take ∧ l = env.uuid) := by
  by_cases hpc : pc = .take
  · subst hpc
    refine .inr ⟨rfl, ?_⟩
    rcases call.step_take (cfg.options call.platform) env hdb with
      ⟨-, -, hnone⟩ | ⟨r, -, -, -, -, -, hwork | hwork | hwork, -⟩
    · exact absurd (hnone.symm.trans h) (by simp)
    · exact (congrArg Prod.fst (Option.some.inj (hwork.symm.trans h))).symm
    · exact (congrArg Prod.fst (Option.some.inj (hwork.symm.trans h))).symm
    · exact absurd (hwork.symm.trans h) (by simp)
  · rcases hclaim : pc.claim? with _ | _
    · have hnone := (call.step_idle (cfg.options call.platform) env s.db hclaim hpc).2
      exact absurd (hnone.symm.trans h) (by simp)
    · have hl := (call.step_keeps (cfg.options call.platform) env s.db hclaim).2 l a h
      refine .inl ?_
      cases pc <;> simp_all [ConfirmPc.claim?, ConfirmPc.work?]

/-! ## One call of a process -/

lemma known_advance (hI : s.Invariant) : ∀ r ∈ (s.advance cfg i env p).db.confirmations,
    ∃ q ∈ (s.advance cfg i env p).requests, q.IsRow r := by
  intro r hr
  change r ∈ (p.step cfg env s.db).1.confirmations at hr
  have hold : ∀ q ∈ s.db.confirmations, q.externalId = r.externalId → q.nonce = r.nonce →
      ∃ q ∈ (s.advance cfg i env p).requests, q.IsRow r := by
    intro q hq hkey hnonce
    obtain ⟨q', hq', hrow⟩ := hI.known q hq
    exact ⟨q', mem_append_right _ hq', hkey ▸ hrow.1, hnonce ▸ hrow.2⟩
  rcases p.step_db cfg env s.db with hdb | ⟨op, hop, -, hdb⟩ <;> rw [hdb] at hr
  · exact hold r hr rfl rfl
  · rcases op.row_cases hr with ⟨q, hq, hkey, hnonce⟩ | ⟨_, _, _, rfl, hkey, hnonce⟩
    · exact hold q hq hkey hnonce
    · exact ⟨_, mem_append_left _ (op_save hop), hkey, hnonce⟩

lemma nonce_inj_advance (hfresh : s.Fresh env p)
    (hinj : ∀ q ∈ s.requests, ∀ q' ∈ s.requests, q.nonce = q'.nonce → q = q') :
    ∀ q ∈ (s.advance cfg i env p).requests, ∀ q' ∈ (s.advance cfg i env p).requests,
      q.nonce = q'.nonce → q = q' := by
  intro q hq q' hq' hnonce
  rcases mem_append.mp hq with hnew | hold <;> rcases mem_append.mp hq' with hnew' | hold'
  · exact requests_subsingleton hnew hnew'
  · exact absurd (mem_map.mpr ⟨q', hold', hnonce.symm⟩) (hfresh.2 q hnew)
  · exact absurd (mem_map.mpr ⟨q, hold, hnonce⟩) (hfresh.2 q' hnew')
  · exact hinj q hold q' hold' hnonce

lemma claim_nonce_advance (hI : s.Invariant) (hp : s.procs[i]? = some p) {c : Claim}
    (hj : (s.advance cfg i env p).procs[j]? = some (.confirm call pc)) (hc : pc.claim? = some c) :
    c.attemptNonce = call.token := by
  rcases advance_confirm hp hj with ⟨-, hj'⟩ | ⟨rfl, pc₀, rfl, rfl⟩
  · exact hI.claim_nonce hj' hc
  · by_cases htake : pc₀ = .take
    · subst htake
      rcases call.step_take (cfg.options call.platform) env hI.wellFormed with
        ⟨-, hnone, -⟩ | ⟨-, -, -, -, -, -, -, hnonce⟩
      · exact absurd (hnone.symm.trans hc) (by simp)
      · exact hnonce c hc
    · rcases hclaim : pc₀.claim? with _ | _
      · have hnone := (call.step_idle (cfg.options call.platform) env s.db hclaim htake).1
        exact absurd (hnone.symm.trans hc) (by simp)
      · rw [(call.step_keeps (cfg.options call.platform) env s.db hclaim).1 c hc]
        exact hI.claim_nonce hp hclaim

lemma lease_advance (hI : s.Invariant) (hp : s.procs[i]? = some p)
    (hj : (s.advance cfg i env p).procs[j]? = some (.confirm call pc))
    (hl : pc.work? = some (l, a)) :
    (∃ pc₀ b, s.procs[j]? = some (.confirm call pc₀) ∧ pc₀.work? = some (l, b)) ∨
      (p = .confirm call .take ∧ l = env.uuid) := by
  rcases advance_confirm hp hj with ⟨-, hj'⟩ | ⟨rfl, pc₀, rfl, rfl⟩
  · exact .inl ⟨pc, a, hj', hl⟩
  · rcases lease_cases hI.wellFormed hl with ⟨b, hb⟩ | ⟨rfl, rfl⟩
    · exact .inl ⟨pc₀, b, hp, hb⟩
    · exact .inr ⟨rfl, rfl⟩

lemma processing_advance {r : RescheduleConfirmationEntity}
    (hr : r ∈ (s.advance cfg i env p).db.confirmations) (hproc : r.status = .processing) :
    r ∈ s.db.confirmations ∨
      ∃ call, p = .confirm call .take ∧ r.leaseToken = some env.uuid ∧ call.request.IsRow r := by
  change r ∈ (p.step cfg env s.db).1.confirmations at hr
  rcases p.step_db cfg env s.db with hdb | ⟨op, hop, -, hdb⟩ <;> rw [hdb] at hr
  · exact .inl hr
  · rcases op.processing_cases hr hproc with hold | ⟨_, _, _, _, _, _, rfl, q, -, hclaim, rfl⟩
    · exact .inl hold
    · obtain ⟨call, rfl, rfl, hrow⟩ := op_takeValid hop
      exact .inr ⟨call, rfl, rfl, hrow q hclaim⟩

section

variable (hI : s.Invariant) (hp : s.procs[i]? = some p)
include hI hp

lemma lease_row_advance (hfresh : s.Fresh env p)
    (hj : (s.advance cfg i env p).procs[j]? = some (.confirm call pc)) (hl : pc.work? = some (l, a))
    (r : RescheduleConfirmationEntity) (hr : r ∈ (s.advance cfg i env p).db.confirmations)
    (hproc : r.status = .processing) (hlease : r.leaseToken = some l) : call.request.IsRow r := by
  have hnew : ∀ {call'}, p = .confirm call' .take → env.uuid ∉ s.leases := by
    rintro call' rfl
    exact hfresh.1 _ (mem_singleton_self _)
  rcases lease_advance hI hp hj hl with ⟨_, _, hj', hb⟩ | ⟨htake, rfl⟩ <;>
    rcases processing_advance hr hproc with hold | ⟨call', htake', hlease', hrow⟩
  · exact hI.lease_row hj' hb r hold hproc hlease
  · obtain ⟨⟩ := (hlease.symm.trans hlease')
    exact absurd (hI.lease_drawn hj' hb) (hnew htake')
  · exact absurd (hI.row_lease_drawn r hold hproc _ hlease) (hnew htake)
  · obtain rfl : call = call' := by simpa using htake.symm.trans htake'
    exact hrow

lemma write_advance {c : WriteCall} (hc : c ∈ p.writes env) :
    c.request ∈ s.requests ∧ ¬ (s.view c.request).written := by
  cases p with
  | confirm call pc =>
    cases pc with
    | write claim =>
      have hnonce : claim.attemptNonce = call.token := hI.claim_nonce hp rfl
      have hreq : c.request = call.request := by
        rw [mem_singleton.mp hc, ConfirmCall.request, ← hnonce]
      have hwork : (s.view c.request).work i = some (claim.leaseToken, .writing) := by
        rw [view_work hp, hreq]
        simp [workFor, ConfirmPc.work?]
      refine ⟨?_, (hI.view c.request).not_written hwork⟩
      by_contra hunstaged
      have hidle := ((hI.view c.request).unstaged hunstaged).2.2.1 i
      exact absurd (hidle.symm.trans hwork) (by simp)
    | _ => simp [Proc.writes] at hc
  | _ => simp [Proc.writes] at hc

lemma write_once_advance :
    (s.advance cfg i env p).writes.Pairwise fun c d =>
      c.returned = true → c.request.nonce ≠ d.request.nonce := by
  refine pairwise_append.mpr ⟨hI.write_once, ?_, ?_⟩
  · cases p with
    | confirm _ pc => cases pc <;> simp [Proc.writes]
    | _ => simp [Proc.writes]
  · intro c hc d hd hret hnonce
    obtain ⟨hstaged, hunwr⟩ := write_advance hI hp hd
    have hsame := hI.nonce_inj c.request (hI.write_known c hc) d.request hstaged hnonce
    exact hunwr ⟨c, hc, hsame, hret⟩

end

/-! ## Runs -/

lemma Invariant.of_procs (hI : s.Invariant) {procs : List Proc}
    (hview : ∀ q, Approval.Invariant ({ s with procs := procs }.view q))
    (hold : ∀ {j : ℕ} {call : ConfirmCall} {pc : ConfirmPc}, procs[j]? = some (.confirm call pc) →
      s.procs[j]? = some (.confirm call pc) ∨ pc = .start) :
    Invariant { s with procs := procs } where
  wellFormed := hI.wellFormed
  view := hview
  known := hI.known
  nonce_inj := hI.nonce_inj
  claim_nonce hj hc := by
    rcases hold hj with hj' | rfl
    · exact hI.claim_nonce hj' hc
    · simp [ConfirmPc.claim?] at hc
  lease_drawn hj hl := by
    rcases hold hj with hj' | rfl
    · exact hI.lease_drawn hj' hl
    · simp [ConfirmPc.work?] at hl
  row_lease_drawn := hI.row_lease_drawn
  lease_row hj hl := by
    rcases hold hj with hj' | rfl
    · exact hI.lease_row hj' hl
    · simp [ConfirmPc.work?] at hl
  write_known := hI.write_known
  write_once := hI.write_once

lemma Invariant.step {e : RescheduleEvent} (hI : s.Invariant) (hsafe : s.RearmsSafely e)
    (h : s.step cfg e = some t) : t.Invariant := by
  have hview : ∀ q, Approval.Invariant (t.view q) := fun q =>
    (hI.view q).move (move_step hI hsafe h q)
  have hwf : t.db.WellFormed := wellFormed_step hI.wellFormed h
  rcases step_cases h with ⟨p, hnew, rfl⟩ | ⟨i, _, p, rfl, hp, hfresh, rfl⟩ | ⟨i, p, hp, rfl⟩
  · refine hI.of_procs hview fun {j call pc} hj => ?_
    by_cases hlt : j < s.procs.length
    · rw [getElem?_append_left hlt] at hj
      exact .inl hj
    · -- a new process has no claim
      rw [getElem?_append_right (Nat.le_of_not_lt hlt)] at hj
      obtain rfl : Proc.confirm call pc = p := by simpa using mem_of_getElem? hj
      cases hnew
      exact .inr rfl
  · exact
      { wellFormed := hwf
        view := hview
        known := known_advance hI
        nonce_inj := nonce_inj_advance hfresh hI.nonce_inj
        claim_nonce := claim_nonce_advance hI hp
        lease_drawn := by
          intro j call pc l _ hj hl
          rcases lease_advance hI hp hj hl with ⟨_, _, hj', hb⟩ | ⟨rfl, rfl⟩
          · exact mem_append_right _ (hI.lease_drawn hj' hb)
          · exact mem_append_left _ (mem_singleton_self _)
        row_lease_drawn := by
          intro r hr hproc l hl
          rcases processing_advance hr hproc with hold | ⟨call, rfl, hlease, -⟩
          · exact mem_append_right _ (hI.row_lease_drawn r hold hproc l hl)
          · obtain ⟨⟩ := (hlease.symm.trans hl)
            exact mem_append_left _ (mem_singleton_self _)
        lease_row := lease_row_advance hI hp hfresh
        write_known := by
          intro c hc
          rcases mem_append.mp hc with hold | hnew
          · exact mem_append_right _ (hI.write_known c hold)
          · exact mem_append_right _ (write_advance hI hp hnew).1
        write_once := write_once_advance hI hp }
  · refine hI.of_procs hview fun {j call pc} hj => .inl ?_
    have hlt : i < s.procs.length := (List.getElem?_eq_some_iff.mp hp).1
    by_cases hji : i = j
    · subst hji
      simp [hlt] at hj
    · rwa [getElem?_set_ne hji] at hj

lemma invariant_init : init.Invariant where
  wellFormed := RescheduleDb.wellFormed_empty
  view q := by
    have hatt : q.attemptIn RescheduleDb.empty = none := rfl
    refine ⟨fun _ => ⟨?_, hatt, fun i => rfl, ?_⟩, ?_, ?_, ?_, ?_, ?_, ?_, ?_, ?_, ?_⟩ <;>
      simp [view, init, Request.PendingIn, RescheduleDb.empty]
  known := by simp [init, RescheduleDb.empty]
  nonce_inj := by simp [init]
  claim_nonce := by simp [init]
  lease_drawn := by simp [init]
  row_lease_drawn := by simp [init, RescheduleDb.empty]
  lease_row := by simp [init]
  write_known := by simp [init]
  write_once := by simp [init]

/-- After a write that returned there is no second one with the same user and nonce. -/
def WritesOnce (s : RescheduleSystem) : Prop :=
  s.writes.Pairwise fun c d =>
    c.returned = true → ¬ (c.userId = d.userId ∧ c.request.nonce = d.request.nonce)

/-- If requests are rearmed safely, no request is written again after a write that returned. -/
theorem single_write {es : List RescheduleEvent}
    (hsafe : Transition.Along (RescheduleSystem.step cfg) RearmsSafely init es)
    (hrun : Transition.run (RescheduleSystem.step cfg) init es = some s) : s.WritesOnce := by
  have hI : s.Invariant :=
    Transition.run_induction (fun _ _ _ hI hC h => hI.step hC h) invariant_init hsafe hrun
  exact hI.write_once.imp fun honce hret hsame => honce hret hsame.2

def rearmedOnce : List RescheduleEvent :=
  Sample.claimed ++
    [.crash 1, .tick .messenger, .advance 2 (Sample.env 361000), .advance 2 (Sample.env 361000),
      .advance 2 (Sample.env 361000), .confirm Sample.call, .advance 3 (Sample.env 362000),
      .advance 3 { Sample.env 362000 with uuid := "lease-2" }, .advance 3 (Sample.env 362000),
      .advance 3 (Sample.env 362000), .advance 3 (Sample.env 362000),
      .advance 3 (Sample.env 362000)]

/-- The theorem at a run in which the cron puts a request back. -/
theorem single_write_rearmedOnce :
    ∃ s, Transition.run (RescheduleSystem.step Sample.config) init rearmedOnce = some s ∧
      s.writes.length = 1 ∧ s.WritesOnce :=
  ⟨_, rfl, rfl, @single_write Sample.config _ rearmedOnce (by decide) rfl⟩

/-- The tick of process 2 does not find the confirmed attempt, and process 3 writes again. -/
def rearmedAfterWrite : List RescheduleEvent :=
  Sample.claimed ++
    [.advance 1 (Sample.env 1000), .advance 1 (Sample.env 1000), .advance 1 (Sample.env 1000),
      .advance 1 (Sample.env 1000), .advance 1 (Sample.env 1000), .crash 1,
      .tick .messenger, .advance 2 (Sample.env 361000), .advance 2 (Sample.env 361000),
      .advance 2 (Sample.env 361000), .confirm Sample.call, .advance 3 (Sample.env 362000),
      .advance 3 { Sample.env 362000 with uuid := "lease-2" }, .advance 3 (Sample.env 362000),
      .advance 3 (Sample.env 362000), .advance 3 (Sample.env 362000),
      .advance 3 (Sample.env 362000)]

/-- In that run the calendar is written twice for one user and one nonce. -/
theorem writes_twice :
    ¬ ∀ (cfg : Config) (es : List RescheduleEvent) (s : RescheduleSystem),
      Transition.run (RescheduleSystem.step cfg) init es = some s → s.WritesOnce := by
  intro h
  have honce := h Sample.config rearmedAfterWrite _ rfl
  revert honce
  unfold WritesOnce
  decide

end RescheduleSystem

end WispaceBot
