import WispaceBot.Reschedule.System

/-!
# What a tick does to claims taken after its scan

A tick scans for stale claims in one step and settles each listed row later, by its row id; in
between the row may be claimed under a new lease.  A claimed row was claimed before, or comes from
a claim (`StoreOp.processing_cases`), so along a run without a new claim the tick changes it only
under the lease it was listed with.
-/

namespace WispaceBot

open TypeormRescheduleStore TypeormRescheduleAttemptStore RescheduleRecoveryCron Transition Sample

def StoreOp.Claims (op : StoreOp) (id : ℕ) (db : RescheduleDb) : Prop :=
  ∃ platform now leaseToken externalId userId binding,
    op = .takeValid platform now leaseToken externalId userId binding ∧
      ∃ r ∈ db.confirmations, r.id = id ∧ claimable platform now externalId userId binding r = true

namespace RescheduleSystem

variable {cfg : Config}

/-- The event is a `takeValid` that claims the row with this id. -/
def ClaimsRow (cfg : Config) (id : ℕ) (s : RescheduleSystem) (e : RescheduleEvent) : Prop :=
  ∃ i env p op, e = .advance i env ∧ s.procs[i]? = some p ∧ p.op cfg env = some op ∧
    env.reply.applied = true ∧ op.Claims id s.db

variable {r : RescheduleConfirmationEntity} {s t : RescheduleSystem}

lemma mem_of_processing_step {e : RescheduleEvent} (h : s.step cfg e = some t)
    (hr : r ∈ t.db.confirmations) (hproc : r.status = .processing)
    (hno : ¬ s.ClaimsRow cfg r.id e) : r ∈ s.db.confirmations := by
  rcases step_cases h with ⟨p, -, rfl⟩ | ⟨i, env, p, rfl, hp, -, rfl⟩ | ⟨i, p, -, rfl⟩
  · exact hr
  · change r ∈ (p.step cfg env s.db).1.confirmations at hr
    rcases p.step_db cfg env s.db with hdb | ⟨op, hop, happ, hdb⟩
    · rwa [hdb] at hr
    · rw [hdb] at hr
      rcases op.processing_cases hr hproc with hmem | ⟨_, _, _, _, _, _, htake, q, hq, hclaim, hqr⟩
      · exact hmem
      · refine absurd ⟨i, env, p, op, rfl, hp, hop, happ, ?_⟩ hno
        have hid : q.id = r.id := by rw [← hqr]; rfl
        exact ⟨_, _, _, _, _, _, htake, q, hq, hid, hclaim⟩
  · exact hr

lemma mem_of_processing_run {es : List RescheduleEvent} (hrun : run (step cfg) s es = some t)
    (hr : r ∈ t.db.confirmations) (hproc : r.status = .processing)
    (hno : Along (step cfg) (fun u e => ¬ u.ClaimsRow cfg r.id e) s es) :
    r ∈ s.db.confirmations := by
  induction es generalizing s with
  | nil =>
    obtain rfl : s = t := by simpa using hrun
    exact hr
  | cons _ _ ih =>
    obtain ⟨u, hu, hrest⟩ := run_cons_eq_some.mp hrun
    exact mem_of_processing_step hu (ih hrest (hno.2 u hu)) hproc hno.1

/-! ## The rows a tick works on -/

end RescheduleSystem

/-- The tick has made its scan, and the rows it still has to settle are among these. -/
def RecoveryPc.Within (rows : List StaleRow) : RecoveryPc → Prop
  | .start => False
  | .lookup rest => rest ⊆ rows
  | .settle row _ rest => row ∈ rows ∧ rest ⊆ rows
  | .done => True

lemma RecoveryPc.Within.step {rows : List StaleRow} {pc : RecoveryPc} (h : pc.Within rows)
    (p : Platform) (env : Env) (db : RescheduleDb) : (pc.step p env db).2.Within rows := by
  cases pc with
  | start => exact h.elim
  | lookup rest =>
    cases rest with
    | nil => trivial
    | cons => exact ⟨h (List.mem_cons_self ..), fun x hx => h (List.mem_cons_of_mem _ hx)⟩
  | settle =>
    simp only [RecoveryPc.step]
    split
    · exact h.2
    · trivial
  | done => trivial

lemma RecoveryPc.changed_cases {p : Platform} {env : Env} {db : RescheduleDb}
    {pc : RecoveryPc} {r : RescheduleConfirmationEntity} (hr : r ∈ db.confirmations)
    (hchg : r ∉ (pc.step p env db).1.confirmations) :
    ∃ row att rest, pc = .settle row att rest ∧ claimedWithId row.id r = true := by
  rcases pc.step_db p env db with hdb | ⟨_, hop, -, hdb⟩
  · rw [hdb] at hchg
    exact absurd hr hchg
  · cases pc with
    | settle row att rest =>
      refine ⟨row, att, rest, rfl, ?_⟩
      by_contra hother
      rw [Bool.not_eq_true] at hother
      rw [hdb] at hchg
      cases att <;> obtain rfl := Option.some.inj hop <;>
        exact hchg (Table.mem_updateWhere.mpr (.inr ⟨hr, hother⟩))
    | _ => simp [RecoveryPc.op] at hop

namespace RescheduleSystem

/-- Process `i` is a tick that is settling these rows, or it has stopped. -/
def TickWithin (i : ℕ) (platform : Platform) (rows : List StaleRow) (s : RescheduleSystem) : Prop :=
  s.procs[i]? = some .crashed ∨
    ∃ pc : RecoveryPc, s.procs[i]? = some (.recovery platform pc) ∧ pc.Within rows

variable {s t : RescheduleSystem} {platform : Platform}

lemma tickWithin_step {i : ℕ} {rows : List StaleRow} {e : RescheduleEvent}
    (hs : s.TickWithin i platform rows) (h : s.step cfg e = some t) :
    t.TickWithin i platform rows := by
  have hlt : i < s.procs.length := by
    rcases hs with hp | ⟨pc, hp, -⟩ <;> exact (List.getElem?_eq_some_iff.mp hp).1
  rcases step_cases h with ⟨p, -, rfl⟩ | ⟨j, env, p, -, hp, -, rfl⟩ | ⟨j, p, -, rfl⟩
  · simpa [TickWithin, launch, List.getElem?_append_left hlt] using hs
  · by_cases hij : j = i
    · subst hij
      rcases hs with hcrashed | ⟨pc, hpc, hwithin⟩
      · obtain rfl : p = .crashed := Option.some.inj (hp.symm.trans hcrashed)
        exact .inl (by simp [advance, Proc.step, hlt])
      · obtain rfl : p = .recovery platform pc := Option.some.inj (hp.symm.trans hpc)
        exact .inr ⟨_, by simp [advance, Proc.step, hlt], hwithin.step platform env s.db⟩
    · simpa [TickWithin, advance, List.getElem?_set_ne hij] using hs
  · by_cases hij : j = i
    · subst hij
      exact .inl (by simp [hlt])
    · simpa [TickWithin, List.getElem?_set_ne hij] using hs

lemma tickWithin_scan {i : ℕ} {env : Env} (hp : s.procs[i]? = some (.recovery platform .start))
    (h : s.step cfg (.advance i env) = some t) :
    t.db = s.db ∧ t.TickWithin i platform (listStaleProcessing staleAfterMs env.now s.db) := by
  have hlt : i < s.procs.length := (List.getElem?_eq_some_iff.mp hp).1
  obtain rfl := eq_advance_of_step hp h
  by_cases hreply : env.reply = .returned
  · refine ⟨by simp [advance, Proc.step, RecoveryPc.step, hreply],
      .inr ⟨.lookup (listStaleProcessing staleAfterMs env.now s.db), ?_, fun x hx => hx⟩⟩
    simp [advance, Proc.step, RecoveryPc.step, hreply, hlt]
  · refine ⟨by simp [advance, Proc.step, RecoveryPc.step, hreply], .inr ⟨.done, ?_, trivial⟩⟩
    simp [advance, Proc.step, RecoveryPc.step, hreply, hlt]

/-- What a tick of the recovery changes was listed as stale by its scan, with the lease it still
has, unless the row was claimed in between. -/
theorem tick_changes_only_listed_lease {es₀ es : List RescheduleEvent}
    {s₀ s₁ s₂ s₃ : RescheduleSystem} {i : ℕ} {platform : Platform} {envScan envSettle : Env}
    {r : RescheduleConfirmationEntity} (hreach : run (step cfg) init es₀ = some s₀)
    (htick : s₀.procs[i]? = some (.recovery platform .start))
    (hscan : s₀.step cfg (.advance i envScan) = some s₁) (hrun : run (step cfg) s₁ es = some s₂)
    (hsettle : s₂.step cfg (.advance i envSettle) = some s₃) (hr : r ∈ s₂.db.confirmations)
    (hchanged : r ∉ s₃.db.confirmations)
    (hno : Along (step cfg) (fun u e => ¬ u.ClaimsRow cfg r.id e) s₁ es) :
    ∃ r₀ ∈ s₀.db.confirmations, toStaleRow r₀ ∈ listStaleProcessing staleAfterMs envScan.now s₀.db ∧
        r₀.id = r.id ∧ r₀.leaseToken = r.leaseToken := by
  have hwf : s₀.db.WellFormed :=
    Reachable.induction (I := fun s => s.db.WellFormed) RescheduleDb.wellFormed_empty
      (fun _ _ _ hs h => wellFormed_step hs h) ⟨es₀, hreach⟩
  obtain ⟨hdb, hwithin₁⟩ := tickWithin_scan htick hscan
  have hwithin : s₂.TickWithin i platform (listStaleProcessing staleAfterMs envScan.now s₀.db) :=
    run_induction (fun _ _ _ hs _ h => tickWithin_step hs h) hwithin₁ (along_true s₁ es) hrun
  rcases hwithin with hcrashed | ⟨_, hpc, hwithin⟩
  · obtain rfl := eq_advance_of_step hcrashed hsettle
    exact absurd hr hchanged
  · obtain rfl := eq_advance_of_step hpc hsettle
    obtain ⟨row, _, _, rfl, hcl⟩ := RecoveryPc.changed_cases hr hchanged
    simp only [claimedWithId, Bool.and_eq_true, decide_eq_true_eq] at hcl
    have hr₀ : r ∈ s₀.db.confirmations :=
      hdb ▸ mem_of_processing_run hrun hr hcl.2 hno
    -- the listed row with the id of `r` is `r`
    obtain ⟨q, hq, -, hrow⟩ := exists_of_mem_listStaleProcessing hwithin.1
    have hid : q.id = r.id := (congrArg StaleRow.id hrow).trans hcl.1.symm
    obtain rfl := hwf.unique_id.eq_of_key_eq hq hr₀ hid
    exact ⟨q, hr₀, hrow ▸ hwithin.1, rfl, rfl⟩

/-- The row of the sample request, claimed at this time under this lease. -/
def sampleRow (leaseToken : String) (startedAt expiresAt : ℤ) : RescheduleConfirmationEntity where
  id := 1
  externalId := "messenger:psid-1"
  toolName := "reschedule_study_session"
  platform := "messenger"
  userId := 42
  mappingVersion := "1:1"
  intentHash := "sha256:reschedule"
  argsHash := "sha256:calendarId=7"
  nonce := nonce
  calendarId := 7
  schedulingMode := .defaultNextDaySameTime
  newLocalDate := none
  newTime := none
  sessionLabel := "20/09 19:00"
  status := .processing
  leaseToken := some leaseToken
  processingStartedAt := some startedAt
  expiresAt := expiresAt

/-- The theorem at a claim that stays open until process 2, the tick, reverts it. -/
theorem tick_changes_open_claim :
    ∃ s₀ s₁ s₂ s₃,
      run (step Sample.config) init (Sample.claimed ++ [.tick .messenger]) = some s₀ ∧
        s₀.step Sample.config (.advance 2 (env 361000)) = some s₁ ∧
        run (step Sample.config) s₁ [.advance 2 (env 362000)] = some s₂ ∧
        s₂.step Sample.config (.advance 2 (env 363000)) = some s₃ ∧
        sampleRow "lease-1" 1000 600000 ∈ s₂.db.confirmations ∧
        sampleRow "lease-1" 1000 600000 ∉ s₃.db.confirmations ∧ ∃ r₀ ∈ s₀.db.confirmations,
          toStaleRow r₀ ∈ listStaleProcessing staleAfterMs (env 361000).now s₀.db ∧
            r₀.id = (sampleRow "lease-1" 1000 600000).id ∧
            r₀.leaseToken = (sampleRow "lease-1" 1000 600000).leaseToken := by
  refine ⟨_, _, _, _, rfl, rfl, rfl, rfl, by decide, by decide, ?_⟩
  refine @tick_changes_only_listed_lease Sample.config (Sample.claimed ++ [.tick .messenger])
    [.advance 2 (env 362000)] _ _ _ _ 2 .messenger (env 361000) (env 363000) _
    rfl rfl rfl rfl rfl (by decide) (by decide) ⟨?_, fun _ _ => trivial⟩
  rintro ⟨_, _, _, op, he, hp, hop, -⟩
  obtain ⟨rfl, -⟩ := RescheduleEvent.advance.inj he
  obtain ⟨⟩ := hp
  -- the call in between is the lookup of the tick, which changes no table
  have hnone : none = some op := hop
  simp at hnone

def reclaimed : List RescheduleEvent :=
  [.advance 1 { env 362000 with consumed := false }, .advance 1 (env 362000),
    .confirm call, .advance 3 (env 363000),
    .advance 3 { env 363000 with uuid := "lease-2" }, .advance 2 (env 364000)]

/-- The tick then reverts the claim of process 3, although it listed the claim of process 1. -/
theorem tick_reverts_reclaimed :
    ¬ ∀ (cfg : Config) (es₀ es : List RescheduleEvent) (s₀ s₁ s₂ s₃ : RescheduleSystem) (i : ℕ)
      (platform : Platform) (envScan envSettle : Env) (r : RescheduleConfirmationEntity),
      run (step cfg) init es₀ = some s₀ →
      s₀.procs[i]? = some (.recovery platform .start) → s₀.step cfg (.advance i envScan) = some s₁ →
      run (step cfg) s₁ es = some s₂ → s₂.step cfg (.advance i envSettle) = some s₃ →
      r ∈ s₂.db.confirmations → r ∉ s₃.db.confirmations → ∃ r₀ ∈ s₀.db.confirmations,
        toStaleRow r₀ ∈ listStaleProcessing staleAfterMs envScan.now s₀.db ∧
          r₀.id = r.id ∧ r₀.leaseToken = r.leaseToken := by
  intro h
  obtain ⟨r₀, _, -, -, _⟩ := h Sample.config (Sample.claimed ++ [.tick .messenger]) reclaimed
    _ _ _ _ 2 .messenger (env 361000) (env 365000)
    (sampleRow "lease-2" 363000 962000) rfl rfl rfl rfl rfl (by decide) (by decide)
  revert r₀
  decide

end RescheduleSystem

end WispaceBot
