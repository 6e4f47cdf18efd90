import WispaceBot.Reschedule.Refinement

/-!
# A confirmation executes what was staged

A `BindingTrace` is the system with the stagings that were saved and the arguments of the calls of
`rescheduleSession`.  Every row, and every claim a call works with, has the columns of one staging;
the claim moreover is that of the token, the learner and the binding of its call.
-/

namespace WispaceBot

open List Option TypeormRescheduleStore TypeormRescheduleAttemptStore Transition

/-- A call of `save` that wrote: the input of `stage`, the calendar entry it found, and the step. -/
structure Staging where
  input : StageInput
  entry : CalendarEntryView
  env : Env

def Staging.saved (cfg : Config) (st : Staging) : StagedColumns :=
  stagedColumns (pendingRow st.input.botPlatform st.env.uuid
    (st.input.pendingRecord cfg.sha256 st.env st.entry) 0)

/-- A call of `rescheduleSession` with its arguments, and the call of `confirm` that makes it. -/
structure SessionCall where
  call : ConfirmCall
  externalId : String
  (userId calendarId : ℤ)
  schedulingMode : RescheduleSchedulingMode
  (newLocalDate newTime : Option String)

/-- The call of `rescheduleSession` for a claimed request. -/
def ConfirmCall.sessionCall (call : ConfirmCall) (pending : PendingRescheduleRecord) :
    SessionCall where
  call := call
  externalId := pending.externalId
  userId := pending.userId
  calendarId := pending.calendarId
  schedulingMode := pending.schedulingMode
  newLocalDate := pending.newLocalDate
  newTime := pending.newTime

namespace Proc

def stagings (cfg : Config) (env : Env) (db : RescheduleDb) : Proc → List Staging
  | .stage input (.save entry) =>
    if env.reply.applied && (TypeormRescheduleStore.save input.botPlatform env.uuid
        (input.pendingRecord cfg.sha256 env entry) db).2 then
      [⟨input, entry, env⟩]
    else []
  | _ => []

/-- The calls of `rescheduleSession` made by the next step of a process. -/
def sessionCalls : Proc → List SessionCall
  | .confirm call (.write claim) => [call.sessionCall claim.pending]
  | _ => []

end Proc

/-- The system, with the stagings saved and the calls of `rescheduleSession` made so far. -/
structure BindingTrace where
  system : RescheduleSystem
  stagings : List Staging
  calls : List SessionCall

namespace BindingTrace

def init : BindingTrace := ⟨.init, [], []⟩

def acting (t : BindingTrace) : RescheduleEvent → Option (Proc × Env)
  | .advance i env => t.system.procs[i]?.map fun p => (p, env)
  | _ => none

/-- One step of the system, with what it saves and calls. -/
def step (cfg : Config) (t : BindingTrace) (e : RescheduleEvent) : Option BindingTrace :=
  (t.system.step cfg e).map fun system =>
    { system := system
      stagings := t.stagings ++ (t.acting e).elim [] fun (p, env) => p.stagings cfg env t.system.db
      calls := t.calls ++ (t.acting e).elim [] fun (p, _) => p.sessionCalls }

end BindingTrace

/-- The call is made for the learner, with the token and binding of the staging, and has its
arguments. -/
structure SessionCall.Executes (cfg : Config) (c : SessionCall) (st : Staging) : Prop where
  learner : (st.saved cfg).externalId = key c.call.platform c.call.externalId
  token : c.call.approvalToken = some (st.saved cfg).nonce
  binding : ∃ b, c.call.binding = some b ∧ b.platform = some (st.saved cfg).platform ∧
    b.mappingVersion = some (st.saved cfg).mappingVersion
  /-- The call of `confirm` is made by the same user. -/
  user : c.call.userId = some (st.saved cfg).userId
  arguments : c.externalId = c.call.externalId ∧ c.userId = (st.saved cfg).userId ∧
    c.calendarId = (st.saved cfg).calendarId ∧
    c.schedulingMode = (st.saved cfg).schedulingMode ∧
    c.newLocalDate = (st.saved cfg).newLocalDate ∧ c.newTime = (st.saved cfg).newTime

/-! ## Claims -/

/-- The claimed record is a row with the columns of a saved staging that the call may claim. -/
def ConfirmCall.Holds (cfg : Config) (stagings : List Staging) (call : ConfirmCall)
    (claim : Claim) : Prop :=
  ∃ (r : RescheduleConfirmationEntity) (now : ℤ), claim.pending = mapRow call.platform r ∧
    (∃ q, stagedColumns q = stagedColumns r ∧
      claimable call.platform now call.externalId call.userId call.claimBinding q = true) ∧
    ∃ st ∈ stagings, st.saved cfg = stagedColumns r

/-- A confirmation in progress works on a staging that it is bound to. -/
structure ConfirmCall.Bound (cfg : Config) (stagings : List Staging) (call : ConfirmCall)
    (pc : ConfirmPc) : Prop where
  accepted : call.accepted = true ∨ pc = .start ∨ ∃ answer, pc = .done answer
  claim : ∀ claim, pc.claim? = some claim → call.Holds cfg stagings claim

def Proc.Bound (cfg : Config) (stagings : List Staging) : Proc → Prop
  | .confirm call pc => call.Bound cfg stagings pc
  | _ => True

variable {cfg : Config} {stagings : List Staging} {call : ConfirmCall} {claim : Claim}

lemma ConfirmCall.Holds.append (h : call.Holds cfg stagings claim) (new : List Staging) :
    call.Holds cfg (stagings ++ new) claim := by
  obtain ⟨r, now, hpend, hclaim, st, hst, hsaved⟩ := h
  exact ⟨r, now, hpend, hclaim, st, mem_append_left _ hst, hsaved⟩

lemma Proc.Bound.append {p : Proc} (h : p.Bound cfg stagings) (new : List Staging) :
    p.Bound cfg (stagings ++ new) := by
  cases p with
  | confirm => exact ⟨h.accepted, fun c hc => (h.claim c hc).append new⟩
  | _ => trivial

lemma ConfirmCall.afterTake_claim (opts : RescheduleConfirmationOptions)
    {taken : Option PendingRescheduleRecord} (h : (afterTake opts taken).claim? = some claim) :
    taken = some claim.pending := by
  cases taken with
  | none => simp [afterTake, ConfirmPc.claim?] at h
  | some =>
    simp only [afterTake] at h
    split at h
    · simp [ConfirmPc.claim?] at h
    · split at h
      · simp [ConfirmPc.claim?] at h
      · split at h
        · simp [ConfirmPc.claim?] at h
        · split at h
          · rw [← Option.some.inj h]
          · rw [← Option.some.inj h]

variable {db : RescheduleDb} {pending : PendingRescheduleRecord} {platform : Platform}

lemma takeValid_record {now : ℤ} {tok ext : String} {uid : Option ℤ}
    {binding : RescheduleApprovalBinding}
    (h : (takeValid platform now tok ext uid binding db).2 = some pending) :
    ∃ r, pending = mapRow platform r ∧ ∃ q ∈ db.confirmations,
      stagedColumns q = stagedColumns r ∧ claimable platform now ext uid binding q = true := by
  obtain ⟨r, hhead, rfl⟩ := map_eq_some_iff.mp h
  obtain ⟨q, hq, hclaim, hr⟩ := Table.mem_updateReturning.mp (mem_of_mem_head? hhead)
  exact ⟨r, rfl, q, hq, by rw [← hr]; rfl, hclaim⟩

lemma ConfirmCall.step_take_claim (opts : RescheduleConfirmationOptions) (call : ConfirmCall)
    (env : Env) (db : RescheduleDb) (h : (call.step opts env db .take).2.claim? = some claim) :
    ∃ taken, (takeValid call.platform env.now env.uuid call.externalId call.userId
      call.claimBinding db).2 = taken ∧ (afterTake opts taken).claim? = some claim := by
  simp only [ConfirmCall.step] at h
  split at h
  · simp [ConfirmPc.claim?] at h
  next taken htaken =>
    exact ⟨taken, (env.reply.call_snd db htaken).2, h⟩

lemma ConfirmCall.Bound.step {pc : ConfirmPc} (h : call.Bound cfg stagings pc)
    (opts : RescheduleConfirmationOptions) (env : Env)
    (hrows : ∀ r ∈ db.confirmations, ∃ st ∈ stagings, st.saved cfg = stagedColumns r) :
    call.Bound cfg stagings (call.step opts env db pc).2 := by
  constructor
  · rcases h.accepted with hacc | rfl | ⟨ans, rfl⟩
    · exact .inl hacc
    · -- the guard of the first step
      cases hacc : call.accepted with
      | true => exact .inl rfl
      | false =>
        refine .inr (.inr ⟨.refused rescheduleInvalidTokenMessage, ?_⟩)
        simp [ConfirmCall.step, hacc]
    · exact .inr (.inr ⟨ans, rfl⟩)
  · intro claim hclaim
    cases hold : pc.claim? with
    | some =>
      obtain rfl := (call.step_keeps opts env db hold).1 claim hclaim
      exact h.claim claim hold
    | none =>
      by_cases htake : pc = .take
      · subst htake
        obtain ⟨_, htaken, hafter⟩ := call.step_take_claim opts env db hclaim
        have hrec := afterTake_claim opts hafter
        rw [hrec] at htaken
        obtain ⟨r, hpend, q, hq, hcols, hclaimable⟩ := takeValid_record htaken
        obtain ⟨st, hst, hsaved⟩ := hrows q hq
        exact ⟨r, env.now, hpend, ⟨q, hcols, hclaimable⟩, st, hst, hsaved.trans hcols⟩
      · rw [(call.step_idle opts env db hold htake).1] at hclaim
        simp at hclaim

lemma Proc.Bound.step {p : Proc} (h : p.Bound cfg stagings) (env : Env)
    (hrows : ∀ r ∈ db.confirmations, ∃ st ∈ stagings, st.saved cfg = stagedColumns r) :
    (p.step cfg env db).2.Bound cfg stagings := by
  cases p with
  | confirm call => exact ConfirmCall.Bound.step h (cfg.options call.platform) env hrows
  | _ => trivial

/-! ## Rows -/

lemma Proc.eq_stage_of_save {env : Env} {uuid : String} (p : Proc)
    (h : p.op cfg env = some (.save platform uuid pending)) :
    ∃ input entry, p = .stage input (.save entry) := by
  cases p with
  | stage input pc =>
    cases pc with
    | save entry => exact ⟨input, entry, rfl⟩
    | _ => simp [Proc.op, StageInput.op] at h
  | confirm _ pc => cases pc <;> exact absurd h (by simp [Proc.op, ConfirmCall.op])
  | cancel _ pc => cases pc <;> exact absurd h (by simp [Proc.op, CancelCall.op])
  | recovery _ pc =>
    cases pc with
    | settle _ att => cases att <;> exact absurd h (by simp [Proc.op, RecoveryPc.op])
    | _ => simp [Proc.op, RecoveryPc.op] at h
  | crashed => simp [Proc.op] at h

lemma Proc.rows_step (cfg : Config) (env : Env) (db : RescheduleDb) (p : Proc)
    {r : RescheduleConfirmationEntity} (hr : r ∈ (p.step cfg env db).1.confirmations) :
    (∃ q ∈ db.confirmations, stagedColumns q = stagedColumns r) ∨
      ∃ st ∈ p.stagings cfg env db, st.saved cfg = stagedColumns r := by
  rcases p.step_db cfg env db with hdb | ⟨o, hop, happ, hdb⟩
  · rw [hdb] at hr
    exact .inl ⟨r, hr, rfl⟩
  · rw [hdb] at hr
    rcases o.stagedColumns_cases hr with hold | ⟨platform, uuid, pending, rfl, hwrote, hcols⟩
    · exact .inl hold
    · -- only `stage` calls `save`
      obtain ⟨input, entry, rfl⟩ := p.eq_stage_of_save hop
      obtain ⟨rfl, rfl, rfl⟩ : input.botPlatform = platform ∧ env.uuid = uuid ∧
          input.pendingRecord cfg.sha256 env entry = pending := by
        simpa [Proc.op, StageInput.op] using hop
      refine .inr ⟨⟨input, entry, env⟩, ?_, hcols.symm⟩
      simp [Proc.stagings, happ, hwrote]

/-! ## The call -/

lemma isFalsy_eq_false {value : Option String} (h : isFalsy value = false) :
    ∃ text, value = some text := by
  cases value with
  | none => exact absurd h (by decide)
  | some text => exact ⟨text, rfl⟩

lemma ConfirmCall.Holds.executes (h : call.Holds cfg stagings claim) (hacc : call.accepted = true) :
    ∃ st ∈ stagings, (call.sessionCall claim.pending).Executes cfg st := by
  obtain ⟨r, _, hpend, ⟨q, hcols, hclaim⟩, st, hst, hsaved⟩ := h
  refine ⟨st, hst, ?_⟩
  -- the guard of `confirm`
  simp only [accepted, Bool.and_eq_true, Bool.not_eq_true', Option.any_eq_true] at hacc
  obtain ⟨⟨⟨htoken, -⟩, huser⟩, b, hb, hplat, hver⟩ := hacc
  obtain ⟨_, htoken⟩ := isFalsy_eq_false htoken
  obtain ⟨_, hplat⟩ := isFalsy_eq_false hplat
  obtain ⟨_, hver⟩ := isFalsy_eq_false hver
  obtain ⟨_, huser⟩ := isSome_iff_exists.mp huser
  -- the `WHERE` clause of `takeValid`
  simp only [claimable, bindingHolds, claimBinding, ConfirmCall.token, hb, htoken, hplat,
    hver, huser, getD_some, all_some, Bool.and_eq_true, decide_eq_true_eq,
    beq_iff_eq] at hclaim
  obtain ⟨⟨⟨⟨hkey, -⟩, -⟩, huserId⟩, ⟨⟨⟨hqplatform, hqversion⟩, -⟩, -⟩, hqnonce⟩ := hclaim
  have hrow : st.saved cfg = stagedColumns q := hsaved.trans hcols.symm
  have hext : r.externalId = key call.platform call.externalId :=
    (congrArg StagedColumns.externalId hcols).symm.trans hkey
  refine ⟨?_, ?_, ⟨b, hb, ?_, ?_⟩, ?_, ?_⟩
  · rw [hrow]
    exact hkey
  · rw [hrow]
    exact htoken.trans (congrArg some hqnonce)
  · rw [hrow]
    exact hplat.trans (congrArg some hqplatform)
  · rw [hrow]
    exact hver.trans (congrArg some hqversion)
  · rw [hrow]
    exact huser.trans (congrArg some huserId)
  · have hstrip : claim.pending.externalId = call.externalId := by
      rw [hpend]
      simp [mapRow, hext, stripKeyPrefix_key]
    rw [hsaved]
    refine ⟨hstrip, ?_⟩
    simp [sessionCall, hpend, mapRow, stagedColumns]

/-! ## The system -/

namespace BindingTrace

lemma step_cases {t t' : BindingTrace} {e : RescheduleEvent} (h : t.step cfg e = some t') :
    (∃ p, p.IsNew ∧ t' = { t with system := t.system.launch p }) ∨
      (∃ i env p, t.system.procs[i]? = some p ∧ t.system.Fresh env p ∧
        t' = ⟨t.system.advance cfg i env p, t.stagings ++ p.stagings cfg env t.system.db,
          t.calls ++ p.sessionCalls⟩) ∨
      ∃ i, t' = { t with system := { t.system with procs := t.system.procs.set i .crashed } } := by
  obtain ⟨_, hsys, rfl⟩ := map_eq_some_iff.mp h
  cases e with
  | confirm call =>
    obtain ⟨⟩ := hsys
    exact .inl ⟨_, .confirm call, by simp [acting]⟩
  | stage input =>
    obtain ⟨⟩ := hsys
    exact .inl ⟨_, .stage input, by simp [acting]⟩
  | cancel call =>
    obtain ⟨⟩ := hsys
    exact .inl ⟨_, .cancel call, by simp [acting]⟩
  | tick platform =>
    obtain ⟨⟩ := hsys
    exact .inl ⟨_, .recovery platform, by simp [acting]⟩
  | advance i env =>
    simp only [RescheduleSystem.step] at hsys
    split at hsys
    · simp at hsys
    next p hp =>
      split at hsys
      next hfresh =>
        obtain ⟨⟩ := hsys
        exact .inr (.inl ⟨i, env, p, hp, hfresh, by simp [acting, hp]⟩)
      · simp at hsys
  | crash i =>
    simp only [RescheduleSystem.step] at hsys
    split at hsys
    · simp at hsys
    · obtain ⟨⟩ := hsys
      exact .inr (.inr ⟨i, by simp [acting]⟩)

/-- Every row and every claim is that of one staging, and so is every call made. -/
structure Bound (cfg : Config) (t : BindingTrace) : Prop where
  rows : ∀ r ∈ t.system.db.confirmations, ∃ st ∈ t.stagings, st.saved cfg = stagedColumns r
  procs : ∀ p ∈ t.system.procs, p.Bound cfg t.stagings
  drawn : ∀ st ∈ t.stagings, st.env.uuid ∈ t.system.requests.map Request.nonce
  once : Table.UniqueOn (fun st : Staging => st.env.uuid) t.stagings
  calls : ∀ c ∈ t.calls, ∃ st ∈ t.stagings, c.Executes cfg st

namespace Bound

variable {t t' : BindingTrace}

lemma init (cfg : Config) : Bound cfg .init where
  rows _ hr := absurd hr not_mem_nil
  procs _ hp := absurd hp not_mem_nil
  drawn _ hst := absurd hst not_mem_nil
  once := nodup_nil
  calls _ hc := absurd hc not_mem_nil

variable {p : Proc}

lemma nonce_of_staging {env : Env} {db : RescheduleDb} {st : Staging}
    (h : st ∈ p.stagings cfg env db) :
    p.stagings cfg env db = [st] ∧ st.env = env ∧
      env.uuid ∈ (p.requests env).map Request.nonce := by
  cases p with
  | stage _ pc =>
    cases pc with
    | save =>
      simp only [Proc.stagings] at h ⊢
      split at h
      next hwrote =>
        obtain rfl := mem_singleton.mp h
        exact ⟨if_pos hwrote, rfl, mem_singleton_self _⟩
      · exact absurd h not_mem_nil
    | _ => exact absurd h not_mem_nil
  | _ => exact absurd h not_mem_nil

lemma sessionCall_executes (h : p.Bound cfg t.stagings) {c : SessionCall}
    (hc : c ∈ p.sessionCalls) : ∃ st ∈ t.stagings, c.Executes cfg st := by
  cases p with
  | confirm call pc =>
    cases pc with
    | write claim =>
      obtain rfl := mem_singleton.mp hc
      have hacc : call.accepted = true := by
        rcases h.accepted with hacc | hstart | ⟨_, hdone⟩
        · exact hacc
        · simp at hstart
        · simp at hdone
      exact (h.claim claim rfl).executes hacc
    | _ => exact absurd hc not_mem_nil
  | _ => exact absurd hc not_mem_nil

lemma advance (h : Bound cfg t) {i : ℕ} {env : Env} (hp : t.system.procs[i]? = some p)
    (hfresh : t.system.Fresh env p) :
    Bound cfg ⟨t.system.advance cfg i env p, t.stagings ++ p.stagings cfg env t.system.db,
      t.calls ++ p.sessionCalls⟩ := by
  have hmem : p ∈ t.system.procs := mem_of_getElem? hp
  refine ⟨?_, ?_, ?_, ?_, ?_⟩
  · intro _ hr
    rcases p.rows_step cfg env t.system.db hr with ⟨q, hq, hcols⟩ | ⟨st, hst, hsaved⟩
    · obtain ⟨st, hst, hsaved⟩ := h.rows q hq
      exact ⟨st, mem_append_left _ hst, hsaved.trans hcols⟩
    · exact ⟨st, mem_append_right _ hst, hsaved⟩
  · intro p' hp'
    rcases mem_or_eq_of_mem_set hp' with hold | rfl
    · exact (h.procs p' hold).append _
    · exact ((h.procs p hmem).step env h.rows).append _
  · intro st hst
    simp only [RescheduleSystem.advance, map_append]
    rcases mem_append.mp hst with hst | hst
    · exact mem_append_right _ (h.drawn st hst)
    · obtain ⟨-, henv, hdrawn⟩ := nonce_of_staging hst
      rw [henv]
      exact mem_append_left _ hdrawn
  · rw [Table.UniqueOn, map_append]
    refine nodup_append.mpr ⟨h.once, ?_, ?_⟩
    · -- a step saves at most one staging
      cases hnew : p.stagings cfg env t.system.db with
      | nil => exact nodup_nil
      | cons st =>
        have hst : st ∈ p.stagings cfg env t.system.db := hnew ▸ mem_cons_self
        rw [(nonce_of_staging hst).1] at hnew
        rw [← hnew]
        exact nodup_singleton _
    · intro _ ha _ hb heq
      obtain ⟨st, hst, rfl⟩ := mem_map.mp ha
      obtain ⟨_, hst', rfl⟩ := mem_map.mp hb
      obtain ⟨-, henv, hdrawn⟩ := nonce_of_staging hst'
      obtain ⟨q, hq, hnonce⟩ := mem_map.mp hdrawn
      refine hfresh.2 q hq ?_
      rw [hnonce, ← henv, ← heq]
      exact h.drawn st hst
  · intro c hc
    rcases mem_append.mp hc with hc | hc
    · obtain ⟨st, hst, hexec⟩ := h.calls c hc
      exact ⟨st, mem_append_left _ hst, hexec⟩
    · obtain ⟨st, hst, hexec⟩ := sessionCall_executes (h.procs p hmem) hc
      exact ⟨st, mem_append_left _ hst, hexec⟩

lemma step (h : Bound cfg t) {e : RescheduleEvent} (hstep : t.step cfg e = some t') :
    Bound cfg t' := by
  rcases step_cases hstep with ⟨_, hnew, rfl⟩ | ⟨_, _, _, hp, hfresh, rfl⟩ | ⟨_, rfl⟩
  · refine ⟨h.rows, ?_, h.drawn, h.once, h.calls⟩
    intro p' hp'
    rcases mem_append.mp hp' with hold | hp'
    · exact h.procs p' hold
    · obtain rfl := mem_singleton.mp hp'
      cases hnew with
      | confirm => exact ⟨.inr (.inl rfl), fun c hc => absurd hc (by simp [ConfirmPc.claim?])⟩
      | stage | cancel | recovery => trivial
  · exact h.advance hp hfresh
  · refine ⟨h.rows, ?_, h.drawn, h.once, h.calls⟩
    intro p' hp'
    rcases mem_or_eq_of_mem_set hp' with hold | rfl
    · exact h.procs p' hold
    · trivial

end Bound

/-- Every call to the calendar executes one staging, and no other staging has its nonce. -/
theorem confirm_executes_one_staging (cfg : Config) {events : List RescheduleEvent}
    {t : BindingTrace} (hrun : run (step cfg) init events = some t) :
    ∀ c ∈ t.calls, ∃ st ∈ t.stagings, c.Executes cfg st ∧
      ∀ st' ∈ t.stagings, (st'.saved cfg).nonce = (st.saved cfg).nonce → st' = st := by
  have h : Bound cfg t := run_induction (fun _ _ _ h _ hstep => h.step hstep) (Bound.init cfg)
    (along_true _ _) hrun
  intro c hc
  obtain ⟨st, hst, hexec⟩ := h.calls c hc
  exact ⟨st, hst, hexec, fun st' hst' hnonce => h.once.eq_of_key_eq hst' hst hnonce⟩

def stagedAndWritten : List RescheduleEvent :=
  Sample.claimed ++ List.replicate 4 (.advance 1 (Sample.env 1000))

/-- A request is staged, confirmed and written. -/
theorem confirm_executes_one_staging_stagedAndWritten :
    ∃ t, run (step Sample.config) init stagedAndWritten = some t ∧ t.calls.length = 1 ∧
      ∀ c ∈ t.calls, ∃ st ∈ t.stagings, c.Executes Sample.config st ∧ ∀ st' ∈ t.stagings,
          (st'.saved Sample.config).nonce = (st.saved Sample.config).nonce → st' = st :=
  exists_end (A := fun t => t.calls.length = 1) (by decide) fun _ hrun hcalls =>
    ⟨hcalls, confirm_executes_one_staging Sample.config hrun⟩

end BindingTrace

end WispaceBot
