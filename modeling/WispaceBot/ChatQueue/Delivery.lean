import WispaceBot.ChatQueue.Refinement
import WispaceBot.Foundation.Run

/-!
# How often, and with which notice, the chat queue hands out a batch

`claimReadyBuffer` does not read `abandoned`, so a worker that listed the user earlier still gets an
abandoned batch.  A batch is handed out at most `maxFlushRetries + 1` times where no claim lands on
an abandoned record.

`droppedNoticePending` is raised by every append that drops messages and lowered by
`completeChatBuffer`, which forgets a drop that happened while its batch was in flight.
-/

namespace WispaceBot

open LeasedBatch RedisChatQueueStore Transition

variable {τ γ : Type} {settings : RedisChatQueueSettings}

/-! ## Abandoned batches -/

def isAbandoned (stored : Option (RedisChatQueueBufferState τ γ)) : Bool :=
  stored.any fun state => state.abandoned

/-- The call is a claim that lands on an abandoned record with no batch in flight. -/
def QueueOp.claimsAbandoned (stored : Option (RedisChatQueueBufferState τ γ)) :
    QueueOp τ γ → Bool
  | claim _ _ _ _ => stored.any fun state => state.abandoned && !state.processing
  | _ => false

lemma QueueOp.snapshot_of_claimsAbandoned (settings : RedisChatQueueSettings)
    {stored : Option (RedisChatQueueBufferState τ γ)} {op : QueueOp τ γ}
    (hwf : StoredWellFormed stored) (h : op.claimsAbandoned stored = true) :
    (op.snapshot settings stored).isSome = true := by
  cases op with
  | claim =>
    cases stored with
    | none => cases h
    | some state =>
      have hstate := storedWellFormed_some.mp hwf
      obtain ⟨haband, hp⟩ : state.abandoned = true ∧ state.processing = false := by
        simpa [claimsAbandoned] using h
      have htexts := (hstate.idle hp).1
      have hdeadline := hstate.abandoned hp haband
      simp [snapshot, readState, claimReadyBuffer, claimWaiting, notDue, hp, htexts, hdeadline]
  | _ => cases h

/-- The queue of one user with the number of snapshots handed out since the last new message. -/
structure CountedQueue (τ γ : Type) where
  stored : Option (RedisChatQueueBufferState τ γ)
  handouts : ℕ

namespace CountedQueue

variable {s t : CountedQueue τ γ} {op : QueueOp τ γ}

def initial : CountedQueue τ γ := ⟨none, 0⟩

section

variable (settings : RedisChatQueueSettings) (s : CountedQueue τ γ) (op : QueueOp τ γ)

def step : Option (CountedQueue τ γ) :=
  some ⟨op.apply settings s.stored, countHandOuts s.handouts (op.label settings s.stored)⟩

/-- A call that finds the record abandoned hands out no batch. -/
def NullWhileAbandoned : Prop :=
  isAbandoned s.stored = true → op.snapshot settings s.stored = none

end

/-- What holds in every state as long as no claim lands on an abandoned record. -/
structure Retired (settings : RedisChatQueueSettings) (s : CountedQueue τ γ) : Prop where
  wellFormed : StoredWellFormed s.stored
  withinBudget : WithinBudget settings.maxFlushRetries (phase s.stored) s.handouts

lemma retired_initial : Retired settings (initial : CountedQueue τ γ) :=
  ⟨storedWellFormed_none, .empty (Nat.zero_le _)⟩

lemma wellFormed_step (h : StoredWellFormed s.stored) (hstep : step settings s op = some t) :
    StoredWellFormed t.stored := by
  cases hstep
  exact op.wellFormed_apply settings h

lemma Retired.step (h : Retired settings s) (hclaim : op.claimsAbandoned s.stored = false)
    (hstep : CountedQueue.step settings s op = some t) : Retired settings t := by
  refine ⟨wellFormed_step h.wellFormed hstep, ?_⟩
  cases hstep
  refine h.withinBudget.move (op.move_apply settings h.wellFormed) ?_
  intro _ _ _ hphase _ _ _ hlabel
  obtain ⟨_, _, _, _, rfl, -⟩ := QueueOp.label_eq_handOut hlabel
  -- a claim that hands out the messages of a given-up queue is the excluded one
  cases hsto : s.stored with
  | none => simp [hsto, phase] at hphase
  | some =>
    rw [hsto, phase] at hphase
    split_ifs at hphase with hp haband
    simp [QueueOp.claimsAbandoned, hsto, hp, haband] at hclaim

lemma Retired.not_processing (h : Retired settings s) {state : RedisChatQueueBufferState τ γ}
    (hsto : s.stored = some state) (haband : state.abandoned = true) :
    state.processing = false := by
  by_contra hp
  have hbud := h.withinBudget
  rw [hsto, phase_inFlight (by simpa using hp), haband] at hbud
  exact WithinBudget.not_pastBudget hbud

lemma Retired.nullWhileAbandoned (h : Retired settings s)
    (hclaim : op.claimsAbandoned s.stored = false) : NullWhileAbandoned settings s op := by
  intro haband
  cases op with
  | claim =>
    cases hsto : s.stored with
    | none => simp [isAbandoned, hsto] at haband
    | some state =>
      have hflag : state.abandoned = true := by simpa [isAbandoned, hsto] using haband
      simp [QueueOp.claimsAbandoned, hsto, hflag, h.not_processing hsto hflag] at hclaim
  | _ => rfl

/-- Every claim finds nothing while the record is abandoned exactly when no claim lands on an
abandoned record, and then the batch was handed out at most `maxFlushRetries + 1` times. -/
theorem abandoned_batch_retired (settings : RedisChatQueueSettings) (ops : List (QueueOp τ γ))
    {s : CountedQueue τ γ} (hrun : run (step settings) initial ops = some s) :
    (Along (step settings) (NullWhileAbandoned settings) initial ops ↔
        Along (step settings) (fun u op => op.claimsAbandoned u.stored = false) initial ops) ∧
      (Along (step settings) (fun u op => op.claimsAbandoned u.stored = false) initial ops →
        s.handouts ≤ settings.maxFlushRetries + 1) := by
  refine ⟨⟨fun h => ?_, fun h => ?_⟩, fun h => ?_⟩
  · refine h.imp (I := fun u => StoredWellFormed u.stored) ?_ ?_ storedWellFormed_none
    · intro u op t hu _ hstep
      exact wellFormed_step hu hstep
    · intro u op hu hnull
      rw [Bool.eq_false_iff]
      intro hclaim
      have haband : isAbandoned u.stored = true := by
        cases op with
        | claim =>
          obtain ⟨state, hstate, hflag⟩ := (Option.any_eq_true _ _).mp hclaim
          rw [isAbandoned, Option.any_eq_true]
          exact ⟨state, hstate, (Bool.and_eq_true_iff.mp hflag).1⟩
        | _ => cases hclaim
      have hsome := QueueOp.snapshot_of_claimsAbandoned settings hu hclaim
      rw [hnull haband] at hsome
      cases hsome
  · refine h.imp (I := Retired settings) ?_ ?_ retired_initial
    · intro u op t hu hclaim hstep
      exact hu.step hclaim hstep
    · intro u op hu hclaim
      exact hu.nullWhileAbandoned hclaim
  · have hs : Retired settings s :=
      run_induction (fun u op t hu hclaim hstep => hu.step hclaim hstep) retired_initial h hrun
    exact hs.withinBudget.handouts_le

open QueueSample in
/-- Two failed attempts exhaust a budget of one retry; the batch was handed out twice. -/
theorem abandoned_batch_retired_two_attempts :
    ∃ s, run (step QueueSample.settings) initial
        [message 0 "a", poll 2000 "t", failed 3000 "t", poll 9000 "u", failed 10000 "u"] = some s ∧
      isAbandoned s.stored = true ∧ s.handouts = 2 ∧ s.handouts ≤ 1 + 1 :=
  ⟨_, rfl, rfl, rfl, (abandoned_batch_retired QueueSample.settings
    [message 0 "a", poll 2000 "t", failed 3000 "t", poll 9000 "u", failed 10000 "u"] rfl).2
    (by decide)⟩

open QueueSample in
/-- A worker that listed the user before claims the abandoned batch. -/
theorem abandoned_batch_handed_out :
    ∃ s snapshot t, run (step QueueSample.settings) initial
        [message 0 "a", poll 2000 "t", failed 3000 "t", poll 9000 "u", failed 10000 "u"] = some s ∧
      isAbandoned s.stored = true ∧
      (poll 10001 "v").snapshot QueueSample.settings s.stored = some snapshot ∧
      snapshot.texts = ["a"] ∧ step QueueSample.settings s (poll 10001 "v") = some t ∧
      t.handouts = QueueSample.settings.maxFlushRetries + 2 :=
  ⟨_, _, _, rfl, rfl, rfl, rfl, rfl, rfl⟩

end CountedQueue

/-! ## The notice of dropped messages -/

namespace QueueOp

section

variable (settings : RedisChatQueueSettings) (stored : Option (RedisChatQueueBufferState τ γ))

def dropped (op : QueueOp τ γ) : List τ :=
  match op.label settings stored with
  | .accept _ lost => lost
  | _ => []

/-- The call settles the batch that is being processed. -/
def completes (op : QueueOp τ γ) : Bool :=
  match op.label settings stored with
  | .settle _ _ => true
  | _ => false

/-- The record after a call that is not `clear`. -/
def step :
    QueueOp τ γ → Option (Option (RedisChatQueueBufferState τ γ))
  | clear _ => none
  | op => some (op.apply settings stored)

end

variable {stored next after : Option (RedisChatQueueBufferState τ γ)} {op : QueueOp τ γ}
  {ops : List (QueueOp τ γ)}

lemma step_eq_some (h : step settings stored op = some next) :
    next = op.apply settings stored ∧ op.label settings stored ≠ .discard := by
  have happly : next = op.apply settings stored := by
    cases op <;> cases h <;> rfl
  refine ⟨happly, fun hlabel => ?_⟩
  obtain ⟨_, rfl⟩ := label_eq_discard hlabel
  cases h

section

variable (hwf : StoredWellFormed stored)
include hwf

lemma wellFormed_step (h : step settings stored op = some next) : StoredWellFormed next := by
  obtain ⟨rfl, -⟩ := step_eq_some h
  exact op.wellFormed_apply settings hwf

lemma droppedNoticePending_snapshot {snapshot : ChatQueueBufferSnapshot τ γ}
    (h : op.snapshot settings stored = some snapshot) :
    snapshot.droppedNoticePending = (phase stored).notice := by
  cases op with
  | claim clock externalUserId leaseToken stuckMs =>
    have hmove := (claim clock externalUserId leaseToken stuckMs).move_apply settings hwf
    simp only [label, h] at hmove
    exact hmove.notice_handOut
  | _ => cases h

lemma notice_of_dropped (h : op.dropped settings stored ≠ []) :
    (phase (op.apply settings stored)).notice = true := by
  have hmove := op.move_apply settings hwf
  unfold dropped at h
  cases hlabel : op.label settings stored with
  | accept =>
    rw [hlabel] at hmove h
    exact hmove.notice_of_lost h
  | _ => simp [hlabel] at h

lemma notice_step (hnotice : (phase stored).notice = true)
    (hcompletes : op.completes settings stored = false) (h : step settings stored op = some next) :
    (phase next).notice = true := by
  obtain ⟨rfl, hdiscard⟩ := step_eq_some h
  refine (op.move_apply settings hwf).notice_of_notice hnotice ?_ hdiscard
  intro _ _ hlabel
  simp [completes, hlabel] at hcompletes

lemma not_notice_of_completes (hcompletes : op.completes settings stored = true)
    (h : step settings stored op = some next) : (phase next).notice = false := by
  obtain ⟨rfl, -⟩ := step_eq_some h
  have hmove := op.move_apply settings hwf
  unfold completes at hcompletes
  cases hlabel : op.label settings stored with
  | settle =>
    rw [hlabel] at hmove
    exact hmove.notice_settle
  | _ => simp [hlabel] at hcompletes

lemma not_notice_step (hnotice : (phase stored).notice = false)
    (hdrop : op.dropped settings stored = []) (h : step settings stored op = some next) :
    (phase next).notice = false := by
  obtain ⟨rfl, -⟩ := step_eq_some h
  refine (op.move_apply settings hwf).notice_of_not_lost hnotice ?_
  intro _ _ hlabel
  simpa [dropped, hlabel] using hdrop

lemma along_not_completes
    (hdrop : Along (step settings) (fun s op => op.dropped settings s = []) stored ops)
    (hrun : run (step settings) stored ops = some after) (hnotice : (phase after).notice = true) :
    Along (step settings) (fun s op => op.completes settings s = false) stored ops := by
  induction ops generalizing stored with
  | nil => trivial
  | cons op _ ih =>
    obtain ⟨u, hu, hrest⟩ := run_cons_eq_some.mp hrun
    have hwfu := wellFormed_step hwf hu
    refine ⟨?_, fun t ht => ?_⟩
    · by_contra hcontra
      have hcompletes : op.completes settings stored = true := by simpa using hcontra
      -- once lowered, the notice stays down to the end of the run
      have hlow : StoredWellFormed after ∧ (phase after).notice = false :=
        run_induction (I := fun s => StoredWellFormed s ∧ (phase s).notice = false)
          (fun s e t hs hC ht => ⟨wellFormed_step hs.1 ht, not_notice_step hs.1 hs.2 hC ht⟩)
          ⟨hwfu, not_notice_of_completes hwf hcompletes hu⟩ (hdrop.2 u hu) hrest
      rw [hnotice] at hlow
      cases hlow.2
    · obtain rfl : u = t := Option.some.inj (hu.symm.trans ht)
      exact ih hwfu (hdrop.2 u hu) hrest

end

/-- A later snapshot reports a drop if no completion in between takes effect; and if nothing else is
dropped in between, only then. -/
theorem drop_announced_iff (settings : RedisChatQueueSettings) (ops : List (QueueOp τ γ))
    (op claim : QueueOp τ γ) {before after : Option (RedisChatQueueBufferState τ γ)}
    {snapshot : ChatQueueBufferSnapshot τ γ}
    (hbefore : Reachable (step settings) none before) (hdrop : op.dropped settings before ≠ [])
    (hrun : run (step settings) (op.apply settings before) ops = some after)
    (hsnapshot : claim.snapshot settings after = some snapshot) :
    (Along (step settings) (fun s e => e.completes settings s = false) (op.apply settings before)
        ops → snapshot.droppedNoticePending = true) ∧
      (Along (step settings) (fun s e => e.dropped settings s = []) (op.apply settings before)
        ops → snapshot.droppedNoticePending = true →
        Along (step settings) (fun s e => e.completes settings s = false)
          (op.apply settings before) ops) := by
  have hwf : StoredWellFormed before :=
    hbefore.induction storedWellFormed_none fun s e t hs ht => wellFormed_step hs ht
  have hwf' := op.wellFormed_apply settings hwf
  have hwfAfter : StoredWellFormed after :=
    run_induction (C := fun _ _ => True) (fun s e t hs _ ht => wellFormed_step hs ht) hwf'
      (along_true _ ops) hrun
  rw [droppedNoticePending_snapshot hwfAfter hsnapshot]
  refine ⟨fun h => ?_, fun hdropped hnotice => along_not_completes hwf' hdropped hrun hnotice⟩
  have hkept : StoredWellFormed after ∧ (phase after).notice = true :=
    run_induction (I := fun s => StoredWellFormed s ∧ (phase s).notice = true)
      (fun s e t hs hC ht => ⟨wellFormed_step hs.1 ht, notice_step hs.1 hs.2 hC ht⟩)
      ⟨hwf', notice_of_dropped hwf hdrop⟩ h hrun
  exact hkept.2

open QueueSample in
/-- The third message drops the first; the failed attempt in between does not hide it. -/
theorem drop_announced_after_retry :
    ∃ before after snapshot, run (step QueueSample.settings) none
        [message 0 "a", message 10 "b"] = some before ∧
      (message 20 "c").dropped QueueSample.settings before = ["a"] ∧
      run (step QueueSample.settings) ((message 20 "c").apply QueueSample.settings before)
        [poll 2000 "t", failed 3000 "t"] = some after ∧
      (poll 9000 "u").snapshot QueueSample.settings after = some snapshot ∧
      snapshot.droppedNoticePending = true :=
  ⟨_, _, _, rfl, rfl, rfl, rfl, (drop_announced_iff QueueSample.settings
    [poll 2000 "t", failed 3000 "t"] (message 20 "c") (poll 9000 "u")
    ⟨[message 0 "a", message 10 "b"], rfl⟩ (by decide) rfl rfl).1 (by decide)⟩

open QueueSample in
/-- The last message drops one while the first is in flight; the batch completes. -/
theorem drop_unannounced :
    ∃ before after snapshot, run (step QueueSample.settings) none
        [message 0 "a", poll 2000 "t", message 2010 "b", message 2020 "c"] = some before ∧
      (message 2030 "d").dropped QueueSample.settings before = ["b"] ∧
      run (step QueueSample.settings) ((message 2030 "d").apply QueueSample.settings before)
        [done 3000 "t"] = some after ∧
      (poll 9000 "u").snapshot QueueSample.settings after = some snapshot ∧
      snapshot.texts = ["c", "d"] ∧ snapshot.droppedNoticePending = false :=
  ⟨_, _, _, rfl, rfl, rfl, rfl, rfl, rfl⟩

end QueueOp

end WispaceBot
