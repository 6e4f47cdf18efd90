import WispaceBot.ChatQueue.Buffer
import WispaceBot.Foundation.LeasedBatch

/-!
# The chat buffer is a queue with leased batches

A stored record is a `LeasedBatch.Phase`, read off by `phase`, and every operation on it is a
`LeasedBatch.Move` (`QueueOp.move_apply`) under a label that tells what was dropped, handed out or
removed.  `claimReadyBuffer` does not look at `abandoned`, hence the move `handOutGivenUp`.
-/

namespace WispaceBot

open LeasedBatch RedisChatQueueStore

variable {τ γ : Type} {settings : RedisChatQueueSettings} {state : RedisChatQueueBufferState τ γ}
  {stored : Option (RedisChatQueueBufferState τ γ)}

/-- The records that the queue writes. -/
structure RedisChatQueueBufferState.WellFormed (state : RedisChatQueueBufferState τ γ) : Prop where
  /-- Without a batch in flight the messages are all in `texts`. -/
  idle : state.processing = false →
    state.texts ≠ [] ∧ state.processingTexts = [] ∧ state.pendingTexts = []
  /-- A batch in flight is not empty, has a token, and nothing is in `texts`. -/
  inFlight : state.processing = true →
    state.texts = [] ∧ state.processingTexts ≠ [] ∧ ∃ token, state.processingLeaseToken = some token
  abandoned : state.processing = false → state.abandoned = true → state.flushAfterAt = none

def StoredWellFormed (stored : Option (RedisChatQueueBufferState τ γ)) : Prop :=
  ∀ state, stored = some state → state.WellFormed

@[simp] lemma storedWellFormed_none :
    StoredWellFormed (none : Option (RedisChatQueueBufferState τ γ)) := by
  simp [StoredWellFormed]

@[simp] lemma storedWellFormed_some : StoredWellFormed (some state) ↔ state.WellFormed := by
  simp [StoredWellFormed]

/-! ## The phase of a stored record -/

/-- The stored record as a state of the abstract queue. -/
def phase : Option (RedisChatQueueBufferState τ γ) → Phase τ String
  | none => .empty
  | some state =>
    if state.processing then
      .inFlight (state.processingLeaseToken.getD "") state.processingTexts state.pendingTexts
        state.retryCount state.droppedNoticePending state.abandoned
    else if state.abandoned then
      .givenUp state.texts state.retryCount state.droppedNoticePending
    else .waiting state.texts state.retryCount state.droppedNoticePending

lemma phase_inFlight (h : state.processing = true) :
    phase (some state) = .inFlight (state.processingLeaseToken.getD "") state.processingTexts
      state.pendingTexts state.retryCount state.droppedNoticePending state.abandoned := by
  simp [phase, h]

lemma phase_givenUp (h : state.processing = false) (ha : state.abandoned = true) :
    phase (some state) = .givenUp state.texts state.retryCount state.droppedNoticePending := by
  simp [phase, h, ha]

lemma phase_waiting (h : state.processing = false) (ha : state.abandoned = false) :
    phase (some state) = .waiting state.texts state.retryCount state.droppedNoticePending := by
  simp [phase, h, ha]

lemma messages_phase (h : state.WellFormed) :
    (phase (some state)).messages = state.processingTexts ++ state.texts ++ state.pendingTexts := by
  cases hp : state.processing with
  | true => simp [phase_inFlight hp, Phase.messages, (h.inFlight hp).1]
  | false =>
    obtain ⟨-, hproc, hpend⟩ := h.idle hp
    cases ha : state.abandoned with
    | true => simp [phase_givenUp hp ha, Phase.messages, hproc, hpend]
    | false => simp [phase_waiting hp ha, Phase.messages, hproc, hpend]

/-! ## Writing a record -/

lemma RedisChatQueueBufferState.WellFormed.hasBufferedWork (h : state.WellFormed) :
    hasBufferedWork state = true := by
  cases hp : state.processing with
  | true => simp [RedisChatQueueStore.hasBufferedWork, hp]
  | false =>
    have htexts := (h.idle hp).1
    simp [RedisChatQueueStore.hasBufferedWork, htexts]

lemma RedisChatQueueBufferState.WellFormed.writeState (h : state.WellFormed) :
    writeState state = some state := by
  simp [RedisChatQueueStore.writeState, h.hasBufferedWork]

lemma QueueOp.apply_eq_some {op : QueueOp τ γ} (h : op.apply settings stored = some state) :
    op.written settings stored = some state ∨
      op.written settings stored = none ∧ stored = some state := by
  cases op with
  | clear => cases h
  | _ =>
    simp only [apply, store] at h
    split at h
    · next hwrote => exact .inr ⟨hwrote, h⟩
    · next _ hwrote =>
      rw [RedisChatQueueStore.writeState] at h
      split_ifs at h
      exact .inl (hwrote.trans h)

/-! ## The cap -/

lemma droppedByPush_append_pushCapped (settings : RedisChatQueueSettings) (msgs : List τ)
    (text : τ) :
    droppedByPush settings msgs text ++ pushCapped settings msgs text = msgs ++ [text] := by
  unfold droppedByPush pushCapped capMessages
  split_ifs
  · exact List.take_append_drop _ _
  · rfl

lemma overCap_eq (settings : RedisChatQueueSettings) (msgs : List τ) (text : τ) :
    overCap settings (msgs ++ [text]) = !(droppedByPush settings msgs text).isEmpty := by
  unfold droppedByPush
  cases h : overCap settings (msgs ++ [text]) with
  | false => rfl
  | true =>
    simp only [overCap, decide_eq_true_eq, List.length_append, List.length_singleton] at h
    have hpos : ¬msgs.length + 1 - settings.maxPendingSize = 0 := by omega
    simp [hpos]

lemma pushCapped_ne_nil (settings : RedisChatQueueSettings) (msgs : List τ) (text : τ) :
    pushCapped settings msgs text ≠ [] := by
  unfold pushCapped capMessages
  split_ifs with h
  · simp only [overCap, decide_eq_true_eq] at h
    intro hnil
    have hlen := congrArg List.length hnil
    rw [List.length_drop, List.length_nil] at hlen
    omega
  · simp

/-! ## What an operation shows -/

namespace QueueOp

def label (settings : RedisChatQueueSettings) (stored : Option (RedisChatQueueBufferState τ γ)) :
    QueueOp τ γ → Label τ String
  | append clock input =>
    let state := readState (clock 2) stored
    if isDuplicate input state then .quiet
    else .accept input.userText
      (droppedByPush settings (if state.processing then state.pendingTexts else state.texts)
        input.userText)
  | op@(claim _ _ _ _) =>
    match op.snapshot settings stored with
    | none => .quiet
    | some snapshot => .handOut snapshot.leaseToken snapshot.texts snapshot.droppedNoticePending
  | retry _ _ _ _ => .quiet
  | complete clock _ _ leaseToken =>
    let state := readState (clock 2) stored
    if holdsLease leaseToken state then .settle leaseToken state.processingTexts else .quiet
  | clear _ => .discard

variable {op : QueueOp τ γ}

lemma label_eq_accept {m : τ} {lost : List τ} (h : op.label settings stored = .accept m lost) :
    ∃ clock input, op = append clock input ∧ input.userText = m ∧
      isDuplicate input (readState (clock 2) stored) = false := by
  cases op with
  | append clock input =>
    cases hdup : isDuplicate input (readState (clock 2) stored) with
    | true => simp [label, hdup] at h
    | false =>
      simp only [label, hdup] at h
      exact ⟨clock, input, rfl, (Label.accept.inj h).1, hdup⟩
  | claim =>
    simp only [label] at h
    split at h <;> cases h
  | retry => cases h
  | complete =>
    simp only [label] at h
    split_ifs at h
  | clear => cases h

lemma label_eq_handOut {lease : String} {batch : List τ} {notice : Bool}
    (h : op.label settings stored = .handOut lease batch notice) :
    ∃ clock ext stuckMs snapshot,
      op = claim clock ext lease stuckMs ∧
        op.snapshot settings stored = some snapshot ∧ snapshot.leaseToken = lease ∧
        snapshot.texts = batch ∧ snapshot.droppedNoticePending = notice := by
  cases op with
  | append | complete =>
    simp only [label] at h
    split_ifs at h
  | claim clock ext tok stuckMs =>
    simp only [label] at h
    split at h
    · cases h
    · next snapshot hsnap =>
      obtain ⟨rfl, rfl, rfl⟩ := Label.handOut.inj h
      have htoken : snapshot.leaseToken = tok := by
        simp only [QueueOp.snapshot, claimReadyBuffer, claimWaiting] at hsnap
        split_ifs at hsnap <;> cases hsnap <;> rfl
      exact ⟨clock, ext, stuckMs, snapshot, by rw [htoken], hsnap, rfl,
        rfl, rfl⟩
  | retry => cases h
  | clear => cases h

lemma label_eq_discard (h : op.label settings stored = .discard) : ∃ ext, op = clear ext := by
  cases op with
  | append | complete =>
    simp only [label] at h
    split_ifs at h
  | claim =>
    simp only [label] at h
    split at h <;> cases h
  | retry => cases h
  | clear ext => exact ⟨ext, rfl⟩

/-- A call is matched by a move of the abstract queue, and what it leaves is well formed. -/
def Refines (settings : RedisChatQueueSettings) (stored : Option (RedisChatQueueBufferState τ γ))
    (op : QueueOp τ γ) : Prop :=
  Move settings.maxFlushRetries (phase stored) (op.label settings stored)
    (phase (op.apply settings stored)) ∧ StoredWellFormed (op.apply settings stored)

lemma refines_of_quiet (hwf : StoredWellFormed stored)
    (happly : op.apply settings stored = stored) (hlabel : op.label settings stored = .quiet) :
    Refines settings stored op := by
  rw [Refines, happly, hlabel]
  exact ⟨.stay _, hwf⟩

lemma refines_of_written (next : RedisChatQueueBufferState τ γ)
    (hwrote : op.apply settings stored = writeState next) (hnext : next.WellFormed)
    (hmove : Move settings.maxFlushRetries (phase stored) (op.label settings stored)
      (phase (some next))) : Refines settings stored op := by
  rw [Refines, hwrote, hnext.writeState]
  exact ⟨hmove, storedWellFormed_some.mpr hnext⟩

end QueueOp

/-! ## `appendChatBuffer` -/

def appended (settings : RedisChatQueueSettings) (clock : ℕ → ℤ)
    (input : AppendChatBufferInput τ γ) (state : RedisChatQueueBufferState τ γ) :
    RedisChatQueueBufferState τ γ :=
  attach (clock 1) input (push settings (clock 0) input (revive (rememberKey input state)))

section Append

variable (settings) (clock : ℕ → ℤ) (input : AppendChatBufferInput τ γ)
  (state : RedisChatQueueBufferState τ γ)

lemma appended_processing : (appended settings clock input state).processing =
    state.processing := by
  cases hp : state.processing <;> cases ha : state.abandoned <;>
    simp [appended, attach, push, revive, rememberKey, hp, ha]

lemma appended_abandoned : (appended settings clock input state).abandoned = false := by
  cases hp : state.processing <;> cases ha : state.abandoned <;>
    simp [appended, attach, push, revive, rememberKey, hp, ha]

lemma appended_retryCount : (appended settings clock input state).retryCount =
    if state.abandoned then 0 else state.retryCount := by
  cases hp : state.processing <;> cases ha : state.abandoned <;>
    simp [appended, attach, push, revive, rememberKey, hp, ha]

variable {state}

lemma appended_inFlight (hp : state.processing = true) :
    let next := appended settings clock input state
    next.pendingTexts = pushCapped settings state.pendingTexts input.userText ∧
      next.texts = state.texts ∧ next.processingTexts = state.processingTexts ∧
      next.processingLeaseToken = state.processingLeaseToken ∧
      next.droppedNoticePending = (state.droppedNoticePending ||
        !(droppedByPush settings state.pendingTexts input.userText).isEmpty) := by
  cases ha : state.abandoned <;>
    simp [appended, attach, push, revive, rememberKey, hp, ha, overCap_eq]

lemma appended_idle (hp : state.processing = false) :
    let next := appended settings clock input state
    next.texts = pushCapped settings state.texts input.userText ∧
      next.pendingTexts = state.pendingTexts ∧ next.processingTexts = state.processingTexts ∧
      next.droppedNoticePending = (state.droppedNoticePending ||
        !(droppedByPush settings state.texts input.userText).isEmpty) := by
  cases ha : state.abandoned <;>
    simp [appended, attach, push, revive, rememberKey, hp, ha, overCap_eq]

lemma appended_wellFormed
    (hidle : state.processing = false → state.processingTexts = [] ∧ state.pendingTexts = [])
    (hflight : state.processing = true → state.WellFormed) :
    (appended settings clock input state).WellFormed := by
  refine ⟨fun hp => ?_, fun hp => ?_, fun _ ha => ?_⟩
  · rw [appended_processing] at hp
    obtain ⟨htexts, hpend, hproc, -⟩ := appended_idle settings clock input hp
    rw [htexts, hpend, hproc]
    exact ⟨pushCapped_ne_nil _ _ _, hidle hp⟩
  · rw [appended_processing] at hp
    obtain ⟨-, htexts, hproc, hlease, -⟩ := appended_inFlight settings clock input hp
    rw [htexts, hproc, hlease]
    exact (hflight hp).inFlight hp
  · rw [appended_abandoned] at ha
    cases ha

lemma move_appended_empty (now : ℤ) :
    Move settings.maxFlushRetries (phase (none : Option (RedisChatQueueBufferState τ γ)))
      (.accept input.userText (droppedByPush settings [] input.userText))
      (phase (some (appended settings clock input (emptyState now)))) := by
  have hfits : overCap settings [input.userText] = false := by
    simp only [overCap, List.length_singleton, decide_eq_false_iff_not]
    omega
  have hlost : droppedByPush settings [] input.userText = [] := by
    simp [droppedByPush, hfits]
  have hkept : pushCapped settings [] input.userText = [input.userText] := by
    simp [pushCapped, hfits]
  obtain ⟨htexts, -, -, hnotice⟩ := appended_idle settings clock input
    (rfl : (emptyState now : RedisChatQueueBufferState τ γ).processing = false)
  have hphase : phase (some (appended settings clock input (emptyState now))) =
      .waiting [input.userText] 0 false := by
    rw [phase_waiting (appended_processing _ _ _ _) (appended_abandoned _ _ _ _), htexts,
      appended_retryCount, hnotice]
    simp [emptyState, hlost, hkept]
  rw [hphase, hlost]
  exact .acceptFirst _

lemma move_appended :
    Move settings.maxFlushRetries (phase (some state))
      (.accept input.userText (droppedByPush settings
        (if state.processing then state.pendingTexts else state.texts) input.userText))
      (phase (some (appended settings clock input state))) := by
  cases hp : state.processing with
  | true =>
    obtain ⟨hpend, -, hproc, hlease, hnotice⟩ := appended_inFlight settings clock input hp
    have hp' := (appended_processing settings clock input state).trans hp
    rw [phase_inFlight hp, phase_inFlight hp', hpend, hproc, hlease, hnotice,
      appended_retryCount, appended_abandoned]
    exact .acceptInFlight (droppedByPush_append_pushCapped _ _ _)
  | false =>
    obtain ⟨htexts, -, -, hnotice⟩ := appended_idle settings clock input hp
    have hp' := (appended_processing settings clock input state).trans hp
    rw [phase_waiting hp' (appended_abandoned _ _ _ _), htexts, hnotice, appended_retryCount]
    cases ha : state.abandoned with
    | true =>
      rw [phase_givenUp hp ha]
      exact .acceptGivenUp (droppedByPush_append_pushCapped _ _ _)
    | false =>
      rw [phase_waiting hp ha]
      exact .acceptWaiting (droppedByPush_append_pushCapped _ _ _)

open QueueOp

lemma QueueOp.refines_append (hwf : StoredWellFormed stored) :
    (append clock input).Refines settings stored := by
  cases hdup : isDuplicate input (readState (clock 2) stored) with
  | true =>
    exact refines_of_quiet hwf (by simp [apply, store, written, appendChatBuffer, hdup])
      (by simp [label, hdup])
  | false =>
    have hwrote : (append clock input).apply settings stored =
        writeState (appended settings clock input (readState (clock 2) stored)) := by
      simp [apply, store, written, appendChatBuffer, hdup, appended]
    have hlabel : (append clock input).label settings stored =
        .accept input.userText (droppedByPush settings
          (if (readState (clock 2) stored).processing then (readState (clock 2) stored).pendingTexts
            else (readState (clock 2) stored).texts) input.userText) := by
      simp [label, hdup]
    cases stored with
    | none =>
      refine refines_of_written _ hwrote ?_ (hlabel ▸ move_appended_empty settings clock input _)
      exact appended_wellFormed _ _ _ (fun _ => ⟨rfl, rfl⟩) (fun h => by cases h)
    | some =>
      have hstate := storedWellFormed_some.mp hwf
      refine refines_of_written _ hwrote ?_ (hlabel ▸ move_appended settings clock input)
      exact appended_wellFormed _ _ _ (fun h => (hstate.idle h).2) (fun _ => hstate)

end Append

/-! ## `claimReadyBuffer` -/

section Claim

variable (clock : ℕ → ℤ) (externalUserId leaseToken : String) (processingStuckMs : ℤ)

lemma takeLease_wellFormed (t₀ updatedAt : ℤ) (htexts : state.texts ≠ []) :
    (takeLease t₀ updatedAt leaseToken state).WellFormed where
  idle := by simp [takeLease]
  inFlight := by simpa [takeLease] using htexts
  abandoned := by simp [takeLease]

lemma phase_takeLease (startedAt updatedAt : ℤ) (hpend : state.pendingTexts = []) :
    phase (some (takeLease startedAt updatedAt leaseToken state)) =
      .inFlight leaseToken state.texts [] state.retryCount state.droppedNoticePending
        state.abandoned := by
  simp [phase, takeLease, hpend]

lemma claimWaiting_cases (state : RedisChatQueueBufferState τ γ) :
    claimWaiting clock externalUserId leaseToken state = (none, none) ∨
      (state.texts ≠ [] ∧ notDue (clock 2) state = false ∧
        claimWaiting clock externalUserId leaseToken state =
          (some (takeLease (clock 3) (clock 4) leaseToken state),
            some (snapshotOf externalUserId leaseToken state))) := by
  unfold claimWaiting
  split_ifs with htexts hdue
  · exact .inl rfl
  · exact .inl rfl
  · refine .inr ⟨?_, by simpa using hdue, rfl⟩
    simpa using htexts

lemma replayStuck_wellFormed (hreplay : replayTexts state ≠ []) :
    (replayStuck state true none).WellFormed where
  idle := by simpa [replayStuck, releaseStuck] using hreplay
  inFlight := by simp [replayStuck, releaseStuck]
  abandoned := by simp [replayStuck]

lemma RedisChatQueueBufferState.WellFormed.replayTexts_ne_nil (h : state.WellFormed)
    (hp : state.processing = true) : replayTexts state ≠ [] := by
  simp [replayTexts, (h.inFlight hp).2.1]

lemma claimReadyBuffer_cases (settings : RedisChatQueueSettings) (clock : ℕ → ℤ)
    (externalUserId leaseToken : String) (processingStuckMs : ℤ) (hwf : state.WellFormed) :
    let claimed := claimReadyBuffer settings clock externalUserId leaseToken processingStuckMs state
    claimed = (none, none) ∨
      (state.processing = true ∧ settings.maxFlushRetries < state.retryCount + 1 ∧
        claimed = (some (replayStuck state true none), none)) ∨
      (∃ next : RedisChatQueueBufferState τ γ, next.texts ≠ [] ∧
        (state.processing = true ∧ state.retryCount + 1 ≤ settings.maxFlushRetries ∧
            next = replayStuck state false (some (clock 1)) ∨
          state.processing = false ∧ next = state) ∧
        claimed = (some (takeLease (clock 3) (clock 4) leaseToken next),
          some (snapshotOf externalUserId leaseToken next))) := by
  intro claimed
  cases hp : state.processing with
  | false =>
    have hcl : claimed = claimWaiting clock externalUserId leaseToken state := by
      simp [claimed, claimReadyBuffer, hp]
    rcases claimWaiting_cases clock externalUserId leaseToken state with h | ⟨htexts, -, h⟩
    · exact .inl (hcl.trans h)
    · exact .inr (.inr ⟨state, htexts, .inr ⟨rfl, rfl⟩, hcl.trans h⟩)
  | true =>
    have hreplay := hwf.replayTexts_ne_nil hp
    cases hstuck : isStuck (clock 0) processingStuckMs state with
    | false => exact .inl (by simp [claimed, claimReadyBuffer, hp, hstuck])
    | true =>
      by_cases hbud : settings.maxFlushRetries < state.retryCount + 1
      · refine .inr (.inl ⟨rfl, hbud, ?_⟩)
        simp [claimed, claimReadyBuffer, hp, hstuck, hreplay, hbud]
      · have hcl : claimed = claimWaiting clock externalUserId leaseToken
            (replayStuck state false (some (clock 1))) := by
          simp [claimed, claimReadyBuffer, hp, hstuck, hreplay, hbud]
        rcases claimWaiting_cases clock externalUserId leaseToken
          (replayStuck state false (some (clock 1))) with h | ⟨htexts, -, h⟩
        · exact .inl (hcl.trans h)
        · exact .inr (.inr ⟨_, htexts, .inl ⟨rfl, by omega, rfl⟩, hcl.trans h⟩)

lemma QueueOp.refines_claim (hwf : StoredWellFormed stored) :
    (claim clock externalUserId leaseToken processingStuckMs).Refines settings stored := by
  cases stored with
  | none =>
    exact refines_of_quiet hwf
      (by simp [apply, store, written, claimReadyBuffer, claimWaiting, readState, emptyState])
      (by simp [label, snapshot, claimReadyBuffer, claimWaiting, readState, emptyState])
  | some state =>
    have hstate := storedWellFormed_some.mp hwf
    rcases claimReadyBuffer_cases settings clock externalUserId leaseToken
      processingStuckMs hstate with h | ⟨hp, hbud, h⟩ | ⟨next, htexts, hnext, h⟩
    · exact refines_of_quiet hwf (by simp [apply, store, written, readState, h])
        (by simp [label, snapshot, readState, h])
    · refine refines_of_written (replayStuck state true none)
        (by simp [apply, store, written, readState, h])
        (replayStuck_wellFormed (hstate.replayTexts_ne_nil hp)) ?_
      have hlabel : (claim clock externalUserId leaseToken processingStuckMs :
          QueueOp τ γ).label settings (some state) = .quiet := by
        simp [label, snapshot, readState, h]
      rw [hlabel, phase_inFlight hp]
      exact .giveUp hbud
    · refine refines_of_written (takeLease (clock 3) (clock 4) leaseToken next)
        (by simp [apply, store, written, readState, h])
        (takeLease_wellFormed leaseToken _ _ htexts) ?_
      have hlabel : (claim clock externalUserId leaseToken processingStuckMs :
          QueueOp τ γ).label settings (some state) =
          .handOut leaseToken next.texts next.droppedNoticePending := by
        simp [label, snapshot, readState, h, snapshotOf]
      rw [hlabel]
      rcases hnext with ⟨hp, hbud, rfl⟩ | ⟨hp, rfl⟩
      · rw [phase_takeLease _ _ _ rfl, phase_inFlight hp]
        exact .handOutReplay hbud leaseToken
      · rw [phase_takeLease _ _ _ (hstate.idle hp).2.2]
        cases ha : next.abandoned with
        | true =>
          rw [phase_givenUp hp ha]
          exact .handOutGivenUp leaseToken
        | false =>
          rw [phase_waiting hp ha]
          exact .handOut leaseToken

end Claim

/-! ## `scheduleRetryFlush` and `completeChatBuffer` -/

variable {leaseToken : String}

lemma holdsLease_iff :
    holdsLease leaseToken state = true ↔
      state.processing = true ∧ state.processingLeaseToken = some leaseToken := by
  simp [holdsLease]

variable {externalUserId : String} {clock : ℕ → ℤ}

section

variable (hstale : ∀ now, holdsLease leaseToken (readState now stored) = false)
include hstale

lemma QueueOp.apply_retry_of_stale {retryDelayMs : ℤ} :
    (retry clock externalUserId retryDelayMs leaseToken).apply settings stored = stored := by
  simp [apply, store, written, scheduleRetryFlush, hstale]

lemma QueueOp.apply_complete_of_stale {ms : ℤ} :
    (complete clock externalUserId ms leaseToken).apply settings stored = stored := by
  simp [apply, store, written, completeChatBuffer, hstale]

end

section Finish

variable (clock : ℕ → ℤ) (externalUserId leaseToken : String)

lemma requeue_wellFormed (now : ℤ) (abandoned : Bool) (flushAfterAt : Option ℤ)
    (hreplay : replayTexts state ≠ []) (hdeadline : abandoned = true → flushAfterAt = none) :
    (requeue now state abandoned flushAfterAt).WellFormed where
  idle := by simpa [requeue, resetToReady] using hreplay
  inFlight := by simp [requeue, resetToReady]
  abandoned := fun _ ha => hdeadline ha

lemma QueueOp.refines_retry (retryDelayMs : ℤ) (hwf : StoredWellFormed stored) :
    (retry clock externalUserId retryDelayMs leaseToken).Refines settings stored := by
  cases hlease : holdsLease leaseToken (readState (clock 2) stored) with
  | false =>
    exact refines_of_quiet hwf (by simp [apply, store, written, scheduleRetryFlush, hlease]) rfl
  | true =>
    cases stored with
    | none => cases hlease
    | some state =>
      have hstate := storedWellFormed_some.mp hwf
      have hp : state.processing = true := (holdsLease_iff.mp hlease).1
      have hreplay := hstate.replayTexts_ne_nil hp
      simp only [readState, Option.getD_some] at hlease
      by_cases hbud : settings.maxFlushRetries < state.retryCount + 1
      · refine refines_of_written (requeue (clock 0) state true none)
          (by simp [apply, store, written, scheduleRetryFlush, readState, hlease, hreplay, hbud])
          (requeue_wellFormed _ _ _ hreplay fun _ => rfl) ?_
        rw [label, phase_inFlight hp]
        exact .giveUp hbud
      · refine refines_of_written
          (requeue (clock 1) state false (some (clock 0 + retryDelayMs)))
          (by simp [apply, store, written, scheduleRetryFlush, readState, hlease, hreplay, hbud])
          (requeue_wellFormed _ _ _ hreplay fun h => by cases h) ?_
        rw [label, phase_inFlight hp]
        exact .requeue (by omega)

lemma settle_wellFormed (deadline now : ℤ) (hpend : state.pendingTexts ≠ []) :
    (settle deadline now state).WellFormed where
  idle := by simpa [settle, resetToReady] using hpend
  inFlight := by simp [settle, resetToReady]
  abandoned := by simp [settle]

lemma QueueOp.refines_complete (debounceMs : ℤ) (hwf : StoredWellFormed stored) :
    (complete clock externalUserId debounceMs leaseToken).Refines settings stored := by
  cases hlease : holdsLease leaseToken (readState (clock 2) stored) with
  | false =>
    exact refines_of_quiet hwf (by simp [apply, store, written, completeChatBuffer, hlease])
      (by simp [label, hlease])
  | true =>
    cases stored with
    | none => cases hlease
    | some state =>
      obtain ⟨hp, htoken⟩ :
          state.processing = true ∧ state.processingLeaseToken = some leaseToken :=
        holdsLease_iff.mp hlease
      simp only [readState, Option.getD_some] at hlease
      have hwrote : (complete clock externalUserId debounceMs leaseToken :
          QueueOp τ γ).apply settings (some state) =
          writeState (settle (clock 0 + debounceMs) (clock 1) state) := by
        simp [apply, store, written, completeChatBuffer, readState, hlease]
      have hlabel : (complete clock externalUserId debounceMs leaseToken :
          QueueOp τ γ).label settings (some state) = .settle leaseToken state.processingTexts := by
        simp [label, readState, hlease]
      by_cases hpend : state.pendingTexts = []
      · have hdel : writeState (settle (clock 0 + debounceMs) (clock 1) state) = none := by
          simp [writeState, hasBufferedWork, settle, resetToReady, hpend]
        rw [Refines, hwrote, hdel, hlabel, phase_inFlight hp, htoken, hpend]
        exact ⟨.settleAll, storedWellFormed_none⟩
      · refine refines_of_written _ hwrote (settle_wellFormed _ _ hpend) ?_
        rw [hlabel, phase_inFlight hp, htoken]
        exact .settleRest hpend

end Finish

lemma QueueOp.refines (op : QueueOp τ γ) (hwf : StoredWellFormed stored) :
    op.Refines settings stored := by
  cases op with
  | append clock input => exact refines_append settings clock input hwf
  | claim clock user tok stuckMs => exact refines_claim clock user tok stuckMs hwf
  | retry clock user delay tok => exact refines_retry clock user tok delay hwf
  | complete clock user debounce tok => exact refines_complete clock user tok debounce hwf
  | clear => exact ⟨.discard _, storedWellFormed_none⟩

lemma QueueOp.move_apply (settings : RedisChatQueueSettings) (op : QueueOp τ γ)
    (hwf : StoredWellFormed stored) :
    Move settings.maxFlushRetries (phase stored) (op.label settings stored)
      (phase (op.apply settings stored)) :=
  (op.refines hwf).1

lemma QueueOp.wellFormed_apply (settings : RedisChatQueueSettings) (op : QueueOp τ γ)
    (hwf : StoredWellFormed stored) : StoredWellFormed (op.apply settings stored) :=
  (op.refines hwf).2

/-- Whatever calls were made before, a call is a move of the abstract queue. -/
theorem QueueOp.refines_after (settings : RedisChatQueueSettings) (ops : List (QueueOp τ γ))
    (op : QueueOp τ γ) : op.Refines settings (ops.foldl (fun r op => op.apply settings r) none) :=
  op.refines (ops.foldlRecOn _ storedWellFormed_none fun _ h op _ => op.wellFormed_apply settings h)

end WispaceBot
