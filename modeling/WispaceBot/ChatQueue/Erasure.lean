import WispaceBot.ChatQueue.Buffer

/-!
# The queue does not look at its messages

`QueueOp.map f` replaces the text of an append by its image under `f`,
`RedisChatQueueBufferState.map` does so in a stored record.  Every operation commutes with these
maps (`QueueOp.apply_map`).  So a run in which every message carries a mark of its own, as in
`Conservation`, is a run of the queue itself once the marks are erased.
-/

namespace WispaceBot

open RedisChatQueueStore RedisChatQueueBufferState

variable {τ υ γ : Type} {cfg : RedisChatQueueSettings} (f : τ → υ)

/-- A record with every message replaced by its image. -/
def RedisChatQueueBufferState.map (state : RedisChatQueueBufferState τ γ) :
    RedisChatQueueBufferState υ γ :=
  { state with
    texts := state.texts.map f
    pendingTexts := state.pendingTexts.map f
    processingTexts := state.processingTexts.map f }

def AppendChatBufferInput.map (input : AppendChatBufferInput τ γ) : AppendChatBufferInput υ γ :=
  { input with userText := f input.userText }

/-- A call with the message, if it has one, replaced by its image. -/
def QueueOp.map : QueueOp τ γ → QueueOp υ γ
  | append clock input => append clock (input.map f)
  | claim clock externalUserId leaseToken processingStuckMs =>
    claim clock externalUserId leaseToken processingStuckMs
  | retry clock externalUserId retryDelayMs leaseToken =>
    retry clock externalUserId retryDelayMs leaseToken
  | complete clock externalUserId debounceMs leaseToken =>
    complete clock externalUserId debounceMs leaseToken
  | clear externalUserId => clear externalUserId

variable (state : RedisChatQueueBufferState τ γ)

/-! ## Lists -/

lemma overCap_map (msgs : List τ) : overCap cfg (msgs.map f) = overCap cfg msgs := by
  simp [overCap]

lemma pushCapped_map (msgs : List τ) (text : τ) :
    pushCapped cfg (msgs.map f) (f text) = (pushCapped cfg msgs text).map f := by
  have hpush : msgs.map f ++ [f text] = (msgs ++ [text]).map f := by simp
  unfold pushCapped capMessages
  rw [hpush, overCap_map, List.length_map]
  split_ifs
  · exact (List.map_drop).symm
  · rfl

lemma replayTexts_map : replayTexts (state.map f) = (replayTexts state).map f := by
  simp [replayTexts, map]

/-! ## Bodies -/

lemma hasBufferedWork_map : hasBufferedWork (state.map f) = hasBufferedWork state := by
  simp [hasBufferedWork, map]

section

variable (clock : ℕ → ℤ)
include clock

lemma appendChatBuffer_map (input : AppendChatBufferInput τ γ) :
    appendChatBuffer cfg clock (input.map f) (state.map f) =
      (appendChatBuffer cfg clock input state).map (·.map f) := by
  have hdup : isDuplicate (input.map f) (state.map f) = isDuplicate input state := rfl
  have hpush : ∀ msgs : List τ,
      overCap cfg (msgs.map f ++ [f input.userText]) =
        overCap cfg (msgs ++ [input.userText]) := fun msgs => by
    rw [← overCap_map f, List.map_append, List.map_singleton]
  unfold appendChatBuffer
  rw [hdup]
  cases isDuplicate input state with
  | true => rfl
  | false =>
    cases hp : state.processing <;> cases ha : state.abandoned <;>
      simp [attach, push, revive, rememberKey, givenKey, map,
        AppendChatBufferInput.map, hp, ha, pushCapped_map, hpush]

lemma claimWaiting_map (ext tok : String) :
    (claimWaiting clock ext tok (state.map f)).1 =
      (claimWaiting clock ext tok state).1.map (·.map f) := by
  have hdue : notDue (clock 2) (state.map f) = notDue (clock 2) state := rfl
  unfold claimWaiting
  rw [hdue]
  cases htexts : state.texts with
  | nil => simp [map, htexts]
  | cons =>
    cases notDue (clock 2) state <;>
      simp [map, takeLease, htexts]

lemma claimReadyBuffer_map (ext tok : String) (stuckMs : ℤ) :
    (claimReadyBuffer cfg clock ext tok stuckMs (state.map f)).1 =
      (claimReadyBuffer cfg clock ext tok stuckMs state).1.map (·.map f) := by
  have hstuck : isStuck (clock 0) stuckMs (state.map f) = isStuck (clock 0) stuckMs state := rfl
  have hreplay : ∀ abandoned deadline, replayStuck (state.map f) abandoned deadline =
      (replayStuck state abandoned deadline).map f := fun abandoned deadline => by
    simp only [replayStuck, replayTexts_map]
    rfl
  have hrel : releaseStuck (state.map f) = (releaseStuck state).map f := rfl
  have hproc : (state.map f).processing = state.processing := rfl
  have hretry : (state.map f).retryCount = state.retryCount := rfl
  unfold claimReadyBuffer
  rw [hstuck, hproc, hretry, hreplay, hreplay, hrel, replayTexts_map, List.isEmpty_map]
  split_ifs
  · rfl
  · rfl
  · exact claimWaiting_map f _ clock ext tok
  · rfl
  · exact claimWaiting_map f _ clock ext tok

lemma scheduleRetryFlush_map (retryDelayMs : ℤ) (tok : String) :
    (scheduleRetryFlush cfg clock retryDelayMs tok (state.map f)).1 =
      (scheduleRetryFlush cfg clock retryDelayMs tok state).1.map (·.map f) := by
  have hlease : holdsLease tok (state.map f) = holdsLease tok state := rfl
  have hretry : (state.map f).retryCount = state.retryCount := rfl
  have hrequeue : ∀ now abandoned deadline, requeue now (state.map f) abandoned deadline =
      (requeue now state abandoned deadline).map f := fun now abandoned deadline => by
    simp only [requeue, replayTexts_map]
    rfl
  unfold scheduleRetryFlush
  rw [hlease, hretry, hrequeue, hrequeue, replayTexts_map, List.isEmpty_map]
  split_ifs <;> rfl

lemma completeChatBuffer_map (ms : ℤ) (tok : String) :
    (completeChatBuffer clock ms tok (state.map f)).1 =
      (completeChatBuffer clock ms tok state).1.map (·.map f) := by
  have hlease : holdsLease tok (state.map f) = holdsLease tok state := rfl
  unfold completeChatBuffer
  rw [hlease]
  cases holdsLease tok state with
  | false => rfl
  | true => simp [settle, resetToReady, map]

end

/-! ## Operations -/

lemma readState_map (now : ℤ) (stored : Option (RedisChatQueueBufferState τ γ)) :
    readState now (stored.map (·.map f)) = (readState now stored).map f := by
  cases stored <;> rfl

lemma store_map (stored written : Option (RedisChatQueueBufferState τ γ)) :
    store (stored.map (·.map f)) (written.map (·.map f)) =
      (store stored written).map (·.map f) := by
  cases written with
  | none => rfl
  | some =>
    simp only [store, writeState, Option.map_some, hasBufferedWork_map]
    split_ifs <;> rfl

lemma QueueOp.apply_map (op : QueueOp τ γ) (stored : Option (RedisChatQueueBufferState τ γ)) :
    (op.map f).apply cfg (stored.map (·.map f)) = (op.apply cfg stored).map (·.map f) := by
  cases op with
  | clear => rfl
  | append =>
    simp [map, apply, written, readState_map, appendChatBuffer_map, store_map]
  | claim =>
    simp [map, apply, written, readState_map, claimReadyBuffer_map, store_map]
  | retry =>
    simp [map, apply, written, readState_map, scheduleRetryFlush_map, store_map]
  | complete =>
    simp [map, apply, written, readState_map, completeChatBuffer_map, store_map]

end WispaceBot
