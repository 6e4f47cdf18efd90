import Mathlib.Data.String.Basic
import WispaceBot.ChatQueue.Buffer
import WispaceBot.Foundation.SortedSet

/-!
# The Redis keys of the chat queue

Besides the records there are three indexes: `activeSet` of the users with a record, `flushSet` by
debounce deadline, and `stuckSet` by the time from which a batch counts as stuck.  `writeState`
recomputes the memberships of one user, and `reconcileUser` states them on its own and repairs what
differs.
-/

namespace WispaceBot

open RedisChatQueueStore

variable {τ γ : Type}

/-- The records of all users, and the three indexes. -/
structure RedisKeys (τ γ : Type) where
  buffers : String → Option (RedisChatQueueBufferState τ γ)
  activeSet : List String
  (flushSet stuckSet : SortedSet String)

namespace RedisKeys

def empty : RedisKeys τ γ := ⟨fun _ => none, [], .empty, .empty⟩

def removeIndexes (keys : RedisKeys τ γ) (externalUserId : String) : RedisKeys τ γ :=
  { keys with
    activeSet := keys.activeSet.filter (· ≠ externalUserId)
    flushSet := keys.flushSet.zrem externalUserId
    stuckSet := keys.stuckSet.zrem externalUserId }

def deleteBuffer (keys : RedisKeys τ γ) (externalUserId : String) : RedisKeys τ γ :=
  { keys.removeIndexes externalUserId with
    buffers := Function.update keys.buffers externalUserId none }

/-- `writeState`: the record goes, or it stays and the memberships follow its flags. -/
def writeState (settings : RedisChatQueueSettings) (now : ℤ) (externalUserId : String)
    (state : RedisChatQueueBufferState τ γ) (keys : RedisKeys τ γ) : RedisKeys τ γ :=
  if hasBufferedWork state then
    let keys :=
      { keys with
        buffers := Function.update keys.buffers externalUserId (some state)
        activeSet := keys.activeSet.insert externalUserId }
    if state.abandoned then
      { keys with
        flushSet := keys.flushSet.zrem externalUserId
        stuckSet := keys.stuckSet.zrem externalUserId }
    else if state.processing then
      { keys with
        flushSet := keys.flushSet.zrem externalUserId
        stuckSet := keys.stuckSet.zadd externalUserId
          (state.processingStartedAt.getD now + settings.stuckMs) }
    else
      { keys with
        flushSet := keys.flushSet.zadd externalUserId (state.flushAfterAt.getD now)
        stuckSet := keys.stuckSet.zrem externalUserId }
  else keys.deleteBuffer externalUserId

end RedisKeys

/-- The clock as `writeState` reads it during a call. -/
def QueueOp.writtenAt : QueueOp τ γ → ℤ
  | append clock _ => clock 6
  | claim clock _ _ _ => clock 6
  | retry clock _ _ _ => clock 6
  | complete clock _ _ _ => clock 6
  | clear _ => 0

/-- The call is an append that is taken for a duplicate. -/
def QueueOp.isDuplicateAppend (stored : Option (RedisChatQueueBufferState τ γ)) :
    QueueOp τ γ → Bool
  | append clock input => isDuplicate input (readState (clock 2) stored)
  | _ => false

namespace RedisKeys

def apply (settings : RedisChatQueueSettings) (keys : RedisKeys τ γ) (op : QueueOp τ γ) :
    RedisKeys τ γ :=
  let externalUserId := op.externalUserId
  let stored := keys.buffers externalUserId
  match op with
  | .clear _ => keys.deleteBuffer externalUserId
  | op =>
    match op.written settings stored with
    | some state => keys.writeState settings op.writtenAt externalUserId state
    | none =>
      if op.isDuplicateAppend stored then
        { keys with activeSet := keys.activeSet.insert externalUserId }
      else keys

/-! ## `listReadyExternalUserIds` -/

/-- The effect of the backfill on one member of the active set. -/
def rehydrateMember (settings : RedisChatQueueSettings) (now : ℤ) (keys : RedisKeys τ γ)
    (externalUserId : String) : RedisKeys τ γ :=
  let state := readState now (keys.buffers externalUserId)
  if state.abandoned then keys
  else if state.processing then
    { keys with
      stuckSet := keys.stuckSet.zadd externalUserId
        (state.processingStartedAt.getD now + settings.stuckMs) }
  else
    match state.texts.isEmpty, state.flushAfterAt with
    | false, some flushAfterAt =>
      { keys with flushSet := keys.flushSet.zadd externalUserId flushAfterAt }
    | _, _ =>
      -- the stale-member script looks at the key again before it removes anything
      if (keys.buffers externalUserId).isNone then keys.removeIndexes externalUserId else keys

/-- Only when both sorted sets are empty, the active set is not, and this worker gets the lock. -/
def maybeRehydrate (settings : RedisChatQueueSettings) (now : ℤ) (acquired : Bool)
    (keys : RedisKeys τ γ) : RedisKeys τ γ :=
  if 0 < keys.flushSet.zcard + keys.stuckSet.zcard then keys
  else if keys.activeSet.isEmpty then keys
  else if acquired then keys.activeSet.foldl (rehydrateMember settings now) keys
  else keys

def pushNew (seen : List (String × ℤ)) : List (String × ℤ) → List (String × ℤ)
  | [] => seen
  | entry :: rest =>
    if entry.1 ∈ seen.map Prod.fst then pushNew seen rest else pushNew (seen ++ [entry]) rest

/-- `mergeCandidates`: both reads together, each user once, by due time, up to the limit. -/
def mergeCandidates (flushEntries stuckEntries : List (String × ℤ)) (limit : ℕ) : List String :=
  (((pushNew (pushNew [] flushEntries) stuckEntries).insertionSort
    fun left right => left.2 ≤ right.2).take limit).map Prod.fst

/-- The loop over the candidates: those whose record is gone leave the indexes. -/
def collectReady (limit : ℕ) : List String → List String → RedisKeys τ γ →
    RedisKeys τ γ × List String
  | [], ready, keys => (keys, ready)
  | externalUserId :: rest, ready, keys =>
    if (keys.buffers externalUserId).isSome then
      if limit ≤ (ready ++ [externalUserId]).length then (keys, ready ++ [externalUserId])
      else collectReady limit rest (ready ++ [externalUserId]) keys
    else collectReady limit rest ready (keys.removeIndexes externalUserId)

def listReadyExternalUserIds (settings : RedisChatQueueSettings) (rehydrateAt now : ℤ)
    (acquired : Bool) (limit : ℕ) (keys : RedisKeys τ γ) : RedisKeys τ γ × List String :=
  let keys := keys.maybeRehydrate settings rehydrateAt acquired
  let flushEntries := keys.flushSet.zrangebyscore 0 now limit
  let stuckEntries := keys.stuckSet.zrangebyscore 0 now limit
  collectReady limit (mergeCandidates flushEntries stuckEntries limit) [] keys

/-! ## `reconcileUser` -/

/-- The outcome of `reconcileUser` for a user whose record, if there is one, can be parsed. -/
structure ReconcileOutcome where
  (mismatch repaired quarantined unresolved : Bool)

def reconcileUser (settings : RedisChatQueueSettings) (now : ℤ) (externalUserId : String)
    (keys : RedisKeys τ γ) : RedisKeys τ γ × ReconcileOutcome :=
  let active := decide (externalUserId ∈ keys.activeSet)
  let actualFlush := (keys.flushSet.zscore externalUserId).isSome
  let actualStuck := (keys.stuckSet.zscore externalUserId).isSome
  match keys.buffers externalUserId with
  | none =>
    if active || actualFlush || actualStuck then
      (keys.removeIndexes externalUserId, ⟨true, true, false, false⟩)
    else (keys, ⟨false, false, false, false⟩)
  | some state =>
    let expectedActive := hasBufferedWork state
    let expectedFlush := !state.processing && !state.abandoned && !state.texts.isEmpty
    let expectedStuck := state.processing
    if active != expectedActive || actualFlush != expectedFlush || actualStuck != expectedStuck then
      (keys.writeState settings now externalUserId state, ⟨true, true, false, false⟩)
    else (keys, ⟨false, false, false, false⟩)

end RedisKeys

end WispaceBot
