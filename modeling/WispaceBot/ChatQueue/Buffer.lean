import Mathlib.Data.Int.Notation
import Mathlib.Data.List.Basic

/-!
# The chat buffer of one user

`RedisChatQueueStore` keeps one record per user: messages wait in `texts`, a claimed batch is in
`processingTexts`, and messages that arrive meanwhile wait in `pendingTexts`.  Texts and contexts
are of any type.  Each place that reads the clock has a `clock n` of its own.  A body answers with
the record to be written, if any; `QueueOp.apply` is the whole operation under the user's lock.
-/

namespace WispaceBot

/-- The record stored under a user's buffer key (`RedisChatQueueBufferState`). -/
structure RedisChatQueueBufferState (τ γ : Type) where
  (texts pendingTexts processingTexts : List τ)
  userId : Option ℤ
  context : Option γ
  (lastIdempotencyKey lastPendingIdempotencyKey : Option String)
  idempotencyKeys : List String
  processing : Bool
  processingStartedAt : Option ℤ
  (processingLeaseToken processingIdempotencyKey : Option String)
  retryCount : ℕ
  abandoned : Bool
  flushAfterAt : Option ℤ
  droppedNoticePending : Bool
  updatedAt : ℤ

/-- The argument of `appendChatBuffer`.  A `context` that is not given leaves the stored one. -/
structure AppendChatBufferInput (τ γ : Type) where
  externalUserId : String
  userText : τ
  userId : Option ℤ
  context : Option γ
  idempotencyKey : Option String
  debounceMs : ℤ

/-- The batch handed out by `claimReadyBuffer`. -/
structure ChatQueueBufferSnapshot (τ γ : Type) where
  externalUserId : String
  texts : List τ
  leaseToken : String
  lastIdempotencyKey : Option String
  retryCount : ℕ
  userId : Option ℤ
  context : Option γ
  droppedNoticePending : Bool

structure RedisChatQueueSettings where
  maxFlushRetries : ℕ
  /-- Cap on waiting and on pending messages; `0` means no cap. -/
  (maxPendingSize stuckMs : ℕ)

namespace RedisChatQueueStore

variable {τ γ : Type}

def maxIdempotencyKeys : ℕ := 40

def emptyState (now : ℤ) : RedisChatQueueBufferState τ γ where
  texts := []
  pendingTexts := []
  processingTexts := []
  userId := none
  context := none
  lastIdempotencyKey := none
  lastPendingIdempotencyKey := none
  idempotencyKeys := []
  processing := false
  processingStartedAt := none
  processingLeaseToken := none
  processingIdempotencyKey := none
  retryCount := 0
  abandoned := false
  flushAfterAt := none
  droppedNoticePending := false
  updatedAt := now

/-- Whether a record is worth keeping, as `writeState` and `reconcileUser` decide it. -/
def hasBufferedWork (state : RedisChatQueueBufferState τ γ) : Bool :=
  !state.texts.isEmpty || !state.pendingTexts.isEmpty || !state.processingTexts.isEmpty ||
    state.processing

section

variable (settings : RedisChatQueueSettings) (messages : List τ)

/-- `messages.slice(-maxPendingSize)`, for a positive cap. -/
def capMessages : List τ :=
  messages.drop (messages.length - settings.maxPendingSize)

def overCap : Bool :=
  decide (0 < settings.maxPendingSize ∧ settings.maxPendingSize < messages.length)

def pushCapped (text : τ) : List τ :=
  if overCap settings (messages ++ [text]) then capMessages settings (messages ++ [text])
  else messages ++ [text]

def droppedByPush (text : τ) : List τ :=
  if overCap settings (messages ++ [text]) then
    (messages ++ [text]).take ((messages ++ [text]).length - settings.maxPendingSize)
  else []

end

/-- Back to a record without a batch in flight, holding `texts`. -/
def resetToReady (now : ℤ) (state : RedisChatQueueBufferState τ γ) (texts : List τ)
    (flushAfterAt : Option ℤ) : RedisChatQueueBufferState τ γ :=
  { state with
    processing := false
    processingStartedAt := none
    processingLeaseToken := none
    processingIdempotencyKey := none
    processingTexts := []
    texts := texts
    pendingTexts := []
    flushAfterAt := flushAfterAt
    updatedAt := now }

/-- The key of the messages that go back to `texts` after a failed attempt. -/
def replayIdempotencyKey (state : RedisChatQueueBufferState τ γ) : Option String :=
  (state.lastPendingIdempotencyKey.or state.processingIdempotencyKey).or state.lastIdempotencyKey

/-! ## `appendChatBuffer` -/

section

variable (input : AppendChatBufferInput τ γ)

def givenKey : Option String :=
  input.idempotencyKey.filter (· ≠ "")

def isDuplicate (state : RedisChatQueueBufferState τ γ) : Bool :=
  (givenKey input).any state.idempotencyKeys.contains

/-- The key is remembered, among the latest `maxIdempotencyKeys`. -/
def rememberKey (state : RedisChatQueueBufferState τ γ) : RedisChatQueueBufferState τ γ :=
  { state with
    idempotencyKeys :=
      match givenKey input with
      | none => state.idempotencyKeys
      | some key =>
        let keys := state.idempotencyKeys ++ [key]
        keys.drop (keys.length - maxIdempotencyKeys) }

end

def revive (state : RedisChatQueueBufferState τ γ) : RedisChatQueueBufferState τ γ :=
  if state.abandoned then { state with abandoned := false, retryCount := 0 } else state

/-- The message goes to `pendingTexts` when a batch is in flight and to `texts` otherwise. -/
def push (settings : RedisChatQueueSettings) (now : ℤ) (input : AppendChatBufferInput τ γ)
    (state : RedisChatQueueBufferState τ γ) : RedisChatQueueBufferState τ γ :=
  if state.processing then
    { state with
      pendingTexts := pushCapped settings state.pendingTexts input.userText
      droppedNoticePending :=
        state.droppedNoticePending || overCap settings (state.pendingTexts ++ [input.userText])
      lastPendingIdempotencyKey := (givenKey input).or state.lastPendingIdempotencyKey }
  else
    { state with
      texts := pushCapped settings state.texts input.userText
      droppedNoticePending :=
        state.droppedNoticePending || overCap settings (state.texts ++ [input.userText])
      lastIdempotencyKey := (givenKey input).or state.lastIdempotencyKey
      flushAfterAt := some (now + input.debounceMs) }

/-- The learner and the context that came with the message. -/
def attach (now : ℤ) (input : AppendChatBufferInput τ γ) (state : RedisChatQueueBufferState τ γ) :
    RedisChatQueueBufferState τ γ :=
  { state with
    userId := input.userId.or state.userId
    context := input.context.or state.context
    updatedAt := now }

/-- The body of `appendChatBuffer`: nothing is written for a duplicate. -/
def appendChatBuffer (settings : RedisChatQueueSettings) (clock : ℕ → ℤ)
    (input : AppendChatBufferInput τ γ) (state : RedisChatQueueBufferState τ γ) :
    Option (RedisChatQueueBufferState τ γ) :=
  if isDuplicate input state then none
  else some (attach (clock 1) input (push settings (clock 0) input
    (revive (rememberKey input state))))

/-! ## `claimReadyBuffer` -/

/-- The batch in flight was claimed at least `processingStuckMs` ago. -/
def isStuck (now processingStuckMs : ℤ) (state : RedisChatQueueBufferState τ γ) : Bool :=
  let startedAt := state.processingStartedAt.getD 0
  decide (0 < startedAt ∧ processingStuckMs ≤ now - startedAt)

section

variable (state : RedisChatQueueBufferState τ γ)

def replayTexts : List τ :=
  state.processingTexts ++ state.pendingTexts

def releaseStuck : RedisChatQueueBufferState τ γ :=
  { state with
    processing := false
    processingStartedAt := none
    processingLeaseToken := none
    processingIdempotencyKey := none
    processingTexts := []
    pendingTexts := [] }

/-- A stuck batch goes back to `texts`: as an abandoned record, or ready to be claimed at once. -/
def replayStuck (abandoned : Bool) (flushAfterAt : Option ℤ) : RedisChatQueueBufferState τ γ :=
  { releaseStuck state with
    texts := replayTexts state
    lastIdempotencyKey := replayIdempotencyKey state
    lastPendingIdempotencyKey := none
    retryCount := state.retryCount + 1
    abandoned := abandoned
    flushAfterAt := flushAfterAt }

end

def snapshotOf (externalUserId leaseToken : String) (state : RedisChatQueueBufferState τ γ) :
    ChatQueueBufferSnapshot τ γ where
  externalUserId := externalUserId
  texts := state.texts
  leaseToken := leaseToken
  lastIdempotencyKey := state.lastIdempotencyKey
  retryCount := state.retryCount
  userId := state.userId
  context := state.context
  droppedNoticePending := state.droppedNoticePending

/-- The waiting messages become the batch in flight. -/
def takeLease (startedAt updatedAt : ℤ) (leaseToken : String)
    (state : RedisChatQueueBufferState τ γ) : RedisChatQueueBufferState τ γ :=
  { state with
    processingTexts := state.texts
    texts := []
    processingIdempotencyKey := state.lastIdempotencyKey
    lastIdempotencyKey := none
    processing := true
    processingStartedAt := some startedAt
    processingLeaseToken := some leaseToken
    updatedAt := updatedAt }

def notDue (now : ℤ) (state : RedisChatQueueBufferState τ γ) : Bool :=
  state.flushAfterAt.any fun flushAfterAt => decide (now < flushAfterAt)

def claimWaiting (clock : ℕ → ℤ) (externalUserId leaseToken : String)
    (state : RedisChatQueueBufferState τ γ) :
    Option (RedisChatQueueBufferState τ γ) × Option (ChatQueueBufferSnapshot τ γ) :=
  if state.texts.isEmpty then (none, none)
  else if notDue (clock 2) state then (none, none)
  else (some (takeLease (clock 3) (clock 4) leaseToken state),
    some (snapshotOf externalUserId leaseToken state))

/-- A batch in flight is left alone until it is stuck, and then replayed or abandoned. -/
def claimReadyBuffer (settings : RedisChatQueueSettings) (clock : ℕ → ℤ)
    (externalUserId leaseToken : String) (processingStuckMs : ℤ)
    (state : RedisChatQueueBufferState τ γ) :
    Option (RedisChatQueueBufferState τ γ) × Option (ChatQueueBufferSnapshot τ γ) :=
  if state.processing then
    if isStuck (clock 0) processingStuckMs state then
      if (replayTexts state).isEmpty then (some (releaseStuck state), none)
      else if settings.maxFlushRetries < state.retryCount + 1 then
        (some (replayStuck state true none), none)
      else
        claimWaiting clock externalUserId leaseToken (replayStuck state false (some (clock 1)))
    else (none, none)
  else claimWaiting clock externalUserId leaseToken state

/-! ## `scheduleRetryFlush` and `completeChatBuffer` -/

def holdsLease (leaseToken : String) (state : RedisChatQueueBufferState τ γ) : Bool :=
  state.processing && state.processingLeaseToken == some leaseToken

/-- A failed batch back among the waiting messages, with one more attempt on its count. -/
def requeue (now : ℤ) (state : RedisChatQueueBufferState τ γ) (abandoned : Bool)
    (flushAfterAt : Option ℤ) : RedisChatQueueBufferState τ γ :=
  { resetToReady now state (replayTexts state) flushAfterAt with
    lastIdempotencyKey := replayIdempotencyKey state
    lastPendingIdempotencyKey := none
    retryCount := state.retryCount + 1
    abandoned := abandoned }

/-- The body of `scheduleRetryFlush`. -/
def scheduleRetryFlush (settings : RedisChatQueueSettings) (clock : ℕ → ℤ) (retryDelayMs : ℤ)
    (leaseToken : String) (state : RedisChatQueueBufferState τ γ) :
    Option (RedisChatQueueBufferState τ γ) × Bool :=
  if holdsLease leaseToken state then
    if (replayTexts state).isEmpty then (none, false)
    else if settings.maxFlushRetries < state.retryCount + 1 then
      (some (requeue (clock 0) state true none), false)
    else (some (requeue (clock 1) state false (some (clock 0 + retryDelayMs))), true)
  else (none, false)

/-- The record after a completed batch: the pending messages wait now. -/
def settle (deadline now : ℤ) (state : RedisChatQueueBufferState τ γ) :
    RedisChatQueueBufferState τ γ :=
  { resetToReady now state state.pendingTexts
      (if state.pendingTexts.isEmpty then none else some deadline) with
    lastIdempotencyKey := state.lastPendingIdempotencyKey
    lastPendingIdempotencyKey := none
    retryCount := 0
    abandoned := false
    droppedNoticePending := false }

/-- The body of `completeChatBuffer`. -/
def completeChatBuffer (clock : ℕ → ℤ) (debounceMs : ℤ) (leaseToken : String)
    (state : RedisChatQueueBufferState τ γ) : Option (RedisChatQueueBufferState τ γ) × Bool :=
  if holdsLease leaseToken state then
    (some (settle (clock 0 + debounceMs) (clock 1) state), !state.pendingTexts.isEmpty)
  else (none, false)

/-! ## Operations on the stored record -/

/-- `readState`: a missing key reads as the empty record. -/
def readState (now : ℤ) (stored : Option (RedisChatQueueBufferState τ γ)) :
    RedisChatQueueBufferState τ γ :=
  stored.getD (emptyState now)

/-- The effect of `writeState` on the buffer key. -/
def writeState (state : RedisChatQueueBufferState τ γ) : Option (RedisChatQueueBufferState τ γ) :=
  if hasBufferedWork state then some state else none

/-- The stored record after a body that may have written. -/
def store (stored : Option (RedisChatQueueBufferState τ γ)) :
    Option (RedisChatQueueBufferState τ γ) → Option (RedisChatQueueBufferState τ γ)
  | none => stored
  | some state => writeState state

end RedisChatQueueStore

/-- With the clock readings and, for a claim, the token it would mint. -/
inductive QueueOp (τ γ : Type)
  | append (clock : ℕ → ℤ) (input : AppendChatBufferInput τ γ)
  | claim (clock : ℕ → ℤ) (externalUserId leaseToken : String) (processingStuckMs : ℤ)
  | retry (clock : ℕ → ℤ) (externalUserId : String) (retryDelayMs : ℤ) (leaseToken : String)
  | complete (clock : ℕ → ℤ) (externalUserId : String) (debounceMs : ℤ) (leaseToken : String)
  | clear (externalUserId : String)

namespace QueueOp

open RedisChatQueueStore

variable {τ γ : Type}

def externalUserId : QueueOp τ γ → String
  | append _ input => input.externalUserId
  | claim _ externalUserId _ _ => externalUserId
  | retry _ externalUserId _ _ => externalUserId
  | complete _ externalUserId _ _ => externalUserId
  | clear externalUserId => externalUserId

section

variable (settings : RedisChatQueueSettings) (stored : Option (RedisChatQueueBufferState τ γ))

/-- The record a call writes, if it writes one; `clear` deletes the key instead. -/
def written :
    QueueOp τ γ → Option (RedisChatQueueBufferState τ γ)
  | append clock input => appendChatBuffer settings clock input (readState (clock 2) stored)
  | claim clock externalUserId leaseToken processingStuckMs =>
    (claimReadyBuffer settings clock externalUserId leaseToken processingStuckMs
      (readState (clock 5) stored)).1
  | retry clock _ retryDelayMs leaseToken =>
    (scheduleRetryFlush settings clock retryDelayMs leaseToken (readState (clock 2) stored)).1
  | complete clock _ debounceMs leaseToken =>
    (completeChatBuffer clock debounceMs leaseToken (readState (clock 2) stored)).1
  | clear _ => none

def apply (op : QueueOp τ γ) : Option (RedisChatQueueBufferState τ γ) :=
  match op with
  | clear _ => none
  | op => store stored (op.written settings stored)

def snapshot :
    QueueOp τ γ → Option (ChatQueueBufferSnapshot τ γ)
  | claim clock externalUserId leaseToken processingStuckMs =>
    (claimReadyBuffer settings clock externalUserId leaseToken processingStuckMs
      (readState (clock 5) stored)).2
  | _ => none

end

end QueueOp

/-! ## Sample calls -/

namespace QueueSample

def settings : RedisChatQueueSettings := ⟨1, 2, 60000⟩

def message (now : ℤ) (text : String) : QueueOp String Unit :=
  .append (fun _ => now) ⟨"user", text, none, none, some text, 1500⟩

section

variable (now : ℤ) (leaseToken : String)

def poll : QueueOp String Unit :=
  .claim (fun _ => now) "user" leaseToken 60000

def failed : QueueOp String Unit :=
  .retry (fun _ => now) "user" 5000 leaseToken

def done : QueueOp String Unit :=
  .complete (fun _ => now) "user" 1500 leaseToken

end

end QueueSample

end WispaceBot
