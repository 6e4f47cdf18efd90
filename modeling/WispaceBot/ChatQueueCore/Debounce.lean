import Mathlib
import WispaceBot.Contracts
import WispaceBot.Foundation.JsNumber
import WispaceBot.Foundation.Run

/-!
# The in-memory debounce queue

`DebounceChatQueue` buffers the messages of a user while a debounce timer runs, hands them over in
one batch, and keeps aside what arrives meanwhile.  The per-user states are objects on a heap, since
timers, flushes and waiting callers refer to them.  What the host has pending is part of the state.
An event is a call, or the next thing the host runs; the calls of `flushOrWait` in a round of
`drain` are events of their own.
-/

namespace WispaceBot

open Transition

/-! ## Messages, batches and configuration -/

/-- `Partial<TContext>`: the fields that are present. -/
abbrev PartialContext (V : Type) := String → Option V

structure EnqueueInput (V : Type) where
  (externalUserId text : String)
  context : Option (PartialContext V)
  idempotencyKey : Option String

structure ChatQueueBatch (V : Type) where
  externalUserId : String
  texts : List String
  context : Option (PartialContext V)
  idempotencyKey : Option String

/-- `DebounceChatQueueConfig`, without the debounce window, which may change at run time. -/
structure DebounceChatQueueConfig where
  staleTtlMs : ℤ
  (maxPendingSize drainTimeoutMs : Option JsNumber)

/-- A configured size: a finite positive number is rounded down, anything else is the default. -/
def configuredSize (value : Option JsNumber) (fallback : ℕ) : ℕ :=
  match value with
  | some (.finite q) => if 0 < q then ⌊q⌋₊ else fallback
  | _ => fallback

/-- `this.maxPendingSize`. -/
def DebounceChatQueueConfig.maxPending (config : DebounceChatQueueConfig) : ℕ :=
  configuredSize config.maxPendingSize 20

/-- `this.drainTimeoutMs`. -/
def DebounceChatQueueConfig.drainTimeout (config : DebounceChatQueueConfig) : ℕ :=
  configuredSize config.drainTimeoutMs 25000

def IDLE_POLL_MS : ℤ := 50

/-- The delay that `setTimeout` uses: a delay outside its range is one millisecond. -/
def timeoutDelay (ms : ℤ) : ℤ :=
  if 1 ≤ ms ∧ ms ≤ 2147483647 then ms else 1

/-! ## The state -/

/-- The object that the map holds for a user. -/
structure QueueState (V : Type) where
  texts : List String := []
  lastIdempotencyKey : Option String := none
  context : Option (PartialContext V) := none
  debounceTimer : Option ℕ := none
  processing : Bool := false
  processingDeadlineAt : Option ℤ := none
  pendingWhileProcessing : List String := []
  lastPendingIdempotencyKey : Option String := none
  lastActivityAt : ℤ

/-- A debounce timer that will fire: the closure holds the user and the state object. -/
structure DebounceTimer where
  id : ℕ
  externalUserId : String
  state : ℕ
  dueAt : ℤ

/-- A flush whose handler has not returned. -/
structure ActiveFlush where
  id : ℕ
  externalUserId : String
  state : ℕ
  (startedAt deadlineAt timeoutAt : ℤ)
  drain : Option ℕ

/-- A call of `flushOrWait` that waits for the active flush of its state object. -/
structure FlushWaiter where
  id : ℕ
  externalUserId : String
  state : ℕ
  (deadlineAt waitUntil wakeAt : ℤ)
  drain : Option ℕ

/-- A drain that is waiting for flushes. -/
structure ActiveDrain where
  id : ℕ
  deadlineAt : ℤ
  toVisit : List String
  destroys : Bool

/-- What the queue does to the outside, and the messages it accepts. -/
inductive QueueOutput (V : Type)
  | accepted (externalUserId text : String)
  | onPendingQueued (externalUserId text : String) (pendingCount : ℕ)
      (context : Option (PartialContext V))
  | onPendingDropped (externalUserId : String) (droppedCount : ℕ)
  | onFlush (batch : ChatQueueBatch V)
  | onFlushTimedOut (externalUserId : String) (timeoutMs : ℤ)
  | onShutdownRejected (externalUserId text : String)

/-- The queue with its objects, timers, flushes and drains, and what it has put out. -/
structure DebounceChatQueue (V : Type) where
  now : ℤ
  /-- What `getDebounceMs` returns. -/
  debounceMs : ℤ
  shuttingDown : Bool
  queues : AList (fun _ : String => ℕ)
  objects : ℕ → QueueState V
  timers : List DebounceTimer
  flushes : List ActiveFlush
  waiters : List FlushWaiter
  drains : List ActiveDrain
  next : ℕ
  log : List (QueueOutput V)

/-- How a flush ends. -/
inductive FlushEnding
  | completed
  | rejected
  | timedOut
  deriving DecidableEq

/-- Calls of the queue, and what the host runs for it. -/
inductive QueueEvent (V : Type)
  | clock (now : ℤ)
  | reconfigure (debounceMs : ℤ)
  | enqueue (input : EnqueueInput V)
  | flushNow (externalUserId : String)
  | clear (externalUserId : String)
  | drain
  | destroy
  /-- The cleanup interval runs `evictStale`. -/
  | cleanup
  | fire (timer : ℕ)
  | settle (flush : ℕ) (ending : FlushEnding)
  | wake (waiter : ℕ)
  /-- A drain calls `flushOrWait` for the next user of its round. -/
  | visit (drain : ℕ)
  | resume (drain : ℕ)

namespace DebounceChatQueue

variable {V : Type}

def empty (now debounceMs : ℤ) : DebounceChatQueue V where
  now := now
  debounceMs := debounceMs
  shuttingDown := false
  queues := ∅
  objects := fun _ => { lastActivityAt := now }
  timers := []
  flushes := []
  waiters := []
  drains := []
  next := 0
  log := []

/-! ## Primitive changes -/

/-- `this.queues.get(externalUserId)`. -/
def get (user : String) (q : DebounceChatQueue V) : Option ℕ :=
  q.queues.lookup user

def modify (r : ℕ) (f : QueueState V → QueueState V) (q : DebounceChatQueue V) :
    DebounceChatQueue V :=
  { q with objects := Function.update q.objects r (f (q.objects r)) }

def emit (o : QueueOutput V) (q : DebounceChatQueue V) : DebounceChatQueue V :=
  { q with log := q.log ++ [o] }

/-- `this.queues.delete(externalUserId)`. -/
def delete (user : String) (q : DebounceChatQueue V) : DebounceChatQueue V :=
  { q with queues := q.queues.erase user }

def clearTimeout (id : ℕ) (q : DebounceChatQueue V) : DebounceChatQueue V :=
  { q with timers := q.timers.filter fun t => t.id ≠ id }

/-- The debounce timer of a state, if there is one, is cleared and forgotten. -/
def disarm (r : ℕ) (q : DebounceChatQueue V) : DebounceChatQueue V :=
  match (q.objects r).debounceTimer with
  | none => q
  | some id => (q.clearTimeout id).modify r fun s => { s with debounceTimer := none }

/-- A new timer is registered with the host and remembered by the state. -/
def arm (user : String) (r : ℕ) (q : DebounceChatQueue V) : DebounceChatQueue V :=
  let timer : DebounceTimer :=
    { id := q.next, externalUserId := user, state := r, dueAt := q.now + timeoutDelay q.debounceMs }
  { q with timers := q.timers ++ [timer], next := q.next + 1 }.modify r fun s =>
    { s with debounceTimer := some timer.id }

def scheduleFlush (user : String) (r : ℕ) (q : DebounceChatQueue V) : DebounceChatQueue V :=
  (q.disarm r).arm user r

def create (user : String) (q : DebounceChatQueue V) : DebounceChatQueue V :=
  { q with queues := q.queues.insert user q.next, next := q.next + 1 }.modify q.next fun _ =>
    { lastActivityAt := q.now }

/-- The state object of a user, which is created when there is none. -/
def getOrCreate (user : String) (q : DebounceChatQueue V) : ℕ × DebounceChatQueue V :=
  match q.get user with
  | some r => (r, q)
  | none =>
    (q.next, q.create user)

/-! ## `enqueue` -/

/-- The object spread `{ ...context, ...update }`. -/
def mergeContext (context : Option (PartialContext V)) (update : PartialContext V) :
    PartialContext V :=
  fun field => (update field).or (context.bind fun present => present field)

/-- The activity and the context of a state that gets a message. -/
def touch (now : ℤ) (input : EnqueueInput V) (s : QueueState V) : QueueState V :=
  { s with
    lastActivityAt := now
    context := match input.context with
      | none => s.context
      | some update => some (mergeContext s.context update) }

def pushPending (input : EnqueueInput V) (text : String) (s : QueueState V) : QueueState V :=
  { s with
    pendingWhileProcessing := s.pendingWhileProcessing ++ [text]
    lastPendingIdempotencyKey :=
      if isFalsy input.idempotencyKey then s.lastPendingIdempotencyKey else input.idempotencyKey }

section

variable (maxPending : ℕ) (r : ℕ) (input : EnqueueInput V) (text : String) (q : DebounceChatQueue V)

def enqueuePending : DebounceChatQueue V :=
  let q := q.modify r (pushPending input text)
  let pending := (q.objects r).pendingWhileProcessing
  let q := q.emit (.onPendingQueued input.externalUserId text pending.length (q.objects r).context)
  if 0 < maxPending ∧ maxPending < pending.length then
    let excess := pending.length - maxPending
    (q.modify r fun s => { s with pendingWhileProcessing := pending.drop excess }).emit
      (.onPendingDropped input.externalUserId excess)
  else q

/-- A message is added to the texts, which lose their oldest messages when they are too many. -/
def pushText : DebounceChatQueue V :=
  let q := q.modify r fun s => { s with texts := s.texts ++ [text] }
  let texts := (q.objects r).texts
  if maxPending < texts.length then
    let excess := texts.length - maxPending
    (q.modify r fun s => { s with texts := texts.drop excess }).emit
      (.onPendingDropped input.externalUserId excess)
  else q

/-- A message that arrives while no flush is active. -/
def enqueueTexts : DebounceChatQueue V :=
  let q := (q.pushText maxPending r input text).modify r fun s =>
    { s with
      lastIdempotencyKey :=
        if isFalsy input.idempotencyKey then s.lastIdempotencyKey else input.idempotencyKey }
  q.scheduleFlush input.externalUserId r

end

def enqueue (config : DebounceChatQueueConfig) (input : EnqueueInput V)
    (q : DebounceChatQueue V) : DebounceChatQueue V :=
  let text := trim input.text
  if text = "" then q
  else if q.shuttingDown then q.emit (.onShutdownRejected input.externalUserId text)
  else
    let (r, q) := q.getOrCreate input.externalUserId
    let q := (q.emit (.accepted input.externalUserId text)).modify r (touch q.now input)
    if (q.objects r).processing then q.enqueuePending config.maxPending r input text
    else q.enqueueTexts config.maxPending r input text

/-! ## Flushes -/

def deadlineFromNow (config : DebounceChatQueueConfig) (q : DebounceChatQueue V) : ℤ :=
  q.now + config.drainTimeout

def batchOf (user : String) (s : QueueState V) : ChatQueueBatch V where
  externalUserId := user
  texts := s.texts
  context := s.context
  idempotencyKey := s.lastIdempotencyKey

section

variable (user : String) (deadlineAt : ℤ) (drain : Option ℕ)

/-- A flush of a state that has texts begins: the handler is called and the time-out is set. -/
def beginFlush (r : ℕ) (q : DebounceChatQueue V) : DebounceChatQueue V :=
  let active : ActiveFlush :=
    { id := q.next, externalUserId := user, state := r, startedAt := q.now,
      deadlineAt := deadlineAt, timeoutAt := q.now + timeoutDelay (max 0 (deadlineAt - q.now)),
      drain := drain }
  ({ q with flushes := q.flushes ++ [active], next := q.next + 1 }.modify r fun s =>
    { s with
      processing := true
      processingDeadlineAt := some deadlineAt
      texts := []
      lastIdempotencyKey := none }).emit (.onFlush (batchOf user (q.objects r)))

/-- `flush`, up to the call of the handler. -/
def flush (q : DebounceChatQueue V) : DebounceChatQueue V :=
  match q.get user with
  | none => q
  | some r =>
    if (q.objects r).processing ∨ (q.objects r).texts = [] then q
    else (q.disarm r).beginFlush user deadlineAt drain r

end

/-- The state after its flush: what was kept aside is to be flushed next. -/
def released (s : QueueState V) : QueueState V :=
  let s := { s with processing := false, processingDeadlineAt := none }
  if s.pendingWhileProcessing = [] then s
  else
    { s with
      texts := s.texts ++ s.pendingWhileProcessing
      pendingWhileProcessing := []
      lastIdempotencyKey := s.lastPendingIdempotencyKey
      lastPendingIdempotencyKey := none }

/-- The end of `flush`: its `finally` block. -/
def endFlush (f : ActiveFlush) (q : DebounceChatQueue V) : DebounceChatQueue V :=
  let q := { q with flushes := q.flushes.filter fun g => g.id ≠ f.id }.modify f.state released
  let s := q.objects f.state
  if s.texts ≠ [] then q.scheduleFlush f.externalUserId f.state
  else if s.debounceTimer = none ∧ s.pendingWhileProcessing = [] then q.delete f.externalUserId
  else q

/-- The handler settles, or the time-out of the flush fires. -/
def settle (f : ActiveFlush) (ending : FlushEnding) (q : DebounceChatQueue V) :
    DebounceChatQueue V :=
  let q :=
    if ending = .timedOut then
      q.emit (.onFlushTimedOut f.externalUserId (max 0 (f.deadlineAt - f.startedAt)))
    else q
  q.endFlush f

def fire (config : DebounceChatQueueConfig) (t : DebounceTimer) (q : DebounceChatQueue V) :
    DebounceChatQueue V :=
  let q := (q.clearTimeout t.id).modify t.state fun s =>
    if s.debounceTimer = some t.id then { s with debounceTimer := none } else s
  q.flush t.externalUserId (q.deadlineFromNow config) none

/-! ## Callers that wait -/

def sleep (w : FlushWaiter) (q : DebounceChatQueue V) : DebounceChatQueue V :=
  { q with
    waiters := q.waiters ++
      [{ w with wakeAt := q.now + timeoutDelay (min IDLE_POLL_MS (w.waitUntil - q.now)) }] }

def pollOrFlush (w : FlushWaiter) (q : DebounceChatQueue V) : DebounceChatQueue V :=
  if (q.objects w.state).processing ∧ q.now < w.waitUntil then q.sleep w
  else q.flush w.externalUserId w.deadlineAt w.drain

def flushOrWait (user : String) (deadlineAt : ℤ) (drain : Option ℕ) (q : DebounceChatQueue V) :
    DebounceChatQueue V :=
  match q.get user with
  | none => q
  | some r =>
    if (q.objects r).processing then
      { q with next := q.next + 1 }.pollOrFlush
        { id := q.next, externalUserId := user, state := r, deadlineAt := deadlineAt,
          waitUntil := min deadlineAt ((q.objects r).processingDeadlineAt.getD deadlineAt),
          wakeAt := q.now, drain := drain }
    else q.flush user deadlineAt drain

def wake (w : FlushWaiter) (q : DebounceChatQueue V) : DebounceChatQueue V :=
  { q with waiters := q.waiters.filter fun v => v.id ≠ w.id }.pollOrFlush w

def flushNow (config : DebounceChatQueueConfig) (user : String) (q : DebounceChatQueue V) :
    DebounceChatQueue V :=
  match q.get user with
  | none => q
  | some r => (q.disarm r).flushOrWait user (q.deadlineFromNow config) none

/-! ## `clear`, `drain`, `destroy` and `evictStale` -/

def cleared (s : QueueState V) : QueueState V :=
  { s with
    texts := []
    pendingWhileProcessing := []
    lastIdempotencyKey := none
    lastPendingIdempotencyKey := none }

def clear (user : String) (q : DebounceChatQueue V) : DebounceChatQueue V :=
  match q.get user with
  | none => q
  | some r =>
    let q := (q.disarm r).modify r cleared
    if (q.objects r).processing then q else q.delete user

def entries (q : DebounceChatQueue V) : List (String × ℕ) :=
  (q.queues.entries.map fun entry => (entry.1, entry.2)).reverse

def hasWork (s : QueueState V) : Bool :=
  s.processing || !s.texts.isEmpty || !s.pendingWhileProcessing.isEmpty

/-- The loop of `drain` over the states: a state without work loses its timer. -/
def sweep (entries : List (String × ℕ)) (q : DebounceChatQueue V) : DebounceChatQueue V :=
  entries.foldl (fun q entry => if hasWork (q.objects entry.2) then q else q.disarm entry.2) q

/-- The end of a call of `drain`; the first `destroy` then clears the timers and the map. -/
def endDrain (d : ActiveDrain) (q : DebounceChatQueue V) : DebounceChatQueue V :=
  if d.destroys then
    { q.entries.foldl (fun q entry => q.disarm entry.2) q with queues := ∅ }
  else q

/-- A round of `drain` begins with the users of the map. -/
def beginRound (d : ActiveDrain) (q : DebounceChatQueue V) : DebounceChatQueue V :=
  if q.entries = [] then q.endDrain d
  else { q with drains := q.drains ++ [{ d with toVisit := q.entries.map Prod.fst }] }

def drain (config : DebounceChatQueueConfig) (destroys : Bool) (q : DebounceChatQueue V) :
    DebounceChatQueue V :=
  { q with next := q.next + 1 }.beginRound
    { id := q.next, deadlineAt := q.deadlineFromNow config, toVisit := [], destroys := destroys }

section

variable (d : ActiveDrain)

def leaveToVisit (rest : List String) (drains : List ActiveDrain) : List ActiveDrain :=
  drains.map fun e => if e.id = d.id then { e with toVisit := rest } else e

/-- `drain` calls `flushOrWait` for the next user of the round. -/
def visit (user : String) (rest : List String) (q : DebounceChatQueue V) : DebounceChatQueue V :=
  { q with drains := leaveToVisit d rest q.drains }.flushOrWait user d.deadlineAt (some d.id)

/-- `drain` goes on after the calls of a round. -/
def resume (q : DebounceChatQueue V) : DebounceChatQueue V :=
  let work := q.entries.any fun entry => hasWork (q.objects entry.2)
  let q := { q with drains := q.drains.filter fun e => e.id ≠ d.id }.sweep q.entries
  if !work ∨ d.deadlineAt ≤ q.now then q.endDrain d else q.beginRound d

def awaits (q : DebounceChatQueue V) : Bool :=
  q.flushes.any (fun f => f.drain = some d.id) || q.waiters.any fun w => w.drain = some d.id

end

def destroy (config : DebounceChatQueueConfig) (q : DebounceChatQueue V) : DebounceChatQueue V :=
  if q.shuttingDown then q.drain config false
  else { q with shuttingDown := true }.drain config true

/-- A state that `evictStale` removes. -/
def isStale (cutoff : ℤ) (s : QueueState V) : Bool :=
  !s.processing && s.texts.isEmpty && s.pendingWhileProcessing.isEmpty &&
    s.debounceTimer.isNone && decide (s.lastActivityAt < cutoff)

def evictStale (config : DebounceChatQueueConfig) (q : DebounceChatQueue V) : DebounceChatQueue V :=
  q.entries.foldl (fun p entry =>
    if isStale (q.now - config.staleTtlMs) (p.objects entry.2) then p.delete entry.1 else p) q

/-! ## Events -/

def step (config : DebounceChatQueueConfig) (q : DebounceChatQueue V) :
    QueueEvent V → Option (DebounceChatQueue V)
  | .clock now => some { q with now := now }
  | .reconfigure debounceMs => some { q with debounceMs := debounceMs }
  | .enqueue input => some (q.enqueue config input)
  | .flushNow user => some (q.flushNow config user)
  | .clear user => some (q.clear user)
  | .drain => some (q.drain config false)
  | .destroy => some (q.destroy config)
  | .cleanup =>
    -- the interval is cleared when the queue shuts down
    if q.shuttingDown then none else some (q.evictStale config)
  | .fire timer =>
    (q.timers.find? fun t => t.id = timer).bind fun t =>
      if t.dueAt ≤ q.now then some (q.fire config t) else none
  | .settle flush ending =>
    (q.flushes.find? fun f => f.id = flush).bind fun f =>
      if ending = .timedOut ∧ q.now < f.timeoutAt then none else some (q.settle f ending)
  | .wake waiter =>
    (q.waiters.find? fun w => w.id = waiter).bind fun w =>
      if w.wakeAt ≤ q.now then some (q.wake w) else none
  | .visit drain =>
    (q.drains.find? fun d => d.id = drain).bind fun d =>
      match d.toVisit with
      | [] => none
      | user :: rest => some (q.visit d user rest)
  | .resume drain =>
    (q.drains.find? fun d => d.id = drain).bind fun d =>
      if d.toVisit = [] ∧ q.awaits d = false then some (q.resume d) else none

end DebounceChatQueue

end WispaceBot
