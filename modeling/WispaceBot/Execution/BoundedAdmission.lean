import WispaceBot.Foundation.JsNumber
import WispaceBot.Foundation.Run

/-!
# The bounded admission queue

`BoundedAdmissionQueue` admits a fixed number of holders and lets a bounded number of callers wait,
possibly delayed, with a wait budget or an abort signal.  The state holds what the class holds and
what the host has registered; the events are the calls, the uses of tickets, and the callbacks.
-/

namespace WispaceBot

open Transition

/-- Why admission was refused: `LlmOverloadReason`. -/
inductive LlmOverloadReason
  | queueFull
  | waitTimeout
  | globalSaturated
  | redisUnavailable
  deriving DecidableEq

/-- The reason an abort signal was given: an `Error`, or anything else. -/
inductive AbortReason
  | error (message : String)
  | other

/-- What a rejected call is rejected with. -/
inductive AdmissionError
  /-- `LlmOverloadError`. -/
  | overload (reason : LlmOverloadReason)
  | custom (message : String)
  /-- `DOMException('Aborted', 'AbortError')`. -/
  | aborted
  /-- The `RangeError` of the queue, for a delay that is negative or not finite. -/
  | invalidDelay

/-- The caller's abort reason, when it provides an error, and an `AbortError` otherwise. -/
def rejectionFromSignal : AbortReason → AdmissionError
  | .error message => .custom message
  | .other => .aborted

/-- `BoundedAcquireOptions`; signals are numbered. -/
structure BoundedAcquireOptions where
  signal : Option ℕ
  (waitBudgetMs delayMs : Option JsNumber)

structure Waiter where
  id : ℕ
  ready : Bool

/-- `AdmissionTicket`, with the call it was handed to. -/
structure AdmissionTicket where
  owner : ℕ
  released : Bool

/-- The limits of the queue.  They are taken to be whole numbers: `readPositiveInt` lets a fraction
of the environment pass. -/
structure AdmissionLimits where
  (concurrency maxQueueDepth : ℕ)

/-- The queue, with the timers and listeners it has registered and what it has answered. -/
structure BoundedAdmissionQueue where
  active : ℤ
  waiters : List Waiter
  (readyTimers budgetTimers : List ℕ)
  listeners : List (ℕ × ℕ)
  abortReason : ℕ → Option AbortReason
  calls : ℕ
  tickets : List AdmissionTicket
  rejections : List (ℕ × AdmissionError)
  enqueued : List ℕ

namespace BoundedAdmissionQueue

def init : BoundedAdmissionQueue where
  active := 0
  waiters := []
  readyTimers := []
  budgetTimers := []
  listeners := []
  abortReason _ := none
  calls := 0
  tickets := []
  rejections := []
  enqueued := []

def activeCount (q : BoundedAdmissionQueue) : ℤ := q.active

def waitingCount (q : BoundedAdmissionQueue) : ℕ := q.waiters.length

def reject (id : ℕ) (error : AdmissionError) (q : BoundedAdmissionQueue) : BoundedAdmissionQueue :=
  { q with rejections := q.rejections ++ [(id, error)] }

def grant (id : ℕ) (q : BoundedAdmissionQueue) : BoundedAdmissionQueue :=
  { q with active := q.active + 1, tickets := q.tickets ++ [⟨id, false⟩] }

/-- The timers and the listener of a waiter are cleared. -/
def clearWaiter (id : ℕ) (q : BoundedAdmissionQueue) : BoundedAdmissionQueue :=
  { q with
    readyTimers := q.readyTimers.filter (· ≠ id)
    budgetTimers := q.budgetTimers.filter (· ≠ id)
    listeners := q.listeners.filter (·.2 ≠ id) }

/-- The loop of `pump`, along the waiters at the head of the queue. -/
def pumpFrom (limits : AdmissionLimits) :
    List Waiter → BoundedAdmissionQueue → BoundedAdmissionQueue
  | [], q => q
  | next :: rest, q =>
    if q.active < limits.concurrency ∧ next.ready = true then
      pumpFrom limits rest (grant next.id (clearWaiter next.id { q with waiters := rest }))
    else q

def pump (limits : AdmissionLimits) (q : BoundedAdmissionQueue) : BoundedAdmissionQueue :=
  pumpFrom limits q.waiters q

def remove (limits : AdmissionLimits) (id : ℕ) (q : BoundedAdmissionQueue) :
    BoundedAdmissionQueue :=
  pump limits (clearWaiter id { q with waiters := q.waiters.eraseP (·.id = id) })

/-- A call joins the queue: its timers are set, its listener is registered and it is pushed. -/
def enqueue (id : ℕ) (options : BoundedAcquireOptions) (delayMs : JsNumber)
    (q : BoundedAdmissionQueue) : BoundedAdmissionQueue :=
  { q with
    readyTimers := if JsNumber.lt 0 delayMs then q.readyTimers ++ [id] else q.readyTimers
    budgetTimers := if options.waitBudgetMs.isSome then q.budgetTimers ++ [id] else q.budgetTimers
    listeners :=
      match options.signal with
      | some signal => q.listeners ++ [(signal, id)]
      | none => q.listeners
    waiters := q.waiters ++ [⟨id, delayMs.eq 0⟩]
    enqueued := q.enqueued ++ [id] }

/-- A call of `acquire`. -/
def acquire (limits : AdmissionLimits) (options : BoundedAcquireOptions)
    (q : BoundedAdmissionQueue) : BoundedAdmissionQueue :=
  let id := q.calls
  let called := { q with calls := q.calls + 1 }
  let delayMs := options.delayMs.getD 0
  match options.signal.bind q.abortReason with
  | some reason => called.reject id (rejectionFromSignal reason)
  | none =>
    if delayMs.lt 0 || !delayMs.isFinite then called.reject id .invalidDelay
    else if delayMs.eq 0 ∧ q.active < limits.concurrency ∧ q.waiters.length = 0 then
      called.grant id
    else if limits.maxQueueDepth ≤ q.waiters.length then called.reject id (.overload .queueFull)
    else (called.enqueue id options delayMs).pump limits

def giveBack (k : ℕ) (ticket : AdmissionTicket) (q : BoundedAdmissionQueue) :
    BoundedAdmissionQueue :=
  { q with active := q.active - 1, tickets := q.tickets.set k { ticket with released := true } }

/-- `release` of the ticket handed out `k`-th. -/
def release (limits : AdmissionLimits) (k : ℕ) (q : BoundedAdmissionQueue) :
    Option BoundedAdmissionQueue :=
  match q.tickets[k]? with
  | none => none
  | some ticket =>
    if ticket.released then some q else some (pump limits (q.giveBack k ticket))

/-- The ready timer of a waiter is spent and the waiter is marked. -/
def markReady (id : ℕ) (q : BoundedAdmissionQueue) : BoundedAdmissionQueue :=
  { q with
    readyTimers := q.readyTimers.filter (· ≠ id)
    waiters := q.waiters.map fun w => if w.id = id then { w with ready := true } else w }

def onReady (limits : AdmissionLimits) (id : ℕ) (q : BoundedAdmissionQueue) :
    BoundedAdmissionQueue :=
  pump limits (q.markReady id)

def onBudget (limits : AdmissionLimits) (id : ℕ) (q : BoundedAdmissionQueue) :
    BoundedAdmissionQueue :=
  (remove limits id { q with budgetTimers := q.budgetTimers.filter (· ≠ id) }).reject id
    (.overload .waitTimeout)

/-- The abort listener of a waiter is called; it was registered for one call only. -/
def onAbort (limits : AdmissionLimits) (reason : AbortReason) (signal id : ℕ)
    (q : BoundedAdmissionQueue) : BoundedAdmissionQueue :=
  (remove limits id { q with listeners := q.listeners.filter (· ≠ (signal, id)) }).reject id
    (rejectionFromSignal reason)

/-- The listeners of an aborted signal in turn, without those removed in the meantime. -/
def dispatch (limits : AdmissionLimits) (reason : AbortReason) (signal : ℕ) :
    List ℕ → BoundedAdmissionQueue → BoundedAdmissionQueue
  | [], q => q
  | id :: ids, q =>
    dispatch limits reason signal ids
      (if (signal, id) ∈ q.listeners then q.onAbort limits reason signal id else q)

def abort (limits : AdmissionLimits) (signal : ℕ) (reason : AbortReason)
    (q : BoundedAdmissionQueue) : BoundedAdmissionQueue :=
  dispatch limits reason signal
    ((q.listeners.filter (·.1 = signal)).map Prod.snd)
    { q with abortReason := Function.update q.abortReason signal (some reason) }

/-- Calls, uses of tickets, and the callbacks of the host. -/
inductive Event
  | acquire (options : BoundedAcquireOptions)
  | release (ticket : ℕ)
  | ready (id : ℕ)
  | budget (id : ℕ)
  | abort (signal : ℕ) (reason : AbortReason)

/-- A callback is run only while it is registered, and a signal is aborted once. -/
def step (limits : AdmissionLimits) (q : BoundedAdmissionQueue) :
    Event → Option BoundedAdmissionQueue
  | .acquire options => some (q.acquire limits options)
  | .release ticket => q.release limits ticket
  | .ready id => if id ∈ q.readyTimers then some (q.onReady limits id) else none
  | .budget id => if id ∈ q.budgetTimers then some (q.onBudget limits id) else none
  | .abort signal reason =>
    if q.abortReason signal = none then some (q.abort limits signal reason) else none

/-! ## What the history says -/

section

variable (q : BoundedAdmissionQueue)

def held : List AdmissionTicket :=
  q.tickets.filter (!·.released)

def granted : List ℕ :=
  q.tickets.map (·.owner)

def rejected : List ℕ :=
  q.rejections.map Prod.fst

def waiting : List ℕ :=
  q.waiters.map (·.id)

end

/-! ## Pumping -/

variable {lim : AdmissionLimits} {q : BoundedAdmissionQueue}

lemma pump_induction {I : BoundedAdmissionQueue → Prop}
    (hgrant : ∀ q next rest, I q → q.waiters = next :: rest → q.active < lim.concurrency →
      next.ready = true → I (grant next.id (clearWaiter next.id { q with waiters := rest })))
    (h : I q) : I (pump lim q) := by
  have hfrom : ∀ (ws : List Waiter) (q : BoundedAdmissionQueue), q.waiters = ws → I q →
      I (pumpFrom lim ws q) := by
    intro ws
    induction ws with
    | nil => exact fun q _ h => h
    | cons next rest ih =>
      intro q hws h
      rw [pumpFrom]
      split
      next hnext =>
        exact ih _ rfl (hgrant q next rest h hws hnext.1 hnext.2)
      · exact h
  exact hfrom q.waiters q rfl h

lemma pump_awake (lim : AdmissionLimits) (q : BoundedAdmissionQueue)
    (hfree : (pump lim q).active < lim.concurrency) :
    (pump lim q).waiters.head?.all (!·.ready) = true := by
  have hfrom : ∀ (ws : List Waiter) (q : BoundedAdmissionQueue), q.waiters = ws →
      (pumpFrom lim ws q).active < lim.concurrency →
      (pumpFrom lim ws q).waiters.head?.all (!·.ready) = true := by
    intro ws
    induction ws with
    | nil =>
      intro q hws _
      rw [pumpFrom, hws]
      rfl
    | cons next _ ih =>
      intro q hws hfree
      rw [pumpFrom] at hfree ⊢
      split at hfree
      next hnext =>
        rw [if_pos hnext]
        exact ih _ rfl hfree
      next hnext =>
        rw [if_neg hnext, hws]
        simpa [hfree] using hnext
  exact hfrom q.waiters q rfl hfree

lemma pump_reject (lim : AdmissionLimits) (id : ℕ) (error : AdmissionError)
    (q : BoundedAdmissionQueue) : pump lim (q.reject id error) = (pump lim q).reject id error := by
  have hfrom : ∀ (ws : List Waiter) (q : BoundedAdmissionQueue),
      pumpFrom lim ws (q.reject id error) = (pumpFrom lim ws q).reject id error := by
    intro ws
    induction ws with
    | nil => exact fun _ => rfl
    | cons next _ ih =>
      intro q
      by_cases hnext : q.active < lim.concurrency ∧ next.ready = true
      · rw [pumpFrom, pumpFrom, if_pos hnext, ← ih]
        exact if_pos hnext
      · rw [pumpFrom, pumpFrom, if_neg hnext]
        exact if_neg hnext
  exact hfrom q.waiters q

end BoundedAdmissionQueue

end WispaceBot
