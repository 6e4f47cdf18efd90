import Mathlib.Data.Rat.Floor
import WispaceBot.Contracts
import WispaceBot.Foundation.JsNumber

/-!
# The clarification core

A clarification menu of a learner is a state with counters, an expiry and the identities of the
events that led to it.  `ClarificationCore` is pure: it begins a state, records an irrelevant
answer, consumes the menu, marks a failed delivery, and classifies a state against an incoming
event.  The store and the version are not its concern.
-/

namespace WispaceBot

/-! ## Limits -/

/-- `ClarificationLimits`, of numbers as they are configured or as they are normalised. -/
structure ClarificationLimits (N : Type) where
  (ttlMs maxAttempts maxMenuResets : N)

def CLARIFICATION_TTL_MS : ℕ := 10 * 60 * 1000

def MAX_CLARIFICATION_ATTEMPTS : ℕ := 2

def MAX_CLARIFICATION_MENU_RESETS : ℕ := 1

def MAX_CLARIFICATION_TTL_MS : ℕ := 24 * 60 * 60 * 1000

def MAX_CLARIFICATION_ATTEMPTS_CAP : ℕ := 10

def MAX_CLARIFICATION_MENU_RESETS_CAP : ℕ := 5

def MAX_CLARIFICATION_EVENT_HISTORY : ℕ := 8

/-- A finite number in range is rounded down and capped; anything else is the default. -/
def normalizeBound (inRange : ℚ → Bool) (fallback cap : ℕ) : JsNumber → ℕ
  | .finite q => min (if inRange q then ⌊q⌋₊ else fallback) cap
  | _ => min fallback cap

def normalizeLimits (limits : ClarificationLimits JsNumber) : ClarificationLimits ℕ where
  ttlMs := normalizeBound (fun q => decide (0 < q)) CLARIFICATION_TTL_MS MAX_CLARIFICATION_TTL_MS
    limits.ttlMs
  maxAttempts := normalizeBound (fun q => decide (0 ≤ q)) MAX_CLARIFICATION_ATTEMPTS
    MAX_CLARIFICATION_ATTEMPTS_CAP limits.maxAttempts
  maxMenuResets := normalizeBound (fun q => decide (0 ≤ q)) MAX_CLARIFICATION_MENU_RESETS
    MAX_CLARIFICATION_MENU_RESETS_CAP limits.maxMenuResets

lemma normalizeBound_le (inRange : ℚ → Bool) (fallback cap : ℕ) (value : JsNumber) :
    normalizeBound inRange fallback cap value ≤ cap := by
  cases value <;> exact min_le_right _ _

/-! ## States and events -/

inductive ClarificationChoice
  | progress
  | schedule
  | reschedule
  deriving DecidableEq

/-- `ClarificationState.phase`. -/
inductive ClarificationPhase
  | awaitingChoice
  | consumed
  deriving DecidableEq

structure ClarificationState where
  phase : ClarificationPhase
  (attempts menuResets version : ℕ)
  (createdAt expiresAt : ℤ)
  userId : Option ℤ
  lastEventId : Option String
  recentEventIds : Option (List String)
  lastChoice : Option ClarificationChoice
  lastReplyText : Option String
  lastDeliveryFailed : Option Bool
  deriving DecidableEq

structure ClarificationEvent where
  eventId : Option String
  userId : Option ℤ

def isClarificationStateExpired (state : ClarificationState) (now : ℤ) : Bool :=
  decide (state.expiresAt ≤ now)

/-- What `recordIrrelevant` decides: the new state of a menu that goes on, or that it is cleared. -/
inductive ClarificationIrrelevantResult
  | clarify (state : ClarificationState)
  | resetMenu (state : ClarificationState)
  | clear

def ClarificationIrrelevantResult.state : ClarificationIrrelevantResult → Option ClarificationState
  | .clarify state => some state
  | .resetMenu state => some state
  | .clear => none

inductive ClarificationStaleReason
  | expired
  | identityReset
  deriving DecidableEq

/-- What `inspect` finds. -/
inductive ClarificationInspection
  | replayed (replyText : Option String)
  | staleReply (replyText : Option String)
  | staleState (reason : ClarificationStaleReason)
  | consumed (choice : Option ClarificationChoice)
  | proceed

/-! ## The core -/

def appendEventIdentity (recentEventIds : Option (List String)) (eventId : Option String) :
    Option (List String) :=
  if isFalsy eventId then recentEventIds
  else
    let ids := recentEventIds.getD [] ++ eventId.toList
    some (ids.drop (ids.length - MAX_CLARIFICATION_EVENT_HISTORY))

def withReply (state : ClarificationState) (eventId : Option String) (replyText : String) :
    ClarificationState :=
  { state with
    lastEventId := if isFalsy eventId then state.lastEventId else eventId
    recentEventIds :=
      (appendEventIdentity state.recentEventIds eventId).or state.recentEventIds
    lastReplyText := some replyText
    lastDeliveryFailed := some false }

namespace ClarificationCore

variable (limits : ClarificationLimits ℕ)

def begin (event : ClarificationEvent) (now : ℤ) (replyText : String) : ClarificationState where
  phase := .awaitingChoice
  attempts := 0
  menuResets := 0
  version := 1
  createdAt := now
  expiresAt := now + limits.ttlMs
  userId := event.userId
  lastEventId := if isFalsy event.eventId then none else event.eventId
  recentEventIds := appendEventIdentity none event.eventId
  lastChoice := none
  lastReplyText := some replyText
  lastDeliveryFailed := some false

section

variable (state : ClarificationState) (event : ClarificationEvent) (now : ℤ)

def recordIrrelevant (replyText : String) : ClarificationIrrelevantResult :=
  if state.attempts < limits.maxAttempts then
    .clarify (withReply
      { state with
        attempts := state.attempts + 1
        version := state.version + 1
        expiresAt := now + limits.ttlMs }
      event.eventId replyText)
  else if state.menuResets < limits.maxMenuResets then
    .resetMenu (withReply
      { state with
        attempts := 0
        menuResets := state.menuResets + 1
        version := state.version + 1
        expiresAt := now + limits.ttlMs }
      event.eventId replyText)
  else .clear

def consume (choice : Option ClarificationChoice) : ClarificationState :=
  { state with
    phase := .consumed
    version := state.version + 1
    expiresAt := now + limits.ttlMs
    lastEventId := if isFalsy event.eventId then state.lastEventId else event.eventId
    recentEventIds :=
      (appendEventIdentity state.recentEventIds event.eventId).or state.recentEventIds
    lastChoice := choice.or state.lastChoice }

end

section

variable (state : Option ClarificationState) (event : ClarificationEvent)

def failDelivery : Option ClarificationState :=
  match state with
  | none => none
  | some state =>
    if state.lastEventId ≠ event.eventId then none
    else some { state with version := state.version + 1, lastDeliveryFailed := some true }

def inspect (now : ℤ) : ClarificationInspection :=
  match state with
  | none => .proceed
  | some state =>
    if isClarificationStateExpired state now then .staleState .expired
    else if state.userId ≠ event.userId then .staleState .identityReset
    else if !isFalsy event.eventId ∧ state.lastEventId = event.eventId ∧
        state.lastDeliveryFailed ≠ some true ∧
        (!isFalsy state.lastReplyText ∨ state.phase = .consumed) then
      .replayed state.lastReplyText
    else if !isFalsy event.eventId ∧ state.lastEventId ≠ event.eventId ∧
        (state.recentEventIds.getD []).any fun id => event.eventId = some id then
      .staleReply state.lastReplyText
    else if state.phase = .consumed then
      .consumed
        (if state.lastDeliveryFailed = some true ∧ event.eventId = state.lastEventId then
          state.lastChoice
        else none)
    else .proceed

end

end ClarificationCore

end WispaceBot
