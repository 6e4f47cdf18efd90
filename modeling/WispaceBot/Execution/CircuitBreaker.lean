import Mathlib
import WispaceBot.Foundation.Run

/-!
# The execution circuit breaker

`createEnvLlmExecutionPort` fails fast after three provider failures in a row and then lets one call
through as a probe.  The flag that keeps the others out is cleared by every call that ends, also by
one that began before the circuit opened; a call is marked as a probe when it passes an open
circuit.
`single_probe` says when there is one probe at a time, and that the circuit never refuses for ever.
-/

namespace WispaceBot

open List Option Transition

/-! ## Failures -/

/-- `LlmProviderError.reason`. -/
inductive LlmProviderErrorReason
  | rateLimit
  | timeout
  | serverError
  | network
  | auth
  | badRequest
  | quotaExceeded
  | unknown
  deriving DecidableEq

inductive LlmExecutionFailureKind
  | provider
  | callerCancellation
  | nonProvider
  deriving DecidableEq

inductive LlmExecutionFailureClass
  | reason (reason : LlmProviderErrorReason)
  | callerCancellation
  | nonProvider

structure LlmExecutionFailureClassification where
  kind : LlmExecutionFailureKind
  errorClass : LlmExecutionFailureClass
  countsForCircuit : Bool

/-- A failed call: the flags of its failure tracker, and the reasons of its error. -/
structure LlmExecutionFailure where
  (callerAborted providerFailure deadlineAborted deadlineExpiredDuringProvider : Bool)
  reasons : List LlmProviderErrorReason

def classifyProviderFailure (reasons : List LlmProviderErrorReason) :
    LlmExecutionFailureClassification :=
  match reasons.find? fun reason => decide (reason ≠ .badRequest) with
  | some reason => { kind := .provider, errorClass := .reason reason, countsForCircuit := true }
  | none => { kind := .provider, errorClass := .reason .badRequest, countsForCircuit := false }

def LlmExecutionFailure.classify (failure : LlmExecutionFailure) :
    LlmExecutionFailureClassification :=
  if failure.callerAborted then
    { kind := .callerCancellation, errorClass := .callerCancellation, countsForCircuit := false }
  else if failure.providerFailure then classifyProviderFailure failure.reasons
  else if failure.deadlineAborted && !failure.deadlineExpiredDuringProvider then
    { kind := .nonProvider, errorClass := .nonProvider, countsForCircuit := false }
  else if failure.deadlineExpiredDuringProvider then classifyProviderFailure failure.reasons
  else { kind := .nonProvider, errorClass := .nonProvider, countsForCircuit := false }

/-! ## The circuit -/

def EXECUTION_CIRCUIT_FAILURE_THRESHOLD : ℕ := 3

def EXECUTION_CIRCUIT_RESET_MS : ℤ := 60000

/-- The variables of the port; `circuitOpenedAt` is zero while the circuit is closed. -/
structure ExecutionCircuit where
  consecutiveFailures : ℕ
  circuitOpenedAt : ℤ
  halfOpenInFlight : Bool

/-- The state of a `LlmProviderCircuitOpenError`. -/
inductive CircuitRefusal
  | open
  | halfOpen

namespace ExecutionCircuit

def assertCircuitAvailable (now : ℤ) (c : ExecutionCircuit) :
    Except CircuitRefusal ExecutionCircuit :=
  if c.circuitOpenedAt = 0 then .ok c
  else if now - c.circuitOpenedAt < EXECUTION_CIRCUIT_RESET_MS then .error .open
  else if c.halfOpenInFlight then .error .halfOpen
  else .ok { c with halfOpenInFlight := true }

def recordSuccess (_ : ExecutionCircuit) : ExecutionCircuit where
  consecutiveFailures := 0
  circuitOpenedAt := 0
  halfOpenInFlight := false

def counts (classification : LlmExecutionFailureClassification) : Bool :=
  decide (classification.kind = .provider) && classification.countsForCircuit

def recordFailure (now : ℤ) (classification : LlmExecutionFailureClassification)
    (c : ExecutionCircuit) : ExecutionCircuit :=
  if counts classification = false then { c with halfOpenInFlight := false }
  else if EXECUTION_CIRCUIT_FAILURE_THRESHOLD ≤ c.consecutiveFailures + 1 then
    { consecutiveFailures := c.consecutiveFailures + 1
      circuitOpenedAt := now
      halfOpenInFlight := false }
  else { c with consecutiveFailures := c.consecutiveFailures + 1 }

/-- The statement of the `finally` block. -/
def clearProbe (c : ExecutionCircuit) : ExecutionCircuit :=
  { c with halfOpenInFlight := false }

end ExecutionCircuit

/-! ## Calls in flight -/

/-- Whether the port is enabled, and `AbortSignal.timeout` takes the configured `requestTimeoutMs`.
-/
structure EnvLlmExecutionConfig where
  (enabled timeoutAccepted : Bool)

/-- A call of `run` that passed the circuit, before or after its admission lease. -/
structure LlmRun where
  /-- The circuit was open when the call passed it, and the reset window over. -/
  probe : Bool
  leased : Bool

/-- The circuit, and the calls in flight. -/
structure ExecutionPort where
  clock : ℤ
  circuit : ExecutionCircuit
  runs : List LlmRun

/-- All retries of a call lie between its admission and its end. -/
inductive ExecutionEvent
  | tick (now : ℤ)
  | start
  | leased (index : ℕ)
  | rejected (index : ℕ)
  | succeeded (index : ℕ)
  | failed (index : ℕ) (failure : LlmExecutionFailure)

namespace ExecutionPort

def init (clock : ℤ) : ExecutionPort where
  clock := clock
  circuit := { consecutiveFailures := 0, circuitOpenedAt := 0, halfOpenInFlight := false }
  runs := []

/-- A call ends and leaves the circuit in a given state; the `finally` block clears the flag. -/
def finish (q : ExecutionPort) (index : ℕ) (circuit : ExecutionCircuit) : ExecutionPort :=
  { q with circuit := circuit.clearProbe, runs := q.runs.eraseIdx index }

/-- A call of `run` up to the request of an admission. -/
def start (config : EnvLlmExecutionConfig) (q : ExecutionPort) : ExecutionPort :=
  if config.enabled = false then q
  else
    match q.circuit.assertCircuitAvailable q.clock with
    | .error _ => q
    | .ok circuit =>
      if config.timeoutAccepted then
        { q with
          circuit := circuit
          runs := q.runs ++ [{ probe := decide (q.circuit.circuitOpenedAt ≠ 0), leased := false }] }
      else { q with circuit := circuit }

def step (config : EnvLlmExecutionConfig) (q : ExecutionPort) :
    ExecutionEvent → Option ExecutionPort
  | .tick now => some { q with clock := now }
  | .start => some (q.start config)
  | .leased index =>
    match q.runs[index]? with
    | some r =>
      if r.leased then none
      else some { q with runs := q.runs.set index { r with leased := true } }
    | none => none
  | .rejected index =>
    match q.runs[index]? with
    | some r => if r.leased then none else some (q.finish index q.circuit)
    | none => none
  | .succeeded index =>
    match q.runs[index]? with
    | some r => if r.leased then some (q.finish index q.circuit.recordSuccess) else none
    | none => none
  | .failed index failure =>
    match q.runs[index]? with
    | some r =>
      if r.leased then
        some (q.finish index (q.circuit.recordFailure q.clock failure.classify))
      else none
    | none => none

/-! ## What a step can do -/

variable {config : EnvLlmExecutionConfig} {q t : ExecutionPort}

/-- The circuit has been opened and not closed since. -/
def IsOpen (q : ExecutionPort) : Prop := q.circuit.circuitOpenedAt ≠ 0
  deriving Decidable

/-- How many probes are in flight. -/
def probes (q : ExecutionPort) : ℕ :=
  q.runs.countP LlmRun.probe

open ExecutionCircuit

/-- A failure opens the circuit, or leaves it open. -/
def Opens (q : ExecutionPort) (failure : LlmExecutionFailure) : Prop :=
  q.IsOpen ∨ counts failure.classify = true ∧
    EXECUTION_CIRCUIT_FAILURE_THRESHOLD ≤ q.circuit.consecutiveFailures + 1
  deriving Decidable

/-- A call that is rejected or fails, and leaves the circuit open, leaves no probe in flight. -/
def SparesProbe (q : ExecutionPort) : ExecutionEvent → Prop
  | .rejected index => q.IsOpen → ∀ r ∈ q.runs.eraseIdx index, r.probe = false
  | .failed index failure => q.Opens failure → ∀ r ∈ q.runs.eraseIdx index, r.probe = false
  | _ => True

instance (q : ExecutionPort) (e : ExecutionEvent) : Decidable (q.SparesProbe e) := by
  unfold SparesProbe
  split <;> infer_instance

/-- What one step does: the clock moves, a call begins, a call gets its lease, or a call ends. -/
inductive Moves (config : EnvLlmExecutionConfig) (q : ExecutionPort) : ExecutionEvent →
    ExecutionPort → Prop
  | tick (now : ℤ) : Moves config q (.tick now) { q with clock := now }
  | start : Moves config q .start (q.start config)
  | leased (index : ℕ) (runs : List LlmRun)
      (h : runs.map LlmRun.probe = q.runs.map LlmRun.probe) :
      Moves config q (.leased index) { q with runs := runs }
  | rejected (index : ℕ) (h : index < q.runs.length) :
      Moves config q (.rejected index) (q.finish index q.circuit)
  | succeeded (index : ℕ) (h : index < q.runs.length) :
      Moves config q (.succeeded index) (q.finish index q.circuit.recordSuccess)
  | failed (index : ℕ) (failure : LlmExecutionFailure) (h : index < q.runs.length) :
      Moves config q (.failed index failure)
        (q.finish index (q.circuit.recordFailure q.clock failure.classify))

variable {index : ℕ}

lemma map_probe_set {runs : List LlmRun} {r : LlmRun} (h : runs[index]? = some r)
    (leased : Bool) :
    (runs.set index { r with leased := leased }).map LlmRun.probe = runs.map LlmRun.probe := by
  obtain ⟨hlt, hget⟩ := List.getElem?_eq_some_iff.mp h
  have hlen : index < (runs.map LlmRun.probe).length := by simpa using hlt
  have hsame : (runs.map LlmRun.probe)[index] = r.probe := by simp [hget]
  rw [map_set]
  exact hsame ▸ set_getElem_self hlen

variable {e : ExecutionEvent}

lemma moves_of_step (h : step config q e = some t) : Moves config q e t := by
  have hbound : ∀ {index r}, q.runs[index]? = some r → index < q.runs.length := fun hr =>
    (List.getElem?_eq_some_iff.mp hr).1
  cases e with
  | tick now =>
    obtain ⟨⟩ := h
    exact .tick now
  | start =>
    obtain ⟨⟩ := h
    exact .start
  | leased index =>
    simp only [step] at h
    split at h
    next r hr =>
      simp only [ite_none_left_eq_some, Option.some.injEq] at h
      obtain ⟨-, rfl⟩ := h
      exact .leased index _ (map_probe_set hr true)
    · cases h
  | rejected index =>
    simp only [step] at h
    split at h
    next r hr =>
      simp only [ite_none_left_eq_some, Option.some.injEq] at h
      obtain ⟨-, rfl⟩ := h
      exact .rejected index (hbound hr)
    · cases h
  | succeeded index =>
    simp only [step] at h
    split at h
    next r hr =>
      simp only [ite_none_right_eq_some, Option.some.injEq] at h
      obtain ⟨-, rfl⟩ := h
      exact .succeeded index (hbound hr)
    · cases h
  | failed index fail =>
    simp only [step] at h
    split at h
    next _ hr =>
      simp only [ite_none_right_eq_some, Option.some.injEq] at h
      obtain ⟨-, rfl⟩ := h
      exact .failed index fail (hbound hr)
    · cases h

/-! ## What always holds -/

/-- The flag belongs to a call, and calls get past the circuit only in a port that works. -/
structure Tracked (config : EnvLlmExecutionConfig) (q : ExecutionPort) : Prop where
  flag : q.circuit.halfOpenInFlight = true → q.runs ≠ []
  live : q.circuit.circuitOpenedAt ≠ 0 ∨ q.runs ≠ [] →
    config.enabled = true ∧ config.timeoutAccepted = true

lemma tracked_init (clock : ℤ) : Tracked config (init clock) where
  flag := fun h => by cases h
  live := by
    rintro (h | h)
    · exact absurd rfl h
    · exact absurd rfl h

lemma start_cases (config : EnvLlmExecutionConfig) (q : ExecutionPort) :
    q.start config = q ∨
    (config.enabled = true ∧ config.timeoutAccepted = true ∧ q.circuit.circuitOpenedAt = 0 ∧
      q.start config = { q with runs := q.runs ++ [{ probe := false, leased := false }] }) ∨
    (config.enabled = true ∧ q.circuit.circuitOpenedAt ≠ 0 ∧
      EXECUTION_CIRCUIT_RESET_MS ≤ q.clock - q.circuit.circuitOpenedAt ∧
      q.circuit.halfOpenInFlight = false ∧
      q.start config =
        { q with
          circuit := { q.circuit with halfOpenInFlight := true }
          runs := if config.timeoutAccepted
            then q.runs ++ [{ probe := true, leased := false }] else q.runs }) := by
  unfold start assertCircuitAvailable
  cases henabled : config.enabled with
  | false => exact .inl rfl
  | true =>
    by_cases hclosed : q.circuit.circuitOpenedAt = 0
    · cases hacc : config.timeoutAccepted with
      | false => exact .inl (by simp [hclosed])
      | true => exact .inr (.inl ⟨rfl, rfl, hclosed, by simp [hclosed]⟩)
    · by_cases hwin : q.clock - q.circuit.circuitOpenedAt < EXECUTION_CIRCUIT_RESET_MS
      · exact .inl (by simp [hclosed, hwin])
      · cases hflag : q.circuit.halfOpenInFlight with
        | true => exact .inl (by simp [hclosed, hwin])
        | false =>
          refine .inr (.inr ⟨rfl, hclosed, not_lt.mp hwin, rfl, ?_⟩)
          cases config.timeoutAccepted <;> simp [hclosed, hwin]

lemma tracked_start (h : Tracked config q) : Tracked config (q.start config) := by
  rcases start_cases config q with
    hsame | ⟨henabled, hacc, hclosed, hstart⟩ | ⟨henabled, hopen, -, -, hstart⟩
  · rw [hsame]
    exact h
  · rw [hstart]
    exact ⟨fun _ => by simp, fun _ => ⟨henabled, hacc⟩⟩
  · -- a circuit that is open was opened by calls that got past their deadline signal
    obtain ⟨-, hacc⟩ := h.live (.inl hopen)
    rw [hstart, if_pos hacc]
    exact ⟨fun _ => by simp, fun _ => ⟨henabled, hacc⟩⟩

variable {circuit : ExecutionCircuit}

lemma tracked_finish (h : Tracked config q) (hindex : index < q.runs.length) :
    Tracked config (q.finish index circuit) where
  flag := fun hflag => by cases hflag
  live := fun _ => h.live (.inr (ne_nil_of_length_pos (Nat.zero_lt_of_lt hindex)))

lemma tracked_step (h : Tracked config q) (hstep : step config q e = some t) :
    Tracked config t := by
  have hmoves := moves_of_step hstep
  induction hmoves with
  | tick => exact ⟨h.flag, h.live⟩
  | start => exact tracked_start h
  | leased _ runs hmap =>
    have hlen : runs.length = q.runs.length := by
      simpa using congrArg List.length hmap
    have hnil : runs ≠ [] ↔ q.runs ≠ [] := by
      rw [← length_pos_iff, ← length_pos_iff, hlen]
    exact ⟨fun hflag => hnil.mpr (h.flag hflag), fun hlive => h.live (hlive.imp_right hnil.mp)⟩
  | rejected _ hindex => exact tracked_finish h hindex
  | succeeded _ hindex => exact tracked_finish h hindex
  | failed _ _ hindex => exact tracked_finish h hindex

/-! ## One probe at a time -/

/-- There is at most one probe in flight, and none while the circuit is open and the flag clear. -/
structure Exclusive (q : ExecutionPort) : Prop where
  probes_le : q.probes ≤ 1
  flagged : q.IsOpen → q.circuit.halfOpenInFlight = false → q.probes = 0

lemma exclusive_init (clock : ℤ) : Exclusive (init clock) :=
  ⟨Nat.zero_le 1, fun _ _ => rfl⟩

lemma exclusive_start (h : Exclusive q) (hq : Tracked config q) : Exclusive (q.start config) := by
  rcases start_cases config q with
    hsame | ⟨-, -, hclosed, hstart⟩ | ⟨-, hopen, -, hflag, hstart⟩
  · rw [hsame]
    exact h
  · have hprobes : probes { q with runs := q.runs ++ [{ probe := false, leased := false }] } =
        q.probes := by
      simp [probes, countP_append]
    rw [hstart]
    exact ⟨hprobes.le.trans h.probes_le, fun hopen => absurd hclosed hopen⟩
  · have hnone : q.probes = 0 := h.flagged hopen hflag
    obtain ⟨-, hacc⟩ := hq.live (.inl hopen)
    rw [hstart, if_pos hacc]
    constructor
    · rw [probes, countP_append]
      exact Nat.add_le_add hnone.le countP_le_length
    · intro _ hclear
      cases hclear

/-- A call ends: if the circuit is open then, no probe is left. -/
lemma exclusive_finish (h : Exclusive q)
    (hspared : circuit.circuitOpenedAt ≠ 0 → ∀ r ∈ q.runs.eraseIdx index, r.probe = false) :
    Exclusive (q.finish index circuit) := by
  refine ⟨((eraseIdx_sublist ..).countP_le).trans h.probes_le, fun hopen _ => ?_⟩
  rw [probes, countP_eq_zero]
  intro r hr
  simp [hspared hopen r hr]

lemma opens_of_recordFailure {failure : LlmExecutionFailure}
    (h : (q.circuit.recordFailure q.clock failure.classify).circuitOpenedAt ≠ 0) :
    q.Opens failure := by
  unfold recordFailure at h
  split at h
  · exact .inl h
  next hcounts =>
    split at h
    next hthreshold =>
      exact .inr ⟨by simpa using hcounts, hthreshold⟩
    · exact .inl h

lemma exclusive_step (h : Exclusive q) (hq : Tracked config q) (hspare : q.SparesProbe e)
    (hstep : step config q e = some t) : Exclusive t := by
  have hmoves := moves_of_step hstep
  induction hmoves with
  | tick => exact ⟨h.probes_le, h.flagged⟩
  | start => exact exclusive_start h hq
  | leased _ runs hmap =>
    have hprobes : ∀ runs : List LlmRun, runs.countP LlmRun.probe =
        (runs.map LlmRun.probe).countP id := fun runs => by simp [countP_map]
    have hsame : probes { q with runs := runs } = q.probes := by
      rw [probes, hprobes, hmap, ← hprobes, probes]
    exact ⟨hsame.le.trans h.probes_le, fun hopen hclear => hsame.trans (h.flagged hopen hclear)⟩
  | rejected => exact exclusive_finish h hspare
  | succeeded => exact exclusive_finish h fun hopen => absurd rfl hopen
  | failed => exact exclusive_finish h fun hopen => hspare (opens_of_recordFailure hopen)

lemma exclusive_run {clock : ℤ} {events : List ExecutionEvent}
    (hspare : Along (step config) SparesProbe (init clock) events)
    (hrun : run (step config) (init clock) events = some q) : Exclusive q := by
  have hstep : ∀ q e t, Tracked config q ∧ Exclusive q → q.SparesProbe e →
      step config q e = some t → Tracked config t ∧ Exclusive t := by
    rintro _ _ _ ⟨htracked, hexcl⟩ hspare h
    exact ⟨tracked_step htracked h, exclusive_step hexcl htracked hspare h⟩
  exact (run_induction hstep ⟨tracked_init clock, exclusive_init clock⟩ hspare hrun).2

/-- Under the condition there is at most one probe in flight at a time.  When no call is in flight
and the reset window has elapsed, the next call is admitted as the probe, in any run. -/
theorem single_probe (config : EnvLlmExecutionConfig) (clock : ℤ) (events : List ExecutionEvent)
    (q : ExecutionPort) (hrun : run (step config) (init clock) events = some q) :
    (Along (step config) SparesProbe (init clock) events → q.probes ≤ 1) ∧
      (q.IsOpen → q.runs = [] → EXECUTION_CIRCUIT_RESET_MS ≤ q.clock - q.circuit.circuitOpenedAt →
        step config q .start = some
          { q with
            circuit := { q.circuit with halfOpenInFlight := true }
            runs := [{ probe := true, leased := false }] }) := by
  have htracked : Tracked config q :=
    run_induction (fun q e t h _ hstep => tracked_step h hstep) (tracked_init clock)
      (along_true _ _) hrun
  constructor
  · intro hspare
    exact (exclusive_run hspare hrun).probes_le
  · intro hopen hidle hwin
    obtain ⟨henabled, hacc⟩ := htracked.live (.inl hopen)
    have hflag : q.circuit.halfOpenInFlight = false := by
      by_contra hset
      exact htracked.flag (by simpa using hset) hidle
    simp [step, start, assertCircuitAvailable, henabled, hacc, hflag, hidle,
      not_lt.mpr hwin, show q.circuit.circuitOpenedAt ≠ 0 from hopen]

/-! ## Fixed runs -/

def serverFailure : LlmExecutionFailure where
  callerAborted := false
  providerFailure := true
  deadlineAborted := false
  deadlineExpiredDuringProvider := false
  reasons := [.serverError]

def cancelledCall : LlmExecutionFailure where
  callerAborted := true
  providerFailure := true
  deadlineAborted := false
  deadlineExpiredDuringProvider := false
  reasons := [.unknown]

def enabledConfig : EnvLlmExecutionConfig where
  enabled := true
  timeoutAccepted := true

def recovering : List ExecutionEvent :=
  [.start, .leased 0, .failed 0 serverFailure, .start, .leased 0, .failed 0 serverFailure, .start,
    .leased 0, .failed 0 serverFailure, .tick 61000, .start, .start]

/-- One probe is in flight. -/
theorem single_probe_recovering :
    ∃ q, run (step enabledConfig) (init 1000) recovering = some q ∧
      (q.IsOpen ∧ q.probes = 1) ∧ q.probes ≤ 1 :=
  exists_end (A := fun q => q.IsOpen ∧ q.probes = 1) (by decide) fun q hrun hopen =>
    ⟨hopen, (single_probe enabledConfig 1000 recovering q hrun).1 (by decide)⟩

def oldCallEnds : List ExecutionEvent :=
  [.start, .leased 0, .start, .leased 1, .failed 1 serverFailure, .start, .leased 1,
    .failed 1 serverFailure, .start, .leased 1, .failed 1 serverFailure, .tick 61000, .start,
    .failed 0 cancelledCall, .start]

/-- Two probes are in flight while the circuit is open. -/
theorem two_probes_in_flight :
    ∃ q, run (step enabledConfig) (init 1000) oldCallEnds = some q ∧ q.IsOpen ∧ q.probes = 2 := by
  have hrun : (run (step enabledConfig) (init 1000) oldCallEnds).map
      (fun q => decide (q.IsOpen ∧ q.probes = 2)) = some true := by decide
  obtain ⟨q, hq, hshape⟩ := map_eq_some_iff.mp hrun
  exact ⟨q, hq, of_decide_eq_true hshape⟩

end ExecutionPort

end WispaceBot
