import WispaceBot.Contracts
import WispaceBot.Foundation.Triple

/-!
# The refunds of a chat flush

`ChatPipeline.flush` of `@wispace/chat-pipeline`.  A `Pattern` says what the ports and the hooks
answer and which of them throw, and a flush keeps the flags of the source and the calls it made.
The slot is accounted for exactly when the pattern is `Honest`: three patterns give a slot back
for a reply that was sent, or keep the slot of one that was not.
-/

namespace WispaceBot
namespace ChatPipeline

inductive ChatQuotaDenyReason
  | dailyLimit
  | burstLimit
  | notLinked
  | idempotencyConflict
  deriving DecidableEq

inductive ReserveResult
  | allowed (usageDate : Option String)
  | denied (reason : Option ChatQuotaDenyReason) (limit : Nat)

structure AgentReply where
  text : String
  skipHistory : Bool := false
  clarification : Bool := false
  skipDelivery : Bool := false

structure SendResult where
  delivered : Bool
  outcome : Option DeliveryOutcome := none
  sentPart : Bool := false

/-- How a flush ended. -/
inductive ChatPipelineResult
  | delivered
  | denied (reason : Option ChatQuotaDenyReason) (limit : Nat)
  | duplicate
  | rateLimited
  | deliveryNotConfirmed

/-- The awaited calls of a flush, the steps of `onStep` by their names, and the test the handler
makes. -/
inductive Call
  | beforeReserve
  | reserve
  | onQuotaDenied
  | beforeHistory
  | getHistory
  | beforeAgent
  | reply
  | onBeforeSend
  | beforeSend
  | sendText
  | refund
  | onRateLimited
  | onError
  | markDelivered
  | appendTurn
  | markCompleted
  | quotaFinalizeFailed
  | afterSend
  | onAfterSend
  | isAmbiguousDeliveryError
  deriving DecidableEq

/-- What the input, the ports and the hooks bring to one flush.  No call is made twice, so one
answer each is enough; a hook that is not given is one that does not throw. -/
structure Pattern where
  idempotencyKey : Option String
  throws : Call → Bool
  reserve : ReserveResult
  reply : AgentReply
  sendText : SendResult

/-- The variables of `flush` and the calls it made. -/
structure State where
  delivered : Bool := false
  usageDate : Option String := none
  refundAttempted : Bool := false
  errorHookCalled : Bool := false
  partialDelivery : Bool := false
  calls : List Call := []

abbrev Flush := EStateM Unit State

variable (p : Pattern)

def perform (call : Call) : Flush Unit := fun s =>
  let s := { s with calls := call :: s.calls }
  if p.throws call then .error () s else .ok () s

/-- A call whose exception is swallowed. -/
def attempt (call : Call) : Flush Unit :=
  tryCatch (perform p call) fun _ => pure ()

/-- The block `if (input.idempotencyKey && usageDate)` around a refund. -/
def refund : Flush Unit := do
  let s ← get
  if !isFalsy p.idempotencyKey && !isFalsy s.usageDate then
    set { s with refundAttempted := true }
    attempt p .refund

/-- The end of the quota and the steps of a whole delivery. -/
def complete : Flush ChatPipelineResult := do
  if !isFalsy p.idempotencyKey then
    tryCatch (perform p .markCompleted) fun _ => attempt p .quotaFinalizeFailed
  if (← get).delivered then
    perform p .afterSend
    perform p .onAfterSend
  pure .delivered

/-- The steps after a reply that is not a clarification went out, at least in part. -/
def finish : Flush ChatPipelineResult := do
  if !isFalsy p.idempotencyKey then perform p .markDelivered
  if !p.reply.skipHistory then perform p .appendTurn
  complete p

/-- What a flush does once the send, if there was one, returned. -/
def settle (rateLimited : Bool) : Flush ChatPipelineResult := do
  let s ← get
  if rateLimited then
    refund p
    attempt p .onRateLimited
    pure .rateLimited
  else if !s.delivered && !s.partialDelivery then
    refund p
    modify fun s => { s with errorHookCalled := true }
    attempt p .onError
    pure .deliveryNotConfirmed
  else if p.reply.clarification then
    if !s.refundAttempted then refund p
    perform p .afterSend
    pure .delivered
  else finish p

/-- From the load of the history to the result. -/
def turn : Flush ChatPipelineResult := do
  perform p .beforeHistory
  perform p .getHistory
  perform p .beforeAgent
  perform p .reply
  if p.reply.skipDelivery then
    modify fun s => { s with delivered := true }
    settle p false
  else if !isBlank (some p.reply.text) then
    perform p .onBeforeSend
    perform p .beforeSend
    perform p .sendText
    modify fun s =>
      { s with delivered := p.sendText.delivered, partialDelivery := p.sendText.sentPart }
    settle p (p.sendText.outcome == some .rateLimited)
  else settle p false

/-- The body of the `try`. -/
def body : Flush ChatPipelineResult := do
  perform p .beforeReserve
  if !isFalsy p.idempotencyKey then
    perform p .reserve
    match p.reserve with
    | .denied reason limit =>
      if reason == some .idempotencyConflict then pure .duplicate
      else
        attempt p .onQuotaDenied
        pure (.denied reason limit)
    | .allowed usageDate =>
      modify fun s => { s with usageDate := usageDate }
      turn p
  else turn p

/-- The `catch` block: the test comes first, and its exception replaces the first one. -/
def handle : Flush ChatPipelineResult := do
  perform p .isAmbiguousDeliveryError
  let s ← get
  if !s.delivered && !s.refundAttempted then refund p
  if !s.delivered && !s.errorHookCalled then
    modify fun s => { s with errorHookCalled := true }
    attempt p .onError
  throw ()

def flush : Flush ChatPipelineResult :=
  tryCatch (body p) fun _ => handle p

/-! ## What a flush owes -/

/-- The calls a flush has made when it returns or throws. -/
def made : List Call :=
  (endState (flush p) {}).calls

/-- A slot was reserved for a reply that is to be delivered. -/
structure Reserved : Prop where
  key : isFalsy p.idempotencyKey = false
  beforeReserve : p.throws .beforeReserve = false
  reserve : p.throws .reserve = false
  allowed : ∃ usageDate, p.reserve = .allowed (some usageDate) ∧ usageDate ≠ ""
  skipDelivery : p.reply.skipDelivery = false

/-- `sendText` returned and reported a delivery, whole or in part. -/
def Reported : Prop :=
  Call.sendText ∈ made p ∧ p.throws .sendText = false ∧
    (p.sendText.delivered = true ∨ p.sendText.sentPart = true)

/-- The slot of the flush is given back once, or kept, as the reply went out. -/
structure Accounted : Prop where
  once : (made p).count .refund ≤ 1
  refunded : ¬ Reported p ∨ p.reply.clarification = true ∧ .afterSend ∈ made p →
    (made p).count .refund = 1
  kept : Reported p → p.reply.clarification = false → (made p).count .refund = 0

/-- A call up to the send throws. -/
def interrupted : Bool :=
  p.throws .beforeHistory || p.throws .getHistory || p.throws .beforeAgent || p.throws .reply ||
    !isBlank (some p.reply.text) &&
      (p.throws .onBeforeSend || p.throws .beforeSend || p.throws .sendText)

/-- The bookkeeping of a delivery throws. -/
def unrecorded : Bool :=
  p.throws .markDelivered || !p.reply.skipHistory && p.throws .appendTurn

/-- The test of the handler does not hide a failure before the delivery, a reply that went out is
not reported as dropped by the limiter, and a delivery in part is recorded. -/
structure Honest : Prop where
  tested : interrupted p = true → p.throws .isAmbiguousDeliveryError = false
  limited : interrupted p = false → isBlank (some p.reply.text) = false →
    p.reply.clarification = false → p.sendText.outcome = some .rateLimited →
      p.sendText.delivered = false ∧ p.sendText.sentPart = false
  recorded : interrupted p = false → isBlank (some p.reply.text) = false →
    p.reply.clarification = false → p.sendText.sentPart = true → p.sendText.delivered = false →
      unrecorded p = true → p.throws .isAmbiguousDeliveryError = true

/-! ## Running a flush -/

/-- The state in which a part of the body ends under the handler of the flush. -/
def ends (x : Flush ChatPipelineResult) (s : State) : State :=
  endState (tryCatch x fun _ => handle p) s

variable {p} {s : State} {call : Call}

lemma perform_apply (p : Pattern) (call : Call) (s : State) :
    perform p call s =
      if p.throws call then .error () { s with calls := call :: s.calls }
      else .ok () { s with calls := call :: s.calls } :=
  rfl

lemma get_apply (s : State) : (get : Flush State) s = .ok s s := rfl

lemma set_apply (s t : State) : (set t : Flush PUnit) s = .ok ⟨⟩ t := rfl

lemma modify_apply (f : State → State) (s : State) : (modify f : Flush PUnit) s = .ok ⟨⟩ (f s) :=
  rfl

lemma throw_apply (s : State) : (throw () : Flush ChatPipelineResult) s = .error () s := rfl

lemma attempt_apply (p : Pattern) (call : Call) (s : State) :
    attempt p call s = .ok () { s with calls := call :: s.calls } := by
  change EStateM.tryCatch (perform p call) _ s = _
  rw [EStateM.tryCatch, perform_apply]
  cases p.throws call <;> rfl

/-- The flush has a slot to give back. -/
def Slot (p : Pattern) (s : State) : Prop :=
  isFalsy p.idempotencyKey = false ∧ isFalsy s.usageDate = false

lemma refund_apply (h : Slot p s) :
    refund p s = .ok () { s with refundAttempted := true, calls := .refund :: s.calls } := by
  have hslot : (!isFalsy p.idempotencyKey && !isFalsy s.usageDate) = true := by rw [h.1, h.2]; rfl
  simp only [refund, bind, EStateM.bind, get_apply, hslot, if_true, set_apply, attempt_apply]

lemma ends_bind {α : Type} {x : Flush α} {k : α → Flush ChatPipelineResult} {a : α} {s' : State}
    (hrun : x s = .ok a s') : ends p (x >>= k) s = ends p (k a) s' := by
  change endState (EStateM.tryCatch (EStateM.bind x k) _) s = endState (EStateM.tryCatch _ _) s'
  simp [endState, EStateM.tryCatch, EStateM.bind, hrun]

variable {k : Unit → Flush ChatPipelineResult}

lemma ends_perform :
    ends p (perform p call >>= k) s =
      if p.throws call then endState (handle p) { s with calls := call :: s.calls }
      else ends p (k ()) { s with calls := call :: s.calls } := by
  cases hthrows : p.throws call with
  | false =>
    have hrun : perform p call s = .ok () { s with calls := call :: s.calls } := by
      rw [perform_apply, hthrows]; rfl
    rw [ends_bind hrun]
    rfl
  | true =>
    have hrun : perform p call s = .error () { s with calls := call :: s.calls } := by
      rw [perform_apply, hthrows]; rfl
    change endState (EStateM.tryCatch (EStateM.bind _ k) _) s = _
    simp only [endState, EStateM.tryCatch, EStateM.bind, hrun]
    rfl

/-- The calls `after` extend `before`, with `n` refunds among the new ones and no send. -/
def Adds (n : Nat) (before after : List Call) : Prop :=
  ∃ added, after = added ++ before ∧ .sendText ∉ added ∧ added.count .refund = n

namespace Adds

variable {n : Nat} {before after : List Call}

lemma refl (before : List Call) : Adds 0 before before :=
  ⟨[], rfl, by decide, rfl⟩

lemma cons (call : Call) (h : Adds n (call :: before) after)
    (hcall : call ≠ .refund ∧ call ≠ .sendText := by decide) : Adds n before after := by
  obtain ⟨added, rfl, hsend, hcount⟩ := h
  refine ⟨added ++ [call], by simp, ?_, ?_⟩
  · simp [hsend, hcall.2.symm]
  · simp [hcount, hcall.1]

lemma refund (h : Adds n (.refund :: before) after) : Adds (n + 1) before after := by
  obtain ⟨added, rfl, hsend, hcount⟩ := h
  exact ⟨added ++ [.refund], by simp, by simp [hsend], by simp [hcount]⟩

lemma count_refund (h : Adds n before after) (hpre : .refund ∉ before) :
    after.count .refund = n := by
  obtain ⟨_, rfl, -, hcount⟩ := h
  rw [List.count_append, hcount, List.count_eq_zero.2 hpre, Nat.add_zero]

lemma sendText_mem (h : Adds n before after) : .sendText ∈ after ↔ .sendText ∈ before := by
  obtain ⟨_, rfl, hsend, -⟩ := h
  simp [hsend]

end Adds

/-- What the handler gives back: nothing once its own test throws. -/
def returned (p : Pattern) (s : State) : Nat :=
  if !s.delivered && !s.refundAttempted && !p.throws .isAmbiguousDeliveryError then 1 else 0

lemma adds_handle (h : Slot p s) : Adds (returned p s) s.calls (endState (handle p) s).calls := by
  have href (t : State) (ht : t.usageDate = s.usageDate) :=
    refund_apply (s := t) ⟨h.1, ht ▸ h.2⟩
  simp only [returned, endState, handle, bind, EStateM.bind, perform_apply, get_apply]
  cases p.throws .isAmbiguousDeliveryError with
  | true => simpa using (Adds.refl _).cons .isAmbiguousDeliveryError
  | false =>
    refine .cons .isAmbiguousDeliveryError ?_
    cases hdeliv : s.delivered <;> cases hrefunded : s.refundAttempted <;>
      cases herror : s.errorHookCalled <;>
      simp [href, attempt_apply, EStateM.bind, modify_apply, throw_apply]
    all_goals first
      | exact .refl _
      | exact .cons .onError (.refl _)
      | exact .refund (.refl _)
      | exact .refund (.cons .onError (.refl _))

@[simp] lemma ends_pure (r : ChatPipelineResult) : ends p (pure r) s = s :=
  rfl

lemma ends_attempt :
    ends p (attempt p call >>= k) s = ends p (k ()) { s with calls := call :: s.calls } :=
  ends_bind (attempt_apply p call s)

lemma ends_modify {f : State → State} : ends p (modify f >>= k) s = ends p (k ()) (f s) :=
  ends_bind rfl

lemma ends_get {k : State → Flush ChatPipelineResult} : ends p (get >>= k) s = ends p (k s) s :=
  ends_bind rfl

lemma ends_refund (h : Slot p s) :
    ends p (refund p >>= k) s =
      ends p (k ()) { s with refundAttempted := true, calls := .refund :: s.calls } :=
  ends_bind (refund_apply h)

lemma adds_perform {n : Nat} (h : Slot p s) (hcall : call ≠ .refund ∧ call ≠ .sendText)
    (hthrows : p.throws call = true → returned p s = n)
    (hk : p.throws call = false →
      Adds n (call :: s.calls) (ends p (k ()) { s with calls := call :: s.calls }).calls) :
    Adds n s.calls (ends p (perform p call >>= k) s).calls := by
  refine .cons call ?_ hcall
  rw [ends_perform]
  cases hans : p.throws call with
  | false => exact hk hans
  | true =>
    rw [← hthrows hans]
    exact adds_handle (s := { s with calls := call :: s.calls }) h

lemma adds_complete (h : Slot p s) : Adds 0 s.calls (ends p (complete p) s).calls := by
  -- From here on nothing is given back: a call that still throws finds the reply delivered.
  have hafter (s : State) (h : Slot p s) :
      Adds 0 s.calls (ends p (do
        if (← get).delivered then
          perform p .afterSend
          perform p .onAfterSend
        pure .delivered) s).calls := by
    rw [ends_get]
    cases hdeliv : s.delivered with
    | false => exact .refl _
    | true =>
      have hkept : returned p s = 0 := by simp [returned, hdeliv]
      refine adds_perform h (by decide) (fun _ => hkept) fun _ => ?_
      exact adds_perform h (by decide) (fun _ => hkept) fun _ => .refl _
  simp only [complete, h.1, Bool.not_false, if_true]
  cases hthrows : p.throws .markCompleted with
  | false =>
    have hrun : tryCatch (perform p .markCompleted) (fun _ => attempt p .quotaFinalizeFailed) s =
        .ok () { s with calls := .markCompleted :: s.calls } := by
      change EStateM.tryCatch _ _ s = _
      simp [EStateM.tryCatch, perform_apply, hthrows]
    rw [ends_bind hrun]
    exact .cons .markCompleted (hafter _ h)
  | true =>
    have hrun : tryCatch (perform p .markCompleted) (fun _ => attempt p .quotaFinalizeFailed) s =
        .ok () { s with calls := .quotaFinalizeFailed :: .markCompleted :: s.calls } := by
      change EStateM.tryCatch _ _ s = _
      simp only [EStateM.tryCatch, perform_apply, hthrows, if_true, attempt_apply]
      rfl
    rw [ends_bind hrun]
    exact .cons .markCompleted (.cons .quotaFinalizeFailed (hafter _ h))

lemma adds_finish (h : Slot p s) :
    Adds (if unrecorded p then returned p s else 0) s.calls (ends p (finish p) s).calls := by
  simp only [finish, h.1, Bool.not_false, if_true]
  refine adds_perform h (by decide) (fun hthrows => by simp [unrecorded, hthrows]) ?_
  intro hmark
  cases hskip : p.reply.skipHistory with
  | true =>
    have hrec : unrecorded p = false := by simp [unrecorded, hmark, hskip]
    rw [hrec]
    exact adds_complete h
  | false =>
    refine adds_perform h (by decide) (fun hthrows => ?_) fun happended => ?_
    · simp [unrecorded, hthrows, hskip, returned]
    · have hrec : unrecorded p = false := by simp [unrecorded, hmark, happended]
      rw [hrec]
      exact adds_complete h

/-- What a flush gives back after the send returned. -/
def owed (p : Pattern) (rateLimited : Bool) (s : State) : Nat :=
  if rateLimited || !s.delivered && !s.partialDelivery || p.reply.clarification then 1
  else if unrecorded p then returned p s
  else 0

lemma owed_le_one (p : Pattern) (rateLimited : Bool) (s : State) : owed p rateLimited s ≤ 1 := by
  unfold owed returned
  split_ifs <;> decide

lemma adds_settle {rateLimited : Bool} {calls : List Call}
    (hcalls : calls = (ends p (settle p rateLimited) s).calls) (h : Slot p s)
    (hfresh : s.refundAttempted = false) : Adds (owed p rateLimited s) s.calls calls := by
  rw [hcalls, settle, ends_get]
  cases rateLimited with
  | true =>
    simp only [if_true, ends_refund h, ends_attempt, ends_pure]
    exact .refund (.cons .onRateLimited (.refl _))
  | false =>
    cases hsent : !s.delivered && !s.partialDelivery with
    | true =>
      simp only [Bool.false_eq_true, if_false, if_true, ends_refund h, ends_attempt,
        ends_modify, ends_pure, owed, hsent, Bool.or_true, Bool.true_or]
      exact .refund (.cons .onError (.refl _))
    | false =>
      cases hclar : p.reply.clarification with
      | true =>
        simp only [Bool.false_eq_true, if_false, hfresh, Bool.not_false, if_true,
          ends_refund h, owed, hclar, Bool.or_true]
        exact .refund (adds_perform h (by decide) (fun _ => by simp [returned]) fun _ => .refl _)
      | false =>
        simpa [owed, hsent, hclar] using adds_finish h

/-! ## The account of a flush -/

section Account

variable (h : Reserved p)
include h

/-- The history of a reserved flush is loaded with the slot taken and nothing sent. -/
theorem made_eq : ∃ date, isFalsy (some date) = false ∧ made p =
    (ends p (turn p) { usageDate := some date, calls := [.reserve, .beforeReserve] }).calls := by
  obtain ⟨date, hallow, hdate⟩ := h.allowed
  refine ⟨date, by simp [isFalsy, hdate], ?_⟩
  change (ends p (body p) {}).calls = _
  simp [body, ends_perform, h.key, h.beforeReserve, h.reserve, hallow, ends_modify]

lemma account_of_interrupted (hcut : interrupted p = true) : ¬ Reported p ∧
    (made p).count .refund = if p.throws .isAmbiguousDeliveryError then 0 else 1 := by
  obtain ⟨date, hdate, hmade⟩ := made_eq h
  have hhand : ∃ calls, .refund ∉ calls ∧ (.sendText ∈ calls → p.throws .sendText = true) ∧
      made p = (endState (handle p) { usageDate := some date, calls := calls }).calls := by
    rw [hmade]
    simp only [turn, ends_perform, h.skipDelivery, Bool.false_eq_true, if_false]
    -- One case for each call that may be the first to throw.
    cases htext : isBlank (some p.reply.text) <;>
      simp only [interrupted, htext, Bool.not_false, Bool.not_true, if_true, Bool.false_eq_true,
        if_false, ends_perform] at hcut ⊢ <;>
      split_ifs <;>
      first
      | exact ⟨_, by decide, by simp [*], rfl⟩
      | simp [*] at hcut
  obtain ⟨calls, href, hsend, hcalls⟩ := hhand
  have hadds := adds_handle (s := { usageDate := some date, calls := calls }) ⟨h.key, hdate⟩
  rw [← hcalls] at hadds
  refine ⟨fun hrep => ?_, ?_⟩
  · have hthrew := hsend (hadds.sendText_mem.1 hrep.1)
    rw [hrep.2.1] at hthrew
    cases hthrew
  · rw [hadds.count_refund href, returned]
    cases p.throws .isAmbiguousDeliveryError <;> rfl

lemma account_of_blank (hcut : interrupted p = false) (htext : isBlank (some p.reply.text) = true) :
    ¬ Reported p ∧ (made p).count .refund = 1 := by
  obtain ⟨_, hdate, hmade⟩ := made_eq h
  simp only [interrupted, Bool.or_eq_false_iff, htext] at hcut
  simp only [turn, ends_perform, h.skipDelivery, htext, hcut, Bool.not_true, Bool.false_eq_true,
    if_false] at hmade
  have hadds := adds_settle hmade ⟨h.key, hdate⟩ rfl
  exact ⟨fun hrep => absurd (hadds.sendText_mem.1 hrep.1) (by simp), hadds.count_refund (by simp)⟩

/-- The state in which a send returned. -/
def sentState (p : Pattern) : State where
  delivered := p.sendText.delivered
  partialDelivery := p.sendText.sentPart

lemma account_of_sent (hcut : interrupted p = false) (htext : isBlank (some p.reply.text) = false) :
    (Reported p ↔ p.sendText.delivered = true ∨ p.sendText.sentPart = true) ∧
    (made p).count .refund = owed p (p.sendText.outcome == some .rateLimited) (sentState p) := by
  obtain ⟨_, hdate, hmade⟩ := made_eq h
  simp only [interrupted, Bool.or_eq_false_iff, htext, Bool.not_false, Bool.true_and] at hcut
  simp only [turn, ends_perform, h.skipDelivery, htext, hcut, ends_modify, Bool.not_false, if_true,
    Bool.false_eq_true, if_false] at hmade
  have hadds := adds_settle hmade ⟨h.key, hdate⟩ rfl
  refine ⟨⟨fun hrep => hrep.2.2, fun hsent => ⟨?_, hcut.2.2, hsent⟩⟩, ?_⟩
  · exact hadds.sendText_mem.2 (by simp)
  · exact hadds.count_refund (by simp)

end Account

/-- The account of a flush that reserved a slot is right exactly for an honest pattern: at most one
refund, one where it is due, and none for a reply of which something was delivered. -/
theorem accounted_iff_honest (h : Reserved p) : Accounted p ↔ Honest p := by
  cases hcut : interrupted p with
  | true =>
    obtain ⟨hrep, hcount⟩ := account_of_interrupted h hcut
    constructor
    · intro hacct
      have hone := hacct.refunded (.inl hrep)
      refine ⟨fun _ => ?_, by simp [hcut], by simp [hcut]⟩
      cases htest : p.throws .isAmbiguousDeliveryError with
      | false => rfl
      | true => simp [hcount, htest] at hone
    · intro hhonest
      have hone : (made p).count .refund = 1 := by rw [hcount, hhonest.tested hcut]; rfl
      exact ⟨Nat.le_of_eq hone, fun _ => hone, fun hsent => absurd hsent hrep⟩
  | false =>
    cases htext : isBlank (some p.reply.text) with
    | true =>
      obtain ⟨hrep, hone⟩ := account_of_blank h hcut htext
      exact iff_of_true ⟨Nat.le_of_eq hone, fun _ => hone, fun hsent => absurd hsent hrep⟩
        ⟨by simp [hcut], by simp [htext], by simp [htext]⟩
    | false =>
      obtain ⟨hrep, hcount⟩ := account_of_sent h hcut htext
      constructor
      · intro hacct
        refine ⟨by simp [hcut], fun _ _ hclar hlim => ?_, fun _ _ hclar hpart hmissed hlost => ?_⟩
        · by_contra hsent
          have hzero :=
            hacct.kept (hrep.2 (by simpa [or_iff_not_imp_left] using hsent)) hclar
          simp [hcount, owed, hlim] at hzero
        · have hzero := hacct.kept (hrep.2 (.inr hpart)) hclar
          cases htest : p.throws .isAmbiguousDeliveryError with
          | true => rfl
          | false =>
            simp [hcount, owed, returned, sentState, hclar, hpart, hmissed, hlost, htest] at hzero
      · intro hhonest
        refine ⟨hcount ▸ owed_le_one _ _ _, fun hdue => ?_, fun hsent hclar => ?_⟩
        · rw [hcount]
          obtain hnot | ⟨hclar, -⟩ := hdue
          · rw [hrep, not_or] at hnot
            simp [owed, sentState, hnot]
          · simp [owed, hclar]
        · rw [hrep] at hsent
          have hlim : (p.sendText.outcome == some .rateLimited) = false := by
            rw [beq_eq_false_iff_ne]
            intro hlim
            have hnone := hhonest.limited hcut htext hclar hlim
            simp [hnone] at hsent
          rw [hcount]
          cases hdeliv : p.sendText.delivered with
          | true => simp [owed, returned, sentState, hlim, hclar, hdeliv]
          | false =>
            have hpart : p.sendText.sentPart = true := by simpa [hdeliv] using hsent
            cases hlost : unrecorded p with
            | false => simp [owed, sentState, hlim, hclar, hpart, hlost]
            | true =>
              have htest := hhonest.recorded hcut htext hclar hpart hdeliv hlost
              simp [owed, returned, sentState, hlim, hclar, hpart, htest]

/-- A reply of two bubbles of which one went out, whose delivery cannot be marked. -/
def cutReply : Pattern where
  idempotencyKey := some "k"
  throws := (· == .markDelivered)
  reserve := .allowed (some "2026-01-05")
  reply := { text := "x" }
  sendText := { delivered := false, sentPart := true }

/-- The same reply, with a delivery that can be marked. -/
def markedReply : Pattern :=
  { cutReply with throws := fun _ => false }

/-- The slot of the first reply is not accounted for, that of the second one is. -/
theorem accounted_iff_honest_cutReply :
    (Reserved cutReply ∧ ¬ Accounted cutReply) ∧ Reserved markedReply ∧ Accounted markedReply := by
  have hcut : Reserved cutReply := ⟨rfl, rfl, rfl, ⟨_, rfl, by decide⟩, rfl⟩
  have hmarked : Reserved markedReply := ⟨rfl, rfl, rfl, ⟨_, rfl, by decide⟩, rfl⟩
  refine ⟨⟨hcut, fun hacct => ?_⟩, hmarked, (accounted_iff_honest hmarked).mpr ?_⟩
  · have hhonest := (accounted_iff_honest hcut).mp hacct
    exact absurd (hhonest.recorded (by decide) (by decide) rfl rfl rfl (by decide)) (by decide)
  · exact ⟨fun _ => rfl, fun _ _ _ hlim => absurd hlim (by decide),
      fun _ _ _ _ _ hlost => absurd hlost (by decide)⟩

/-- The learner has a part of the reply and the slot as well. -/
theorem cutReply_refunded :
    Reserved cutReply ∧ Reported cutReply ∧ cutReply.reply.clarification = false ∧
      (made cutReply).count .refund = 1 :=
  ⟨⟨rfl, rfl, rfl, ⟨_, rfl, by decide⟩, rfl⟩, ⟨by decide, rfl, .inr rfl⟩, rfl, by decide⟩

end ChatPipeline
end WispaceBot
