import WispaceBot.Agent.ToolPipeline
import WispaceBot.Foundation.Run

/-!
# The daily units of one turn

Over the calls of a turn the units that were consumed and not refunded should be the exercises that
were created.  `BudgetSafe` is the exact condition on the calls (`balanced_iff_budgetSafe`).
-/

namespace WispaceBot

open Transition

namespace ToolTurn

variable (options : PlatformToolExecutorPipelineOptions) (call : ExecuteCall)

/-! ## What a call does to the units -/

def takesUnit (s : ToolTurn) : Bool :=
  match s.precheck options call with
  | (s, .ok .precreateNextExercise) =>
    options.hasWriteToolBudget && !s.capped options .precreateNextExercise &&
      match call.consumeDaily with
      | .returned consumed => consumed
      | .threw _ _ applied => applied
  | _ => false

/-- The result that the handler of the call returns, if it gets to it. -/
def handlerResult : Option ToolResult :=
  match call.abortedBeforeHandler, call.handler with
  | false, .returned r => some r
  | _, _ => none

/-- The tool whose handler returns in the call, with its result. -/
def handled (s : ToolTurn) : Option (AgentToolName × ToolResult) :=
  match s.precheck options call with
  | (_, .error _) => none
  | (s, .ok tool) =>
    match (s.gate options call tool).2 with
    | some _ => none
    | none => (handlerResult call).map fun r => (tool, r)

/-- The refund of the day's unit takes effect. -/
def refunds : Bool :=
  options.hasWriteToolBudget &&
    match call.refundDaily with
    | .returned _ => true
    | .threw _ _ applied => applied

/-- The context marks a unit of `precreate_next_exercise` as consumed. -/
def marked (s : ToolTurn) : Bool :=
  s.ctx.writeToolDailyConsumed .precreateNextExercise

/-- The three ways in which a call keeps the balance. -/
structure BudgetSafe (s : ToolTurn) : Prop where
  /-- A call that consumes a unit gets to the result of its handler, which is a fresh create or is
  followed by a refund. -/
  consumed : s.takesUnit options call = true →
    ∃ r, s.handled options call = some (.precreateNextExercise, r) ∧
      (r.created = true ∨ refunds options call = true)
  created : ∀ r, s.handled options call = some (.precreateNextExercise, r) → r.created = true →
    s.takesUnit options call = true
  /-- While a unit is marked as consumed, no handler of another tool returns a result that is
  followed by a refund. -/
  foreign : ∀ tool r, s.handled options call = some (tool, r) → tool ≠ .precreateNextExercise →
    s.marked = true → r.created = true ∨ refunds options call = false

/-- The units that were not given back are those of the exercises created. -/
def Balanced (s : ToolTurn) : Prop :=
  (s.ledger.consumed : ℤ) - s.ledger.refunded = s.ledger.created
  deriving Decidable

/-! ## The effect of the stages -/

variable {options : PlatformToolExecutorPipelineOptions} {call : ExecuteCall} {s : ToolTurn}

/-- The units are as they were. -/
structure SameUnits (s t : ToolTurn) : Prop where
  ledger : t.ledger = s.ledger
  consumed : t.ctx.writeToolDailyConsumed = s.ctx.writeToolDailyConsumed

lemma precheck_same (options : PlatformToolExecutorPipelineOptions) (call : ExecuteCall)
    (s : ToolTurn) : SameUnits s (s.precheck options call).1 := by
  unfold precheck
  split
  · exact ⟨rfl, rfl⟩
  · split
    · exact ⟨rfl, rfl⟩
    · split
      · exact ⟨rfl, rfl⟩
      · split
        · exact ⟨rfl, rfl⟩
        · exact ⟨rfl, rfl⟩
        · split
          · exact ⟨rfl, rfl⟩
          · exact ⟨rfl, rfl⟩

lemma resolveCurrentIdentity_pos {identity : CurrentPlatformIdentity}
    (h : resolveCurrentIdentity options call = .ok (some identity)) : 0 < identity.userId := by
  unfold resolveCurrentIdentity at h
  split at h
  · simp at h
  · split at h
    · split at h <;> exact absurd h (by simp)
    · split at h
      · simp at h
      · split at h
        · simp at h
        · split at h
          · simp at h
          next hvalid =>
            simp only [Except.ok.injEq, Option.some.injEq] at h
            subst h
            exact Int.not_le.mp fun hle => hvalid (.inl hle)

variable {tool : AgentToolName}

lemma precheck_user (h : (s.precheck options call).2 = .ok tool) :
    (s.precheck options call).1.ctx.userId.any (· ≠ 0) = true := by
  unfold precheck at h ⊢
  split at h
  · simp at h
  next hstart =>
    rw [if_neg hstart]
    split at h
    · simp at h
    · split at h
      · simp at h
      · split at h
        · simp at h
        · simp at h
        next _ hident =>
          have hpos := resolveCurrentIdentity_pos hident
          split at h
          · simp at h
          next hintent =>
            simp [hintent, Int.ne_of_gt hpos]

lemma counted_same (options : PlatformToolExecutorPipelineOptions) (tool : AgentToolName)
    (s : ToolTurn) : SameUnits s (s.counted options tool) := by
  unfold counted
  split
  · exact ⟨rfl, rfl⟩
  · exact ⟨rfl, rfl⟩

lemma gate_eq (hwrite : tool.isWriteToolName = true) (hbud : options.hasWriteToolBudget = true)
    (huser : s.ctx.userId.any (· ≠ 0) = true) :
    s.gate options call tool = ((s.runWriteToolBudgetGate options call tool).1,
        if call.abortedAfterGate then some .threw
        else (s.runWriteToolBudgetGate options call tool).2) := by
  unfold gate
  rw [hwrite, hbud, huser]
  generalize s.runWriteToolBudgetGate options call tool = ran
  obtain ⟨_, _⟩ := ran
  simp only [Bool.and_self, if_true]
  split
  next heq =>
    obtain ⟨⟩ := heq
    simp
  next heq =>
    obtain ⟨⟩ := heq
    split <;> rfl

lemma gate_eq_of_not (h : tool.isWriteToolName = false ∨ options.hasWriteToolBudget = false)
    (s : ToolTurn) : s.gate options call tool = (s, none) := by
  unfold gate
  rcases h with h | h <;> simp [h]

lemma gate_same (options : PlatformToolExecutorPipelineOptions) (call : ExecuteCall)
    (htool : tool ≠ .precreateNextExercise) (huser : s.ctx.userId.any (· ≠ 0) = true) :
    SameUnits s (s.gate options call tool).1 := by
  have hcnt := counted_same options tool s
  cases hgate : tool.isWriteToolName && options.hasWriteToolBudget with
  | false =>
    rw [gate_eq_of_not (Bool.and_eq_false_iff.mp hgate)]
    exact ⟨rfl, rfl⟩
  | true =>
    obtain ⟨hwrite, hbud⟩ := Bool.and_eq_true_iff.mp hgate
    have hreschedule : tool = .rescheduleStudySession := by
      cases tool with
      | rescheduleStudySession => rfl
      | precreateNextExercise => exact absurd rfl htool
      | _ => exact absurd hwrite (by decide)
    rw [gate_eq hwrite hbud huser]
    unfold runWriteToolBudgetGate
    split
    · exact ⟨rfl, rfl⟩
    · split <;> exact hcnt

lemma gate_precreate (call : ExecuteCall) (hbud : options.hasWriteToolBudget = true)
    (huser : s.ctx.userId.any (· ≠ 0) = true) :
    (∃ t out, s.gate options call .precreateNextExercise = (t, some out) ∧
      t.ledger = { s.ledger with
        consumed := s.ledger.consumed + ((!s.capped options .precreateNextExercise &&
          match call.consumeDaily with
          | .returned consumed => consumed
          | .threw _ _ applied => applied) : Bool).toNat }) ∨
      ∃ t, s.gate options call .precreateNextExercise = (t, none) ∧
        t.ledger = { s.ledger with consumed := s.ledger.consumed + 1 } ∧ t.marked = true ∧
        s.capped options .precreateNextExercise = false ∧ call.consumeDaily = .returned true := by
  have hcnt := (counted_same options .precreateNextExercise s).ledger
  rw [gate_eq rfl hbud huser]
  unfold runWriteToolBudgetGate
  cases hcapped : s.capped options .precreateNextExercise with
  | true =>
    left
    cases call.abortedAfterGate <;> exact ⟨_, _, rfl, by simp⟩
  | false =>
    simp only [Bool.false_eq_true, if_false, reduceCtorEq]
    cases hcons : call.consumeDaily with
    | threw _ _ applied =>
      left
      cases applied <;> cases call.abortedAfterGate <;>
        exact ⟨_, _, rfl, by simp [consume, hcnt]⟩
    | returned consumed =>
      cases consumed with
      | false =>
        left
        cases call.abortedAfterGate <;> exact ⟨_, _, rfl, by simp [hcnt]⟩
      | true =>
        cases call.abortedAfterGate with
        | true => exact .inl ⟨_, _, rfl, by simp [consume, mark, hcnt]⟩
        | false =>
          exact .inr ⟨_, rfl, by simp [consume, mark, hcnt], by simp [marked, mark], trivial,
            rfl⟩

lemma refundConsumed_ledger (options : PlatformToolExecutorPipelineOptions) (call : ExecuteCall)
    (r : ToolResult) (s : ToolTurn) :
    (s.refundConsumedWriteToolBudget options call r).1.ledger =
      { s.ledger with
        refunded :=
          s.ledger.refunded + (!r.created && s.marked && refunds options call).toNat } := by
  unfold refundConsumedWriteToolBudget refunds
  change ((if !s.marked then _ else _ : ToolTurn × Option (String × Bool)).1).ledger = _
  cases s.marked with
  | false => simp
  | true =>
    cases r.created with
    | true => simp
    | false =>
      cases options.hasWriteToolBudget with
      | false => simp [mark]
      | true =>
        rcases call.refundDaily with ⟨⟩ | ⟨_, _, _ | _⟩
        · simp [mark, refund]
        · simp
        · simp [refund]

lemma recordCreated_ledger (tool : AgentToolName) (r : ToolResult) (s : ToolTurn) :
    (s.recordCreated tool r).ledger =
        { s.ledger with
          created := s.ledger.created +
            (decide (tool = .precreateNextExercise) && r.created).toNat } ∧
      (s.recordCreated tool r).marked = s.marked := by
  unfold recordCreated
  by_cases h : tool = .precreateNextExercise ∧ r.created = true
  · rw [if_pos h]
    exact ⟨by simp [h.1, h.2], rfl⟩
  · rw [if_neg h]
    have hzero : (decide (tool = .precreateNextExercise) && r.created) = false := by
      simpa using h
    exact ⟨by simp [hzero], rfl⟩

lemma runHandler_ledger (tool : AgentToolName) (s : ToolTurn) :
    (s.runHandler options call tool).1.ledger =
      match handlerResult call with
      | none => s.ledger
      | some r =>
        { s.ledger with
          refunded := s.ledger.refunded + (!r.created && s.marked && refunds options call).toNat
          created := s.ledger.created +
            (decide (tool = .precreateNextExercise) && r.created).toNat } := by
  unfold runHandler handlerResult
  cases call.abortedBeforeHandler with
  | true => rfl
  | false =>
    cases call.handler with
    | threw => rfl
    | returned r =>
      obtain ⟨hrec, hmark⟩ := recordCreated_ledger tool r s
      have href := refundConsumed_ledger options call r (s.recordCreated tool r)
      rw [hrec, hmark] at href
      simp only [Bool.false_eq_true, if_false]
      generalize (s.recordCreated tool r).refundConsumedWriteToolBudget options call r = refunded
        at href ⊢
      obtain ⟨_, _ | ⟨msg, isAbortError⟩⟩ := refunded
      · rcases call.decorateResult with ⟨⟩ | ⟨_, _⟩ <;> exact href
      · exact href

/-! ## The balance of a call -/

/-- The units after a call that took a unit or not, and whose handler returned or not. -/
def settled (options : PlatformToolExecutorPipelineOptions) (call : ExecuteCall) (s : ToolTurn)
    (takes : Bool) : Option (AgentToolName × ToolResult) → PrecreateLedger
  | none => { s.ledger with consumed := s.ledger.consumed + takes.toNat }
  | some (tool, r) =>
    { consumed := s.ledger.consumed + takes.toNat
      refunded := s.ledger.refunded +
        (!r.created && (s.marked || takes) && refunds options call).toNat
      created := s.ledger.created + (decide (tool = .precreateNextExercise) && r.created).toNat }

lemma runHandler_settled {t : ToolTurn} {takes : Bool} (tool : AgentToolName)
    (hled : t.ledger = { s.ledger with consumed := s.ledger.consumed + takes.toNat })
    (hmark : refunds options call = true → t.marked = (s.marked || takes)) :
    (t.runHandler options call tool).1.ledger =
      s.settled options call takes ((handlerResult call).map fun r => (tool, r)) := by
  rw [runHandler_ledger, hled]
  cases handlerResult call with
  | none => rfl
  | some =>
    cases href : refunds options call with
    | false => simp [settled, href]
    | true => simp [settled, href, hmark href]

lemma takesUnit_eq_false {t : ToolTurn} (hcheck : s.precheck options call = (t, .ok tool))
    (htool : tool ≠ .precreateNextExercise) : s.takesUnit options call = false := by
  unfold takesUnit
  rw [hcheck]
  cases tool with
  | precreateNextExercise => exact absurd rfl htool
  | _ => rfl

lemma execute_ledger (options : PlatformToolExecutorPipelineOptions) (call : ExecuteCall)
    (s : ToolTurn) :
    (s.execute options call).1.ledger =
      s.settled options call (s.takesUnit options call) (s.handled options call) := by
  have hsame := precheck_same options call s
  rcases hcheck : s.precheck options call with ⟨t, out | tool⟩
  · rw [hcheck] at hsame
    simp only [execute, handled, takesUnit, hcheck]
    exact hsame.ledger
  · have huser := precheck_user (congrArg Prod.snd hcheck)
    rw [hcheck] at hsame huser
    have hled : t.ledger = s.ledger := hsame.ledger
    have hmark : t.marked = s.marked := congrFun hsame.consumed _
    by_cases htool : tool = .precreateNextExercise
    · subst htool
      cases hbud : options.hasWriteToolBudget with
      | false =>
        -- without a budget port nothing is consumed and nothing refunded
        have href : refunds options call = false := by simp [refunds, hbud]
        simp only [execute, handled, takesUnit, hcheck, gate_eq_of_not (.inr hbud), hbud,
          Bool.false_and]
        refine runHandler_settled .precreateNextExercise ?_ fun h => ?_
        · exact hled
        · rw [href] at h
          contradiction
      | true =>
        rcases gate_precreate call hbud huser with
          ⟨u, out, hgate, hu⟩ | ⟨u, hgate, hu, humarked, hcapped, hcons⟩
        · simp only [execute, handled, takesUnit, hcheck, hgate, hbud, Bool.true_and]
          rw [hu, hled]
          rfl
        · simp only [execute, handled, takesUnit, hcheck, hgate, hbud, hcapped, hcons,
            Bool.not_false, Bool.and_self]
          rw [hled] at hu
          refine runHandler_settled .precreateNextExercise ?_ fun _ => ?_
          · exact hu
          · rw [humarked, Bool.or_true]
    · have hgate := gate_same options call htool huser
      have hgateMarked : (t.gate options call tool).1.marked = t.marked :=
        congrFun hgate.consumed _
      have hu := hgate.ledger
      rw [takesUnit_eq_false hcheck htool]
      simp only [execute, handled, hcheck]
      generalize t.gate options call tool = gated at hu hgateMarked ⊢
      obtain ⟨_, _ | _⟩ := gated
      · refine runHandler_settled tool ?_ fun _ => ?_
        · exact hu.trans hled
        · rw [Bool.or_false]
          exact hgateMarked.trans hmark
      · exact hu.trans hled

lemma takesUnit_of_handled {r : ToolResult} (h : s.handled options call = some (tool, r)) :
    s.takesUnit options call =
      (decide (tool = .precreateNextExercise) && options.hasWriteToolBudget) := by
  rcases hcheck : s.precheck options call with ⟨t, out | admitted⟩
  · simp [handled, hcheck] at h
  · have huser := precheck_user (congrArg Prod.snd hcheck)
    rw [hcheck] at huser
    simp only [handled, hcheck] at h
    cases hgate : (t.gate options call admitted).2 with
    | some =>
      rw [hgate] at h
      simp at h
    | none =>
      rw [hgate] at h
      obtain ⟨_, _, heq⟩ := Option.map_eq_some_iff.mp h
      obtain rfl : admitted = tool := congrArg Prod.fst heq
      by_cases htool : admitted = .precreateNextExercise
      · subst htool
        cases hbud : options.hasWriteToolBudget with
        | false => simp [takesUnit, hcheck, hbud]
        | true =>
          rcases gate_precreate call hbud huser with
            ⟨u, out, hstop, _⟩ | ⟨u, _, _, _, hcapped, hcons⟩
          · rw [hstop] at hgate
            simp at hgate
          · simp only [takesUnit, hcheck, hbud, hcons]
            simpa using hcapped
      · rw [takesUnit_eq_false hcheck htool]
        simp [htool]

lemma execute_balanced_of_unhandled (hs : s.Balanced) (hhand : s.handled options call = none) :
    (s.execute options call).1.Balanced ↔ s.takesUnit options call = false := by
  unfold Balanced at hs ⊢
  rw [execute_ledger, hhand]
  cases s.takesUnit options call with
  | false => simpa [settled] using hs
  | true =>
    simp only [settled, Bool.toNat_true, Bool.true_eq_false, iff_false]
    omega

lemma execute_balanced_of_handled {r : ToolResult} (hs : s.Balanced)
    (hhand : s.handled options call = some (tool, r)) :
    (s.execute options call).1.Balanced ↔ (s.takesUnit options call).toNat =
        (!r.created && (s.marked || s.takesUnit options call) && refunds options call).toNat +
          (decide (tool = .precreateNextExercise) && r.created).toNat := by
  unfold Balanced at hs ⊢
  rw [execute_ledger, hhand]
  simp only [settled]
  omega

lemma budgetSafe_iff_balanced (hs : s.Balanced) :
    BudgetSafe options call s ↔ (s.execute options call).1.Balanced := by
  rcases hhand : s.handled options call with _ | ⟨tool, r⟩
  · rw [execute_balanced_of_unhandled hs hhand]
    constructor
    · intro hsafe
      refine Bool.eq_false_iff.mpr fun htakes => ?_
      obtain ⟨_, hsome, _⟩ := hsafe.consumed htakes
      rw [hhand] at hsome
      contradiction
    · intro htakes
      refine ⟨fun h => ?_, fun r h => ?_, fun tool r h => ?_⟩
      · rw [htakes] at h
        contradiction
      · rw [hhand] at h
        contradiction
      · rw [hhand] at h
        contradiction
  · have htakes := takesUnit_of_handled hhand
    rw [execute_balanced_of_handled hs hhand]
    by_cases htool : tool = .precreateNextExercise
    · subst htool
      have hsafe : BudgetSafe options call s ↔
          (s.takesUnit options call = true → r.created = true ∨ refunds options call = true) ∧
            (r.created = true → s.takesUnit options call = true) := by
        constructor
        · intro hsafe
          refine ⟨fun h => ?_, hsafe.created r hhand⟩
          obtain ⟨r', hr', hend⟩ := hsafe.consumed h
          obtain rfl : r = r' := by simpa [hhand] using hr'
          exact hend
        · rintro ⟨hcons, hcreated⟩
          refine ⟨fun h => ⟨r, hhand, hcons h⟩, fun r' hr' => ?_, fun tool r' hr' hne => ?_⟩
          · obtain rfl : r = r' := by simpa [hhand] using hr'
            exact hcreated
          · obtain ⟨rfl, _⟩ : AgentToolName.precreateNextExercise = tool ∧ r = r' := by
              simpa [hhand] using hr'
            exact absurd rfl hne
      rw [hsafe]
      -- without a budget port no unit is consumed and none is refunded
      cases hbud : options.hasWriteToolBudget with
      | false =>
        have href : refunds options call = false := by simp [refunds, hbud]
        rw [htakes, hbud, href]
        cases r.created <;> simp
      | true =>
        rw [htakes, hbud]
        cases r.created <;> cases refunds options call <;> simp
    · have hfalse : s.takesUnit options call = false := by simpa [htool] using htakes
      have hsafe : BudgetSafe options call s ↔
          (s.marked = true → r.created = true ∨ refunds options call = false) := by
        constructor
        · intro hsafe
          exact hsafe.foreign tool r hhand htool
        · intro hforeign
          refine ⟨fun h => ?_, fun r' hr' => ?_, fun tool' r' hr' _ => ?_⟩
          · rw [hfalse] at h
            contradiction
          · simp [hhand, htool] at hr'
          · obtain ⟨_, rfl⟩ : tool = tool' ∧ r = r' := by simpa [hhand] using hr'
            exact hforeign
      rw [hsafe, hfalse]
      cases s.marked <;> cases r.created <;> cases refunds options call <;> simp [htool]

/-! ## Turns -/

def start (ctx : PlatformAgentToolContext) : ToolTurn :=
  { ctx := ctx, ledger := { consumed := 0, refunded := 0, created := 0 } }

def step (options : PlatformToolExecutorPipelineOptions) (s : ToolTurn) (call : ExecuteCall) :
    Option ToolTurn :=
  some (s.execute options call).1

/-- The account is balanced after every call of a turn exactly if each call keeps the balance. -/
theorem balanced_iff_budgetSafe (options : PlatformToolExecutorPipelineOptions)
    (ctx : PlatformAgentToolContext) (calls : List ExecuteCall) :
    (∀ pre t, pre <+: calls → run (step options) (start ctx) pre = some t → t.Balanced) ↔
      Along (step options) (fun s call => BudgetSafe options call s) (start ctx) calls := by
  have hstart : (start ctx).Balanced := by simp [Balanced, start]
  refine (along_iff_forall_reached (fun s call hs => ?_) hstart).symm
  rw [budgetSafe_iff_balanced hs]
  simp [step]

def freshContext : PlatformAgentToolContext where
  userId := none
  mappingVersion := none
  identityVerified := false
  userText := some "tạo bài tập tiếp theo rồi cho mình xem mục tiêu"
  writeToolCalls := fun _ => 0
  writeToolDailyConsumed := fun _ => false

/-- A pipeline with an identity provider, a budget and the default caps. -/
def meteredOptions : PlatformToolExecutorPipelineOptions where
  notLinkedMessage := "Bạn chưa liên kết tài khoản WISPACE."
  hasIdentityProvider := true
  hasWriteToolBudget := true
  writeToolPerMessageCaps
    | .rescheduleStudySession => some 1
    | .precreateNextExercise => some 3
    | _ => none
  safeErrorMessage := id

/-- A call for the linked user 7 in which every port answers and nothing is aborted. -/
def answeredCall (tool : AgentToolName) (status : Option String) : ExecuteCall where
  toolName := tool.text
  parsed := .ok ()
  identity := .returned (some { userId := 7, mappingVersion := "v1" })
  explicitIntent := some true
  checkDailyAllowed := .returned true
  consumeDaily := .returned true
  refundDaily := .returned ()
  handler := .returned { status := status }
  decorateResult := .returned ()
  abortedAtStart := false
  abortedAfterIdentity := false
  abortedAtIdentityError := false
  abortedAfterGate := false
  abortedBeforeHandler := false
  abortedAtError := false

/-- The unit of an exercise that was created is refunded by the next call, of another tool. -/
theorem created_unit_refunded :
    ∃ t, run (step meteredOptions) (start freshContext)
        [answeredCall .precreateNextExercise (some "created"),
          answeredCall .getUserGoals none] = some t ∧
      t.ledger = { consumed := 1, refunded := 1, created := 1 } ∧ ¬ t.Balanced := by
  exact ⟨_, rfl, by decide, by decide⟩

end ToolTurn

end WispaceBot
