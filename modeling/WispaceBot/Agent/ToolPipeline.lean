import Mathlib.Algebra.Ring.Int.Defs
import WispaceBot.Contracts

/-!
# The tool executor

`PlatformToolExecutorPipeline.execute` runs one tool call of a turn, from the arguments to the
refund of a unit that was consumed in vain.  The calls of a turn share one tool context.  What the
outside answers during a call is part of the call.
-/

namespace WispaceBot

/-! ## Tools -/

inductive AgentToolName
  | getLearningProgressReport
  | getUserGoals
  | getUpcomingStudySessions
  | listStudyCalendarEntries
  | rescheduleStudySession
  | previewNextStudyReminder
  | registerExamReportNotifications
  | precreateNextExercise
  deriving DecidableEq

/-- `capability.confirmation`. -/
inductive ToolConfirmationRequirement
  | none
  | explicitIntent
  | approvalToken
  deriving DecidableEq

/-- `metadata.budget`. -/
inductive AgentToolBudgetClassification
  | none
  | exempt
  | write
  deriving DecidableEq

namespace AgentToolName

def text : AgentToolName → String
  | .getLearningProgressReport => "get_learning_progress_report"
  | .getUserGoals => "get_user_goals"
  | .getUpcomingStudySessions => "get_upcoming_study_sessions"
  | .listStudyCalendarEntries => "list_study_calendar_entries"
  | .rescheduleStudySession => "reschedule_study_session"
  | .previewNextStudyReminder => "preview_next_study_reminder"
  | .registerExamReportNotifications => "register_exam_report_notifications"
  | .precreateNextExercise => "precreate_next_exercise"

/-- `AGENT_TOOL_NAMES`. -/
def all : List AgentToolName :=
  [.getLearningProgressReport, .getUserGoals, .getUpcomingStudySessions, .listStudyCalendarEntries,
    .rescheduleStudySession, .previewNextStudyReminder, .registerExamReportNotifications,
    .precreateNextExercise]

/-- The tool of a name: `isAgentToolName` and `getAgentToolDefinition`. -/
def ofText (name : String) : Option AgentToolName :=
  all.find? fun tool => decide (tool.text = name)

def confirmation : AgentToolName → ToolConfirmationRequirement
  | .rescheduleStudySession => .approvalToken
  | .registerExamReportNotifications | .precreateNextExercise => .explicitIntent
  | _ => .none

def budget : AgentToolName → AgentToolBudgetClassification
  | .rescheduleStudySession | .precreateNextExercise => .write
  | .registerExamReportNotifications => .exempt
  | _ => .none

/-- `writeToolAction`. -/
def writeAction : AgentToolName → String
  | .rescheduleStudySession => "đổi lịch học"
  | .precreateNextExercise => "tạo bài tập mới"
  | _ => "thao tác này"

def isWriteToolName (tool : AgentToolName) : Bool :=
  decide (tool.budget = .write)

end AgentToolName

def buildWriteToolDailyBudgetMessage (tool : AgentToolName) : String :=
  "Bạn đã dùng hết số lần " ++ tool.writeAction ++ " trong hôm nay rồi. " ++
    "Bạn thử lại vào ngày mai nhé."

def buildWriteToolPerMessageBudgetMessage (tool : AgentToolName) (limit : ℤ) : String :=
  "Trong một tin nhắn mình chỉ xử lý được tối đa " ++ toString limit ++ " lần " ++
    tool.writeAction ++ " thôi. Bạn nhắn lại phần còn lại giúp mình nhé."

/-! ## Contexts and calls -/

structure CurrentPlatformIdentity where
  userId : ℤ
  mappingVersion : String

/-- The part of `PlatformAgentToolContext` the pipeline reads and writes. -/
structure PlatformAgentToolContext where
  userId : Option ℤ
  mappingVersion : Option String
  identityVerified : Bool
  userText : Option String
  writeToolCalls : AgentToolName → ℕ
  writeToolDailyConsumed : AgentToolName → Bool

/-- The units of a turn, and the exercises it has created. -/
structure PrecreateLedger where
  (consumed refunded created : ℕ)
  deriving DecidableEq

/-- The turn: the tool context its calls share, and the account of the units. -/
structure ToolTurn where
  ctx : PlatformAgentToolContext
  ledger : PrecreateLedger

/-- The options of the pipeline.  The error texts pass through `safeErrorMessage`. -/
structure PlatformToolExecutorPipelineOptions where
  notLinkedMessage : String
  (hasIdentityProvider hasWriteToolBudget : Bool)
  writeToolPerMessageCaps : AgentToolName → Option ℤ
  safeErrorMessage : String → String

/-- A result of a handler, as far as it is read: its `status`, if it has one. -/
structure ToolResult where
  status : Option String

def ToolResult.created (r : ToolResult) : Bool :=
  decide (r.status = some "created")

/-- How an awaited call ends; a thrown error may be an abort error. -/
inductive Awaited (α : Type)
  | returned (value : α)
  | threw (message : String) (isAbortError : Bool)

/-- How a call of the budget port ends; a call that throws may have been applied. -/
inductive PortReply (α : Type)
  | returned (value : α)
  | threw (message : String) (isAbortError applied : Bool)

/-- One call of `execute`, with everything it reads. -/
structure ExecuteCall where
  toolName : String
  /-- `parseAndValidateToolArguments`. -/
  parsed : Except String Unit
  identity : Awaited (Option CurrentPlatformIdentity)
  /-- `checkExplicitIntent`. -/
  explicitIntent : Option Bool
  (checkDailyAllowed consumeDaily : PortReply Bool)
  refundDaily : PortReply Unit
  handler : Awaited ToolResult
  decorateResult : Awaited Unit
  /-- `signal.aborted` at the start, after the identity lookup, when that lookup failed, after the
  gate, before the handler, and when an error is caught. -/
  (abortedAtStart abortedAfterIdentity abortedAtIdentityError abortedAfterGate : Bool)
  (abortedBeforeHandler abortedAtError : Bool)

/-- What `execute` returns. -/
inductive ToolOutcome
  | threw
  | error (message : String)
  | notLinked (message : String)
  | intentDenied
  | budgetExceeded (messageHint : String)
  | result (value : ToolResult)

namespace ToolTurn

variable (options : PlatformToolExecutorPipelineOptions) (call : ExecuteCall)

/-! ## The stages of a call -/

def withoutIdentity (s : ToolTurn) : ToolTurn :=
  { s with ctx := { s.ctx with userId := none, mappingVersion := none, identityVerified := false } }

/-- `resolveCurrentIdentity`; an error is rethrown when the call is aborted. -/
def resolveCurrentIdentity : Except ToolOutcome (Option CurrentPlatformIdentity) :=
  if !options.hasIdentityProvider then .ok none
  else
    match call.identity with
    | .threw _ isAbortError =>
      if call.abortedAtIdentityError || isAbortError then .error .threw else .ok none
    | .returned identity =>
      if call.abortedAfterIdentity then .error .threw
      else
        match identity with
        | none => .ok none
        | some identity =>
          if identity.userId ≤ 0 ∨ isBlank (some identity.mappingVersion) = true then .ok none
          else .ok (some identity)

/-- What happens before the gate: the context it leaves, and the tool that may go on. -/
def precheck (s : ToolTurn) : ToolTurn × Except ToolOutcome AgentToolName :=
  if call.abortedAtStart then (s, .error .threw)
  else
    match AgentToolName.ofText call.toolName with
    | none => (s, .error (.error ("Unknown tool: " ++ call.toolName)))
    | some tool =>
      match call.parsed with
      | .error message => (s, .error (.error message))
      | .ok () =>
        -- every tool requires a linked account
        match resolveCurrentIdentity options call with
        | .error outcome => (s.withoutIdentity, .error outcome)
        | .ok none => (s.withoutIdentity, .error (.notLinked options.notLinkedMessage))
        | .ok (some identity) =>
          let linked : ToolTurn :=
            { s with
              ctx := { s.ctx with
                userId := some identity.userId
                mappingVersion := some identity.mappingVersion
                identityVerified := true } }
          if s.ctx.userText.isSome ∧ tool.confirmation ≠ .none ∧ call.explicitIntent = some false
          then (linked, .error .intentDenied)
          else (linked, .ok tool)

def capped (tool : AgentToolName) (s : ToolTurn) : Bool :=
  (options.writeToolPerMessageCaps tool).any fun cap =>
    decide (cap ≤ (s.ctx.writeToolCalls tool : ℤ))

/-- A call of a tool with a per-message cap is counted. -/
def counted (tool : AgentToolName) (s : ToolTurn) : ToolTurn :=
  if (options.writeToolPerMessageCaps tool).isSome then
    { s with ctx := { s.ctx with
      writeToolCalls :=
        Function.update s.ctx.writeToolCalls tool (s.ctx.writeToolCalls tool + 1) } }
  else s

def consume (s : ToolTurn) : ToolTurn :=
  { s with ledger := { s.ledger with consumed := s.ledger.consumed + 1 } }

def mark (tool : AgentToolName) (consumed : Bool) (s : ToolTurn) : ToolTurn :=
  { s with ctx := { s.ctx with
    writeToolDailyConsumed := Function.update s.ctx.writeToolDailyConsumed tool consumed } }

/-- `runWriteToolBudgetGate`: the turn it leaves, and the outcome of a call that stops here. -/
def runWriteToolBudgetGate (tool : AgentToolName) (s : ToolTurn) : ToolTurn × Option ToolOutcome :=
  if s.capped options tool then
    (s, some (.budgetExceeded (buildWriteToolPerMessageBudgetMessage tool
      ((options.writeToolPerMessageCaps tool).getD 0))))
  else if tool = .rescheduleStudySession then
    match call.checkDailyAllowed with
    | .threw _ _ _ => (s.counted options tool, some .threw)
    | .returned true => (s.counted options tool, none)
    | .returned false =>
      (s.counted options tool, some (.budgetExceeded (buildWriteToolDailyBudgetMessage tool)))
  else
    match call.consumeDaily with
    | .threw _ _ true => ((s.counted options tool).consume, some .threw)
    | .threw _ _ false => (s.counted options tool, some .threw)
    | .returned false =>
      (s.counted options tool, some (.budgetExceeded (buildWriteToolDailyBudgetMessage tool)))
    | .returned true => ((s.counted options tool).consume.mark tool true, none)

/-- The gate as `execute` passes it: only for a write tool with a budget and a user. -/
def gate (tool : AgentToolName) (s : ToolTurn) : ToolTurn × Option ToolOutcome :=
  if tool.isWriteToolName && options.hasWriteToolBudget && s.ctx.userId.any (· ≠ 0) then
    match s.runWriteToolBudgetGate options call tool with
    | (s, some .threw) => (s, some .threw)
    | (s, outcome) => if call.abortedAfterGate then (s, some .threw) else (s, outcome)
  else (s, none)

def caught (message : String) (isAbortError : Bool) : ToolOutcome :=
  if call.abortedAtError || isAbortError then .threw else .error (options.safeErrorMessage message)

def refund (s : ToolTurn) : ToolTurn :=
  { s with ledger := { s.ledger with refunded := s.ledger.refunded + 1 } }

/-- `refundConsumedWriteToolBudget`: the turn it leaves, and the error of the port if it throws. -/
def refundConsumedWriteToolBudget (r : ToolResult) (s : ToolTurn) :
    ToolTurn × Option (String × Bool) :=
  if !s.ctx.writeToolDailyConsumed .precreateNextExercise then (s, none)
  else if r.created then (s, none)
  else if !options.hasWriteToolBudget then (s.mark .precreateNextExercise false, none)
  else
    match call.refundDaily with
    | .returned () => (s.refund.mark .precreateNextExercise false, none)
    | .threw message isAbortError true => (s.refund, some (message, isAbortError))
    | .threw message isAbortError false => (s, some (message, isAbortError))

/-- A call whose handler returned `created` is counted for `precreate_next_exercise`. -/
def recordCreated (tool : AgentToolName) (r : ToolResult) (s : ToolTurn) : ToolTurn :=
  if tool = .precreateNextExercise ∧ r.created = true then
    { s with ledger := { s.ledger with created := s.ledger.created + 1 } }
  else s

def runHandler (tool : AgentToolName) (s : ToolTurn) : ToolTurn × ToolOutcome :=
  if call.abortedBeforeHandler then (s, caught options call "Aborted" true)
  else
    match call.handler with
    | .threw message isAbortError => (s, caught options call message isAbortError)
    | .returned r =>
      match (s.recordCreated tool r).refundConsumedWriteToolBudget options call r with
      | (s, some (message, isAbortError)) => (s, caught options call message isAbortError)
      | (s, none) =>
        match call.decorateResult with
        | .threw message isAbortError => (s, caught options call message isAbortError)
        | .returned () => (s, .result r)

/-- A call of `execute`. -/
def execute (s : ToolTurn) : ToolTurn × ToolOutcome :=
  match s.precheck options call with
  | (s, .error outcome) => (s, outcome)
  | (s, .ok tool) =>
    match s.gate options call tool with
    | (s, some outcome) => (s, outcome)
    | (s, none) => s.runHandler options call tool

end ToolTurn

end WispaceBot
