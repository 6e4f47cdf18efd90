import WispaceBot.Clarification.Store
import WispaceBot.Foundation.Run
import WispaceBot.Foundation.VersionedCell

/-!
# The clarification responder

A call of `handle` reads the key, classifies what it read, and makes a few writes, each guarded by
the version it read; between two operations other calls may go on.  A call in flight is kept with
the operation that it is about to make.  The classifiers of the texts are a parameter.
-/

namespace WispaceBot

open VersionedCell ClarificationCore

/-! ## Texts -/

def buildWispaceScopeRedirectMessage : String :=
  "Mình chỉ hỗ trợ các câu hỏi về WISPACE và IELTS Writing thôi nhé.\n\n" ++
    "Bạn có thể hỏi ví dụ: tiến độ học của mình, lịch học sắp tới, cách luyện Task 1/2, " ++
    "hoặc đăng ký báo cáo trước ngày thi."

def buildClarificationMessage : String :=
  "Mình chưa rõ bạn muốn hỏi gì. Bạn có thể hỏi về:\n" ++
    "• Tiến độ học IELTS\n" ++
    "• Lịch học sắp tới\n" ++
    "• Đổi lịch học\n" ++
    "Trả lời 1, 2 hoặc 3; hoặc nhắn “Hủy” để bỏ qua."

def buildClarificationCancelledMessage : String :=
  "Đã hủy phần làm rõ. Khi cần, bạn cứ gửi câu hỏi mới nhé."

def buildStopAcknowledgedMessage : String :=
  "Mình đã nhận được yêu cầu dừng của bạn.\n" ++
    "Câu trả lời đang được tạo không thể dừng giữa chừng, " ++
    "nhưng bạn cứ nhắn \"tiếp\" khi muốn mình làm tiếp nhé."

def buildClarificationUnavailableMessage : String :=
  "Mình chưa thể xử lý lựa chọn lúc này. Bạn thử lại sau ít phút nhé."

def menuTextFor (offTopic : Bool) : String :=
  if offTopic then buildWispaceScopeRedirectMessage else buildClarificationMessage

lemma not_isFalsy_menuTextFor (offTopic : Bool) :
    isFalsy (some (menuTextFor offTopic)) = false := by
  cases offTopic <;> decide +kernel

/-- The classifiers that the responder asks about the text of a message. -/
structure ClarificationVocabulary where
  isCancel : String → Bool
  parseChoice : String → Option ClarificationChoice
  isContradictory : String → Bool
  isObviouslyOffTopic : String → Bool
  isStopIntent : String → Bool
  isAmbiguousMessage : String → Bool

/-! ## Turns -/

/-- `ClarificationRequest`, of the learner whose key it is. -/
structure ClarificationRequest where
  userText : String
  userId : Option ℤ
  eventId : Option String
  resolveStopReply : Option (String → String)

def ClarificationRequest.event (request : ClarificationRequest) : ClarificationEvent where
  eventId := request.eventId
  userId := request.userId

inductive ClarificationTurn
  | reply (text : String) (skipDelivery : Bool)
  | continue (choice : Option ClarificationChoice)
  deriving DecidableEq

/-- The decisions that end a call. -/
inductive ClarificationTerminalDecision
  | replayed (replyText : Option String)
  | staleReply (replyText : Option String)
  | cancelled
  | choice (choice : ClarificationChoice)
  | consumeRaceLost
  | stopAcknowledged
  | newQuestion
  | maxReset
  | irrelevantClarify
  | resetMenu
  | startedOfftopic
  | startedAmbiguous
  | unavailable

/-- `CLARIFICATION_IRRELEVANT_ACTION_KINDS`. -/
def ClarificationIrrelevantResult.kind :
    ClarificationIrrelevantResult → ClarificationTerminalDecision
  | .clarify _ => .irrelevantClarify
  | .resetMenu _ => .resetMenu
  | .clear => .maxReset

/-- A write of the store: `set` with the expected version, or `clear` with or without one. -/
inductive WriteCommand
  | set (state : ClarificationState) (expectedVersion : ℕ)
  | clear (expectedVersion : Option ℕ)
  deriving DecidableEq

namespace RedisClarificationStateStore

/-- `get`: the stored text is parsed, and a text that fails its checks is an error. -/
def get : Option ClarificationState → Except ClarificationReadError (Option ClarificationState)
  | none => .ok none
  | some state => (parse state.serialize).map some

lemma get_eq_ok {cell known : Option ClarificationState} (h : get cell = .ok known) :
    known = cell := by
  cases cell with
  | none => cases h; rfl
  | some state =>
    cases hparse : parse state.serialize with
    | error =>
      simp only [get, hparse] at h
      cases h
    | ok read =>
      simp only [get, hparse] at h
      cases h
      rw [((parse_serialize_iff state read).mp hparse).2]

/-- Whether a state is within the bounds can be computed. -/
instance decidableReadable (s : ClarificationState) : Decidable (Readable s) :=
  decidable_of_iff (_ ∧ _ ∧ _ ∧ _ ∧ _ ∧ _ ∧ _ ∧ _ ∧ _)
    ⟨fun ⟨h1, h2, h3, h4, h5, h6, h7, h8, h9⟩ => ⟨h1, h2, h3, h4, h5, h6, h7, h8, h9⟩,
      fun ⟨h1, h2, h3, h4, h5, h6, h7, h8, h9⟩ => ⟨h1, h2, h3, h4, h5, h6, h7, h8, h9⟩⟩

/-- `get` without the detour over the text: a state within the bounds is read as it is. -/
def getReadable :
    Option ClarificationState → Except ClarificationReadError (Option ClarificationState)
  | none => .ok none
  | some state => if Readable state then .ok (some state) else .error .invalidState

lemma get_eq_getReadable : get = getReadable := by
  funext cell
  cases cell with
  | none => rfl
  | some state =>
    unfold get getReadable
    by_cases hreadable : Readable state
    · simp only [(parse_serialize_iff state state).mpr ⟨hreadable, rfl⟩, if_pos hreadable]
      rfl
    · simp only [parse_serialize_of_not_readable hreadable, if_neg hreadable]
      rfl

def succeeds (cell : Option ClarificationState) : WriteCommand → Bool
  | .set _ expectedVersion => admits ClarificationState.version cell expectedVersion
  | .clear (some expectedVersion) => hasVersion ClarificationState.version cell expectedVersion
  | .clear none => true

def written : WriteCommand → Option ClarificationState
  | .set state _ => some state
  | .clear _ => none

end RedisClarificationStateStore

/-! ## Calls in flight -/

/-- Why the state is read. -/
inductive ReadPurpose
  | attempt
  | replayAfterConflict
  deriving DecidableEq

/-- A write that a call of `handle` is about to make, with the state it holds. -/
inductive PendingWrite
  | clearStale (held : ClarificationState)
  | clearConsumed (held : ClarificationState) (choice : Option ClarificationChoice)
  | clearCancelled (held : Option ClarificationState)
  | consumeChoice (held : ClarificationState) (choice : ClarificationChoice)
  | clearStopped (held : ClarificationState)
  | supersede (held : ClarificationState)
  | recordIrrelevant (held : ClarificationState)
  | begin
  deriving DecidableEq

def PendingWrite.known : PendingWrite → Option ClarificationState
  | .clearStale held => some held
  | .clearConsumed held _ => some held
  | .clearCancelled held => held
  | .consumeChoice held _ => some held
  | .clearStopped held => some held
  | .supersede held => some held
  | .recordIrrelevant held => some held
  | .begin => none

/-- The next operation of a call of `handle`. -/
inductive PendingOperation
  | read (purpose : ReadPurpose)
  | write (write : PendingWrite)
  deriving DecidableEq

/-- A call of `handle` in flight: an `attempt` with its clock value. -/
structure HandleCall where
  request : ClarificationRequest
  now : ℤ
  retryOnVersionConflict : Bool
  operation : PendingOperation

/-- A call of `markDeliveryFailed` in flight, before its read or with the state it holds. -/
structure MarkCall where
  eventId : String
  held : Option ClarificationState

/-- A call in flight. -/
inductive ClarificationCall
  | handle (call : HandleCall)
  | markDeliveryFailed (call : MarkCall)

/-- The log: marks, writes that took effect, and what calls returned. -/
inductive ClarificationEntry
  /-- `markDeliveryFailed` was called for an event. -/
  | marked (eventId : String)
  | swapped (known actual : Option ClarificationState)
  /-- `handle` returned; `accepted` where this call has just consumed the menu with the choice. -/
  | returned (eventId : Option String) (turn : ClarificationTurn) (accepted : Bool)
  deriving DecidableEq

/-- What becomes of a call after an operation: it goes on or it has returned. -/
structure CallResult where
  next : Option ClarificationCall
  entries : List ClarificationEntry

namespace HandleCall

variable (vocabulary : ClarificationVocabulary) (limits : ClarificationLimits ℕ)

section

variable (call : HandleCall)

def offTopic : Bool :=
  vocabulary.isObviouslyOffTopic call.request.userText

/-- `CLARIFICATION_TERMINAL_RULES` and `terminal`: the turn that answers a decision. -/
def terminal : ClarificationTerminalDecision → ClarificationTurn
  | .replayed replyText => .reply (replyText.getD buildClarificationMessage) true
  | .staleReply replyText => .reply (replyText.getD buildClarificationMessage) true
  | .cancelled =>
    .reply (call.request.resolveStopReply.getD id
      (if vocabulary.isStopIntent call.request.userText then buildStopAcknowledgedMessage
      else buildClarificationCancelledMessage)) false
  | .choice choice => .continue (some choice)
  | .consumeRaceLost => .reply buildClarificationMessage false
  | .stopAcknowledged =>
    .reply (call.request.resolveStopReply.getD id buildStopAcknowledgedMessage) false
  | .newQuestion => .continue none
  | .maxReset => .reply buildClarificationMessage false
  | .irrelevantClarify => .reply (menuTextFor (call.offTopic vocabulary)) false
  | .resetMenu => .reply (menuTextFor (call.offTopic vocabulary)) false
  | .startedOfftopic => .reply (menuTextFor (call.offTopic vocabulary)) false
  | .startedAmbiguous => .reply (menuTextFor (call.offTopic vocabulary)) false
  | .unavailable => .reply buildClarificationUnavailableMessage false

def pend (operation : PendingOperation) : CallResult where
  next := some (.handle { call with operation := operation })
  entries := []

def finish (turn : ClarificationTurn) : CallResult where
  next := none
  entries := [.returned call.request.eventId turn false]

def conclude (decision : ClarificationTerminalDecision) : CallResult :=
  call.finish (call.terminal vocabulary decision)

def accept (choice : ClarificationChoice) : CallResult where
  next := none
  entries := [.returned call.request.eventId (call.terminal vocabulary (.choice choice)) true]

/-- The part of `attempt` after the inspection, on a menu or on none. -/
def answer (state : Option ClarificationState) : CallResult :=
  let text := call.request.userText
  let ambiguous := vocabulary.isAmbiguousMessage text || vocabulary.isContradictory text
  if vocabulary.isCancel text then call.pend (.write (.clearCancelled state))
  else
    match state with
    | some held =>
      match vocabulary.parseChoice text with
      | some choice => call.pend (.write (.consumeChoice held choice))
      | none =>
        if vocabulary.isStopIntent text then call.pend (.write (.clearStopped held))
        else if !call.offTopic vocabulary && !ambiguous then call.pend (.write (.supersede held))
        else call.pend (.write (.recordIrrelevant held))
    | none =>
      -- a choice is only looked for on a menu
      if vocabulary.isStopIntent text then call.conclude vocabulary .stopAcknowledged
      else if call.offTopic vocabulary || ambiguous then call.pend (.write .begin)
      else call.finish (.continue none)

/-- The part of `attempt` up to the first write, on what was read. -/
def inspected : Option ClarificationState → CallResult
  | none => call.answer vocabulary none
  | some held =>
    match inspect (some held) call.request.event call.now with
    | .staleState _ => call.pend (.write (.clearStale held))
    | .replayed replyText => call.conclude vocabulary (.replayed replyText)
    | .staleReply replyText => call.conclude vocabulary (.staleReply replyText)
    | .consumed choice => call.pend (.write (.clearConsumed held choice))
    | .proceed => call.answer vocabulary (some held)

/-- `replayAfterConflict`: only a replay with a cached text is answered. -/
def replayed (state : Option ClarificationState) : CallResult :=
  match inspect state call.request.event call.now with
  | .replayed replyText =>
    if isFalsy replyText then call.conclude vocabulary .unavailable
    else call.conclude vocabulary (.replayed replyText)
  | _ => call.conclude vocabulary .unavailable

def afterRead (state : Option ClarificationState) : ReadPurpose → CallResult
  | .attempt => call.inspected vocabulary state
  | .replayAfterConflict => call.replayed vocabulary state

/-- What `recordIrrelevant` decides for the menu that is held. -/
def irrelevant (held : ClarificationState) : ClarificationIrrelevantResult :=
  recordIrrelevant limits held call.request.event call.now (menuTextFor (call.offTopic vocabulary))

def command : PendingWrite → WriteCommand
  | .clearStale held => .clear (some held.version)
  | .clearConsumed held _ => .clear (some held.version)
  | .clearCancelled held => .clear (held.map ClarificationState.version)
  | .consumeChoice held choice =>
    .set (consume limits held call.request.event call.now (some choice)) held.version
  | .clearStopped held => .clear (some held.version)
  | .supersede held =>
    .set (consume limits held call.request.event call.now none) held.version
  | .recordIrrelevant held =>
    match (call.irrelevant vocabulary limits held).state with
    | none => .clear (some held.version)
    | some next => .set next held.version
  | .begin =>
    .set (begin limits call.request.event call.now (menuTextFor (call.offTopic vocabulary))) 0

/-- The call goes on after a write that took effect. -/
def afterSuccess : PendingWrite → CallResult
  | .clearStale _ => call.answer vocabulary none
  | .clearConsumed _ none => call.answer vocabulary none
  | .clearConsumed _ (some choice) => call.conclude vocabulary (.choice choice)
  | .clearCancelled _ => call.conclude vocabulary .cancelled
  | .consumeChoice _ choice => call.accept vocabulary choice
  | .clearStopped _ => call.conclude vocabulary .stopAcknowledged
  | .supersede _ => call.conclude vocabulary .newQuestion
  | .recordIrrelevant held =>
    call.conclude vocabulary (call.irrelevant vocabulary limits held).kind
  | .begin =>
    call.conclude vocabulary
      (if call.offTopic vocabulary then .startedOfftopic else .startedAmbiguous)

/-- A tombstone that is gone is looked at once more, with a new clock value. -/
def afterRefusal (clock : ℤ) : PendingWrite → CallResult
  | .clearConsumed _ _ =>
    if call.retryOnVersionConflict then
      { next := some (.handle
          { call with now := clock, retryOnVersionConflict := false, operation := .read .attempt })
        entries := [] }
    else call.conclude vocabulary .unavailable
  | .clearCancelled none => call.conclude vocabulary .cancelled
  | .consumeChoice _ _ => call.conclude vocabulary .consumeRaceLost
  | .recordIrrelevant held =>
    match (call.irrelevant vocabulary limits held).state with
    | none => call.conclude vocabulary .unavailable
    | some _ => call.pend (.read .replayAfterConflict)
  | .begin => call.pend (.read .replayAfterConflict)
  | _ => call.conclude vocabulary .unavailable

end

end HandleCall

namespace MarkCall

section

variable (call : MarkCall) (state : Option ClarificationState)

/-- The state that `markDeliveryFailed` writes, if the state is for its event. -/
def failed : Option ClarificationState :=
  failDelivery state { eventId := some call.eventId, userId := none }

/-- The call goes on with what it read: without a state for its event there is no write. -/
def afterRead : CallResult where
  next := (call.failed state).bind fun _ =>
    some (.markDeliveryFailed { call with held := state })
  entries := []

end

/-- The command of the write of a call that holds a state. -/
def command (call : MarkCall) : Option WriteCommand :=
  match call.held with
  | none => none
  | some held => (call.failed (some held)).map fun state => .set state held.version

end MarkCall

namespace ClarificationCall

variable (vocabulary : ClarificationVocabulary) (limits : ClarificationLimits ℕ)

/-- The state that the call holds until its next write, if any. -/
def known : ClarificationCall → Option ClarificationState
  | .handle call =>
    match call.operation with
    | .read _ => none
    | .write write => write.known
  | .markDeliveryFailed call => call.held

/-- The next write of the call; without one it is about to read. -/
def command : ClarificationCall → Option WriteCommand
  | .handle call =>
    match call.operation with
    | .read _ => none
    | .write write => some (call.command vocabulary limits write)
  | .markDeliveryFailed call => call.command

def afterRead (call : ClarificationCall) (state : Option ClarificationState) : CallResult :=
  match call with
  | .handle call =>
    match call.operation with
    | .read purpose => call.afterRead vocabulary state purpose
    | .write _ => call.conclude vocabulary .unavailable
  | .markDeliveryFailed call => call.afterRead state

/-- The call goes on after a write that took effect. -/
def afterSuccess : ClarificationCall → CallResult
  | .handle call =>
    match call.operation with
    | .read _ => call.conclude vocabulary .unavailable
    | .write write => call.afterSuccess vocabulary limits write
  | .markDeliveryFailed _ => { next := none, entries := [] }

/-- The call goes on after a write that was refused. -/
def afterRefusal (call : ClarificationCall) (clock : ℤ) : CallResult :=
  match call with
  | .handle call =>
    match call.operation with
    | .read _ => call.conclude vocabulary .unavailable
    | .write write => call.afterRefusal vocabulary limits clock write
  | .markDeliveryFailed _ => { next := none, entries := [] }

/-- The operation throws: `handle` answers that it is unavailable, `markDeliveryFailed` rejects. -/
def thrown : ClarificationCall → CallResult
  | .handle call => call.conclude vocabulary .unavailable
  | .markDeliveryFailed _ => { next := none, entries := [] }

end ClarificationCall

/-! ## The system -/

/-- The key of a learner, the time at which it expires, and the calls in flight. -/
structure ClarificationSystem where
  clock : ℤ
  cell : Option ClarificationState
  deadline : ℤ
  calls : List ClarificationCall
  log : List ClarificationEntry

/-- The clock, expiry, new calls, and one operation on the store of a call. -/
inductive ClarificationStep
  | tick (now : ℤ)
  | expire
  | handle (request : ClarificationRequest)
  | markDeliveryFailed (eventId : Option String)
  | run (index : ℕ)
  | throw (index : ℕ)

namespace ClarificationSystem

variable (vocabulary : ClarificationVocabulary) (limits : ClarificationLimits ℕ)
  (get : Option ClarificationState → Except ClarificationReadError (Option ClarificationState))

def init (clock : ℤ) : ClarificationSystem where
  clock := clock
  cell := none
  deadline := clock
  calls := []
  log := []

section

variable (q : ClarificationSystem)

/-- The call at an index is replaced by what becomes of it. -/
def resume (index : ℕ) (result : CallResult) : ClarificationSystem :=
  { q with
    calls := q.calls.eraseIdx index ++ result.next.toList
    log := q.log ++ result.entries }

/-- A write of a call takes effect; `psetex` keeps a state for at least a millisecond. -/
def write (known : Option ClarificationState) (command : WriteCommand) : ClarificationSystem :=
  { q with
    cell := RedisClarificationStateStore.written command
    deadline :=
      match command with
      | .set state _ => q.clock + max 1 (state.expiresAt - q.clock)
      | .clear _ => q.deadline
    log := q.log ++ [.swapped known q.cell] }

def perform (index : ℕ) (call : ClarificationCall) : ClarificationSystem :=
  match call.command vocabulary limits with
  | none =>
    match get q.cell with
    | .error _ => q.resume index (call.thrown vocabulary)
    | .ok state => q.resume index (call.afterRead vocabulary state)
  | some command =>
    if RedisClarificationStateStore.succeeds q.cell command then
      (q.write call.known command).resume index (call.afterSuccess vocabulary limits)
    else q.resume index (call.afterRefusal vocabulary limits q.clock)

/-- One step of the system over a store with the given read. -/
def stepWith : ClarificationStep → Option ClarificationSystem
  | .tick now => if now < q.clock then none else some { q with clock := now }
  | .expire =>
    if q.cell.isSome ∧ q.deadline ≤ q.clock then some { q with cell := none } else none
  | .handle request =>
    some { q with
      calls := q.calls ++ [.handle
        { request := request
          now := q.clock
          retryOnVersionConflict := true
          operation := .read .attempt }] }
  | .markDeliveryFailed eventId =>
    if isFalsy eventId then some q
    else some { q with
      calls := q.calls ++
        eventId.toList.map fun id => .markDeliveryFailed { eventId := id, held := none }
      log := q.log ++ eventId.toList.map .marked }
  | .run index => q.calls[index]?.map (q.perform vocabulary limits get index)
  | .throw index => q.calls[index]?.map fun call => q.resume index (call.thrown vocabulary)

end

def step : ClarificationSystem → ClarificationStep → Option ClarificationSystem :=
  stepWith vocabulary limits RedisClarificationStateStore.get

end ClarificationSystem

end WispaceBot
