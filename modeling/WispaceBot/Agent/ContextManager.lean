import WispaceBot.Contracts
import WispaceBot.Foundation.Json

/-!
# The context of the agent

`ContextManager` keeps the messages of a turn within the token budget, which it estimates from the
text of the request.  Between the rounds `trimLoopMessages` replaces the oldest exchange with a tool
by a note, and drops messages from the front once no exchange is left.
-/

namespace WispaceBot

open List

/-! ## Messages -/

inductive LlmMessageRole
  | system
  | user
  | assistant
  | tool
  deriving DecidableEq

def LlmMessageRole.text : LlmMessageRole → String
  | .system => "system"
  | .user => "user"
  | .assistant => "assistant"
  | .tool => "tool"

structure LlmToolCall where
  (id name arguments : String)
deriving DecidableEq

structure LlmMessage where
  role : LlmMessageRole
  content : Option String := none
  toolCalls : Option (List LlmToolCall) := none
  toolCallId : Option String := none
deriving DecidableEq

/-- The tool calls of a message, none if the field is missing. -/
def LlmMessage.calls (m : LlmMessage) : List LlmToolCall :=
  m.toolCalls.getD []

def LlmMessage.isToolCall (m : LlmMessage) : Bool :=
  m.role == .assistant && !m.calls.isEmpty

def LlmToolCall.toJson (call : LlmToolCall) : Json :=
  .obj [("id", .str call.id), ("name", .str call.name), ("arguments", .str call.arguments)]

def LlmMessage.toJson (m : LlmMessage) : Json :=
  .ofProperties [("role", some (.str m.role.text)), ("content", m.content.map .str),
    ("toolCalls", m.toolCalls.map fun calls => .arr (calls.map LlmToolCall.toJson)),
    ("toolCallId", m.toolCallId.map .str)]

/-! ## The estimate -/

/-- The estimate of a character in quarters of a token: 0.75 tokens for an ASCII code unit and 1.5
for any other, of which a character beyond the first plane has two. -/
def tokenQuarters (c : Char) : ℕ :=
  if c.toNat < 128 then 3 else if c.toNat < 0x10000 then 6 else 12

def estimateTokens (text : List Char) : ℕ :=
  ((text.map tokenQuarters).sum + 3) / 4

/-- The budget of the limits, and `CONTEXT_TOOL_DEFINITIONS`. -/
structure ContextManager where
  inputTokenBudget : ℕ
  toolDefinitions : Json

namespace ContextManager

section

variable (manager : ContextManager) (messages : List LlmMessage)

def estimateContextTokens : ℕ :=
  estimateTokens (Json.write (.arr (messages.map LlmMessage.toJson))) +
    estimateTokens (Json.write manager.toolDefinitions)

/-- The estimate of the messages is within the budget for input. -/
def fits : Bool :=
  decide (manager.estimateContextTokens messages ≤ manager.inputTokenBudget)

end

/-! ## Trimming the loop -/

def findFirstToolCall (messages : List LlmMessage) (loopStartIndex : ℕ) : Option ℕ :=
  ((messages.drop loopStartIndex).findIdx? LlmMessage.isToolCall).map (loopStartIndex + ·)

def dropIndex (messages : List LlmMessage) (loopStartIndex : ℕ) : ℕ :=
  (findFirstToolCall messages loopStartIndex).getD loopStartIndex

def droppedMarker (removed : LlmMessage) : LlmMessage where
  role := .assistant
  content := some (String.ofList (Json.write (.obj [("_observation", .str "dropped"),
    ("tools", .arr ((removed.calls.map (·.name)).eraseDups.map .str)),
    ("count", .num removed.calls.length)])))

/-- The body of the loop: the replies go with the call, and a note takes their place. -/
def trimOnce (messages : List LlmMessage) (index : ℕ) (removed : LlmMessage) : List LlmMessage :=
  let rest := messages.drop (index + 1)
  messages.take index ++
    if removed.calls.isEmpty then rest
    else droppedMarker removed :: rest.dropWhile (·.role == .tool)

def toolCallCount (messages : List LlmMessage) : ℕ :=
  messages.countP fun m => !m.calls.isEmpty

section Rounds

variable {front rest : List LlmMessage} {removed : LlmMessage}

lemma trimOnce_append : trimOnce (front ++ removed :: rest) front.length removed = front ++
    if removed.calls.isEmpty then rest
    else droppedMarker removed :: rest.dropWhile (·.role == .tool) := by
  simp [trimOnce]

/-- A note has no calls, so each round leaves fewer messages or fewer calls. -/
lemma trimOnce_lt {msgs : List LlmMessage} {index : ℕ} (h : msgs[index]? = some removed) :
    (trimOnce msgs index removed).length + toolCallCount (trimOnce msgs index removed) <
      msgs.length + toolCallCount msgs := by
  obtain ⟨hlt, hget⟩ := List.getElem?_eq_some_iff.mp h
  have hsplit : msgs = msgs.take index ++ removed :: msgs.drop (index + 1) := by
    rw [← hget, ← drop_eq_getElem_cons hlt, take_append_drop]
  have hindex : index = (msgs.take index).length := by simp [Nat.le_of_lt hlt]
  generalize msgs.take index = front, msgs.drop (index + 1) = rest at hsplit hindex
  subst hsplit hindex
  rw [trimOnce_append]
  cases hcalls : removed.calls.isEmpty with
  | true => simp [toolCallCount, hcalls]
  | false =>
    have hmarker : (droppedMarker removed).calls = [] := rfl
    have hsuffix := dropWhile_suffix (l := rest) (fun m : LlmMessage => m.role == .tool)
    have hlen := hsuffix.length_le
    have hcount := hsuffix.sublist.countP_le (p := fun m : LlmMessage => !m.calls.isEmpty)
    simp [toolCallCount, hcalls, hmarker]
    omega

end Rounds

def trimLoop (manager : ContextManager) (loopStartIndex : ℕ) (messages : List LlmMessage)
    (droppedToolNames : List String) : List LlmMessage × List String :=
  if !manager.fits messages && decide (loopStartIndex < messages.length) then
    match _h : messages[dropIndex messages loopStartIndex]? with
    | none => (messages, droppedToolNames)
    | some removed =>
      manager.trimLoop loopStartIndex
        (trimOnce messages (dropIndex messages loopStartIndex) removed)
        (droppedToolNames ++ removed.calls.map (·.name))
  else (messages, droppedToolNames)
termination_by messages.length + toolCallCount messages
decreasing_by exact trimOnce_lt _h

structure LoopTrimResult where
  fits : Bool
  droppedToolNames : List String

/-- The messages after the call, which changes them in place, and its result. -/
def trimLoopMessages (manager : ContextManager) (messages : List LlmMessage)
    (loopStartIndex : ℕ) : List LlmMessage × LoopTrimResult :=
  let r := manager.trimLoop loopStartIndex messages []
  (r.1, ⟨manager.fits r.1, r.2⟩)

/-! ## What is left of a loop -/

/-- A part of a loop: a message that stands alone, or a tool call with its replies. -/
inductive Block
  | plain (m : LlmMessage)
  | exchange (call : LlmMessage) (replies : List LlmMessage)

/-- A message that neither makes tool calls nor answers one. -/
def Quiet (m : LlmMessage) : Prop :=
  m.role ≠ .tool ∧ m.calls = []

namespace Block

/-- A plain message has no part in a tool call; an exchange has one reply for each call. -/
def Paired : Block → Prop
  | .plain m => Quiet m
  | .exchange call replies => call.role = .assistant ∧ call.calls ≠ [] ∧
    (∀ reply ∈ replies, reply.role = .tool) ∧
      (replies.map (·.toolCallId)).Perm (call.calls.map fun c => some c.id)

def messages : Block → List LlmMessage
  | .plain m => [m]
  | .exchange call replies => call :: replies

end Block

/-- A loop in which each tool call is followed by its replies, and no reply stands elsewhere. -/
def PairedLoop (loop : List LlmMessage) : Prop :=
  ∃ blocks : List Block, (∀ b ∈ blocks, b.Paired) ∧ loop = blocks.flatMap Block.messages

namespace Block

/-- The message that stands for a block once its exchange is given up. -/
def note : Block → LlmMessage
  | .plain m => m
  | .exchange call _ => droppedMarker call

def callNames : Block → List String
  | .plain _ => []
  | .exchange call _ => call.calls.map (·.name)

end Block

section Blocks

variable {removed : LlmMessage} {pre quiet messages : List LlmMessage} {blocks : List Block}
  {names : List String}

lemma isToolCall_of_quiet {m : LlmMessage} (h : Quiet m) : m.isToolCall = false := by
  simp [LlmMessage.isToolCall, h.2]

lemma dropIndex_quiet (h : ∀ m ∈ quiet, Quiet m) :
    dropIndex (pre ++ quiet) pre.length = pre.length := by
  have hnone : quiet.findIdx? LlmMessage.isToolCall = none :=
    findIdx?_eq_none_iff.mpr fun m hm => isToolCall_of_quiet (h m hm)
  simp [dropIndex, findFirstToolCall, hnone]

lemma dropIndex_call {call : LlmMessage} {rest : List LlmMessage} (h : ∀ m ∈ quiet, Quiet m)
    (hcall : call.isToolCall = true) :
    dropIndex (pre ++ (quiet ++ call :: rest)) pre.length = (pre ++ quiet).length := by
  have hnone : quiet.findIdx? LlmMessage.isToolCall = none :=
    findIdx?_eq_none_iff.mpr fun m hm => isToolCall_of_quiet (h m hm)
  simp [dropIndex, findFirstToolCall, findIdx?_append, hnone, findIdx?_cons, hcall]

lemma dropIndex_lt {start : ℕ} (h : start < messages.length) :
    dropIndex messages start < messages.length := by
  unfold dropIndex findFirstToolCall
  cases hfind : (messages.drop start).findIdx? LlmMessage.isToolCall with
  | none => exact h
  | some =>
    have hlt := (findIdx?_eq_some_iff_findIdx_eq.mp hfind).1
    simp at hlt ⊢
    omega

/-- The plain blocks before the first exchange. -/
lemma split_blocks (blocks : List Block) :
    (∃ plains : List LlmMessage, blocks = plains.map .plain) ∨
    ∃ (plains : List LlmMessage) (call : LlmMessage) (replies : List LlmMessage)
      (later : List Block), blocks = plains.map .plain ++ .exchange call replies :: later := by
  induction blocks with
  | nil => exact .inl ⟨[], rfl⟩
  | cons b blocks ih =>
    cases b with
    | exchange call replies => exact .inr ⟨[], call, replies, blocks, rfl⟩
    | plain m =>
      rcases ih with ⟨plains, rfl⟩ | ⟨plains, call, replies, later, rfl⟩
      · exact .inl ⟨m :: plains, rfl⟩
      · exact .inr ⟨m :: plains, call, replies, later, rfl⟩

lemma quiet_note (h : ∀ b ∈ blocks, b.Paired) : ∀ m ∈ blocks.map Block.note, Quiet m := by
  intro _ hm
  obtain ⟨b, hb, rfl⟩ := mem_map.mp hm
  cases b with
  | plain => exact h _ hb
  | exchange => exact ⟨by simp [Block.note, droppedMarker], rfl⟩

/-- The blocks at the front are noted, the later ones stand as they were; the notes are dropped
once no other block is left. -/
def Trimmed (blocks : List Block) (pre messages : List LlmMessage) (names : List String) : Prop :=
  ∃ done rest d, blocks = done ++ rest ∧ (d = 0 ∨ rest = []) ∧
    messages = pre ++ ((done.map Block.note).drop d ++ rest.flatMap Block.messages) ∧
    names = done.flatMap Block.callNames

lemma dropWhile_replies {replies : List LlmMessage} (h : ∀ reply ∈ replies, reply.role = .tool)
    (hrest : ∀ b ∈ blocks, b.Paired) :
    (replies ++ blocks.flatMap Block.messages).dropWhile (·.role == .tool) =
      blocks.flatMap Block.messages := by
  rw [dropWhile_append_of_pos (by simpa using h)]
  -- a block begins with a message that is no reply
  cases blocks with
  | nil => rfl
  | cons b =>
    have hb := hrest b mem_cons_self
    cases b with
    | plain | exchange => simp [Block.messages, hb.1]

lemma trimmed_trimOnce (hpaired : ∀ b ∈ blocks, b.Paired) (h : Trimmed blocks pre messages names)
    (hget : messages[dropIndex messages pre.length]? = some removed) :
    Trimmed blocks pre (trimOnce messages (dropIndex messages pre.length) removed)
      (names ++ removed.calls.map (·.name)) := by
  obtain ⟨done, rest, d, rfl, hd, rfl, rfl⟩ := h
  have hnotes : Block.note ∘ Block.plain = id := rfl
  have hquiet := quiet_note fun b hb => hpaired b (mem_append_left _ hb)
  rcases split_blocks rest with ⟨plains, rfl⟩ | ⟨plains, call, replies, later, rfl⟩
  · -- no exchange is left, so the first message goes
    have hall := quiet_note hpaired
    have hloop : (done.map Block.note).drop d ++ (plains.map Block.plain).flatMap Block.messages =
        ((done ++ plains.map Block.plain).map Block.note).drop d := by
      rcases hd with rfl | hnil
      · simp [hnotes, flatMap_map, Block.messages]
      · simp [map_eq_nil_iff.mp hnil]
    have hquiet' : ∀ m ∈ ((done ++ plains.map Block.plain).map Block.note).drop d, Quiet m :=
      fun m hm => hall m (mem_of_mem_drop hm)
    rw [hloop] at hget ⊢
    rw [dropIndex_quiet hquiet'] at hget ⊢
    generalize hnoted : (done ++ plains.map Block.plain).map Block.note = noted at hget hquiet' ⊢
    rw [getElem?_append_right (Nat.le_refl _), Nat.sub_self, getElem?_drop, Nat.add_zero] at hget
    obtain ⟨hlt, hrem⟩ := List.getElem?_eq_some_iff.mp hget
    rw [drop_eq_getElem_cons hlt, hrem] at hquiet' ⊢
    have hcalls : removed.calls = [] := (hquiet' removed mem_cons_self).2
    refine ⟨done ++ plains.map .plain, [], d + 1, by simp, .inr rfl, ?_, ?_⟩
    · rw [trimOnce_append]
      simp [hcalls, hnoted]
    · simp [hcalls, flatMap_map, Block.callNames]
  · -- the first exchange gives way to its note
    obtain rfl : d = 0 := hd.resolve_right (by simp)
    obtain ⟨hrole, hcalls, hreplies, -⟩ := hpaired (.exchange call replies) (by simp)
    have hlater : ∀ b ∈ later, b.Paired := fun b hb => hpaired b (by simp [hb])
    have hplains : ∀ m ∈ done.map Block.note ++ plains, Quiet m := by
      intro m hm
      rcases mem_append.mp hm with hm | hm
      · exact hquiet m hm
      · exact hpaired (.plain m) (by simp [hm])
    have hcall : call.isToolCall = true := by simp [LlmMessage.isToolCall, hrole, hcalls]
    have hloop : (done.map Block.note).drop 0 ++ (plains.map Block.plain ++
        .exchange call replies :: later).flatMap Block.messages =
        done.map Block.note ++ plains ++ call :: (replies ++ later.flatMap Block.messages) := by
      simp [flatMap_map, Block.messages]
    rw [hloop] at hget ⊢
    rw [dropIndex_call hplains hcall, ← append_assoc pre] at hget ⊢
    obtain rfl : call = removed := by simpa using hget
    rw [trimOnce_append, dropWhile_replies hreplies hlater]
    refine ⟨done ++ plains.map .plain ++ [.exchange call replies], later, 0, by simp, .inl rfl,
      ?_, ?_⟩
    · simp [hcalls, hnotes, Block.note]
    · simp [flatMap_map, Block.callNames]

lemma trimmed_trimLoop (manager : ContextManager) (hpaired : ∀ b ∈ blocks, b.Paired)
    (h : Trimmed blocks pre messages names) :
    let r := manager.trimLoop pre.length messages names
    Trimmed blocks pre r.1 r.2 ∧ (manager.fits r.1 = true ∨ r.1.length ≤ pre.length) := by
  fun_induction trimLoop manager pre.length messages names with
  | case1 messages names hgoes hget =>
    simp only [Bool.and_eq_true, decide_eq_true_eq] at hgoes
    exact absurd (dropIndex_lt hgoes.2) (by simpa using hget)
  | case2 messages names hgoes removed hget ih => exact ih (trimmed_trimOnce hpaired h hget)
  | case3 messages names hstays =>
    refine ⟨h, ?_⟩
    simp only [Bool.and_eq_true, Bool.not_eq_true', decide_eq_true_eq, not_and, not_lt] at hstays
    cases hfits : manager.fits messages with
    | true => exact .inl rfl
    | false => exact .inr (hstays hfits)

lemma pairedLoop_append (hquiet : ∀ m ∈ quiet, Quiet m) (hpaired : ∀ b ∈ blocks, b.Paired) :
    PairedLoop (quiet ++ blocks.flatMap Block.messages) := by
  refine ⟨quiet.map .plain ++ blocks, fun b hb => ?_, ?_⟩
  · rcases mem_append.mp hb with hb | hb
    · obtain ⟨m, hm, rfl⟩ := mem_map.mp hb
      exact hquiet m hm
    · exact hpaired b hb
  · simp [flatMap_map, Block.messages]

/-- The loop ends, by the recursion of `trimLoop`, with the first messages as they were: the oldest
blocks of the loop are down to one message each, of which the first may be gone once all are, and
the names are those of the calls given up.  The request that is left fits, as reported, unless the
loop is empty. -/
theorem trimLoopMessages_spec (manager : ContextManager) (messages : List LlmMessage) (start : ℕ)
    (blocks : List Block) (hpaired : ∀ b ∈ blocks, b.Paired)
    (hloop : messages.drop start = blocks.flatMap Block.messages) :
    let r := manager.trimLoopMessages messages start
    ∃ done rest d loop, blocks = done ++ rest ∧ (d = 0 ∨ rest = []) ∧
      loop = (done.map Block.note).drop d ++ rest.flatMap Block.messages ∧
      r.1 = messages.take start ++ loop ∧ PairedLoop loop ∧
      r.2.droppedToolNames = done.flatMap Block.callNames ∧ r.2.fits = manager.fits r.1 ∧
      (r.2.fits = true ∨ loop = []) := by
  have hinit : Trimmed blocks (messages.take start) messages [] :=
    ⟨[], blocks, 0, rfl, .inl rfl, by simp [← hloop], rfl⟩
  have hend : let r := manager.trimLoop start messages []
      Trimmed blocks (messages.take start) r.1 r.2 ∧
        (manager.fits r.1 = true ∨ r.1.length ≤ (messages.take start).length) := by
    rcases Nat.lt_or_ge start messages.length with hlong | hshort
    · have hrun := trimmed_trimLoop manager hpaired hinit
      rwa [length_take_of_le (Nat.le_of_lt hlong)] at hrun ⊢
    · -- the loop is empty
      have hstays : manager.trimLoop start messages [] = (messages, []) := by
        unfold trimLoop
        simp [Nat.not_lt.mpr hshort]
      rw [hstays]
      exact ⟨hinit, .inr (by simp [hshort])⟩
  obtain ⟨⟨done, rest, d, rfl, hd, hmsgs, hnames⟩, hfits⟩ := hend
  refine ⟨done, rest, d, _, rfl, hd, rfl, hmsgs, ?_, hnames, rfl, hfits.imp_right fun hle => ?_⟩
  · have hquiet := quiet_note fun b hb => hpaired b (mem_append_left _ hb)
    exact pairedLoop_append (fun m hm => hquiet m (mem_of_mem_drop hm)) fun b hb =>
      hpaired b (mem_append_right _ hb)
  · rw [hmsgs, length_append] at hle
    exact length_eq_zero_iff.mp (by omega)

/-- A turn with one exchange in its loop. -/
def listTurn : List LlmMessage :=
  [⟨.user, some "hi", none, none⟩, ⟨.assistant, none, some [⟨"1", "list", "[]"⟩], none⟩,
    ⟨.tool, some "[]", none, some "1"⟩]

/-- The one exchange of the turn does not fit and is trimmed. -/
theorem trimLoopMessages_spec_listTurn :
    let r := trimLoopMessages ⟨0, .arr []⟩ listTurn 1
    ∃ done rest d loop, [.exchange listTurn[1] [listTurn[2]]] = done ++ rest ∧
      (d = 0 ∨ rest = []) ∧ loop = (done.map Block.note).drop d ++ rest.flatMap Block.messages ∧
      r.1 = listTurn.take 1 ++ loop ∧ PairedLoop loop ∧
      r.2.droppedToolNames = done.flatMap Block.callNames ∧ r.2.fits = fits ⟨0, .arr []⟩ r.1 ∧
      (r.2.fits = true ∨ loop = []) :=
  trimLoopMessages_spec _ _ 1 _ (by simp [listTurn, Block.Paired, LlmMessage.calls]) rfl

end Blocks

end ContextManager

end WispaceBot
