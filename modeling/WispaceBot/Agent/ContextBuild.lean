import WispaceBot.Agent.ContextManager

/-!
# The first context of a turn

`ContextManager.build` composes the system prompt, the history and the text of the learner.  When
they exceed the budget it leaves out the learner profile, then the reasoning instruction, then
entries of the history.  The estimate of a list depends only on which messages it has, so a list
with fewer messages never costs more.
-/

namespace WispaceBot

open List

inductive ChatHistoryRole
  | user
  | assistant
  | toolSummary
  deriving DecidableEq

structure ChatHistoryMessage where
  role : ChatHistoryRole
  content : String

structure LlmAgentPromptParts where
  (core overlay promptCanary : String)
  (identityDisplayName learnerProfile : Option String)

structure LlmAgentInput where
  (userText systemPrompt : String)
  systemPromptParts : Option LlmAgentPromptParts
  history : Option (List ChatHistoryMessage)

def composeChatSystemPrompt (parts : LlmAgentPromptParts) : String :=
  let base := parts.core ++ "\n\n" ++ parts.overlay ++ "\n\n" ++
    "Process marker: " ++ parts.promptCanary
  let suffix := "\n\n".intercalate
    (([parts.identityDisplayName, parts.learnerProfile].filter (!isFalsy ·)).filterMap id)
  if suffix = "" then base else base ++ "\n\n" ++ suffix

def reasoningInstruction : String :=
  "---\n" ++
  "Trước khi trả lời, hãy:\n" ++
  "1. Xác định ý định của học viên (tiến độ học, lịch học, đổi lịch, hay câu hỏi chung).\n" ++
  "2. Nếu cần dữ liệu từ nhiều tool, hãy gọi tất cả trong cùng một lượt để tiết kiệm thời gian.\n"
  ++ "3. Chỉ trả lời bằng văn bản sau khi đã có đủ dữ liệu cần thiết."

def replayedToolSummaryMarker : String :=
  "[Previous-turn tool summary; may be stale. Fresh current-turn tool data takes precedence.]"

/-- The parts of the prompt that may be left out. -/
inductive ContextPartName
  | learnerProfile
  | reasoningInstruction
  deriving DecidableEq

structure ContextBuildResult where
  messages : List LlmMessage
  fits : Bool
  droppedHistoryTokens : ℕ
  droppedContextParts : List ContextPartName

/-- The filters of the safety modules: `sanitizeUntrustedTextForLlm`, with the text if it was
changed, and `redactSecrets`. -/
structure TextFilters where
  sanitizeUntrustedTextForLlm : String → Option String
  redactSecrets : String → String

/-! ## Choosing the history -/

section Selection

variable {α : Type*} (fits : List α → Bool) (tokens : α → ℕ)

/-- The oldest entries go until the rest fits. -/
def dropOldest : List α → ℕ → List α × ℕ
  | [], dropped => ([], dropped)
  | removed :: selected, dropped =>
    if fits (removed :: selected) then (removed :: selected, dropped)
    else dropOldest selected (dropped + tokens removed)

/-- The scan from the newest entry, given first, which tests an entry behind those selected. -/
def scanNewest : List α → List α → ℕ → List α × ℕ
  | [], selected, dropped => (selected, dropped)
  | entry :: older, selected, dropped =>
    if fits (selected ++ [entry]) then scanNewest older (entry :: selected) dropped
    else scanNewest older selected (dropped + tokens entry)

def selectHistory (history : List α) : List α × ℕ :=
  if fits history then (history, 0)
  else if history.getLast?.any fun newest => fits [newest] then dropOldest fits tokens history 0
  else scanNewest fits tokens history.reverse [] 0

/-- The selection is the longest end of the history that fits. -/
def LongestSuffix (history selected : List α) : Prop :=
  selected <:+ history ∧ fits selected = true ∧
    ∀ l, l <:+ history → fits l = true → l.length ≤ selected.length

variable {fits}

lemma dropOldest_longest (history : List α) (dropped : ℕ) (h : fits [] = true) :
    LongestSuffix fits history (dropOldest fits tokens history dropped).1 := by
  induction history generalizing dropped with
  | nil => exact ⟨suffix_rfl, h, fun l hl _ => hl.length_le⟩
  | cons removed _ ih =>
    unfold dropOldest
    split
    case isTrue hfits => exact ⟨suffix_rfl, hfits, fun l hl _ => hl.length_le⟩
    case isFalse hfits =>
      obtain ⟨hsuffix, hsel, hlongest⟩ := ih (dropped + tokens removed)
      refine ⟨hsuffix.trans (suffix_cons ..), hsel, fun l hl hl' => ?_⟩
      rcases suffix_cons_iff.mp hl with rfl | hl
      · exact absurd hl' hfits
      · exact hlongest l hl hl'

variable (hmono : ∀ l l' : List α, l.Subperm l' → fits l' = true → fits l = true)

include hmono

lemma scanNewest_spec (older selected : List α) (dropped : ℕ) (h : fits selected = true) :
    let r := scanNewest fits tokens older selected dropped
    r.1.Sublist (older.reverse ++ selected) ∧ fits r.1 = true := by
  induction older generalizing selected dropped with
  | nil => exact ⟨List.Sublist.refl _, h⟩
  | cons entry _ ih =>
    unfold scanNewest
    split
    case isTrue hfits =>
      -- the entry is tested behind the others and put before them
      have hperm : (entry :: selected).Perm (selected ++ [entry]) := by
        simpa using @List.perm_append_comm _ [entry] selected
      simpa using ih (entry :: selected) dropped (hmono _ _ hperm.subperm hfits)
    case isFalse hfits =>
      obtain ⟨hsub, hrest⟩ := ih selected (dropped + tokens entry) h
      refine ⟨hsub.trans ?_, hrest⟩
      simp

lemma selectHistory_spec (history : List α) (h : fits [] = true) :
    let selected := (selectHistory fits tokens history).1
    fits selected = true ∧ selected.Sublist history ∧
      (fits history = true → selected = history) ∧
      ((history.getLast?.any fun newest => fits [newest]) = true →
        LongestSuffix fits history selected) := by
  unfold selectHistory
  split
  case isTrue hfits =>
    exact ⟨hfits, List.Sublist.refl _, fun _ => rfl, fun _ =>
      ⟨suffix_rfl, hfits, fun l hl _ => hl.length_le⟩⟩
  case isFalse hfits =>
    split
    case isTrue hnewest =>
      have hlongest := dropOldest_longest tokens history 0 h
      exact ⟨hlongest.2.1, hlongest.1.sublist, fun h => absurd h hfits, fun _ => hlongest⟩
    case isFalse hnewest =>
      obtain ⟨hsub, hscan⟩ := scanNewest_spec tokens hmono history.reverse [] 0 h
      exact ⟨hscan, by simpa using hsub, fun h => absurd h hfits, fun h => absurd h hnewest⟩

end Selection

namespace ContextManager

/-! ## Building the context -/

def toMessages (history : List ChatHistoryMessage) : List LlmMessage :=
  history.map fun entry =>
    match entry.role with
    | .toolSummary =>
      ⟨.assistant, some (replayedToolSummaryMarker ++ "\n" ++ entry.content), none, none⟩
    | .user => ⟨.user, some entry.content, none, none⟩
    | .assistant => ⟨.assistant, some entry.content, none, none⟩

def buildSystemMessage (systemPrompt : String) (promptParts : Option LlmAgentPromptParts)
    (includeLearnerProfile includeReasoningInstruction : Bool) : LlmMessage :=
  let composedPrompt := match promptParts with
    | some parts => composeChatSystemPrompt
      { parts with learnerProfile := if includeLearnerProfile then parts.learnerProfile else none }
    | none => systemPrompt
  ⟨.system, some (if includeReasoningInstruction
    then composedPrompt ++ "\n\n" ++ reasoningInstruction else composedPrompt), none, none⟩

def sanitizeHistory (filters : TextFilters) (history : List ChatHistoryMessage) :
    List ChatHistoryMessage :=
  history.map fun entry =>
    { entry with content := (filters.sanitizeUntrustedTextForLlm entry.content).getD entry.content }

/-- The messages with these entries of the history. -/
def context (system user : LlmMessage) (entries : List ChatHistoryMessage) : List LlmMessage :=
  system :: (toMessages entries ++ [user])

def droppedParts (dropProfile dropReasoning : Bool) : List ContextPartName :=
  (if dropProfile then [.learnerProfile] else []) ++
    if dropReasoning then [.reasoningInstruction] else []

/-- What `build` reads of its input: the text of the learner, the history behind the filters, and
the system prompt with or without the learner profile and the reasoning instruction. -/
structure Turn where
  user : LlmMessage
  history : List ChatHistoryMessage
  hasLearnerProfile : Bool
  systemWith : Bool → Bool → LlmMessage

def turnOf (filters : TextFilters) (input : LlmAgentInput) : Turn where
  user := ⟨.user, some (filters.redactSecrets (trim input.userText)), none, none⟩
  history := sanitizeHistory filters (input.history.getD [])
  hasLearnerProfile := !isFalsy (input.systemPromptParts.bind (·.learnerProfile))
  systemWith := buildSystemMessage input.systemPrompt input.systemPromptParts

section Build

variable (manager : ContextManager) (t : Turn)

def exceedsBudget (system : LlmMessage) : Bool :=
  !manager.fits (context system t.user t.history)

def dropsProfile : Bool :=
  t.hasLearnerProfile && manager.exceedsBudget t (t.systemWith t.hasLearnerProfile true)

def includesProfile : Bool :=
  t.hasLearnerProfile && !manager.dropsProfile t

def dropsReasoning : Bool :=
  manager.exceedsBudget t (t.systemWith (manager.includesProfile t) true)

def retainedSystem : LlmMessage :=
  t.systemWith (manager.includesProfile t) !manager.dropsReasoning t

def selectedHistory : List ChatHistoryMessage × ℕ :=
  selectHistory (fun entries => manager.fits (context (manager.retainedSystem t) t.user entries))
    (fun entry => estimateTokens entry.content.toList) t.history

def buildTurn : ContextBuildResult :=
  let system := manager.retainedSystem t
  let droppedContextParts := droppedParts (manager.dropsProfile t) (manager.dropsReasoning t)
  if manager.fits [system, t.user] then
    let messages := context system t.user (manager.selectedHistory t).1
    ⟨messages, manager.fits messages, (manager.selectedHistory t).2, droppedContextParts⟩
  else ⟨[system, t.user], false, 0, droppedContextParts⟩

def build (filters : TextFilters) (input : LlmAgentInput) : ContextBuildResult :=
  manager.buildTurn (turnOf filters input)

variable {manager t}

/-- Unless the instruction is dropped, the whole history was seen to fit. -/
lemma fits_of_dropsReasoning (h : manager.dropsReasoning t = false) :
    manager.fits (context (manager.retainedSystem t) t.user t.history) = true := by
  rw [retainedSystem, h]
  simpa [dropsReasoning, exceedsBudget] using h

lemma dropsProfile_of_dropsReasoning (h : manager.dropsReasoning t = true)
    (hprofile : t.hasLearnerProfile = true) : manager.dropsProfile t = true := by
  cases hkept : manager.dropsProfile t with
  | true => rfl
  | false =>
    have hincluded : manager.includesProfile t = true := by
      simp [includesProfile, hprofile, hkept]
    rw [dropsReasoning, hincluded] at h
    simp [dropsProfile, hprofile, h] at hkept

end Build

section Estimate

variable {manager : ContextManager}

/-- What a message adds to the estimate, in quarters and with the comma or bracket behind it. -/
def messageQuarters (m : LlmMessage) : ℕ :=
  (m.toJson.write.map tokenQuarters).sum + 3

lemma quarters_writeElems (msgs : List LlmMessage) :
    ((Json.writeElems (msgs.map LlmMessage.toJson)).map tokenQuarters).sum =
      (msgs.map messageQuarters).sum + 3 := by
  induction msgs with
  | nil => rfl
  | cons _ _ ih =>
    have hcomma : tokenQuarters Json.comma = 3 := by decide
    simp only [map_cons, Json.writeElems, map_append, sum_cons, sum_append,
      ih, hcomma, messageQuarters]
    omega

lemma estimateContextTokens_cons (m : LlmMessage) (msgs : List LlmMessage) :
    manager.estimateContextTokens (m :: msgs) =
      (((m :: msgs).map messageQuarters).sum + 6) / 4 +
        estimateTokens manager.toolDefinitions.write := by
  have hbracket : tokenQuarters Json.openBracket = 3 := by decide
  simp only [estimateContextTokens, estimateTokens, map_cons, Json.write, map_append,
    sum_cons, sum_append, quarters_writeElems, hbracket, messageQuarters]
  congr 2
  omega

lemma fits_of_subperm {m n : LlmMessage} {ms ns : List LlmMessage}
    (h : (m :: ms).Subperm (n :: ns)) (hfits : manager.fits (n :: ns) = true) :
    manager.fits (m :: ms) = true := by
  obtain ⟨_, hperm, hsub⟩ := h
  have hle : ((m :: ms).map messageQuarters).sum ≤ ((n :: ns).map messageQuarters).sum := by
    rw [← (hperm.map messageQuarters).sum_eq]
    exact (hsub.map messageQuarters).sum_le_sum fun _ _ => Nat.zero_le _
  simp only [fits, decide_eq_true_eq, estimateContextTokens_cons] at hfits ⊢
  omega

lemma fits_of_append {text rest : String} {ms : List LlmMessage}
    (h : manager.fits (⟨.system, some (text ++ rest), none, none⟩ :: ms) = true) :
    manager.fits (⟨.system, some text, none, none⟩ :: ms) = true := by
  have hle : messageQuarters ⟨.system, some text, none, none⟩ ≤
      messageQuarters ⟨.system, some (text ++ rest), none, none⟩ := by
    simp [messageQuarters, LlmMessage.toJson, Json.ofProperties, Json.write, Json.writeFields,
      Json.writeString]
  simp only [fits, decide_eq_true_eq, estimateContextTokens_cons, map_cons, sum_cons] at h ⊢
  omega


lemma fits_context_of_subperm {system user : LlmMessage} (l l' : List ChatHistoryMessage)
    (h : l.Subperm l') (hfits : manager.fits (context system user l') = true) :
    manager.fits (context system user l) = true := by
  refine fits_of_subperm ?_ hfits
  obtain ⟨k, hperm, hsub⟩ := h
  exact ⟨context system user k, ((hperm.map _).append_right _).cons _,
    ((hsub.map _).append_right _).cons_cons _⟩

end Estimate

section Parts

variable {dropProfile dropReasoning : Bool}

@[simp] lemma learnerProfile_mem_droppedParts :
    .learnerProfile ∈ droppedParts dropProfile dropReasoning ↔ dropProfile = true := by
  cases dropProfile <;> cases dropReasoning <;> simp [droppedParts]

@[simp] lemma reasoningInstruction_mem_droppedParts :
    .reasoningInstruction ∈ droppedParts dropProfile dropReasoning ↔ dropReasoning = true := by
  cases dropProfile <;> cases dropReasoning <;> simp [droppedParts]

end Parts

/-! ## The messages -/

/-- A part of a prompt behind the parts before it. -/
def partText (part : Option String) : String :=
  if isFalsy part then "" else "\n\n" ++ part.getD ""

/-- The text of a system prompt with or without the learner profile and the instruction. -/
def promptText (input : LlmAgentInput) (profile reasoning : Bool) : String :=
  (match input.systemPromptParts with
    | some parts => parts.core ++ "\n\n" ++ parts.overlay ++ "\n\nProcess marker: " ++
      parts.promptCanary ++ partText parts.identityDisplayName ++
        if profile then partText parts.learnerProfile else ""
    | none => input.systemPrompt) ++ if reasoning then "\n\n" ++ reasoningInstruction else ""

/-- A message repeats an entry of the history, with a marker if the entry sums a tool up. -/
def Replays (entry : ChatHistoryMessage) (m : LlmMessage) : Prop :=
  m.role = (if entry.role = .user then .user else .assistant) ∧
    m.content = some ((if entry.role = .toolSummary then replayedToolSummaryMarker ++ "\n"
      else "") ++ entry.content) ∧
    m.toolCalls = none ∧ m.toolCallId = none

lemma composeChatSystemPrompt_eq (parts : LlmAgentPromptParts) :
    composeChatSystemPrompt parts = parts.core ++ "\n\n" ++ parts.overlay ++
      "\n\nProcess marker: " ++ parts.promptCanary ++ partText parts.identityDisplayName ++
        partText parts.learnerProfile := by
  have hmarker : ∀ rest : String, "\n\n" ++ ("Process marker: " ++ rest) =
      "\n\nProcess marker: " ++ rest := fun rest => (String.append_assoc ..).symm
  have hparts : ∀ part, isFalsy part = true ∨ ∃ text, part = some text ∧ text ≠ "" := by
    rintro (_ | text)
    · exact .inl rfl
    · by_cases htext : text = ""
      · exact .inl (by simp [isFalsy, htext])
      · exact .inr ⟨text, rfl, htext⟩
  unfold composeChatSystemPrompt partText
  rcases hparts parts.identityDisplayName with hid | ⟨name, hname, hne⟩ <;>
    rcases hparts parts.learnerProfile with hprofile | ⟨text, htext, hne'⟩ <;>
    simp_all [isFalsy, String.append_assoc]

lemma buildSystemMessage_eq (input : LlmAgentInput) (profile reasoning : Bool) :
    buildSystemMessage input.systemPrompt input.systemPromptParts profile reasoning =
      ⟨.system, some (promptText input profile reasoning), none, none⟩ := by
  unfold buildSystemMessage promptText
  cases input.systemPromptParts with
  | none => cases reasoning <;> simp [String.append_assoc]
  | some parts =>
    have hnone : partText none = "" := rfl
    cases reasoning <;> cases profile <;>
      simp [composeChatSystemPrompt_eq, hnone, String.append_assoc]

lemma replays_toMessages (entries : List ChatHistoryMessage) :
    Forall₂ Replays entries (toMessages entries) := by
  refine forall₂_map_right_iff.mpr (forall₂_same.mpr fun entry _ => ?_)
  cases hrole : entry.role <;> simp [Replays, hrole]

lemma systemWith_turnOf (filters : TextFilters) (input : LlmAgentInput) (profile reasoning : Bool) :
    (turnOf filters input).systemWith profile reasoning =
      ⟨.system, some (promptText input profile reasoning), none, none⟩ :=
  buildSystemMessage_eq input profile reasoning

lemma retainedSystem_eq (manager : ContextManager) (filters : TextFilters)
    (input : LlmAgentInput) :
    let t := turnOf filters input
    manager.retainedSystem t = ⟨.system, some (promptText input
      (decide ¬ manager.dropsProfile t = true) (decide ¬ manager.dropsReasoning t = true)), none,
      none⟩ := by
  intro t
  have hsys : manager.retainedSystem t = t.systemWith
      (t.hasLearnerProfile && decide ¬ manager.dropsProfile t = true)
      (decide ¬ manager.dropsReasoning t = true) := by
    simp [retainedSystem, includesProfile]
  rw [hsys, systemWith_turnOf]
  cases hprofile : t.hasLearnerProfile with
  | true => rw [Bool.true_and]
  | false =>
    -- an empty profile adds nothing, whether it is kept or not
    have hempty : isFalsy (input.systemPromptParts.bind (·.learnerProfile)) = true := by
      simpa [t, turnOf] using hprofile
    unfold promptText
    cases hparts : input.systemPromptParts with
    | none => rfl
    | some parts =>
      rw [hparts, Option.bind_some] at hempty
      simp [partText, hempty]

/-- What `build` leaves out and what it keeps: the system message has the parts of the prompt that
were not dropped, the messages behind it repeat the retained entries, and the text of the learner is
the last one.  The parts go in their order and before any entry of the history. -/
theorem build_spec (manager : ContextManager) (filters : TextFilters) (input : LlmAgentInput) :
    let r := manager.build filters input
    let user : LlmMessage := ⟨.user, some (filters.redactSecrets (trim input.userText)), none, none⟩
    let history : List ChatHistoryMessage := (input.history.getD []).map fun entry =>
      ⟨entry.role, (filters.sanitizeUntrustedTextForLlm entry.content).getD entry.content⟩
    ∃ system retained replayed, r.messages = system :: (replayed ++ [user]) ∧
      Forall₂ Replays retained replayed ∧
      system = ⟨.system, some (promptText input
        (decide (.learnerProfile ∉ r.droppedContextParts))
        (decide (.reasoningInstruction ∉ r.droppedContextParts))), none, none⟩ ∧
      r.fits = manager.fits [system, user] ∧ (r.fits = true → manager.fits r.messages = true) ∧
      r.droppedContextParts.Sublist [.learnerProfile, .reasoningInstruction] ∧
      (.reasoningInstruction ∈ r.droppedContextParts →
        isFalsy (input.systemPromptParts.bind (·.learnerProfile)) = false →
        .learnerProfile ∈ r.droppedContextParts) ∧
      (retained ≠ history → .reasoningInstruction ∈ r.droppedContextParts) ∧
      retained.Sublist history ∧
      (manager.fits (context system user history) = true → retained = history) ∧
      ((history.getLast?.any fun newest => manager.fits (context system user [newest])) = true →
        LongestSuffix (fun entries => manager.fits (context system user entries)) history
          retained) := by
  intro r user history
  let t := turnOf filters input
  let system := manager.retainedSystem t
  have hsys := retainedSystem_eq manager filters input
  have hmono : ∀ l l' : List ChatHistoryMessage, l.Subperm l' →
      manager.fits (context system t.user l') = true →
      manager.fits (context system t.user l) = true := fits_context_of_subperm
  have hwhole : manager.dropsReasoning t ≠ true →
      manager.fits (context system t.user t.history) = true := fun h =>
    fits_of_dropsReasoning (by simpa using h)
  have hsublist : ∀ a b, (droppedParts a b).Sublist [.learnerProfile, .reasoningInstruction] := by
    decide
  have hprofile : manager.dropsReasoning t = true →
      isFalsy (input.systemPromptParts.bind (·.learnerProfile)) = false →
        manager.dropsProfile t = true := fun h hprofile =>
    dropsProfile_of_dropsReasoning h (by simp [t, turnOf, hprofile])
  unfold r build buildTurn
  cases hfixed : manager.fits [system, t.user] with
  | true =>
    obtain ⟨hfits, hsub, hall, hlongest⟩ := selectHistory_spec
      (fun entry => estimateTokens entry.content.toList) hmono t.history hfixed
    rw [if_pos hfixed]
    simp only [learnerProfile_mem_droppedParts, reasoningInstruction_mem_droppedParts]
    refine ⟨system, (manager.selectedHistory t).1, _, rfl, replays_toMessages _, hsys,
      hfits.trans hfixed.symm, id, hsublist _ _, hprofile, fun hne => ?_, hsub, hall, hlongest⟩
    by_contra hkept
    exact hne (hall (hwhole hkept))
  | false =>
    -- with fewer messages the context costs no more, so no choice of the history fits
    have hnone : ∀ l, manager.fits (context system t.user l) = true → False := fun l hl =>
      Bool.false_ne_true (hfixed.symm.trans (hmono [] l nil_subperm hl))
    rw [if_neg (by rw [hfixed]; exact Bool.false_ne_true)]
    simp only [learnerProfile_mem_droppedParts, reasoningInstruction_mem_droppedParts]
    refine ⟨system, [], [], rfl, .nil, hsys, hfixed.symm, by simp, hsublist _ _, hprofile,
      fun _ => ?_, nil_sublist _, fun h => (hnone _ h).elim, fun h => ?_⟩
    · by_contra hkept
      exact hnone _ (hwhole hkept)
    · cases hlast : history.getLast? with
      | none => simp [hlast] at h
      | some newest =>
        have hnewest : manager.fits (context system user [newest]) = true := by
          simpa [hlast] using h
        exact (hnone [newest] hnewest).elim

/-- A turn with two entries in its history. -/
def twoEntries : LlmAgentInput :=
  ⟨" hi ", "prompt", none, some [⟨.user, "older"⟩, ⟨.assistant, "newer"⟩]⟩

/-- A budget for one of the entries. -/
def tight : ContextManager := ⟨100, .arr []⟩

/-- The instruction and the older entry are dropped. -/
theorem build_spec_twoEntries :
    let r := tight.build ⟨fun _ => none, id⟩ twoEntries
    r.droppedContextParts = [.reasoningInstruction] ∧
      r.messages = [⟨.system, some "prompt", none, none⟩, ⟨.assistant, some "newer", none, none⟩,
        ⟨.user, some "hi", none, none⟩] ∧ tight.fits r.messages = true := by
  obtain ⟨_, _, _, -, -, -, -, hwithin, -⟩ := build_spec tight ⟨fun _ => none, id⟩ twoEntries
  obtain ⟨t, ht⟩ : ∃ t, turnOf ⟨fun _ => none, id⟩ twoEntries = t := ⟨_, rfl⟩
  have hprofile : tight.dropsProfile t = false := by
    rw [← ht]
    rfl
  have hreasoning : tight.dropsReasoning t = true := by
    -- the history does not even fit behind the bare prompt
    rw [dropsReasoning, exceedsBudget, ← ht, systemWith_turnOf, Bool.not_eq_true',
      ← Bool.not_eq_true]
    exact fun hlong => absurd (fits_of_append hlong) (by decide +kernel)
  have hsystem : tight.retainedSystem t = ⟨.system, some "prompt", none, none⟩ := by
    rw [retainedSystem, hreasoning, ← ht]
    rfl
  have hfixed : tight.fits [tight.retainedSystem t, t.user] = true := by
    rw [hsystem, ← ht]
    decide +kernel
  have hselected : context (tight.retainedSystem t) t.user (tight.selectedHistory t).1 =
      [⟨.system, some "prompt", none, none⟩, ⟨.assistant, some "newer", none, none⟩,
        ⟨.user, some "hi", none, none⟩] := by
    rw [selectedHistory, hsystem, ← ht]
    decide +kernel
  rw [build, ht, buildTurn, if_pos hfixed, hprofile, hreasoning, hselected] at hwithin ⊢
  have hlast : tight.fits [⟨.system, some "prompt", none, none⟩,
      ⟨.assistant, some "newer", none, none⟩, ⟨.user, some "hi", none, none⟩] = true := by
    decide +kernel
  dsimp only at hwithin ⊢
  exact ⟨rfl, rfl, hwithin hlast⟩

end ContextManager

end WispaceBot
