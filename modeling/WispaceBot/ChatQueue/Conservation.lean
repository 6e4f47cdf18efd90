import WispaceBot.ChatQueue.Erasure
import WispaceBot.ChatQueue.Refinement
import WispaceBot.Foundation.Run

/-!
# No message of the chat queue is lost, doubled or reordered

`TracedQueue` runs the queue of one user with every message marked by its number of arrival, and
keeps a `LeasedBatch.Ledger` of what the operations report.  Tokens are fresh and idempotency keys
distinct; otherwise workers may call anything.  Erasing the marks gives the run of the queue itself
(`TracedQueue.erase_run`).
-/

namespace WispaceBot

open LeasedBatch RedisChatQueueStore Transition QueueOp

variable {τ γ : Type} {settings : RedisChatQueueSettings}

/-! ## The keys a record remembers -/

variable {clock : ℕ → ℤ} {state next : RedisChatQueueBufferState τ γ}

lemma idempotencyKeys_claimReadyBuffer {ext tok : String} {stuckMs : ℤ}
    (h : (claimReadyBuffer settings clock ext tok stuckMs state).1 =
      some next) : next.idempotencyKeys = state.idempotencyKeys := by
  unfold claimReadyBuffer claimWaiting at h
  split_ifs at h <;> cases h <;> rfl

variable {leaseToken : String}

lemma idempotencyKeys_scheduleRetryFlush {retryDelayMs : ℤ}
    (h : (scheduleRetryFlush settings clock retryDelayMs leaseToken state).1 = some next) :
    next.idempotencyKeys = state.idempotencyKeys := by
  unfold scheduleRetryFlush at h
  split_ifs at h <;> cases h <;> rfl

lemma idempotencyKeys_completeChatBuffer {ms : ℤ}
    (h : (completeChatBuffer clock ms leaseToken state).1 = some next) :
    next.idempotencyKeys = state.idempotencyKeys := by
  unfold completeChatBuffer at h
  split_ifs at h
  cases h
  rfl

lemma mem_idempotencyKeys_appendChatBuffer {input : AppendChatBufferInput τ γ} {key : String}
    (h : appendChatBuffer settings clock input state = some next)
    (hkey : key ∈ next.idempotencyKeys) :
    key ∈ state.idempotencyKeys ∨ givenKey input = some key := by
  have hkeys : next.idempotencyKeys = (rememberKey input state).idempotencyKeys := by
    unfold appendChatBuffer at h
    split_ifs at h
    cases h
    unfold attach push revive
    split_ifs <;> rfl
  rw [hkeys, rememberKey] at hkey
  cases hgiven : givenKey input with
  | none => exact .inl (by simpa [hgiven] using hkey)
  | some =>
    simp only [hgiven] at hkey
    rcases List.mem_append.mp (List.mem_of_mem_drop hkey) with hold | hnew
    · exact .inl hold
    · exact .inr (congrArg some (List.mem_singleton.mp hnew).symm)

/-! ## The queue with its ledger -/

/-- The queue of one user, its messages marked by their numbers of arrival, and what was seen. -/
structure TracedQueue (τ γ : Type) where
  stored : Option (RedisChatQueueBufferState (τ × ℕ) γ)
  ledger : Ledger (τ × ℕ) String
  keys : List String

namespace TracedQueue

variable {s t : TracedQueue τ γ} {op : QueueOp τ γ} {ops : List (QueueOp τ γ)}

def initial : TracedQueue τ γ := ⟨none, .blank, []⟩

def marked (s : TracedQueue τ γ) (op : QueueOp τ γ) : QueueOp (τ × ℕ) γ :=
  op.map fun text => (text, s.ledger.arrived.length)

/-- Idempotency keys are distinct, tokens are fresh and the buffer is not cleared. -/
def enabled (s : TracedQueue τ γ) : QueueOp τ γ → Bool
  | .append _ input => (givenKey input).all fun key => decide (key ∉ s.keys)
  | .claim _ _ leaseToken _ => decide (leaseToken ∉ s.ledger.handedOut.map Prod.fst)
  | .retry _ _ _ _ => true
  | .complete _ _ _ _ => true
  | .clear _ => false

def usedKey : QueueOp τ γ → List String
  | .append _ input => (givenKey input).toList
  | _ => []

def step (settings : RedisChatQueueSettings) (s : TracedQueue τ γ) (op : QueueOp τ γ) :
    Option (TracedQueue τ γ) :=
  if s.enabled op then
    some
      { stored := (s.marked op).apply settings s.stored
        ledger := s.ledger.record ((s.marked op).label settings s.stored)
        keys := s.keys ++ usedKey op }
  else none

lemma step_eq_some (h : step settings s op = some t) :
    s.enabled op = true ∧ t =
      { stored := (s.marked op).apply settings s.stored
        ledger := s.ledger.record ((s.marked op).label settings s.stored)
        keys := s.keys ++ usedKey op } := by
  unfold step at h
  split_ifs at h with henabled
  exact ⟨henabled, (Option.some.inj h).symm⟩

def appendedText : QueueOp τ γ → Option τ
  | .append _ input => some input.userText
  | _ => none

/-! ## Erasing the marks -/

def erase (s : TracedQueue τ γ) : Option (RedisChatQueueBufferState τ γ) :=
  s.stored.map (·.map Prod.fst)

lemma map_marked (s : TracedQueue τ γ) (op : QueueOp τ γ) : (s.marked op).map Prod.fst = op := by
  cases op <;> rfl

lemma erase_step (h : step settings s op = some t) : t.erase = op.apply settings s.erase := by
  obtain ⟨-, rfl⟩ := step_eq_some h
  rw [erase, erase, ← apply_map, map_marked]

lemma erase_run (h : run (step settings) s ops = some t) :
    t.erase = ops.foldl (fun stored op => op.apply settings stored) s.erase := by
  induction ops generalizing s with
  | nil =>
    obtain rfl : s = t := by simpa using h
    rfl
  | cons _ _ ih =>
    obtain ⟨_, hu, hrest⟩ := run_cons_eq_some.mp h
    rw [List.foldl_cons, ← erase_step hu]
    exact ih hrest

/-! ## The invariant -/

/-- The ledger accounts for the record. -/
structure Consistent [DecidableEq τ] (s : TracedQueue τ γ) : Prop where
  wellFormed : StoredWellFormed s.stored
  conserved : Conserved (phase s.stored) s.ledger
  numbered : s.ledger.arrived = (s.ledger.arrived.map Prod.fst).zipIdx
  keys : ∀ state, s.stored = some state → ∀ key ∈ state.idempotencyKeys, key ∈ s.keys
  tokens : (s.ledger.handedOut.map Prod.fst).Nodup

variable [DecidableEq τ]

lemma consistent_initial : Consistent (initial : TracedQueue τ γ) where
  wellFormed := storedWellFormed_none
  conserved := .blank
  numbered := rfl
  keys := by simp [initial]
  tokens := List.nodup_nil

namespace Consistent

lemma not_isDuplicate (h : Consistent s) {clock : ℕ → ℤ} {input : AppendChatBufferInput τ γ}
    (henabled : s.enabled (.append clock input) = true) (now : ℤ)
    (mark : τ → τ × ℕ) : isDuplicate (input.map mark) (readState now s.stored) = false := by
  rw [isDuplicate, Option.any_eq_false_iff_get]
  intro hsome
  set key := (givenKey (input.map mark)).get hsome with hdef
  have hgiven : givenKey input = some key := (Option.some_get hsome).symm
  have hunused : key ∉ s.keys := by simpa [enabled, hgiven] using henabled
  cases hsto : s.stored with
  | none => simp [readState, emptyState]
  | some state =>
    have hnot : key ∉ state.idempotencyKeys := fun hmem => hunused (h.keys state hsto key hmem)
    simpa [readState] using hnot

lemma mark_lt (h : Consistent s) {m : τ × ℕ} (hm : m ∈ s.ledger.arrived) :
    m.2 < s.ledger.arrived.length := by
  rw [h.numbered] at hm
  simpa using List.snd_lt_of_mem_zipIdx hm

omit [DecidableEq τ] in
lemma eq_of_accept {m : τ × ℕ} {lost : List (τ × ℕ)}
    (hlabel : (s.marked op).label settings s.stored = .accept m lost) :
    ∃ clock input, op = .append clock input ∧ m = (input.userText, s.ledger.arrived.length) := by
  obtain ⟨_, _, hop, rfl, -⟩ := label_eq_accept hlabel
  cases op with
  | append clock' input' =>
    obtain ⟨rfl, rfl⟩ := append.inj hop
    exact ⟨clock', input', rfl, rfl⟩
  | _ => cases hop

omit [DecidableEq τ] in
lemma lease_not_mem {lease : String} {batch : List (τ × ℕ)} {notice : Bool}
    (hlabel : (s.marked op).label settings s.stored = .handOut lease batch notice)
    (henabled : s.enabled op = true) : lease ∉ s.ledger.handedOut.map Prod.fst := by
  obtain ⟨_, _, _, _, hop, -⟩ := label_eq_handOut hlabel
  cases op with
  | claim =>
    obtain ⟨rfl, rfl, rfl, rfl⟩ := claim.inj hop
    exact of_decide_eq_true henabled
  | _ => cases hop

lemma keys_apply (h : Consistent s) (op : QueueOp τ γ) {state : RedisChatQueueBufferState (τ × ℕ) γ}
    (hstate : (s.marked op).apply settings s.stored = some state) {key : String}
    (hkey : key ∈ state.idempotencyKeys) : key ∈ s.keys ++ usedKey op := by
  have hread : ∀ now, ∀ key ∈ (readState now s.stored).idempotencyKeys, key ∈ s.keys := by
    intro _ key hkey
    cases hsto : s.stored with
    | none => simp [readState, emptyState, hsto] at hkey
    | some old => exact h.keys old hsto key (by simpa [readState, hsto] using hkey)
  rcases apply_eq_some hstate with hwrote | ⟨-, hsto⟩
  · cases op with
    | append _ input =>
      rcases mem_idempotencyKeys_appendChatBuffer hwrote hkey with hold | hgiven
      · exact List.mem_append_left _ (hread _ key hold)
      · have hused : givenKey input = some key := hgiven
        exact List.mem_append_right _ (by simp [usedKey, hused])
    | claim =>
      rw [idempotencyKeys_claimReadyBuffer hwrote] at hkey
      exact List.mem_append_left _ (hread _ key hkey)
    | retry =>
      rw [idempotencyKeys_scheduleRetryFlush hwrote] at hkey
      exact List.mem_append_left _ (hread _ key hkey)
    | complete =>
      rw [idempotencyKeys_completeChatBuffer hwrote] at hkey
      exact List.mem_append_left _ (hread _ key hkey)
    | clear => cases hwrote
  · exact List.mem_append_left _ (h.keys state hsto key hkey)

lemma step (h : Consistent s) (hstep : s.step settings op = some t) : Consistent t := by
  obtain ⟨henabled, rfl⟩ := step_eq_some hstep
  have hmove := (s.marked op).move_apply settings h.wellFormed
  refine ⟨(s.marked op).wellFormed_apply settings h.wellFormed, ?_, ?_, ?_, ?_⟩
  · refine h.conserved.move hmove ?_ ?_
    · intro _ _ hlabel hm
      obtain ⟨clock, input, -, rfl⟩ := eq_of_accept hlabel
      exact absurd (h.mark_lt hm) (Nat.lt_irrefl _)
    · intro hlabel
      obtain ⟨_, hop⟩ := label_eq_discard hlabel
      cases op with
      | clear => cases henabled
      | _ => cases hop
  · cases hlabel : (s.marked op).label settings s.stored with
    | accept =>
      obtain ⟨_, _, -, rfl⟩ := eq_of_accept hlabel
      simp only [Ledger.record, List.map_append, List.map_singleton, List.zipIdx_append]
      rw [← h.numbered]
      simp
    | _ => exact h.numbered
  · intro _ hstate _ hkey
    exact h.keys_apply op hstate hkey
  · cases hlabel : (s.marked op).label settings s.stored with
    | handOut =>
      have hnew := lease_not_mem hlabel henabled
      simp only [Ledger.record, List.map_append, List.map_singleton]
      rw [List.nodup_append]
      refine ⟨h.tokens, List.nodup_singleton _, ?_⟩
      rintro _ htoken _ hlease rfl
      exact hnew (List.mem_singleton.mp hlease ▸ htoken)
    | _ => exact h.tokens

section

variable (h : Consistent s) (hrun : Transition.run (TracedQueue.step settings) s ops = some t)
include h hrun

lemma run : Consistent t :=
  run_induction (C := fun _ _ => True) (fun _ _ _ hs _ hstep => hs.step hstep) h
    (along_true s ops) hrun

lemma arrived_run :
    t.ledger.arrived.map Prod.fst =
      s.ledger.arrived.map Prod.fst ++ ops.filterMap appendedText := by
  induction ops generalizing s with
  | nil =>
    obtain rfl : s = t := by simpa using hrun
    simp
  | cons op _ ih =>
    obtain ⟨_, hu, hrest⟩ := run_cons_eq_some.mp hrun
    rw [ih (h.step hu) hrest]
    obtain ⟨henabled, rfl⟩ := step_eq_some hu
    cases op with
    | append clock input =>
      have hdup := h.not_isDuplicate henabled (clock 2) fun text => (text, s.ledger.arrived.length)
      have hlabel : (s.marked (.append clock input)).label settings s.stored =
          .accept (input.userText, s.ledger.arrived.length) (droppedByPush settings
            (if (readState (clock 2) s.stored).processing
              then (readState (clock 2) s.stored).pendingTexts
              else (readState (clock 2) s.stored).texts)
            (input.userText, s.ledger.arrived.length)) := by
        simp only [marked, map, label, hdup]
        rfl
      rw [hlabel]
      simp [Ledger.record, appendedText]
    | claim =>
      simp only [marked, map, label]
      split <;> rfl
    | retry => rfl
    | complete =>
      simp only [marked, map, label]
      split_ifs <;> rfl
    | clear => cases henabled

end

end Consistent

/-! ## The result -/

lemma Consistent.messages_readState (h : Consistent s) (now : ℤ) :
    let state := readState now s.stored
    (phase s.stored).messages = state.processingTexts ++ state.texts ++ state.pendingTexts := by
  intro state
  cases hsto : s.stored with
  | none => simp [state, readState, hsto, emptyState, phase, Phase.messages]
  | some old =>
    have hwf := h.wellFormed old hsto
    have hstate : state = old := by simp [state, readState, hsto]
    rw [hstate]
    exact messages_phase hwf

/-- With fresh tokens and distinct keys: messages are numbered as they arrive; each is in the record
once, or was dropped, or completed under the token of its claim; tokens are minted once; the record
lists its messages in order; a wrong token changes nothing; and without the marks this is what the
operations do to the record. -/
theorem messages_conserved (settings : RedisChatQueueSettings) (ops : List (QueueOp τ γ))
    {s : TracedQueue τ γ} (hrun : run (step settings) initial ops = some s) (now : ℤ) :
    let state := readState now s.stored
    s.ledger.arrived = (ops.filterMap appendedText).zipIdx ∧
      (∀ m ∈ s.ledger.arrived,
        let copies := (state.texts ++ state.processingTexts ++ state.pendingTexts).count m
        let completed := ∃ token batch, (token, batch) ∈ s.ledger.settled ∧
          (token, batch) ∈ s.ledger.handedOut ∧ m ∈ batch
        (copies = 1 ∧ m ∉ s.ledger.lost ∧ m ∉ s.ledger.settledMessages) ∨
          (copies = 0 ∧ m ∈ s.ledger.lost ∧ m ∉ s.ledger.settledMessages) ∨
          (copies = 0 ∧ m ∉ s.ledger.lost ∧ completed)) ∧
      (s.ledger.handedOut.map Prod.fst).Nodup ∧
      state.processingTexts ++ state.texts ++ state.pendingTexts =
        s.ledger.arrived.filter (fun m => m ∉ s.ledger.lost ∧ m ∉ s.ledger.settledMessages) ∧
      (∀ clock externalUserId delay token, state.processingLeaseToken ≠ some token →
        (retry clock externalUserId delay token).apply settings s.stored = s.stored ∧
        (complete clock externalUserId delay token).apply settings s.stored = s.stored) ∧
      s.erase = ops.foldl (fun stored op => op.apply settings stored) none := by
  intro state
  have hs : Consistent s := consistent_initial.run hrun
  have hmsgs := hs.messages_readState now
  refine ⟨?_, ?_, hs.tokens, ?_, ?_, erase_run hrun⟩
  · rw [hs.numbered, consistent_initial.arrived_run hrun]
    rfl
  · intro m hm copies _
    have hcopies : copies = (phase s.stored).messages.count m := by
      rw [hmsgs]
      simp only [copies, state, List.count_append]
      omega
    rw [hcopies]
    rcases hs.conserved.fate hm with ⟨hthere, h⟩ | ⟨hgone, h⟩ | ⟨hgone, hlost, hset⟩
    · exact .inl ⟨List.count_eq_one_of_mem hs.conserved.messages_nodup hthere, h⟩
    · exact .inr (.inl ⟨List.count_eq_zero.mpr hgone, h⟩)
    · obtain ⟨⟨token, batch⟩, hmem, hbatch⟩ := List.mem_flatMap.mp hset
      exact .inr (.inr ⟨List.count_eq_zero.mpr hgone, hlost, token, batch, hmem,
        hs.conserved.settled_handedOut _ hmem, hbatch⟩)
  · rw [← hmsgs, hs.conserved.order]
    exact List.filter_congr fun m _ => decide_eq_decide.mpr Iff.rfl
  · intro _ _ _ token htoken
    have hstale : ∀ now', holdsLease token (readState now' s.stored) = false := by
      intro _
      rw [Bool.eq_false_iff]
      intro hlease
      apply htoken
      cases hsto : s.stored with
      | none => simp [readState, hsto, holdsLease, emptyState] at hlease
      | some =>
        have hcur := (holdsLease_iff.mp hlease).2
        simpa [state, readState, hsto] using hcur
    exact ⟨apply_retry_of_stale hstale, apply_complete_of_stale hstale⟩

open QueueSample in
/-- A full buffer loses its oldest message, and a stale completion settles nothing. -/
theorem messages_conserved_cap_and_completion :
    let ops := [message 0 "a", message 10 "b", message 20 "c", poll 5000 "t", message 5010 "d",
      done 5020 "u", done 5030 "t"]
    ∃ s : TracedQueue String Unit, run (step QueueSample.settings) initial ops = some s ∧
      s.ledger.lost = [("a", 0)] ∧ s.ledger.settled = [("t", [("b", 1), ("c", 2)])] ∧
      (readState 0 s.stored).texts = [("d", 3)] ∧
      s.ledger.arrived = (ops.filterMap appendedText).zipIdx := by
  refine ⟨_, rfl, rfl, rfl, rfl, ?_⟩
  exact (messages_conserved QueueSample.settings _ rfl 0).1

end TracedQueue

end WispaceBot
