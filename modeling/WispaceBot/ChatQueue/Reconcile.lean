import Mathlib.Data.Rat.Floor
import WispaceBot.ChatQueue.Store
import WispaceBot.Foundation.JsNumber

/-!
# Reconciling the indexes of one user twice

`reconcileUser` on the keys of one user, with the record as the JSON that `parseState` reads.  The
repair writes the memberships by `writeState`, which does not decide as the check does: a record
that only has `pendingTexts` goes to the flush set, where the check does not expect it, and an
abandoned record in flight goes to neither set, though it is expected in the stuck set.  For such a
record a mismatch is never repaired (`reconciled_iff`).
-/

namespace WispaceBot

/-- A field of a JSON object, as far as `parseState` tells values apart. -/
inductive JsonField
  | null
  | bool (value : Bool)
  | number (value : JsNumber)
  | string (value : String)
  /-- An array all of whose items are strings. -/
  | strings (items : List String)
  | array
  | object
  deriving DecidableEq

/-- The fields that `parseState` looks at, `none` where they are `undefined`. -/
structure BufferFields where
  (texts pendingTexts processingTexts idempotencyKeys processing retryCount : Option JsonField)
  (abandoned processingStartedAt flushAfterAt updatedAt context linkContext : Option JsonField)
  (lastIdempotencyKey lastPendingIdempotencyKey : Option JsonField)

/-- The text under a buffer key: it is no JSON, or no object, or an object. -/
inductive StoredText
  | malformed
  | other
  | object (fields : BufferFields)

namespace JsonField

/-- `value ?? fallback`. -/
def coalesce (value fallback : Option JsonField) : Option JsonField :=
  if value = none ∨ value = some null then fallback else value

def items : Option JsonField → List String
  | some (strings items) => items
  | _ => []

def isStringArray : Option JsonField → Bool
  | none | some (strings _) => true
  | _ => false

def isFlag : Option JsonField → Bool
  | none | some (bool _) => true
  | _ => false

def isCount : Option JsonField → Bool
  | none => true
  | some (number value) => value.isFinite && !value.lt 0
  | _ => false

def isTimestamp : Option JsonField → Bool
  | none | some null => true
  | some (number value) => value.isFinite
  | _ => false

def isContext : Option JsonField → Bool
  | none | some null | some object => true
  | _ => false

def floor : Option JsonField → Option JsonField
  | some (number (.finite q)) => some (number (.finite ⌊q⌋))
  | value => value

/-- `JSON.stringify` writes `null` for a number that is not finite. -/
def reread : JsonField → JsonField
  | number value => if value.isFinite then number value else null
  | value => value

end JsonField

namespace BufferFields

open JsonField

def stringify (state : BufferFields) : StoredText :=
  .object
    { texts := state.texts.map reread
      pendingTexts := state.pendingTexts.map reread
      processingTexts := state.processingTexts.map reread
      idempotencyKeys := state.idempotencyKeys.map reread
      processing := state.processing.map reread
      retryCount := state.retryCount.map reread
      abandoned := state.abandoned.map reread
      processingStartedAt := state.processingStartedAt.map reread
      flushAfterAt := state.flushAfterAt.map reread
      updatedAt := state.updatedAt.map reread
      context := state.context.map reread
      linkContext := state.linkContext.map reread
      lastIdempotencyKey := state.lastIdempotencyKey.map reread
      lastPendingIdempotencyKey := state.lastPendingIdempotencyKey.map reread }

/-- The object that `parseState` returns, with the defaults of `emptyState`. -/
def normalized (now : ℚ) (parsed : BufferFields) : BufferFields where
  texts := coalesce parsed.texts (some (strings []))
  pendingTexts := coalesce parsed.pendingTexts (some (strings []))
  processingTexts := coalesce parsed.processingTexts (some (strings []))
  idempotencyKeys := coalesce parsed.idempotencyKeys (some (strings
    ([parsed.lastIdempotencyKey, parsed.lastPendingIdempotencyKey].filterMap fun
      | some (string key) => some key
      | _ => none)))
  processing := parsed.processing.or (some (bool false))
  retryCount := if parsed.retryCount = none then some (number 0) else floor parsed.retryCount
  abandoned := some (bool (parsed.abandoned = some (bool true)))
  processingStartedAt := parsed.processingStartedAt.or (some null)
  flushAfterAt := parsed.flushAfterAt.or (some null)
  updatedAt := parsed.updatedAt.or (some (number (.finite now)))
  context := coalesce parsed.context (coalesce parsed.linkContext (some null))
  linkContext := parsed.linkContext
  lastIdempotencyKey := parsed.lastIdempotencyKey.or (some null)
  lastPendingIdempotencyKey := parsed.lastPendingIdempotencyKey.or (some null)

/-- The checks of `parseState` in their order, each with its message. -/
def checks (parsed : BufferFields) : List (Bool × String) :=
  [([parsed.texts, parsed.pendingTexts, parsed.processingTexts, parsed.idempotencyKeys].all
      isStringArray, "Invalid Redis chat queue array"),
    (isFlag parsed.processing, "Invalid Redis chat queue processing flag"),
    (parsed.processing = some (bool true) || (items parsed.processingTexts).isEmpty,
      "Invalid Redis chat queue state: processingTexts without processing"),
    (isCount parsed.retryCount, "Invalid Redis chat queue retry count"),
    (parsed.abandoned = some null || isFlag parsed.abandoned,
      "Invalid Redis chat queue abandoned flag"),
    ([parsed.processingStartedAt, parsed.flushAfterAt, parsed.updatedAt].all isTimestamp,
      "Invalid Redis chat queue timestamp"),
    ([parsed.context, parsed.linkContext].all isContext, "Invalid Redis chat queue context")]

def parseState (now : ℚ) : StoredText → Except String BufferFields
  | .malformed => .error "Invalid Redis chat queue JSON"
  | .other => .error "Invalid Redis chat queue state"
  | .object parsed =>
    match parsed.checks.find? (!·.1) with
    | some check => .error check.2
    | none => .ok (parsed.normalized now)

variable (state : BufferFields)

def isProcessing : Bool := state.processing = some (bool true)

def isAbandoned : Bool := state.abandoned = some (bool true)

/-- `texts`, `pendingTexts` and `processingTexts`. -/
def messages : List String × List String × List String :=
  (items state.texts, items state.pendingTexts, items state.processingTexts)

def hasBufferedWork : Bool :=
  !state.messages.1.isEmpty || !state.messages.2.1.isEmpty || !state.messages.2.2.isEmpty ||
    state.isProcessing

end BufferFields

/-- The keys of one user: the record, and the memberships with their scores. -/
structure UserKeys where
  buffer : Option StoredText
  active : Bool
  (flushScore stuckScore : Option JsNumber)

namespace UserKeys

open BufferFields JsonField

def scoreOr (now : ℚ) : Option JsonField → JsNumber
  | some (number value) => value
  | _ => .finite now

def plus (ms : ℕ) : JsNumber → JsNumber
  | .finite q => .finite (q + ms)
  | value => value

def writeState (settings : RedisChatQueueSettings) (now : ℚ) (state : BufferFields) : UserKeys :=
  if ¬state.hasBufferedWork then ⟨none, false, none, none⟩
  else if state.isAbandoned then ⟨some state.stringify, true, none, none⟩
  else if state.isProcessing then
    ⟨some state.stringify, true, none,
      some (plus settings.stuckMs (scoreOr now state.processingStartedAt))⟩
  else ⟨some state.stringify, true, some (scoreOr now state.flushAfterAt), none⟩

/-- The indexes differ from what the record asks for. -/
def mismatch (keys : UserKeys) (state : BufferFields) : Bool :=
  let expectedFlush := !state.isProcessing && !state.isAbandoned && !state.messages.1.isEmpty
  keys.active != state.hasBufferedWork || keys.flushScore.isSome != expectedFlush ||
    keys.stuckScore.isSome != state.isProcessing

/-- A record that cannot be parsed is moved to a quarantine key. -/
def reconcileUser (settings : RedisChatQueueSettings) (clock : ℕ → ℚ) (keys : UserKeys) :
    UserKeys × RedisKeys.ReconcileOutcome :=
  match keys.buffer with
  | none =>
    if keys.active || keys.flushScore.isSome || keys.stuckScore.isSome then
      (⟨none, false, none, none⟩, ⟨true, true, false, false⟩)
    else (keys, ⟨false, false, false, false⟩)
  | some raw =>
    match parseState (clock 0) raw with
    | .error _ => (⟨none, false, none, none⟩, ⟨true, false, true, true⟩)
    | .ok state =>
      if keys.mismatch state then
        (writeState settings (clock 1) state, ⟨true, true, false, false⟩)
      else (keys, ⟨false, false, false, false⟩)

/-- The buffered texts as they are read; the clock plays no part. -/
def bufferedTexts (keys : UserKeys) : List String × List String × List String :=
  match keys.buffer.map (parseState 0) with
  | some (.ok state) => state.messages
  | _ => ([], [], [])

/-- The check expects what the repair does not write. -/
def Unrepairable (state : BufferFields) : Prop :=
  if state.isProcessing then state.isAbandoned = true
  else state.isAbandoned = false ∧ state.messages.1 = [] ∧ state.messages.2.1 ≠ []
  deriving Decidable

/-! ## A record that was written is read back -/

lemma parseState_eq_ok {now : ℚ} {raw : StoredText} {state : BufferFields} :
    parseState now raw = .ok state ↔ ∃ parsed, raw = .object parsed ∧
      (∀ check ∈ parsed.checks, check.1 = true) ∧ parsed.normalized now = state := by
  cases raw with
  | malformed => simp [parseState]
  | other => simp [parseState]
  | object parsed =>
    have hchecks : parsed.checks.find? (!·.1) = none ↔
        ∀ check ∈ parsed.checks, check.1 = true := by
      simp [List.find?_eq_none]
    simp only [parseState, StoredText.object.injEq, exists_eq_left', ← hchecks]
    cases parsed.checks.find? (!·.1) <;> simp

section Fields

variable {value : Option JsonField}

lemma coalesce_strings (h : isStringArray value = true) (fallback : List String) :
    ∃ items, coalesce value (some (strings fallback)) = some (strings items) := by
  rcases value with _ | (_ | _ | _ | _ | items | _ | _) <;> simp_all [isStringArray, coalesce]

lemma or_bool (h : isFlag value = true) :
    ∃ flag, value.or (some (bool false)) = some (bool flag) := by
  rcases value with _ | (_ | flag | _ | _ | _ | _ | _) <;> simp_all [isFlag]

lemma isCount_reread (h : isCount value = true) :
    isCount ((if value = none then some (number 0) else floor value).map reread) = true := by
  rcases value with _ | (_ | _ | number | _ | _ | _ | _) <;> simp_all [isCount]
  · decide
  · rcases number with _ | _ | _ | q <;> simp_all [JsNumber.isFinite]
    have hq : (0 : ℚ) ≤ q := by simpa [JsNumber.lt, JsNumber.zero_def] using h
    simpa [floor, reread, JsNumber.isFinite, JsNumber.lt] using Int.floor_nonneg.mpr hq

lemma isTimestamp_reread (h : isTimestamp value = true) (default : JsonField)
    (hdefault : isTimestamp (some default) = true) :
    isTimestamp ((value.or (some default)).map reread) = true := by
  have hreread : ∀ field, isTimestamp (some field) = true →
      isTimestamp (some (reread field)) = true := by
    rintro (_ | _ | _ | _ | _ | _ | _) hfield <;> simp_all [isTimestamp, reread]
  cases value with
  | none => exact hreread _ hdefault
  | some => exact hreread _ h

end Fields

variable {settings : RedisChatQueueSettings} {keys : UserKeys} {state again : BufferFields}
  {now now' : ℚ} {raw : StoredText}

/-- What the check and the repair look at. -/
structure SameWork (state again : BufferFields) : Prop where
  messages : again.messages = state.messages
  processing : again.isProcessing = state.isProcessing
  abandoned : again.isAbandoned = state.isAbandoned

section

variable (h : parseState now raw = .ok state)
include h

lemma not_processing_alone (hidle : state.isProcessing = false) : state.messages.2.2 = [] := by
  obtain ⟨parsed, -, hchecks, rfl⟩ := parseState_eq_ok.mp h
  have halone := hchecks _ (List.mem_cons_of_mem _ (List.mem_cons_of_mem _ List.mem_cons_self))
  have hnot : parsed.processing ≠ some (bool true) := by
    intro hset
    simp [isProcessing, normalized, hset] at hidle
  have hitems : items (coalesce parsed.processingTexts (some (strings []))) =
      items parsed.processingTexts := by
    rcases parsed.processingTexts with _ | (_ | _ | _ | _ | _ | _ | _) <;> simp [coalesce, items]
  exact hitems.trans (by simpa [hnot] using halone)

/-- A record that was read and written is read again, with the same texts and flags. -/
theorem parseState_stringify (now' : ℚ) :
    ∃ again, parseState now' state.stringify = .ok again ∧ SameWork state again := by
  obtain ⟨parsed, -, hchecks, rfl⟩ := parseState_eq_ok.mp h
  simp only [checks, List.forall_mem_cons, List.all_cons, List.all_nil, Bool.and_true,
    Bool.and_eq_true, Bool.or_eq_true, decide_eq_true_eq, List.not_mem_nil, false_implies,
    implies_true, and_true] at hchecks
  obtain ⟨⟨htexts, hpend, hproc, hkeys⟩, hflag, -, hcount, -,
    ⟨hstarted, hflush, hupdated⟩, hcontext, hlink⟩ := hchecks
  obtain ⟨_, ha⟩ := coalesce_strings htexts []
  obtain ⟨_, hb⟩ := coalesce_strings hpend []
  obtain ⟨c, hc⟩ := coalesce_strings hproc []
  obtain ⟨_, hd⟩ := coalesce_strings hkeys ([parsed.lastIdempotencyKey,
    parsed.lastPendingIdempotencyKey].filterMap fun
      | some (string key) => some key
      | _ => none)
  obtain ⟨flag, hflag⟩ := or_bool hflag
  have hitems : flag = true ∨ c = [] := by
    have halone := not_processing_alone h
    simp only [isProcessing, messages, normalized, hflag, hc] at halone
    cases flag with
    | true => exact .inl rfl
    | false => exact .inr (halone rfl)
  have hreread : ∀ {value : Option JsonField}, isContext value = true →
      isContext (value.map reread) = true := by
    rintro (_ | (_ | _ | _ | _ | _ | _ | _)) hvalue <;> simp_all [isContext, reread]
  have hcoalesced : isContext (coalesce parsed.context (coalesce parsed.linkContext
      (some null))) = true := by
    unfold coalesce
    split_ifs
    · rfl
    · exact hlink
    · exact hcontext
  refine ⟨_, parseState_eq_ok.mpr ⟨_, rfl, ?_, rfl⟩, ?_, ?_, ?_⟩
  · simp only [checks, List.forall_mem_cons, List.all_cons, List.all_nil, normalized, ha, hb, hc,
      hd, hflag, hreread hcoalesced, hreread hlink, isCount_reread hcount,
      isTimestamp_reread hstarted null rfl, isTimestamp_reread hflush null rfl,
      isTimestamp_reread hupdated (number (.finite now)) rfl]
    simpa [reread, isStringArray, isFlag, items] using hitems
  · simp only [messages, normalized, ha, hb, hc]
    rfl
  · simp [isProcessing, normalized, hflag, reread]
  · simp [BufferFields.isAbandoned, normalized, reread]

lemma parseState_clock (now' : ℚ) :
    ∃ again, parseState now' raw = .ok again ∧ SameWork state again := by
  obtain ⟨parsed, rfl, hchecks, rfl⟩ := parseState_eq_ok.mp h
  exact ⟨_, parseState_eq_ok.mpr ⟨parsed, rfl, hchecks, rfl⟩, rfl, rfl, rfl⟩

lemma bufferedTexts_of_ok (hraw : keys.buffer = some raw) :
    keys.bufferedTexts = state.messages := by
  obtain ⟨_, hagain, hsame⟩ := parseState_clock h 0
  rw [bufferedTexts, hraw, Option.map_some, hagain, ← hsame.messages]

end

lemma SameWork.hasBufferedWork (h : SameWork state again) :
    again.hasBufferedWork = state.hasBufferedWork := by
  rw [BufferFields.hasBufferedWork, h.messages, h.processing]
  rfl

lemma SameWork.mismatch (h : SameWork state again) : keys.mismatch again = keys.mismatch state := by
  rw [UserKeys.mismatch, h.hasBufferedWork, h.messages, h.processing, h.abandoned]
  rfl

lemma messages_of_idle (h : state.hasBufferedWork = false) :
    state.messages = ([], [], []) ∧ state.isProcessing = false := by
  simp only [hasBufferedWork, Bool.or_eq_false_iff, Bool.not_eq_false', List.isEmpty_iff] at h
  obtain ⟨⟨⟨htexts, hpend⟩, hproc⟩, hflag⟩ := h
  exact ⟨Prod.ext htexts (Prod.ext hpend hproc), hflag⟩

lemma buffer_writeState (settings : RedisChatQueueSettings) (now : ℚ) (state : BufferFields) :
    (writeState settings now state).buffer =
      if state.hasBufferedWork then some state.stringify else none := by
  unfold writeState
  split_ifs <;> simp_all

lemma bufferedTexts_writeState (settings : RedisChatQueueSettings) (now' : ℚ)
    (h : parseState now raw = .ok state) :
    (writeState settings now' state).bufferedTexts = state.messages := by
  have hbuf := buffer_writeState settings now' state
  cases hwork : state.hasBufferedWork with
  | true =>
    obtain ⟨_, hagain, hsame⟩ := parseState_stringify h now'
    rw [hwork, if_pos rfl] at hbuf
    rw [bufferedTexts_of_ok hagain hbuf, hsame.messages]
  | false =>
    rw [hwork, if_neg Bool.false_ne_true] at hbuf
    rw [bufferedTexts, hbuf, (messages_of_idle hwork).1]
    rfl

/-- What the repair has written is what the check expects, unless it cannot be repaired. -/
theorem mismatch_writeState (halone : state.isProcessing = false → state.messages.2.2 = [])
    (hwork : state.hasBufferedWork = true) :
    (writeState settings now state).mismatch state = decide (Unrepairable state) := by
  cases hproc : state.isProcessing with
  | true =>
    cases haband : state.isAbandoned <;>
      simp [writeState, Unrepairable, UserKeys.mismatch, hwork, hproc, haband]
  | false =>
    have hpend : state.messages.1 = [] → state.messages.2.1 ≠ [] := by
      intro htexts hnone
      simp [hasBufferedWork, htexts, hnone, halone hproc, hproc] at hwork
    cases haband : state.isAbandoned with
    | true => simp [writeState, Unrepairable, UserKeys.mismatch, hwork, hproc, haband]
    | false =>
      simp only [writeState, Unrepairable, UserKeys.mismatch, hwork, hproc, haband]
      by_cases htexts : state.messages.1 = []
      · simp [htexts, hpend htexts]
      · simp [htexts]

lemma reconcileUser_of_ok (settings : RedisChatQueueSettings) {clock : ℕ → ℚ}
    (hraw : keys.buffer = some raw) (h : parseState (clock 0) raw = .ok state) :
    keys.reconcileUser settings clock = if keys.mismatch state then
      (writeState settings (clock 1) state, ⟨true, true, false, false⟩)
      else (keys, ⟨false, false, false, false⟩) := by
  simp [reconcileUser, hraw, h]

/-- For every record that is accepted and all memberships: the second run finds nothing to repair
exactly if the memberships were as expected before the first one, or if the record can be repaired.
No run changes the buffered texts. -/
theorem reconciled_iff (settings : RedisChatQueueSettings) (clock clock' : ℕ → ℚ) (keys : UserKeys)
    (raw : StoredText) (hraw : keys.buffer = some raw) (state : BufferFields)
    (hparse : parseState (clock 0) raw = .ok state) :
    let first := keys.reconcileUser settings clock
    let second := first.1.reconcileUser settings clock'
    (second.2.mismatch = false ↔ keys.mismatch state = false ∨ ¬Unrepairable state) ∧
      first.1.bufferedTexts = keys.bufferedTexts ∧ second.1.bufferedTexts = keys.bufferedTexts := by
  have htexts := bufferedTexts_of_ok hparse hraw
  rw [reconcileUser_of_ok settings hraw hparse]
  cases hmismatch : keys.mismatch state with
  | false =>
    obtain ⟨again, hagain, hsame⟩ := parseState_clock hparse (clock' 0)
    have hsnd := reconcileUser_of_ok settings hraw hagain
    rw [hsame.mismatch, hmismatch] at hsnd
    simp [hsnd]
  | true =>
    cases hwork : state.hasBufferedWork with
    | false =>
      -- the record is deleted, and the second run finds no key of the user
      obtain ⟨hnone, hidle⟩ := messages_of_idle hwork
      have hwrote : writeState settings (clock 1) state = ⟨none, false, none, none⟩ := by
        simp [writeState, hwork]
      simp only [if_true, hwrote, htexts, hnone]
      simp [reconcileUser, bufferedTexts, Unrepairable, hidle, hnone]
    | true =>
      obtain ⟨_, hagain, hsame⟩ := parseState_stringify hparse (clock' 0)
      have hbuf := buffer_writeState settings (clock 1) state
      rw [hwork, if_pos rfl] at hbuf
      have hsnd := reconcileUser_of_ok settings hbuf hagain
      rw [hsame.mismatch, mismatch_writeState (not_processing_alone hparse) hwork] at hsnd
      have hwrote := bufferedTexts_writeState settings (clock 1) hparse
      have hrewritten := bufferedTexts_writeState settings (clock' 1) hagain
      by_cases hbad : Unrepairable state
      · simp [hsnd, hbad, hwrote, hrewritten, hsame.messages, htexts]
      · simp [hsnd, hbad, hwrote, htexts]

/-- A record of old shape, with these waiting and pending texts and nothing else. -/
def legacyRecord (texts pendingTexts : List String) : StoredText :=
  .object ⟨some (strings texts), some (strings pendingTexts), none, none, none, none, none, none,
    none, none, none, none, none, none⟩

/-- A record with waiting texts that is in no index is repaired by the first run. -/
theorem reconciled_iff_waiting :
    let first := (UserKeys.mk (some (legacyRecord ["a"] [])) false none none).reconcileUser
      ⟨3, 0, 60000⟩ fun _ => 5
    first.2.mismatch = true ∧ (first.1.reconcileUser ⟨3, 0, 60000⟩ fun _ => 6).2.mismatch = false :=
  ⟨by decide +kernel, (reconciled_iff ⟨3, 0, 60000⟩ (fun _ => 5) (fun _ => 6)
    ⟨some (legacyRecord ["a"] []), false, none, none⟩ _ rfl _ rfl).1.mpr (.inr (by decide +kernel))⟩

/-- A record that only has pending texts is put into the flush set by every run, and every run
reports a mismatch. -/
theorem pending_never_reconciled :
    let first := (UserKeys.mk (some (legacyRecord [] ["a"])) false none none).reconcileUser
      ⟨3, 0, 60000⟩ fun _ => 5
    first.2.mismatch = true ∧ first.1.flushScore = some 5 ∧
      (first.1.reconcileUser ⟨3, 0, 60000⟩ fun _ => 6).2.mismatch = true := by
  decide +kernel

end UserKeys

end WispaceBot
