import WispaceBot.Clarification.Core
import WispaceBot.Foundation.Json

/-!
# Stored clarification states

`RedisClarificationStateStore` writes a state as a JSON text and checks every field when it reads
one.  `parse_serialize_iff` says which states it can read back: those that meet all the bounds of
`parse`.  A state that does not meet them makes every later read fail.
-/

namespace WispaceBot

open List Option

/-! ## Texts -/

def utf16Length (s : String) : ℕ :=
  (s.toList.map fun c => if c.toNat < 0x10000 then 1 else 2).sum

/-- A text of one to `cap` characters. -/
def isTextUpTo (cap : ℕ) (s : String) : Bool :=
  decide (1 ≤ utf16Length s ∧ utf16Length s ≤ cap)

/-- `ClarificationChoice` as it is written. -/
def ClarificationChoice.text : ClarificationChoice → String
  | .progress => "progress"
  | .schedule => "schedule"
  | .reschedule => "reschedule"

/-- `phase` as it is written. -/
def ClarificationPhase.text : ClarificationPhase → String
  | .awaitingChoice => "awaiting_choice"
  | .consumed => "consumed"

/-! ## Writing a state -/

namespace ClarificationState

def properties (state : ClarificationState) : List (String × Option Json) :=
  [("phase", some (.str state.phase.text)),
    ("attempts", some (.num state.attempts)),
    ("menuResets", some (.num state.menuResets)),
    ("version", some (.num state.version)),
    ("createdAt", some (.num state.createdAt)),
    ("expiresAt", some (.num state.expiresAt)),
    ("userId", state.userId.map .num),
    ("lastEventId", state.lastEventId.map .str),
    ("recentEventIds", state.recentEventIds.map fun ids => .arr (ids.map .str)),
    ("lastChoice", state.lastChoice.map fun choice => .str choice.text),
    ("lastReplyText", state.lastReplyText.map .str),
    ("lastDeliveryFailed", state.lastDeliveryFailed.map .bool)]

/-- `JSON.stringify(state)`. -/
def serialize (state : ClarificationState) : String :=
  String.ofList (Json.write (Json.ofProperties state.properties))

end ClarificationState

/-! ## Reading a state -/

inductive ClarificationReadError
  /-- `JSON.parse` throws. -/
  | syntaxError
  /-- `Error('Invalid clarification state')`. -/
  | invalidState
  deriving DecidableEq

namespace RedisClarificationStateStore

def readPhase : Json → Option ClarificationPhase
  | .str s => [ClarificationPhase.awaitingChoice, .consumed].find? fun phase => phase.text = s
  | _ => none

def readChoice : Json → Option ClarificationChoice
  | .str s =>
    [ClarificationChoice.progress, .schedule, .reschedule].find? fun choice => choice.text = s
  | _ => none

def readCount (least : ℤ) (cap : Option ℤ) : Json → Option ℕ
  | .num n => if least ≤ n ∧ cap.all fun cap => decide (n ≤ cap) then some n.toNat else none
  | _ => none

def readTime : Json → Option ℤ
  | .num n => some n
  | _ => none

def readUserId : Json → Option ℤ
  | .num n => if 1 ≤ n then some n else none
  | _ => none

def readText (cap : ℕ) : Json → Option String
  | .str s => if isTextUpTo cap s then some s else none
  | _ => none

def readFlag : Json → Option Bool
  | .bool b => some b
  | _ => none

def readEventIds : Json → Option (List String)
  | .arr elems =>
    if elems.length ≤ MAX_CLARIFICATION_EVENT_HISTORY then elems.mapM (readText 255) else none
  | _ => none

def readOptional {α : Type} (check : Json → Option α) : Option Json → Option (Option α)
  | none => some none
  | some v => (check v).map some

/-- The validation of `parse`. -/
def validate (doc : Json) : Option ClarificationState := do
  let phase ← (doc.property "phase").bind readPhase
  let attempts ← (doc.property "attempts").bind (readCount 0 (some MAX_CLARIFICATION_ATTEMPTS_CAP))
  let menuResets ← (doc.property "menuResets").bind
    (readCount 0 (some MAX_CLARIFICATION_MENU_RESETS_CAP))
  let version ← (doc.property "version").bind (readCount 1 none)
  let createdAt ← (doc.property "createdAt").bind readTime
  let expiresAt ← (doc.property "expiresAt").bind readTime
  if expiresAt ≤ createdAt ∨ createdAt + MAX_CLARIFICATION_TTL_MS < expiresAt then none
  let userId ← readOptional readUserId (doc.property "userId")
  let lastEventId ← readOptional (readText 255) (doc.property "lastEventId")
  let lastChoice ← readOptional readChoice (doc.property "lastChoice")
  let lastReplyText ← readOptional (readText 4000) (doc.property "lastReplyText")
  let lastDeliveryFailed ← readOptional readFlag (doc.property "lastDeliveryFailed")
  let recentEventIds ← readOptional readEventIds (doc.property "recentEventIds")
  return { phase, attempts, menuResets, version, createdAt, expiresAt, userId, lastEventId,
           recentEventIds, lastChoice, lastReplyText, lastDeliveryFailed }

def parse (raw : String) : Except ClarificationReadError ClarificationState :=
  match Json.parse raw.toList with
  | none => .error .syntaxError
  | some doc =>
    match validate doc with
    | none => .error .invalidState
    | some state => .ok state

/-! ## What is read back -/

/-- The bounds that `parse` checks. -/
structure Readable (s : ClarificationState) : Prop where
  attempts_le : s.attempts ≤ MAX_CLARIFICATION_ATTEMPTS_CAP
  menuResets_le : s.menuResets ≤ MAX_CLARIFICATION_MENU_RESETS_CAP
  version_pos : 1 ≤ s.version
  createdAt_lt : s.createdAt < s.expiresAt
  expiresAt_le : s.expiresAt ≤ s.createdAt + MAX_CLARIFICATION_TTL_MS
  userId : ∀ id ∈ s.userId, 1 ≤ id
  lastEventId : ∀ id ∈ s.lastEventId, isTextUpTo 255 id = true
  lastReplyText : ∀ text ∈ s.lastReplyText, isTextUpTo 4000 text = true
  recentEventIds : ∀ ids ∈ s.recentEventIds,
    ids.length ≤ MAX_CLARIFICATION_EVENT_HISTORY ∧ ∀ id ∈ ids, isTextUpTo 255 id = true

lemma property_properties (s : ClarificationState) (key : String) :
    (Json.ofProperties s.properties).property key = (s.properties.lookup key).join :=
  Json.property_ofProperties (by simp [ClarificationState.properties]) key

lemma readPhase_text (ph : ClarificationPhase) : readPhase (.str ph.text) = some ph := by
  cases ph <;> decide

lemma readChoice_text (choice : ClarificationChoice) :
    readChoice (.str choice.text) = some choice := by
  cases choice <;> decide

lemma readCount_eq_some_iff {n m cap : ℕ} :
    readCount 0 (some cap) (.num n) = some m ↔ n ≤ cap ∧ n = m := by
  simp [readCount]

lemma readCount_version_eq_some_iff {n m : ℕ} :
    readCount 1 none (.num n) = some m ↔ 1 ≤ n ∧ n = m := by
  simp [readCount]

lemma readUserId_eq_some_iff {n m : ℤ} : readUserId (.num n) = some m ↔ 1 ≤ n ∧ n = m := by
  simp [readUserId]

lemma readText_eq_some_iff {cap : ℕ} {s t : String} :
    readText cap (.str s) = some t ↔ isTextUpTo cap s = true ∧ s = t := by
  simp [readText]

lemma readEventIds_eq_some_iff {ids ids' : List String} :
    readEventIds (.arr (ids.map .str)) = some ids' ↔
      (ids.length ≤ MAX_CLARIFICATION_EVENT_HISTORY ∧ ∀ id ∈ ids, isTextUpTo 255 id = true) ∧
        ids = ids' := by
  have hmapM : ∀ l l' : List String, (l.map Json.str).mapM (readText 255) = some l' ↔
      (∀ id ∈ l, isTextUpTo 255 id = true) ∧ l = l' := by
    intro l
    induction l with
    | nil =>
      intro l'
      refine ⟨fun h => ⟨by simp, Option.some.inj h⟩, ?_⟩
      rintro ⟨_, rfl⟩
      rfl
    | cons id l ih =>
      intro _
      rw [map_cons, mapM_cons]
      simp only [bind_eq_bind, bind_eq_some_iff, readText_eq_some_iff, ih,
        Option.pure_def, Option.some.injEq, forall_mem_cons]
      constructor
      · rintro ⟨_, ⟨hid, rfl⟩, _, ⟨hl, rfl⟩, rfl⟩
        exact ⟨⟨hid, hl⟩, rfl⟩
      · rintro ⟨⟨hid, hl⟩, rfl⟩
        exact ⟨id, ⟨hid, rfl⟩, l, ⟨hl, rfl⟩, rfl⟩
  simp only [readEventIds, length_map, ite_none_right_eq_some, hmapM]
  exact and_assoc.symm

lemma readOptional_eq_some_iff {α : Type} {check : Json → Option α} {write : α → Json}
    {ok : α → Prop} (hcheck : ∀ x y, check (write x) = some y ↔ ok x ∧ x = y) {o o' : Option α} :
    readOptional check (o.map write) = some o' ↔ (∀ x ∈ o, ok x) ∧ o = o' := by
  cases o with
  | none => simp [readOptional]
  | some x =>
    simp only [map_some, readOptional, map_eq_some_iff, hcheck, mem_def,
      Option.some.injEq, forall_eq']
    constructor
    · rintro ⟨_, ⟨hx, rfl⟩, rfl⟩
      exact ⟨hx, rfl⟩
    · rintro ⟨hx, rfl⟩
      exact ⟨x, ⟨hx, rfl⟩, rfl⟩

lemma validate_eq_some_iff (s t : ClarificationState) :
    validate (Json.ofProperties s.properties) = some t ↔ Readable s ∧ s = t := by
  have hchoice : ∀ x y : ClarificationChoice,
      readChoice (.str x.text) = some y ↔ True ∧ x = y := by
    intro x y
    rw [readChoice_text]
    simp
  have hflag : ∀ x y : Bool, readFlag (.bool x) = some y ↔ True ∧ x = y := by
    simp [readFlag]
  have hfields : validate (Json.ofProperties s.properties) = some t ↔
      s.attempts ≤ MAX_CLARIFICATION_ATTEMPTS_CAP ∧
        s.menuResets ≤ MAX_CLARIFICATION_MENU_RESETS_CAP ∧ 1 ≤ s.version ∧
        (s.createdAt < s.expiresAt ∧ s.expiresAt ≤ s.createdAt + MAX_CLARIFICATION_TTL_MS) ∧
        (∀ id, s.userId = some id → 1 ≤ id) ∧
        (∀ id, s.lastEventId = some id → isTextUpTo 255 id = true) ∧
        (∀ text, s.lastReplyText = some text → isTextUpTo 4000 text = true) ∧
        (∀ ids, s.recentEventIds = some ids →
          ids.length ≤ MAX_CLARIFICATION_EVENT_HISTORY ∧ ∀ id ∈ ids, isTextUpTo 255 id = true) ∧
        s = t := by
    unfold validate
    simp only [property_properties]
    simp [ClarificationState.properties, lookup_cons, bind_eq_some_iff, readPhase_text,
      readCount_eq_some_iff, readCount_version_eq_some_iff, readTime,
      readOptional_eq_some_iff fun _ _ => readUserId_eq_some_iff,
      readOptional_eq_some_iff fun _ _ => readText_eq_some_iff,
      readOptional_eq_some_iff fun _ _ => readEventIds_eq_some_iff,
      readOptional_eq_some_iff hchoice, readOptional_eq_some_iff hflag]
  rw [hfields]
  constructor
  · rintro ⟨hatts, hresets, hver, ⟨hlt, hle⟩, huser, hevent, hreply, hrecent, rfl⟩
    exact ⟨⟨hatts, hresets, hver, hlt, hle, huser, hevent, hreply, hrecent⟩, rfl⟩
  · rintro ⟨h, rfl⟩
    exact ⟨h.attempts_le, h.menuResets_le, h.version_pos, ⟨h.createdAt_lt, h.expiresAt_le⟩,
      h.userId, h.lastEventId, h.lastReplyText, h.recentEventIds, rfl⟩

lemma parse_serialize_iff (s t : ClarificationState) :
    parse s.serialize = .ok t ↔ Readable s ∧ s = t := by
  unfold parse ClarificationState.serialize
  rw [String.toList_ofList, Json.parse_write]
  dsimp only
  rw [← validate_eq_some_iff]
  cases validate (Json.ofProperties s.properties) with
  | none => simp
  | some => simp

lemma parse_serialize_of_not_readable {s : ClarificationState} (h : ¬ Readable s) :
    parse s.serialize = .error .invalidState := by
  unfold parse ClarificationState.serialize
  rw [String.toList_ofList, Json.parse_write]
  dsimp only
  cases hvalidate : validate (Json.ofProperties s.properties) with
  | none => rfl
  | some state => exact absurd ((validate_eq_some_iff s state).mp hvalidate).1 h

end RedisClarificationStateStore

end WispaceBot
