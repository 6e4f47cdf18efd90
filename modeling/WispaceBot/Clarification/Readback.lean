import WispaceBot.Clarification.Store
import WispaceBot.Foundation.Run

/-!
# Clarification states that can be read back

The counters, identities and texts of a menu stay within the bounds that the store checks.  The
expiry does not: it counts from the clock of each call, while the store compares it with the
creation of the menu.  `readable_iff_inTime` is the exact condition.
-/

namespace WispaceBot

open Option Bool Transition RedisClarificationStateStore ClarificationCore

/-- A call of the core, with the clock value at which it is made. -/
inductive CoreCall
  | begin (event : ClarificationEvent) (now : ℤ) (replyText : String)
  | recordIrrelevant (event : ClarificationEvent) (now : ℤ) (replyText : String)
  | consume (event : ClarificationEvent) (now : ℤ) (choice : Option ClarificationChoice)
  | failDelivery (event : ClarificationEvent) (now : ℤ)

def ClarificationEvent.isProper (event : ClarificationEvent) : Bool :=
  event.eventId.all (isTextUpTo 255) && event.userId.all fun id => decide (1 ≤ id)

namespace CoreCall

def now : CoreCall → ℤ
  | .begin _ now _ => now
  | .recordIrrelevant _ now _ => now
  | .consume _ now _ => now
  | .failDelivery _ now => now

/-- The event is proper and the reply has one to 4000 characters. -/
def isProper : CoreCall → Bool
  | .begin event _ replyText => event.isProper && isTextUpTo 4000 replyText
  | .recordIrrelevant event _ replyText => event.isProper && isTextUpTo 4000 replyText
  | .consume event _ _ => event.isProper
  | .failDelivery event _ => event.isProper

end CoreCall

/-- The clock and the state of the menu, if there is one. -/
structure MenuSession where
  clock : ℤ
  stored : Option ClarificationState

namespace MenuSession

def live (stored : Option ClarificationState) (now : ℤ) : Option ClarificationState :=
  stored.filter fun state => !isClarificationStateExpired state now

/-- What a call leaves of the stored state, if it can be made. -/
def result (limits : ClarificationLimits ℕ) (stored : Option ClarificationState) :
    CoreCall → Option (Option ClarificationState)
  | .begin event now replyText => some (some (begin limits event now replyText))
  | .recordIrrelevant event now replyText =>
    (live stored now).map fun state =>
      (recordIrrelevant limits state event now replyText).state
  | .consume event now choice =>
    (live stored now).map fun state =>
      some (consume limits state event now choice)
  | .failDelivery event now =>
    (live stored now).map fun state =>
      some ((failDelivery (some state) event).getD state)

/-- The next call, at a clock value that is not earlier and on a state that has not expired. -/
def step (limits : ClarificationLimits ℕ) (s : MenuSession) (call : CoreCall) :
    Option MenuSession :=
  if call.now < s.clock ∨ call.isProper = false then none
  else (result limits s.stored call).map fun stored => { clock := call.now, stored := stored }

def InWindow (createdAt expiresAt : ℤ) : Prop :=
  createdAt < expiresAt ∧ expiresAt ≤ createdAt + MAX_CLARIFICATION_TTL_MS

/-- A call that can be made and refreshes the expiry puts it into the window of the menu.  An
irrelevant message refreshes it as long as an attempt or a reset is left. -/
def InTime (limits : ClarificationLimits ℕ) (s : MenuSession) (call : CoreCall) : Prop :=
  (step limits s call).isSome = true →
    match call with
    | .begin _ now _ => InWindow now (now + limits.ttlMs)
    | .recordIrrelevant _ now _ =>
      ∀ state ∈ s.stored,
        state.attempts < limits.maxAttempts ∨ state.menuResets < limits.maxMenuResets →
          InWindow state.createdAt (now + limits.ttlMs)
    | .consume _ now _ => ∀ state ∈ s.stored, InWindow state.createdAt (now + limits.ttlMs)
    | .failDelivery _ _ => True

def IsReadable (s : MenuSession) : Prop :=
  ∀ state ∈ s.stored, parse state.serialize = .ok state

/-! ## The bounds that hold in any case -/

lemma parse_serialize_self_iff (state : ClarificationState) :
    parse state.serialize = .ok state ↔ Readable state := by
  rw [parse_serialize_iff]
  exact and_iff_left rfl

def IdsReadable (recentEventIds : Option (List String)) : Prop :=
  ∀ ids ∈ recentEventIds,
    ids.length ≤ MAX_CLARIFICATION_EVENT_HISTORY ∧ ∀ id ∈ ids, isTextUpTo 255 id = true

lemma IdsReadable.or {recent recent' : Option (List String)} (h : IdsReadable recent)
    (h' : IdsReadable recent') : IdsReadable (recent.or recent') := by
  cases recent with
  | none => exact h'
  | some => exact h

variable {event : ClarificationEvent}

lemma idsReadable_append {recentEventIds : Option (List String)} (hids : IdsReadable recentEventIds)
    (hevent : event.isProper = true) :
    IdsReadable (appendEventIdentity recentEventIds event.eventId) := by
  unfold appendEventIdentity
  split
  · exact hids
  · rintro _ hmem
    obtain ⟨⟩ := hmem
    refine ⟨?_, fun id hid => ?_⟩
    · rw [List.length_drop]
      omega
    · rcases List.mem_append.mp (List.mem_of_mem_drop hid) with hold | hnew
      · cases hrecent : recentEventIds with
        | none =>
          rw [hrecent] at hold
          simp at hold
        | some recent =>
          rw [hrecent] at hold
          exact (hids recent hrecent).2 id hold
      · have hproper : event.eventId.all (isTextUpTo 255) = true :=
          (and_eq_true_iff.mp hevent).1
        rw [mem_toList.mp hnew] at hproper
        exact hproper

lemma lastEventId_readable (hevent : event.isProper = true) {old : Option String}
    (hold : ∀ id ∈ old, isTextUpTo 255 id = true) :
    ∀ id ∈ (if isFalsy event.eventId then old else event.eventId), isTextUpTo 255 id = true := by
  have hproper : event.eventId.all (isTextUpTo 255) = true := (and_eq_true_iff.mp hevent).1
  intro id hid
  split at hid
  · exact hold id hid
  · rw [mem_def.mp hid] at hproper
    exact hproper

variable {limits : ClarificationLimits ℕ} {state : ClarificationState}
  {event : ClarificationEvent} {now : ℤ} {replyText : String}

lemma readable_begin (hevent : event.isProper = true) (hreply : isTextUpTo 4000 replyText = true) :
    Readable (begin limits event now replyText) ↔ InWindow now (now + limits.ttlMs) := by
  constructor
  · intro h
    exact ⟨h.createdAt_lt, h.expiresAt_le⟩
  · intro h
    have huser : event.userId.all (fun id => decide (1 ≤ id)) = true :=
      (and_eq_true_iff.mp hevent).2
    exact
      { attempts_le := Nat.zero_le _
        menuResets_le := Nat.zero_le _
        version_pos := Nat.le_refl 1
        createdAt_lt := h.1
        expiresAt_le := h.2
        userId := fun id hid => by
          have hid' : event.userId = some id := hid
          rw [hid'] at huser
          simpa using huser
        lastEventId := lastEventId_readable hevent (by simp)
        lastReplyText := by
          rintro _ htext
          obtain ⟨⟩ := htext
          exact hreply
        recentEventIds := idsReadable_append (by simp [IdsReadable]) hevent }

lemma readable_withReply {attempts menuResets : ℕ} (h : Readable state)
    (hevent : event.isProper = true) (hreply : isTextUpTo 4000 replyText = true)
    (hatts : attempts ≤ MAX_CLARIFICATION_ATTEMPTS_CAP)
    (hresets : menuResets ≤ MAX_CLARIFICATION_MENU_RESETS_CAP) :
    Readable (withReply
        { state with
          attempts := attempts
          menuResets := menuResets
          version := state.version + 1
          expiresAt := now + limits.ttlMs } event.eventId replyText) ↔
      InWindow state.createdAt (now + limits.ttlMs) := by
  constructor
  · intro h'
    exact ⟨h'.createdAt_lt, h'.expiresAt_le⟩
  · intro hwin
    exact
      { attempts_le := hatts
        menuResets_le := hresets
        version_pos := Nat.le_add_left 1 _
        createdAt_lt := hwin.1
        expiresAt_le := hwin.2
        userId := h.userId
        lastEventId := lastEventId_readable hevent h.lastEventId
        lastReplyText := by
          rintro _ htext
          obtain ⟨⟩ := htext
          exact hreply
        recentEventIds := (idsReadable_append h.recentEventIds hevent).or h.recentEventIds }

lemma readable_consume {choice : Option ClarificationChoice} (h : Readable state)
    (hevent : event.isProper = true) :
    Readable (consume limits state event now choice) ↔
      InWindow state.createdAt (now + limits.ttlMs) := by
  constructor
  · intro h'
    exact ⟨h'.createdAt_lt, h'.expiresAt_le⟩
  · intro hwin
    exact
      { attempts_le := h.attempts_le
        menuResets_le := h.menuResets_le
        version_pos := Nat.le_add_left 1 _
        createdAt_lt := hwin.1
        expiresAt_le := hwin.2
        userId := h.userId
        lastEventId := lastEventId_readable hevent h.lastEventId
        lastReplyText := h.lastReplyText
        recentEventIds := (idsReadable_append h.recentEventIds hevent).or h.recentEventIds }

lemma readable_failDelivery (h : Readable state) :
    Readable ((failDelivery (some state) event).getD state) := by
  unfold failDelivery
  dsimp only
  split
  · exact h
  · exact { h with version_pos := Nat.le_add_left 1 _ }

lemma readable_recordIrrelevant (raw : ClarificationLimits JsNumber) (now : ℤ) (h : Readable state)
    (hevent : event.isProper = true) (hreply : isTextUpTo 4000 replyText = true) :
    (∀ next ∈ (recordIrrelevant (normalizeLimits raw) state event now
        replyText).state, Readable next) ↔
      (state.attempts < (normalizeLimits raw).maxAttempts ∨
          state.menuResets < (normalizeLimits raw).maxMenuResets →
        InWindow state.createdAt (now + (normalizeLimits raw).ttlMs)) := by
  have hatts : (normalizeLimits raw).maxAttempts ≤ MAX_CLARIFICATION_ATTEMPTS_CAP :=
    normalizeBound_le ..
  have hresets : (normalizeLimits raw).maxMenuResets ≤ MAX_CLARIFICATION_MENU_RESETS_CAP :=
    normalizeBound_le ..
  unfold recordIrrelevant
  by_cases hlt : state.attempts < (normalizeLimits raw).maxAttempts
  · rw [if_pos hlt]
    rw [forall_prop_of_true (Or.inl hlt)]
    simp only [ClarificationIrrelevantResult.state, mem_def, Option.some.injEq, forall_eq']
    exact readable_withReply h hevent hreply (Nat.le_trans hlt hatts) h.menuResets_le
  · rw [if_neg hlt]
    by_cases hreset : state.menuResets < (normalizeLimits raw).maxMenuResets
    · rw [if_pos hreset]
      rw [forall_prop_of_true (Or.inr hreset)]
      simp only [ClarificationIrrelevantResult.state, mem_def, Option.some.injEq, forall_eq']
      exact readable_withReply h hevent hreply (Nat.zero_le _) (Nat.le_trans hreset hresets)
    · rw [if_neg hreset]
      simp [ClarificationIrrelevantResult.state, hlt, hreset]

/-! ## Runs -/

lemma inTime_iff_readable (raw : ClarificationLimits JsNumber) (s : MenuSession)
    (call : CoreCall) (hs : s.IsReadable) :
    InTime (normalizeLimits raw) s call ↔
      ∀ t, step (normalizeLimits raw) s call = some t → t.IsReadable := by
  unfold InTime step
  by_cases hbad : call.now < s.clock ∨ call.isProper = false
  · simp [hbad]
  · rw [if_neg hbad]
    have hproper : call.isProper = true := by simpa using (not_or.mp hbad).2
    have hlive : ∀ now state, live s.stored now = some state →
        s.stored = some state ∧ Readable state := by
      intro now state hstate
      have hsto : s.stored = some state := (filter_eq_some_iff.mp hstate).1
      exact ⟨hsto, (parse_serialize_self_iff state).mp (hs state hsto)⟩
    have hgoal : (∀ t, (result (normalizeLimits raw) s.stored call).map
          (fun stored => { clock := call.now, stored := stored : MenuSession }) = some t →
          t.IsReadable) ↔
        ∀ stored, result (normalizeLimits raw) s.stored call = some stored →
          ∀ next ∈ stored, Readable next := by
      simp [IsReadable, parse_serialize_self_iff]
    rw [hgoal, isSome_map]
    cases call with
    | begin =>
      obtain ⟨hevent, hreply⟩ := and_eq_true_iff.mp hproper
      simp [result, readable_begin hevent hreply]
    | recordIrrelevant _ now =>
      obtain ⟨hevent, hreply⟩ := and_eq_true_iff.mp hproper
      cases hstate : live s.stored now with
      | none => simp [result, hstate]
      | some state =>
        obtain ⟨hsto, hreadable⟩ := hlive now state hstate
        have hiff := readable_recordIrrelevant raw now hreadable hevent hreply
        simp only [mem_def] at hiff
        rw [hsto] at hstate
        simp [result, hstate, hsto, hiff]
    | consume _ now =>
      cases hstate : live s.stored now with
      | none => simp [result, hstate]
      | some state =>
        obtain ⟨hsto, hreadable⟩ := hlive now state hstate
        rw [hsto] at hstate
        simp [result, hstate, hsto, readable_consume hreadable hproper]
    | failDelivery _ now =>
      cases hstate : live s.stored now with
      | none => simp [result, hstate]
      | some state =>
        obtain ⟨_, hreadable⟩ := hlive now state hstate
        simp [result, hstate, readable_failDelivery hreadable]

/-- The store can read back every state if and only if every refreshed expiry lies after the
creation of the menu and at most a day after it. -/
theorem readable_iff_inTime (raw : ClarificationLimits JsNumber) (clock : ℤ)
    (calls : List CoreCall) :
    (∀ pre t state, pre <+: calls →
        run (step (normalizeLimits raw)) { clock := clock, stored := none } pre = some t →
        t.stored = some state → parse state.serialize = .ok state) ↔
      Along (step (normalizeLimits raw)) (InTime (normalizeLimits raw))
        { clock := clock, stored := none } calls := by
  have hstart : IsReadable { clock := clock, stored := none } := by simp [IsReadable]
  rw [along_iff_forall_reached (inTime_iff_readable raw) hstart]
  constructor
  · intro h pre t hpre hrun state hsto
    exact h pre t state hpre hrun hsto
  · intro h pre t state hpre hrun hsto
    exact h pre t hpre hrun state hsto

def dayLimits : ClarificationLimits JsNumber where
  ttlMs := .finite 86400000
  maxAttempts := .finite 2
  maxMenuResets := .finite 1

def refreshedMenu : List CoreCall :=
  [.begin { eventId := some "e1", userId := some 7 } 0 "menu",
    .recordIrrelevant { eventId := some "e2", userId := some 7 } 1 "menu"]

/-- The store refuses the state of a menu that it wrote itself. -/
theorem refreshed_menu_unreadable :
    ∃ t state, run (step (normalizeLimits dayLimits)) { clock := 0, stored := none }
        refreshedMenu = some t ∧ t.stored = some state ∧
      parse state.serialize = .error .invalidState := by
  have hrun : (run (step (normalizeLimits dayLimits)) { clock := 0, stored := none }
      refreshedMenu).map (fun t => t.stored.map fun state => (state.createdAt, state.expiresAt)) =
        some (some (0, 86400001)) := by
    decide +kernel
  obtain ⟨t, ht, hsto⟩ := map_eq_some_iff.mp hrun
  obtain ⟨state, hstate, htimes⟩ := map_eq_some_iff.mp hsto
  refine ⟨t, state, ht, hstate, parse_serialize_of_not_readable fun hreadable => ?_⟩
  obtain ⟨hcreated, hexp⟩ := Prod.mk.inj htimes
  have hle := hreadable.expiresAt_le
  rw [hcreated, hexp] at hle
  exact absurd hle (by decide)

end MenuSession

end WispaceBot
