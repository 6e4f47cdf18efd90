import WispaceBot.ChatQueue.Delivery
import WispaceBot.ChatQueue.Store

/-!
# The indexes of the chat queue follow its records

In every state reached without a claim on an abandoned record each user is in exactly the indexes
the record calls for (`RedisKeys.Indexed`).  A claim on an abandoned record leaves `abandoned` set,
and `writeState` then puts the user into neither sorted set.
-/

namespace WispaceBot

open RedisChatQueueStore Transition SortedSet

variable {τ γ : Type} {settings : RedisChatQueueSettings}

/-! ## Records in flight -/

/-- A record that its indexes can describe. -/
structure RedisChatQueueBufferState.Listed (state : RedisChatQueueBufferState τ γ) : Prop where
  wellFormed : state.WellFormed
  not_abandoned : state.processing = true → state.abandoned = false
  startedAt : state.processing = true → ∃ at_, state.processingStartedAt = some at_

lemma appended_processingStartedAt (clock : ℕ → ℤ) (input : AppendChatBufferInput τ γ)
    (state : RedisChatQueueBufferState τ γ) :
    (appended settings clock input state).processingStartedAt = state.processingStartedAt := by
  cases hp : state.processing <;> cases ha : state.abandoned <;>
    simp [appended, attach, push, revive, rememberKey, hp, ha]

lemma QueueOp.listed_apply {stored : Option (RedisChatQueueBufferState τ γ)} {op : QueueOp τ γ}
    (h : ∀ state, stored = some state → state.Listed)
    (hclaim : op.claimsAbandoned stored = false) {next : RedisChatQueueBufferState τ γ}
    (hnext : op.apply settings stored = some next) : next.Listed := by
  have hwf : StoredWellFormed stored := fun state hstate => (h state hstate).wellFormed
  have hnextwf : next.WellFormed := op.wellFormed_apply settings hwf next hnext
  suffices hflight : next.processing = true →
      next.abandoned = false ∧ ∃ at_, next.processingStartedAt = some at_ from
    ⟨hnextwf, fun hp => (hflight hp).1, fun hp => (hflight hp).2⟩
  intro hp
  rcases apply_eq_some hnext with hwrote | ⟨-, hsto⟩
  · cases op with
    | append clock input =>
      have hnext : next = appended settings clock input (readState (clock 2) stored) := by
        simp only [written, appendChatBuffer] at hwrote
        split_ifs at hwrote
        exact (Option.some.inj hwrote).symm
      subst hnext
      refine ⟨appended_abandoned _ _ _ _, ?_⟩
      rw [appended_processing] at hp
      rw [appended_processingStartedAt]
      cases stored with
      | none => cases hp
      | some state => exact (h state rfl).startedAt hp
    | claim clock ext tok stuckMs =>
      cases stored with
      | none =>
        simp [written, claimReadyBuffer, claimWaiting, readState, emptyState] at hwrote
      | some state =>
        rcases claimReadyBuffer_cases settings clock ext tok stuckMs
          (h state rfl).wellFormed with hcase | ⟨-, -, hcase⟩ | ⟨old, -, hold, hcase⟩
        · simp [written, readState, hcase] at hwrote
        · obtain rfl : replayStuck state true none = next := by
            simpa [written, readState, hcase] using hwrote
          cases hp
        · obtain rfl : takeLease (clock 3) (clock 4) tok old = next := by
            simpa [written, readState, hcase] using hwrote
          refine ⟨?_, _, rfl⟩
          rcases hold with ⟨-, -, rfl⟩ | ⟨hidle, rfl⟩
          · rfl
          · have hflag : old.abandoned = false := by simpa [claimsAbandoned, hidle] using hclaim
            exact hflag
    | retry =>
      simp only [written, scheduleRetryFlush] at hwrote
      split_ifs at hwrote <;> cases hwrote <;> cases hp
    | complete =>
      simp only [written, completeChatBuffer] at hwrote
      split_ifs at hwrote
      cases hwrote
      cases hp
    | clear => cases hwrote
  · exact ⟨(h next hsto).not_abandoned hp, (h next hsto).startedAt hp⟩

/-! ## Memberships -/

namespace RedisKeys

variable {keys : RedisKeys τ γ} {externalUserId : String}

/-- The user is in the indexes the record calls for. -/
structure Indexed (settings : RedisChatQueueSettings) (keys : RedisKeys τ γ)
    (externalUserId : String) : Prop where
  active : externalUserId ∈ keys.activeSet ↔ (keys.buffers externalUserId).isSome = true
  flush : (keys.flushSet.zscore externalUserId).isSome = true ↔
    ∃ state, keys.buffers externalUserId = some state ∧ state.processing = false ∧
      state.abandoned = false ∧ state.texts ≠ []
  stuck : (keys.stuckSet.zscore externalUserId).isSome = true ↔
    ∃ state, keys.buffers externalUserId = some state ∧ state.processing = true
  stuckAt : ∀ state startedAt, keys.buffers externalUserId = some state →
    state.processing = true → state.processingStartedAt = some startedAt →
    keys.stuckSet.zscore externalUserId = some (startedAt + settings.stuckMs)

/-- Two states of the keys agree on everything about a user. -/
structure SameFor (keys keys' : RedisKeys τ γ) (externalUserId : String) : Prop where
  buffers : keys'.buffers externalUserId = keys.buffers externalUserId
  active : externalUserId ∈ keys'.activeSet ↔ externalUserId ∈ keys.activeSet
  flush : keys'.flushSet.zscore externalUserId = keys.flushSet.zscore externalUserId
  stuck : keys'.stuckSet.zscore externalUserId = keys.stuckSet.zscore externalUserId

lemma Indexed.congr {keys' : RedisKeys τ γ} (h : keys.Indexed settings externalUserId)
    (hsame : keys.SameFor keys' externalUserId) : keys'.Indexed settings externalUserId where
  active := by rw [hsame.active, hsame.buffers]; exact h.active
  flush := by rw [hsame.flush, hsame.buffers]; exact h.flush
  stuck := by rw [hsame.stuck, hsame.buffers]; exact h.stuck
  stuckAt := by rw [hsame.stuck, hsame.buffers]; exact h.stuckAt

lemma sameFor_deleteBuffer {other : String} (h : other ≠ externalUserId) :
    keys.SameFor (keys.deleteBuffer externalUserId) other where
  buffers := by simp [deleteBuffer, h]
  active := by simp [deleteBuffer, removeIndexes, h]
  flush := zscore_zrem_of_ne _ h
  stuck := zscore_zrem_of_ne _ h

lemma sameFor_writeState (now : ℤ) (state : RedisChatQueueBufferState τ γ) {other : String}
    (h : other ≠ externalUserId) :
    keys.SameFor (keys.writeState settings now externalUserId state) other := by
  unfold writeState
  split_ifs
  · exact ⟨by simp [h], by simp [h], zscore_zrem_of_ne _ h, zscore_zrem_of_ne _ h⟩
  · exact ⟨by simp [h], by simp [h], zscore_zrem_of_ne _ h, zscore_zadd_of_ne _ _ h⟩
  · exact ⟨by simp [h], by simp [h], zscore_zadd_of_ne _ _ h, zscore_zrem_of_ne _ h⟩
  · exact sameFor_deleteBuffer h

lemma indexed_deleteBuffer : (keys.deleteBuffer externalUserId).Indexed settings externalUserId
    where
  active := by simp [deleteBuffer, removeIndexes]
  flush := by simp [deleteBuffer, removeIndexes]
  stuck := by simp [deleteBuffer, removeIndexes]
  stuckAt := by simp [deleteBuffer]

variable {state : RedisChatQueueBufferState τ γ}

lemma indexed_writeState (now : ℤ) (h : state.Listed) :
    (keys.writeState settings now externalUserId state).Indexed settings externalUserId := by
  unfold writeState
  rw [if_pos h.wellFormed.hasBufferedWork]
  cases hp : state.processing with
  | true =>
    rw [h.not_abandoned hp]
    refine ⟨by simp, by simp [hp], by simp [hp], ?_⟩
    rintro _ _ hstate - hat
    obtain rfl : state = _ := by simpa using hstate
    simp [hat]
  | false =>
    have htexts := (h.wellFormed.idle hp).1
    have hidle : ∀ other, some state = some other → ¬other.processing = true := by
      rintro _ ⟨⟩
      simp [hp]
    cases ha : state.abandoned with
    | true =>
      refine ⟨by simp, by simp [ha], by simp [hp], fun other _ hother hflight => ?_⟩
      exact absurd hflight (hidle other (by simpa using hother))
    | false =>
      refine ⟨by simp, by simp [hp, ha, htexts], by simp [hp], fun other _ hother hflight => ?_⟩
      exact absurd hflight (hidle other (by simpa using hother))

/-- What holds for every user as long as no claim lands on an abandoned record. -/
structure Faithful (settings : RedisChatQueueSettings) (keys : RedisKeys τ γ) : Prop where
  listed : ∀ externalUserId state, keys.buffers externalUserId = some state → state.Listed
  indexed : ∀ externalUserId, keys.Indexed settings externalUserId

lemma faithful_empty : (empty : RedisKeys τ γ).Faithful settings where
  listed := by simp [empty]
  indexed := fun _ => ⟨by simp [empty], by simp [empty, SortedSet.empty, SortedSet.zscore],
    by simp [empty, SortedSet.empty, SortedSet.zscore], by simp [empty]⟩

lemma apply_cases (settings : RedisChatQueueSettings) (keys : RedisKeys τ γ) (op : QueueOp τ γ) :
    let stored := keys.buffers op.externalUserId
    (∃ state, op.apply settings stored = RedisChatQueueStore.writeState state ∧
        keys.apply settings op = keys.writeState settings op.writtenAt op.externalUserId state) ∨
      (op.apply settings stored = none ∧
        keys.apply settings op = keys.deleteBuffer op.externalUserId) ∨
      (op.apply settings stored = stored ∧ (keys.apply settings op = keys ∨
        stored.isSome = true ∧ keys.apply settings op =
          { keys with activeSet := keys.activeSet.insert op.externalUserId })) := by
  intro stored
  have hwrote : (∀ externalUserId, op ≠ .clear externalUserId) →
      ∀ state, op.written settings stored = some state →
        op.apply settings stored = RedisChatQueueStore.writeState state ∧
          keys.apply settings op =
            keys.writeState settings op.writtenAt op.externalUserId state := by
    intro hclear state hstate
    cases op with
    | clear externalUserId => exact absurd rfl (hclear externalUserId)
    | _ =>
      simp [QueueOp.apply, store, RedisKeys.apply, hstate, stored]
  have hquiet : (∀ externalUserId, op ≠ .clear externalUserId) →
      op.written settings stored = none → op.apply settings stored = stored ∧
        keys.apply settings op = if op.isDuplicateAppend stored then
          { keys with activeSet := keys.activeSet.insert op.externalUserId } else keys := by
    intro hclear hnone
    cases op with
    | clear externalUserId => exact absurd rfl (hclear externalUserId)
    | _ =>
      simp [QueueOp.apply, store, RedisKeys.apply, hnone, stored]
  by_cases hclear : ∃ externalUserId, op = .clear externalUserId
  · obtain ⟨externalUserId, rfl⟩ := hclear
    exact .inr (.inl ⟨rfl, rfl⟩)
  · have hclear' : ∀ externalUserId, op ≠ .clear externalUserId := fun u hu => hclear ⟨u, hu⟩
    cases hstate : op.written settings stored with
    | some state => exact .inl ⟨state, hwrote hclear' state hstate⟩
    | none =>
      obtain ⟨happly, hkeys⟩ := hquiet hclear' hstate
      refine .inr (.inr ⟨happly, ?_⟩)
      cases hdup : op.isDuplicateAppend stored with
      | false => exact .inl (by simpa [hdup] using hkeys)
      | true =>
        refine .inr ⟨?_, by simpa [hdup] using hkeys⟩
        cases op with
        | append =>
          -- only a stored record remembers keys
          cases hsto : stored with
          | none =>
            simp [QueueOp.isDuplicateAppend, hsto, isDuplicate, readState, emptyState,
              Option.any_eq_true] at hdup
          | some => rfl
        | _ => cases hdup

lemma buffers_apply (settings : RedisChatQueueSettings) (keys : RedisKeys τ γ) (op : QueueOp τ γ) :
    (keys.apply settings op).buffers = Function.update keys.buffers op.externalUserId
      (op.apply settings (keys.buffers op.externalUserId)) := by
  rcases apply_cases settings keys op with ⟨_, happly, hkeys⟩ | ⟨happly, hkeys⟩ |
    ⟨happly, hkeys | ⟨-, hkeys⟩⟩
  · rw [happly, hkeys, writeState, RedisChatQueueStore.writeState]
    split_ifs <;> rfl
  · rw [happly, hkeys]
    rfl
  · rw [happly, hkeys, Function.update_eq_self]
  · rw [happly, hkeys, Function.update_eq_self]

def step (settings : RedisChatQueueSettings) (keys : RedisKeys τ γ) (op : QueueOp τ γ) :
    Option (RedisKeys τ γ) :=
  some (keys.apply settings op)

/-- The call claims the buffer of a user whose record is abandoned. -/
def claimsAbandoned (keys : RedisKeys τ γ) (op : QueueOp τ γ) : Bool :=
  op.claimsAbandoned (keys.buffers op.externalUserId)

lemma Faithful.apply (h : keys.Faithful settings) {op : QueueOp τ γ}
    (hclaim : keys.claimsAbandoned op = false) : (keys.apply settings op).Faithful settings := by
  have hlist : ∀ next, op.apply settings (keys.buffers op.externalUserId) = some next →
      next.Listed := fun next hnext => QueueOp.listed_apply (h.listed _) hclaim hnext
  refine ⟨fun user state hstate => ?_, fun user => ?_⟩
  · rw [buffers_apply] at hstate
    by_cases huser : user = op.externalUserId
    · subst huser
      rw [Function.update_self] at hstate
      exact hlist state hstate
    · rw [Function.update_of_ne huser] at hstate
      exact h.listed user state hstate
  · rcases apply_cases settings keys op with ⟨state, happly, hkeys⟩ | ⟨-, hkeys⟩ |
      ⟨-, hkeys | ⟨hsome, hkeys⟩⟩
    · rw [hkeys]
      by_cases huser : user = op.externalUserId
      · subst huser
        cases hwork : hasBufferedWork state with
        | true =>
          have hstate : state.Listed := hlist state
            (by rw [happly, RedisChatQueueStore.writeState, if_pos hwork])
          exact indexed_writeState _ hstate
        | false =>
          rw [writeState, hwork]
          exact indexed_deleteBuffer
      · exact (h.indexed user).congr (sameFor_writeState _ _ huser)
    · rw [hkeys]
      by_cases huser : user = op.externalUserId
      · subst huser
        exact indexed_deleteBuffer
      · exact (h.indexed user).congr (sameFor_deleteBuffer huser)
    · rw [hkeys]
      exact h.indexed user
    · rw [hkeys]
      refine (h.indexed user).congr ⟨rfl, ?_, rfl, rfl⟩
      by_cases huser : user = op.externalUserId
      · subst huser
        have hmember := (h.indexed op.externalUserId).active.mpr hsome
        simp [hmember]
      · simp [huser]

/-! ## Listing and reconciling -/

lemma mem_pushNew (user : String) (entries seen : List (String × ℤ)) :
    user ∈ (pushNew seen entries).map Prod.fst ↔
      user ∈ seen.map Prod.fst ∨ user ∈ entries.map Prod.fst := by
  induction entries generalizing seen with
  | nil => simp [pushNew]
  | cons _ _ ih =>
    rw [pushNew]
    split_ifs with hseen
    · rw [ih, List.map_cons, List.mem_cons]
      constructor
      · rintro (h | h)
        · exact .inl h
        · exact .inr (.inr h)
      · rintro (h | rfl | h)
        · exact .inl h
        · exact .inl hseen
        · exact .inr h
    · rw [ih, List.map_append, List.mem_append, List.map_cons, List.map_cons, List.map_nil,
        List.mem_singleton, List.mem_cons]
      exact or_assoc

lemma length_pushNew_le (entries seen : List (String × ℤ)) :
    (pushNew seen entries).length ≤ seen.length + entries.length := by
  induction entries generalizing seen with
  | nil => simp [pushNew]
  | cons entry _ ih =>
    rw [pushNew, List.length_cons]
    split_ifs
    · have := ih seen
      omega
    · have := ih (seen ++ [entry])
      rw [List.length_append, List.length_singleton] at this
      omega

variable {limit : ℕ}

lemma mem_mergeCandidates {flushEntries stuckEntries : List (String × ℤ)}
    (hlimit : flushEntries.length + stuckEntries.length ≤ limit) (user : String) :
    user ∈ mergeCandidates flushEntries stuckEntries limit ↔
      user ∈ flushEntries.map Prod.fst ∨ user ∈ stuckEntries.map Prod.fst := by
  have hlen : ((pushNew (pushNew [] flushEntries) stuckEntries).insertionSort
      fun left right => left.2 ≤ right.2).length ≤ limit := by
    rw [List.length_insertionSort]
    have hfirst := length_pushNew_le flushEntries []
    have hboth := length_pushNew_le stuckEntries (pushNew [] flushEntries)
    rw [List.length_nil] at hfirst
    omega
  rw [mergeCandidates, List.take_of_length_le hlen]
  have hsort : user ∈ ((pushNew (pushNew [] flushEntries) stuckEntries).insertionSort
      fun left right => left.2 ≤ right.2).map Prod.fst ↔
      user ∈ (pushNew (pushNew [] flushEntries) stuckEntries).map Prod.fst := by
    simp
  rw [hsort, mem_pushNew, mem_pushNew]
  simp

lemma mem_collectReady {candidates ready : List String} {user : String}
    (hmem : user ∈ candidates ∨ user ∈ ready) (hrec : (keys.buffers user).isSome = true)
    (hlimit : ready.length + candidates.length ≤ limit) :
    user ∈ (collectReady limit candidates ready keys).2 := by
  induction candidates generalizing ready keys with
  | nil => simpa [collectReady] using hmem
  | cons candidate rest ih =>
    rw [List.length_cons] at hlimit
    rw [collectReady]
    split_ifs with hcandidate hfull
    · -- the limit is reached only at the last candidate
      rw [List.length_append, List.length_singleton] at hfull
      have hrest : rest = [] := List.length_eq_zero_iff.mp (by omega)
      subst hrest
      rcases hmem with h | h
      · simp [List.mem_singleton.mp h]
      · simp [h]
    · refine ih ?_ hrec ?_
      · rcases hmem with h | h
        · rcases List.mem_cons.mp h with rfl | h
          · exact .inr (by simp)
          · exact .inl h
        · exact .inr (by simp [h])
      · rw [List.length_append, List.length_singleton]
        omega
    · have hkept : ((keys.removeIndexes candidate).buffers user).isSome = true := hrec
      refine ih ?_ hkept (by omega)
      rcases hmem with h | h
      · rcases List.mem_cons.mp h with rfl | h
        · exact absurd hrec hcandidate
        · exact .inl h
      · exact .inr h

lemma Faithful.mem_listReadyExternalUserIds (h : keys.Faithful settings)
    (hsto : keys.buffers externalUserId = some state) (hp : state.processing = true)
    {rehydrateAt now : ℤ} {acquired : Bool} (hstuck : isStuck now settings.stuckMs state = true)
    (hlimit : keys.flushSet.zcard + keys.stuckSet.zcard ≤ limit) :
    externalUserId ∈ (keys.listReadyExternalUserIds settings rehydrateAt now acquired limit).2 := by
  obtain ⟨t₀, hstarted⟩ := (h.listed _ _ hsto).startedAt hp
  have hentry : (externalUserId, t₀ + settings.stuckMs) ∈ keys.stuckSet.entries := by
    rw [← zscore_eq_some_iff]
    exact (h.indexed externalUserId).stuckAt state t₀ hsto hp hstarted
  have hcard : 0 < keys.stuckSet.zcard := List.length_pos_of_mem hentry
  have hrehydrate : keys.maybeRehydrate settings rehydrateAt acquired = keys := by
    rw [maybeRehydrate, if_pos (by omega)]
  simp only [isStuck, hstarted, Option.getD_some, decide_eq_true_eq] at hstuck
  have hrange : (externalUserId, t₀ + settings.stuckMs) ∈
      keys.stuckSet.zrangebyscore 0 now limit := by
    rw [mem_zrangebyscore _ (by omega)]
    refine ⟨hentry, ?_, ?_⟩ <;> dsimp only <;> omega
  have hflush := keys.flushSet.length_zrangebyscore_le 0 now limit
  have hstuckRange := keys.stuckSet.length_zrangebyscore_le 0 now limit
  rw [listReadyExternalUserIds, hrehydrate]
  refine mem_collectReady (.inl ?_) (by rw [hsto]; rfl) ?_
  · rw [mem_mergeCandidates (by omega)]
    exact .inr (List.mem_map.mpr ⟨_, hrange, rfl⟩)
  · rw [List.length_nil, Nat.zero_add, mergeCandidates, List.length_map]
    exact List.length_take_le _ _

lemma Faithful.reconcileUser (h : keys.Faithful settings) (now : ℤ) (externalUserId : String) :
    keys.reconcileUser settings now externalUserId = (keys, ⟨false, false, false, false⟩) := by
  have hindex := h.indexed externalUserId
  unfold RedisKeys.reconcileUser
  cases hsto : keys.buffers externalUserId with
  | none =>
    have hact : externalUserId ∉ keys.activeSet := by simp [hindex.active, hsto]
    have hflush : (keys.flushSet.zscore externalUserId).isSome = false := by
      rw [Bool.eq_false_iff, ne_eq, hindex.flush]
      simp [hsto]
    have hstuck : (keys.stuckSet.zscore externalUserId).isSome = false := by
      rw [Bool.eq_false_iff, ne_eq, hindex.stuck]
      simp [hsto]
    simp [hact, hflush, hstuck]
  | some state =>
    have hwork := (h.listed _ _ hsto).wellFormed.hasBufferedWork
    have hact : externalUserId ∈ keys.activeSet := by simp [hindex.active, hsto]
    have hflush : (keys.flushSet.zscore externalUserId).isSome =
        (!state.processing && !state.abandoned && !state.texts.isEmpty) := by
      rw [Bool.eq_iff_iff, hindex.flush]
      simp [hsto, and_assoc]
    have hstuck : (keys.stuckSet.zscore externalUserId).isSome = state.processing := by
      rw [Bool.eq_iff_iff, hindex.stuck]
      simp [hsto]
    simp [hact, hwork, hflush, hstuck]

/-- Without a claim on an abandoned record: the memberships are those the record calls for, a batch
in flight is listed once it is stuck, and there is nothing to reconcile. -/
theorem indexes_follow_records (settings : RedisChatQueueSettings) (ops : List (QueueOp τ γ))
    {keys : RedisKeys τ γ} (hrun : run (step settings) empty ops = some keys)
    (hclaims : Along (step settings) (fun k op => k.claimsAbandoned op = false) empty ops)
    (externalUserId : String) :
    (externalUserId ∈ keys.activeSet ↔ (keys.buffers externalUserId).isSome = true) ∧
      ((keys.flushSet.zscore externalUserId).isSome = true ↔
        ∃ state, keys.buffers externalUserId = some state ∧ state.processing = false ∧
          state.abandoned = false ∧ state.texts ≠ []) ∧
      ((keys.stuckSet.zscore externalUserId).isSome = true ↔
        ∃ state, keys.buffers externalUserId = some state ∧ state.processing = true) ∧
      (∀ state rehydrateAt now acquired limit, keys.buffers externalUserId = some state →
        state.processing = true → isStuck now settings.stuckMs state = true →
        keys.flushSet.zcard + keys.stuckSet.zcard ≤ limit → externalUserId ∈
          (keys.listReadyExternalUserIds settings rehydrateAt now acquired limit).2) ∧
      ∀ now, (keys.reconcileUser settings now externalUserId).2.mismatch = false := by
  have hkeys : keys.Faithful settings := by
    refine run_induction (I := fun k => k.Faithful settings) ?_ faithful_empty hclaims hrun
    intro _ _ _ hk hclaim hstep
    cases hstep
    exact hk.apply hclaim
  have hindex := hkeys.indexed externalUserId
  refine ⟨hindex.active, hindex.flush, hindex.stuck, ?_, fun now => ?_⟩
  · intro _ _ _ _ _ hsto hp hstuck hlimit
    exact hkeys.mem_listReadyExternalUserIds hsto hp hstuck hlimit
  · rw [hkeys.reconcileUser]

open QueueSample in
/-- A claimed batch whose worker died is listed a minute later. -/
theorem indexes_follow_records_crash :
    ∃ keys, run (step QueueSample.settings) empty [message 0 "a", poll 2000 "t"] = some keys ∧
      (keys.stuckSet.zscore "user").isSome = true ∧ "user" ∈
        (keys.listReadyExternalUserIds QueueSample.settings 62000 62000 true 10).2 := by
  refine ⟨_, rfl, rfl, ?_⟩
  exact (indexes_follow_records QueueSample.settings [message 0 "a", poll 2000 "t"] rfl
    (by decide) "user").2.2.2.1 _ _ _ _ _ rfl rfl (by decide) (by decide)

open QueueSample in
/-- A worker lists the user, another one exhausts the retry budget, then the first claims the batch.
-/
theorem claimed_abandoned_unlisted :
    ∃ listed keys state, run (step QueueSample.settings) empty
        [message 0 "a", poll 2000 "t", failed 3000 "t"] = some listed ∧
      (listed.listReadyExternalUserIds QueueSample.settings 9000 9000 true 10).2 = ["user"] ∧
      run (step QueueSample.settings) listed
        [poll 9001 "u", failed 10000 "u", poll 10001 "v"] = some keys ∧
      keys.buffers "user" = some state ∧ state.processing = true ∧
      keys.stuckSet.zscore "user" = none ∧ isStuck 70001 60000 state = true ∧
      (keys.listReadyExternalUserIds QueueSample.settings 70001 70001 true 10).2 = [] ∧
      (keys.reconcileUser QueueSample.settings 70001 "user").2.mismatch = true :=
  ⟨_, _, _, rfl, rfl, rfl, rfl, rfl, rfl, rfl, rfl, rfl⟩

end RedisKeys

end WispaceBot
