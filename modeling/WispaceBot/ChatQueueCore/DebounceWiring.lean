import WispaceBot.ChatQueueCore.Debounce

/-!
# The wiring of the debounce queue

The map, the state objects, the timers of the host and the flushes in progress refer to each other.
`Wired` says that these references agree: a timer and a flush belong to the object that the map has
for their user, an object that remembers a timer has that timer at the host, and an object that is
being processed has exactly one flush.  Every primitive change of the queue keeps it.
-/

namespace WispaceBot

open List Function

namespace DebounceChatQueue

variable {V : Type} {q q' : DebounceChatQueue V} {user : String} {r : ℕ}

/-- The references between the map, the objects, the timers and the flushes agree. -/
structure Wired (q : DebounceChatQueue V) : Prop where
  ref_lt : ∀ user r, q.get user = some r → r < q.next
  ref_inj : ∀ user user' r, q.get user = some r → q.get user' = some r → user = user'
  timer_lt : ∀ t ∈ q.timers, t.id < q.next
  timer_inj : ∀ t ∈ q.timers, ∀ t' ∈ q.timers, t.id = t'.id → t = t'
  timer_live : ∀ t ∈ q.timers,
    q.get t.externalUserId = some t.state ∧ (q.objects t.state).debounceTimer = some t.id
  timer_held : ∀ user r id, q.get user = some r → (q.objects r).debounceTimer = some id →
    ∃ t ∈ q.timers, t.state = r ∧ t.id = id
  flush_lt : ∀ f ∈ q.flushes, f.id < q.next
  flush_inj : ∀ f ∈ q.flushes, ∀ f' ∈ q.flushes, f.id = f'.id → f = f'
  flush_state_inj : ∀ f ∈ q.flushes, ∀ f' ∈ q.flushes, f.state = f'.state → f = f'
  flush_live : ∀ f ∈ q.flushes,
    q.get f.externalUserId = some f.state ∧ (q.objects f.state).processing = true
  flush_held : ∀ user r, q.get user = some r → (q.objects r).processing = true →
    ∃ f ∈ q.flushes, f.state = r

/-! ## What the primitive changes read and write -/

@[simp] lemma get_modify (f : QueueState V → QueueState V) :
    (q.modify r f).get user = q.get user := rfl

@[simp] lemma get_emit (o : QueueOutput V) : (q.emit o).get user = q.get user := rfl

@[simp] lemma get_arm (user' : String) : (q.arm user' r).get user = q.get user := rfl

@[simp] lemma get_disarm : (q.disarm r).get user = q.get user := by
  unfold disarm
  split <;> rfl

@[simp] lemma objects_emit (o : QueueOutput V) : (q.emit o).objects = q.objects := rfl

@[simp] lemma objects_modify_self (f : QueueState V → QueueState V) :
    (q.modify r f).objects r = f (q.objects r) :=
  update_self ..

lemma objects_modify_of_ne {s : ℕ} (f : QueueState V → QueueState V) (h : s ≠ r) :
    (q.modify r f).objects s = q.objects s :=
  update_of_ne h ..

lemma objects_disarm :
    (q.disarm r).objects = update q.objects r { q.objects r with debounceTimer := none } := by
  unfold disarm
  split
  next h =>
    rw [← h]
    exact (update_eq_self r q.objects).symm
  · rfl

@[simp] lemma objects_disarm_self :
    (q.disarm r).objects r = { q.objects r with debounceTimer := none } := by
  rw [objects_disarm, update_self]

@[simp] lemma log_disarm : (q.disarm r).log = q.log := by
  unfold disarm
  split <;> rfl

@[simp] lemma flushes_disarm : (q.disarm r).flushes = q.flushes := by
  unfold disarm
  split <;> rfl

@[simp] lemma next_disarm : (q.disarm r).next = q.next := by
  unfold disarm
  split <;> rfl

lemma disarm_of_none (h : (q.objects r).debounceTimer = none) : q.disarm r = q := by
  unfold disarm
  rw [h]

/-! ## The primitive changes keep the wiring -/

lemma wired_empty (now ms : ℤ) : (empty now ms : DebounceChatQueue V).Wired := by
  have hget : ∀ user, (empty now ms : DebounceChatQueue V).get user = none := fun _ => rfl
  have htimers : (empty now ms : DebounceChatQueue V).timers = [] := rfl
  have hflushes : (empty now ms : DebounceChatQueue V).flushes = [] := rfl
  refine ⟨?_, ?_, ?_, ?_, ?_, ?_, ?_, ?_, ?_, ?_, ?_⟩ <;> simp [hget, htimers, hflushes]

section

variable (h : q.Wired)
include h

lemma Wired.congr (hget : ∀ user, q'.get user = q.get user)
    (htimer : ∀ r, (q'.objects r).debounceTimer = (q.objects r).debounceTimer)
    (hproc : ∀ r, (q'.objects r).processing = (q.objects r).processing)
    (htimers : q'.timers = q.timers) (hflushes : q'.flushes = q.flushes)
    (hnext : q.next ≤ q'.next) : q'.Wired := by
  refine ⟨?_, ?_, ?_, ?_, ?_, ?_, ?_, ?_, ?_, ?_, ?_⟩
  · intro user r hr
    exact Nat.lt_of_lt_of_le (h.ref_lt user r (hget user ▸ hr)) hnext
  · intro user user' r hr hr'
    exact h.ref_inj user user' r (hget user ▸ hr) (hget user' ▸ hr')
  · rw [htimers]
    exact fun t ht => Nat.lt_of_lt_of_le (h.timer_lt t ht) hnext
  · rw [htimers]
    exact h.timer_inj
  · simp only [htimers, hget, htimer]
    exact h.timer_live
  · simp only [htimers, hget, htimer]
    exact h.timer_held
  · rw [hflushes]
    exact fun f hf => Nat.lt_of_lt_of_le (h.flush_lt f hf) hnext
  · rw [hflushes]
    exact h.flush_inj
  · rw [hflushes]
    exact h.flush_state_inj
  · simp only [hflushes, hget, hproc]
    exact h.flush_live
  · simp only [hflushes, hget, hproc]
    exact h.flush_held

lemma Wired.emit (o : QueueOutput V) : (q.emit o).Wired :=
  h.congr (fun _ => rfl) (fun _ => rfl) (fun _ => rfl) rfl rfl (Nat.le_refl _)

lemma Wired.modify {f : QueueState V → QueueState V}
    (htimer : (f (q.objects r)).debounceTimer = (q.objects r).debounceTimer)
    (hproc : (f (q.objects r)).processing = (q.objects r).processing) : (q.modify r f).Wired := by
  refine h.congr (fun _ => rfl) (fun s => ?_) (fun s => ?_) rfl rfl (Nat.le_refl _)
  · by_cases hs : s = r
    · rw [hs, objects_modify_self, htimer]
    · rw [objects_modify_of_ne f hs]
  · by_cases hs : s = r
    · rw [hs, objects_modify_self, hproc]
    · rw [objects_modify_of_ne f hs]

lemma Wired.disarm (hr : q.get user = some r) : (q.disarm r).Wired := by
  cases hid : (q.objects r).debounceTimer with
  | none =>
    rw [disarm_of_none hid]
    exact h
  | some id =>
    -- the only timer with this number is the one the object remembers
    obtain ⟨t, ht, htr, htid⟩ := h.timer_held user r id hr hid
    have htimers : (q.disarm r).timers = q.timers.filter fun t => t.id ≠ id := by
      unfold DebounceChatQueue.disarm
      rw [hid]
      rfl
    have hmem : ∀ t', t' ∈ (q.disarm r).timers ↔ t' ∈ q.timers ∧ t'.id ≠ id := by
      intro t'
      rw [htimers, mem_filter, decide_eq_true_iff]
    have hstate : ∀ t' ∈ (q.disarm r).timers, t'.state ≠ r := by
      intro t' ht' heq
      obtain ⟨hold, hne⟩ := (hmem t').mp ht'
      have hlive := (h.timer_live t' hold).2
      rw [heq, hid] at hlive
      exact hne (Option.some.inj hlive).symm
    have hother : ∀ s, s ≠ r → (q.disarm r).objects s = q.objects s := by
      intro s hs
      rw [objects_disarm, update_of_ne hs]
    have hproc : ∀ s, ((q.disarm r).objects s).processing = (q.objects s).processing := by
      intro s
      by_cases hs : s = r
      · rw [hs, objects_disarm_self]
      · rw [hother s hs]
    refine ⟨?_, ?_, ?_, ?_, ?_, ?_, ?_, ?_, ?_, ?_, ?_⟩
    · simpa using h.ref_lt
    · simpa using h.ref_inj
    · intro t' ht'
      rw [next_disarm]
      exact h.timer_lt t' ((hmem t').mp ht').1
    · intro t' ht' t'' ht''
      exact h.timer_inj t' ((hmem t').mp ht').1 t'' ((hmem t'').mp ht'').1
    · intro t' ht'
      rw [get_disarm, hother _ (hstate t' ht')]
      exact h.timer_live t' ((hmem t').mp ht').1
    · intro user' s id' hs hheld
      rw [get_disarm] at hs
      by_cases hsr : s = r
      · rw [hsr, objects_disarm_self] at hheld
        simp at hheld
      · rw [hother s hsr] at hheld
        obtain ⟨t', ht', hts, htid'⟩ := h.timer_held user' s id' hs hheld
        refine ⟨t', (hmem t').mpr ⟨ht', fun heq => hsr ?_⟩, hts, htid'⟩
        have hsame := h.timer_inj t' ht' t ht (heq.trans htid.symm)
        rw [← hts, hsame, htr]
    · simpa using h.flush_lt
    · simpa using h.flush_inj
    · simpa using h.flush_state_inj
    · simp only [flushes_disarm, get_disarm, hproc]
      exact h.flush_live
    · simp only [flushes_disarm, get_disarm, hproc]
      exact h.flush_held

lemma Wired.arm (hr : q.get user = some r) (hnone : (q.objects r).debounceTimer = none) :
    (q.arm user r).Wired := by
  have hself : ((q.arm user r).objects r) = { q.objects r with debounceTimer := some q.next } :=
    update_self ..
  have hother : ∀ s, s ≠ r → (q.arm user r).objects s = q.objects s :=
    fun s hs => update_of_ne hs ..
  have hproc : ∀ s, ((q.arm user r).objects s).processing = (q.objects s).processing := by
    intro s
    by_cases hs : s = r
    · rw [hs, hself]
    · rw [hother s hs]
  have hmem : ∀ t, t ∈ (q.arm user r).timers ↔ t ∈ q.timers ∨
      t = { id := q.next, externalUserId := user, state := r,
            dueAt := q.now + timeoutDelay q.debounceMs } := by
    intro t
    exact mem_append.trans (or_congr Iff.rfl mem_singleton)
  -- no old timer belongs to the object
  have hstate : ∀ t ∈ q.timers, t.state ≠ r := by
    intro t ht heq
    have hlive := (h.timer_live t ht).2
    rw [heq, hnone] at hlive
    simp at hlive
  refine ⟨?_, ?_, ?_, ?_, ?_, ?_, ?_, ?_, ?_, ?_, ?_⟩
  · intro user' s hs
    exact Nat.lt_succ_of_lt (h.ref_lt user' s hs)
  · exact h.ref_inj
  · intro t ht
    rcases (hmem t).mp ht with hold | rfl
    · exact Nat.lt_succ_of_lt (h.timer_lt t hold)
    · exact Nat.lt_succ_self q.next
  · intro t ht t' ht' heq
    rcases (hmem t).mp ht with hold | rfl <;> rcases (hmem t').mp ht' with hold' | rfl
    · exact h.timer_inj t hold t' hold' heq
    · exact absurd heq (Nat.ne_of_lt (h.timer_lt t hold))
    · exact absurd heq.symm (Nat.ne_of_lt (h.timer_lt t' hold'))
    · rfl
  · intro t ht
    rcases (hmem t).mp ht with hold | rfl
    · rw [get_arm, hother _ (hstate t hold)]
      exact h.timer_live t hold
    · exact ⟨hr, by rw [hself]⟩
  · intro user' s id hs hheld
    by_cases hsr : s = r
    · rw [hsr, hself] at hheld
      exact ⟨_, (hmem _).mpr (.inr rfl), hsr.symm, Option.some.inj hheld⟩
    · rw [hother s hsr] at hheld
      obtain ⟨t, ht, hts, htid⟩ := h.timer_held user' s id hs hheld
      exact ⟨t, (hmem t).mpr (.inl ht), hts, htid⟩
  · intro f hf
    exact Nat.lt_succ_of_lt (h.flush_lt f hf)
  · exact h.flush_inj
  · exact h.flush_state_inj
  · simp only [get_arm, hproc]
    exact h.flush_live
  · simp only [get_arm, hproc]
    exact h.flush_held

lemma Wired.scheduleFlush (hr : q.get user = some r) : (q.scheduleFlush user r).Wired :=
  (h.disarm hr).arm (get_disarm.trans hr) (by rw [objects_disarm_self])

end

lemma get_create (user : String) : (q.create user).get user = some q.next :=
  AList.lookup_insert q.queues

lemma get_create_of_ne {user' : String} (h : user' ≠ user) :
    (q.create user).get user' = q.get user' :=
  AList.lookup_insert_ne h

lemma objects_create_self : (q.create user).objects q.next = { lastActivityAt := q.now } :=
  update_self ..

lemma objects_create_of_ne {s : ℕ} (h : s ≠ q.next) : (q.create user).objects s = q.objects s :=
  update_of_ne h ..

lemma Wired.create (h : q.Wired) (hnone : q.get user = none) : (q.create user).Wired := by
  -- the entries of the map are the new one and the old ones, which do not refer to the new object
  have hget : ∀ user' s, (q.create user).get user' = some s →
      (user' = user ∧ s = q.next) ∨ (q.get user' = some s ∧ s ≠ q.next) := by
    intro user' s hs
    by_cases huser : user' = user
    · rw [huser, get_create] at hs
      exact .inl ⟨huser, (Option.some.inj hs).symm⟩
    · rw [get_create_of_ne huser] at hs
      exact .inr ⟨hs, Nat.ne_of_lt (h.ref_lt user' s hs)⟩
  have hold : ∀ user' s, q.get user' = some s →
      (q.create user).get user' = some s ∧ (q.create user).objects s = q.objects s := by
    intro user' s hs
    have huser : user' ≠ user := by
      rintro rfl
      exact absurd (hnone.symm.trans hs) (by simp)
    exact ⟨(get_create_of_ne huser).trans hs,
      objects_create_of_ne (Nat.ne_of_lt (h.ref_lt user' s hs))⟩
  refine ⟨?_, ?_, ?_, h.timer_inj, ?_, ?_, ?_, h.flush_inj, h.flush_state_inj, ?_, ?_⟩
  · intro user' s hs
    rcases hget user' s hs with ⟨_, rfl⟩ | ⟨hs', _⟩
    · exact Nat.lt_succ_self q.next
    · exact Nat.lt_succ_of_lt (h.ref_lt user' s hs')
  · intro user' user'' s hs hs'
    rcases hget user' s hs with ⟨rfl, rfl⟩ | ⟨hold', hne⟩ <;>
      rcases hget user'' _ hs' with ⟨rfl, heq⟩ | ⟨hold'', hne'⟩
    · rfl
    · exact absurd rfl hne'
    · exact absurd heq hne
    · exact h.ref_inj user' user'' s hold' hold''
  · intro t ht
    exact Nat.lt_succ_of_lt (h.timer_lt t ht)
  · intro t ht
    obtain ⟨hlive, hheld⟩ := h.timer_live t ht
    obtain ⟨hlive', hobj⟩ := hold _ _ hlive
    exact ⟨hlive', by rw [hobj, hheld]⟩
  · intro user' s id hs hheld
    rcases hget user' s hs with ⟨_, rfl⟩ | ⟨hs', hne⟩
    · rw [objects_create_self] at hheld
      simp at hheld
    · rw [objects_create_of_ne hne] at hheld
      exact h.timer_held user' s id hs' hheld
  · intro f hf
    exact Nat.lt_succ_of_lt (h.flush_lt f hf)
  · intro f hf
    obtain ⟨hlive, hheld⟩ := h.flush_live f hf
    obtain ⟨hlive', hobj⟩ := hold _ _ hlive
    exact ⟨hlive', by rw [hobj, hheld]⟩
  · intro user' s hs hheld
    rcases hget user' s hs with ⟨_, rfl⟩ | ⟨hs', hne⟩
    · rw [objects_create_self] at hheld
      simp at hheld
    · rw [objects_create_of_ne hne] at hheld
      exact h.flush_held user' s hs' hheld

lemma get_delete (user : String) : (q.delete user).get user = none :=
  AList.lookup_erase user q.queues

lemma get_delete_of_ne {user' : String} (h : user' ≠ user) :
    (q.delete user).get user' = q.get user' :=
  AList.lookup_erase_ne h

lemma Wired.delete (h : q.Wired) (hr : q.get user = some r)
    (htimer : (q.objects r).debounceTimer = none) (hidle : (q.objects r).processing = false) :
    (q.delete user).Wired := by
  have hget : ∀ user' s, (q.delete user).get user' = some s → q.get user' = some s := by
    intro user' s hs
    by_cases huser : user' = user
    · rw [huser, get_delete] at hs
      simp at hs
    · rwa [get_delete_of_ne huser] at hs
  -- a timer or a flush of the user would be one of the object
  have hkept : ∀ user' s, q.get user' = some s → s ≠ r → (q.delete user).get user' = some s := by
    intro user' s hs hne
    have huser : user' ≠ user := by
      rintro rfl
      exact hne (Option.some.inj (hs.symm.trans hr))
    rwa [get_delete_of_ne huser]
  refine ⟨?_, ?_, h.timer_lt, h.timer_inj, ?_, ?_, h.flush_lt, h.flush_inj, h.flush_state_inj,
    ?_, ?_⟩
  · exact fun user' s hs => h.ref_lt user' s (hget user' s hs)
  · exact fun user' user'' s hs hs' =>
      h.ref_inj user' user'' s (hget user' s hs) (hget user'' s hs')
  · intro t ht
    obtain ⟨hlive, hheld⟩ := h.timer_live t ht
    refine ⟨hkept _ _ hlive fun heq => ?_, hheld⟩
    rw [heq, htimer] at hheld
    simp at hheld
  · exact fun user' s id hs => h.timer_held user' s id (hget user' s hs)
  · intro f hf
    obtain ⟨hlive, hheld⟩ := h.flush_live f hf
    refine ⟨hkept _ _ hlive fun heq => ?_, hheld⟩
    rw [heq, hidle] at hheld
    simp at hheld
  · exact fun user' s hs => h.flush_held user' s (hget user' s hs)

lemma objects_beginFlush_self (user : String) (dl : ℤ) (drain : Option ℕ) :
    (q.beginFlush user dl drain r).objects r =
      { q.objects r with
        processing := true, processingDeadlineAt := some dl, texts := [],
        lastIdempotencyKey := none } :=
  update_self ..

lemma objects_beginFlush_of_ne {s : ℕ} (dl : ℤ) (drain : Option ℕ) (h : s ≠ r) :
    (q.beginFlush user dl drain r).objects s = q.objects s :=
  update_of_ne h ..

@[simp] lemma get_beginFlush (user' : String) (dl : ℤ) (drain : Option ℕ) :
    (q.beginFlush user' dl drain r).get user = q.get user := rfl

lemma Wired.beginFlush (h : q.Wired) (hr : q.get user = some r)
    (hidle : (q.objects r).processing = false) (dl : ℤ) (drain : Option ℕ) :
    (q.beginFlush user dl drain r).Wired := by
  have htimer : ∀ s, ((q.beginFlush user dl drain r).objects s).debounceTimer =
      (q.objects s).debounceTimer := by
    intro s
    by_cases hs : s = r
    · rw [hs, objects_beginFlush_self]
    · rw [objects_beginFlush_of_ne _ _ hs]
  have hmem : ∀ f, f ∈ (q.beginFlush user dl drain r).flushes ↔ f ∈ q.flushes ∨
      f = { id := q.next, externalUserId := user, state := r, startedAt := q.now,
            deadlineAt := dl,
            timeoutAt := q.now + timeoutDelay (max 0 (dl - q.now)), drain := drain } := by
    intro f
    exact mem_append.trans (or_congr Iff.rfl mem_singleton)
  -- no old flush belongs to the object
  have hstate : ∀ f ∈ q.flushes, f.state ≠ r := by
    intro f hf heq
    have hlive := (h.flush_live f hf).2
    rw [heq, hidle] at hlive
    simp at hlive
  refine ⟨?_, h.ref_inj, ?_, h.timer_inj, ?_, ?_, ?_, ?_, ?_, ?_, ?_⟩
  · exact fun user' s hs => Nat.lt_succ_of_lt (h.ref_lt user' s hs)
  · exact fun t ht => Nat.lt_succ_of_lt (h.timer_lt t ht)
  · simp only [htimer]
    exact h.timer_live
  · simp only [htimer]
    exact h.timer_held
  · intro f hf
    rcases (hmem f).mp hf with hold | rfl
    · exact Nat.lt_succ_of_lt (h.flush_lt f hold)
    · exact Nat.lt_succ_self q.next
  · intro f hf f' hf' heq
    rcases (hmem f).mp hf with hold | rfl <;> rcases (hmem f').mp hf' with hold' | rfl
    · exact h.flush_inj f hold f' hold' heq
    · exact absurd heq (Nat.ne_of_lt (h.flush_lt f hold))
    · exact absurd heq.symm (Nat.ne_of_lt (h.flush_lt f' hold'))
    · rfl
  · intro f hf f' hf' heq
    rcases (hmem f).mp hf with hold | rfl <;> rcases (hmem f').mp hf' with hold' | rfl
    · exact h.flush_state_inj f hold f' hold' heq
    · exact absurd heq (hstate f hold)
    · exact absurd heq.symm (hstate f' hold')
    · rfl
  · intro f hf
    rcases (hmem f).mp hf with hold | rfl
    · rw [get_beginFlush, objects_beginFlush_of_ne _ _ (hstate f hold)]
      exact h.flush_live f hold
    · exact ⟨hr, by rw [objects_beginFlush_self]⟩
  · intro user' s hs hheld
    by_cases hsr : s = r
    · exact ⟨_, (hmem _).mpr (.inr rfl), hsr.symm⟩
    · rw [objects_beginFlush_of_ne _ _ hsr] at hheld
      obtain ⟨f, hf, hfs⟩ := h.flush_held user' s hs hheld
      exact ⟨f, (hmem f).mpr (.inl hf), hfs⟩

def afterFlush (f : ActiveFlush) (q : DebounceChatQueue V) : DebounceChatQueue V :=
  { q with flushes := q.flushes.filter fun g => g.id ≠ f.id }.modify f.state released

lemma endFlush_eq (f : ActiveFlush) :
    q.endFlush f =
      if ((q.afterFlush f).objects f.state).texts ≠ [] then
        (q.afterFlush f).scheduleFlush f.externalUserId f.state
      else if ((q.afterFlush f).objects f.state).debounceTimer = none ∧
          ((q.afterFlush f).objects f.state).pendingWhileProcessing = [] then
        (q.afterFlush f).delete f.externalUserId
      else q.afterFlush f := rfl

lemma released_debounceTimer (s : QueueState V) : (released s).debounceTimer = s.debounceTimer := by
  unfold released
  dsimp only
  split <;> rfl

lemma released_processing (s : QueueState V) : (released s).processing = false := by
  unfold released
  dsimp only
  split <;> rfl

lemma Wired.afterFlush (h : q.Wired) {f : ActiveFlush} (hf : f ∈ q.flushes) :
    (q.afterFlush f).Wired := by
  have hself : (q.afterFlush f).objects f.state = released (q.objects f.state) :=
    update_self ..
  have hother : ∀ s, s ≠ f.state → (q.afterFlush f).objects s = q.objects s :=
    fun s hs => update_of_ne hs ..
  have hget : ∀ user, (q.afterFlush f).get user = q.get user := fun _ => rfl
  have htimer : ∀ s, ((q.afterFlush f).objects s).debounceTimer =
      (q.objects s).debounceTimer := by
    intro s
    by_cases hs : s = f.state
    · rw [hs, hself, released_debounceTimer]
    · rw [hother s hs]
  have hmem : ∀ g, g ∈ (q.afterFlush f).flushes ↔ g ∈ q.flushes ∧ g.id ≠ f.id := by
    intro g
    exact mem_filter.trans (and_congr Iff.rfl decide_eq_true_iff)
  have hstate : ∀ g ∈ (q.afterFlush f).flushes, g.state ≠ f.state := by
    intro g hg heq
    obtain ⟨hold, hne⟩ := (hmem g).mp hg
    exact hne (congrArg ActiveFlush.id (h.flush_state_inj g hold f hf heq))
  refine ⟨h.ref_lt, h.ref_inj, h.timer_lt, h.timer_inj, ?_, ?_, ?_, ?_, ?_, ?_, ?_⟩
  · simp only [htimer]
    exact h.timer_live
  · simp only [htimer]
    exact h.timer_held
  · exact fun g hg => h.flush_lt g ((hmem g).mp hg).1
  · exact fun g hg g' hg' => h.flush_inj g ((hmem g).mp hg).1 g' ((hmem g').mp hg').1
  · exact fun g hg g' hg' => h.flush_state_inj g ((hmem g).mp hg).1 g' ((hmem g').mp hg').1
  · intro g hg
    rw [hget, hother _ (hstate g hg)]
    exact h.flush_live g ((hmem g).mp hg).1
  · intro user s hs hheld
    by_cases hsf : s = f.state
    · rw [hsf, hself, released_processing] at hheld
      simp at hheld
    · rw [hother s hsf] at hheld
      obtain ⟨g, hg, hgs⟩ := h.flush_held user s hs hheld
      refine ⟨g, (hmem g).mpr ⟨hg, fun heq => hsf ?_⟩, hgs⟩
      rw [← hgs, h.flush_inj g hg f hf heq]

end DebounceChatQueue

end WispaceBot
