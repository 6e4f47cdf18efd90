import WispaceBot.Execution.BoundedAdmission
import WispaceBot.Foundation.FirstCome
import WispaceBot.Foundation.Table

/-!
# Fair admission without lost wake-ups

`Sound` is what the queue keeps true through every callback.  Each callback changes the queue and
then pumps it, and after pumping no ready waiter is left beside a free slot.
-/

namespace WispaceBot

open List Table Transition

namespace BoundedAdmissionQueue

/-- The account of the queue that every callback keeps. -/
structure Sound (limits : AdmissionLimits) (q : BoundedAdmissionQueue) : Prop where
  counted : q.active = q.held.length
  capped : q.active ≤ limits.concurrency
  bounded : q.waiters.length ≤ limits.maxQueueDepth
  line : FirstCome q.enqueued q.granted q.rejected q.waiting
  made : ∀ id ∈ q.granted ++ q.rejected ++ q.waiting, id < q.calls
  queued : ∀ id ∈ q.enqueued, id < q.calls
  budget : ∀ id ∈ q.budgetTimers, id ∈ q.waiting
  listening : ∀ l ∈ q.listeners, l.2 ∈ q.waiting
  delayed : ∀ id, id ∈ q.readyTimers ↔ ⟨id, false⟩ ∈ q.waiters

def Awake (limits : AdmissionLimits) (q : BoundedAdmissionQueue) : Prop :=
  q.active < limits.concurrency → q.waiters.head?.all (!·.ready) = true

variable {limits : AdmissionLimits} {q : BoundedAdmissionQueue} {id : ℕ}

/-! ## A waiter that leaves the queue -/

def drop (id : ℕ) (q : BoundedAdmissionQueue) : BoundedAdmissionQueue :=
  clearWaiter id { q with waiters := q.waiters.eraseP (·.id = id) }

lemma onBudget_eq (limits : AdmissionLimits) (id : ℕ) (q : BoundedAdmissionQueue) :
    q.onBudget limits id = pump limits ((q.drop id).reject id (.overload .waitTimeout)) := by
  rw [pump_reject]
  simp [onBudget, remove, drop, clearWaiter, filter_filter]

lemma onAbort_eq (limits : AdmissionLimits) (reason : AbortReason) (signal id : ℕ)
    (q : BoundedAdmissionQueue) :
    q.onAbort limits reason signal id =
      pump limits ((q.drop id).reject id (rejectionFromSignal reason)) := by
  have hlisteners : (q.listeners.filter (· ≠ (signal, id))).filter (·.2 ≠ id) =
      q.listeners.filter (·.2 ≠ id) := by
    rw [filter_filter]
    refine filter_congr fun l _ => ?_
    by_cases hl : l.2 = id
    · simp [hl]
    · have hne : l ≠ (signal, id) := fun h => hl (by rw [h])
      simp [hl, hne]
  rw [pump_reject, onAbort, remove, drop, clearWaiter, clearWaiter]
  simp only [hlisteners]

namespace Sound

section

variable (h : Sound limits q)
include h

lemma unique : UniqueOn Waiter.id q.waiters :=
  h.line.nodup_waiting

lemma waiters_drop (id : ℕ) : (q.drop id).waiters = q.waiters.filter (·.id ≠ id) := by
  refine (h.unique.eraseP_eq_deleteWhere id).trans (filter_congr fun w _ => ?_)
  simp

lemma waiting_drop (id : ℕ) : (q.drop id).waiting = q.waiting.filter (· ≠ id) := by
  rw [waiting, h.waiters_drop, waiting, filter_map]
  rfl

lemma fresh : q.calls ∉ q.granted ++ q.rejected ++ q.waiting ∧ q.calls ∉ q.enqueued :=
  ⟨fun hid => Nat.lt_irrefl _ (h.made _ hid), fun hid => Nat.lt_irrefl _ (h.queued _ hid)⟩

lemma made_call {ids : List ℕ}
    (hids : ∀ id ∈ ids, id ∈ q.granted ++ q.rejected ++ q.waiting ∨ id = q.calls) :
    ∀ id ∈ ids, id < q.calls + 1 := by
  intro id hid
  rcases hids id hid with hid | rfl
  · exact Nat.lt_succ_of_lt (h.made id hid)
  · exact Nat.lt_succ_self _

end

/-! ## The changes -/

lemma init (limits : AdmissionLimits) : Sound limits .init where
  counted := rfl
  capped := Int.natCast_nonneg _
  bounded := Nat.zero_le _
  line := .nil
  made _ hid := absurd hid not_mem_nil
  queued _ hid := absurd hid not_mem_nil
  budget _ hid := absurd hid not_mem_nil
  listening _ hl := absurd hl not_mem_nil
  delayed _ := by simp [BoundedAdmissionQueue.init]

section

variable (h : Sound limits q)
include h

lemma reject_call (error : AdmissionError) :
    Sound limits (reject q.calls error { q with calls := q.calls + 1 }) := by
  have hrej : (reject q.calls error { q with calls := q.calls + 1 }).rejected =
      q.rejected ++ [q.calls] := map_append
  refine ⟨h.counted, h.capped, h.bounded, ?_, ?_, ?_, h.budget, h.listening, h.delayed⟩
  · rw [hrej]
    exact h.line.refuse_new h.fresh.1 h.fresh.2
  · rw [hrej]
    refine h.made_call fun id hid => ?_
    simp only [mem_append, mem_singleton] at hid ⊢
    tauto
  · exact fun id hid => Nat.lt_succ_of_lt (h.queued id hid)

lemma grant_call (hfree : q.active < limits.concurrency) :
    Sound limits (grant q.calls { q with calls := q.calls + 1 }) := by
  have hgranted : (grant q.calls { q with calls := q.calls + 1 }).granted =
      q.granted ++ [q.calls] := map_append
  refine ⟨?_, ?_, h.bounded, ?_, ?_, ?_, h.budget, h.listening, h.delayed⟩
  · simp [grant, held, h.counted]
  · exact Int.add_one_le_of_lt hfree
  · rw [hgranted]
    exact h.line.serve_new h.fresh.1 h.fresh.2
  · rw [hgranted]
    refine h.made_call fun id hid => ?_
    simp only [mem_append, mem_singleton] at hid ⊢
    tauto
  · exact fun id hid => Nat.lt_succ_of_lt (h.queued id hid)

lemma enqueue_call (opts : BoundedAcquireOptions) {delayMs : JsNumber} (hneg : delayMs.lt 0 = false)
    (hfin : delayMs.isFinite = true) (hroom : q.waiters.length < limits.maxQueueDepth) :
    Sound limits (enqueue q.calls opts delayMs { q with calls := q.calls + 1 }) := by
  have hwait : (enqueue q.calls opts delayMs { q with calls := q.calls + 1 }).waiting =
      q.waiting ++ [q.calls] := map_append
  have hold : ∀ id ∈ q.waiting, id ∈ q.waiting ++ [q.calls] :=
    fun id hid => mem_append_left _ hid
  refine ⟨h.counted, h.capped, ?_, ?_, ?_, ?_, ?_, ?_, ?_⟩
  · exact length_append.trans_le hroom
  · rw [hwait]
    exact h.line.join h.fresh.1
  · rw [hwait]
    refine h.made_call fun id hid => ?_
    simp only [mem_append, mem_singleton] at hid ⊢
    tauto
  · intro id hid
    rcases mem_append.mp hid with hid | hid
    · exact Nat.lt_succ_of_lt (h.queued id hid)
    · rw [mem_singleton.mp hid]
      exact Nat.lt_succ_self _
  · intro id hid
    rw [hwait]
    simp only [enqueue] at hid
    split at hid
    · rcases mem_append.mp hid with hid | hid
      · exact hold id (h.budget id hid)
      · exact mem_append_right _ hid
    · exact hold id (h.budget id hid)
  · intro l hl
    rw [hwait]
    simp only [enqueue] at hl
    split at hl
    · rcases mem_append.mp hl with hl | hl
      · exact hold l.2 (h.listening l hl)
      · rw [mem_singleton.mp hl]
        exact mem_append_right _ (mem_singleton_self _)
    · exact hold l.2 (h.listening l hl)
  · intro id
    have hsign := JsNumber.lt_zero_eq_not_eq_zero hfin hneg
    have hdelayed := h.delayed id
    simp only [enqueue]
    cases hzero : delayMs.eq 0 with
    | true | false => simp [hsign, hzero, hdelayed]

lemma grant_head {next : Waiter} {rest : List Waiter} (hwaiters : q.waiters = next :: rest)
    (hfree : q.active < limits.concurrency) (hready : next.ready = true) :
    Sound limits (grant next.id (clearWaiter next.id { q with waiters := rest })) := by
  have hgranted : (grant next.id (clearWaiter next.id { q with waiters := rest })).granted =
      q.granted ++ [next.id] := map_append
  have hwait : q.waiting = next.id :: rest.map (·.id) := by rw [waiting, hwaiters, map_cons]
  have hother : ∀ id ∈ q.waiting, id ≠ next.id → id ∈ rest.map (·.id) := by
    intro id hid hne
    rw [hwait] at hid
    exact (mem_cons.mp hid).resolve_left hne
  have hfirst : next.id ∉ rest.map (·.id) := by
    have hnodup := h.line.nodup_waiting
    rw [hwait] at hnodup
    exact (nodup_cons.mp hnodup).1
  refine ⟨?_, ?_, ?_, ?_, ?_, h.queued, ?_, ?_, ?_⟩
  · simp [grant, clearWaiter, held, h.counted]
  · exact Int.add_one_le_of_lt hfree
  · have hlen := h.bounded
    rw [hwaiters, length_cons] at hlen
    exact Nat.le_of_succ_le hlen
  · have hline := h.line
    rw [hwait] at hline
    rw [hgranted]
    exact hline.serve_head
  · intro id hid
    rw [hgranted] at hid
    refine h.made id ?_
    rw [hwait]
    simp only [mem_append, mem_cons, not_mem_nil, or_false] at hid ⊢
    tauto
  · intro id hid
    obtain ⟨hid, hne⟩ := mem_filter.mp hid
    exact hother id (h.budget id hid) (by simpa using hne)
  · intro l hl
    obtain ⟨hl, hne⟩ := mem_filter.mp hl
    exact hother l.2 (h.listening l hl) (by simpa using hne)
  · intro id
    have hdelayed := h.delayed id
    rw [hwaiters, mem_cons] at hdelayed
    refine mem_filter.trans ?_
    constructor
    · rintro ⟨hid, hne⟩
      rcases hdelayed.mp hid with heq | hmem
      · simp [← heq] at hready
      · exact hmem
    · intro hmem
      have hne : id ≠ next.id := by
        rintro rfl
        exact hfirst (mem_map.mpr ⟨_, hmem, rfl⟩)
      exact ⟨hdelayed.mpr (.inr hmem), by simpa using hne⟩

lemma pump : Sound limits (q.pump limits) :=
  pump_induction (fun _ _ _ h hwaiters hfree hready => h.grant_head hwaiters hfree hready) h

lemma mark_ready (id : ℕ) : Sound limits (q.markReady id) := by
  have hwait : (q.markReady id).waiting = q.waiting := by
    simp only [waiting, markReady, map_map]
    refine map_congr_left fun w _ => ?_
    by_cases hw : w.id = id <;> simp [hw]
  refine ⟨h.counted, h.capped, ?_, ?_, ?_, h.queued, ?_, ?_, ?_⟩
  · exact (length_map _).trans_le h.bounded
  · rw [hwait]
    exact h.line
  · rw [hwait]
    exact h.made
  · rw [hwait]
    exact h.budget
  · rw [hwait]
    exact h.listening
  · intro i
    simp only [markReady, mem_filter, mem_map]
    rw [h.delayed i]
    constructor
    · rintro ⟨hmem, hne⟩
      have hne : i ≠ id := by simpa using hne
      exact ⟨⟨i, false⟩, hmem, by simp [hne]⟩
    · rintro ⟨w, hw, heq⟩
      by_cases hwid : w.id = id
      · simp [hwid] at heq
      · rw [if_neg hwid] at heq
        subst heq
        exact ⟨hw, by simpa using hwid⟩

lemma drop_reject (hid : id ∈ q.waiting) (error : AdmissionError) :
    Sound limits ((q.drop id).reject id error) := by
  have hrej : ((q.drop id).reject id error).rejected = q.rejected ++ [id] := map_append
  have hwaiters : ((q.drop id).reject id error).waiters = q.waiters.filter (·.id ≠ id) :=
    h.waiters_drop id
  have hwait : ((q.drop id).reject id error).waiting = q.waiting.filter (· ≠ id) :=
    h.waiting_drop id
  have hother : ∀ i ∈ q.waiting, i ≠ id → i ∈ q.waiting.filter (· ≠ id) :=
    fun i hi hne => mem_filter.mpr ⟨hi, by simpa using hne⟩
  refine ⟨h.counted, h.capped, ?_, ?_, ?_, h.queued, ?_, ?_, ?_⟩
  · rw [hwaiters]
    exact (length_filter_le _ _).trans h.bounded
  · rw [hrej, hwait]
    exact h.line.refuse_waiting hid
  · intro i hi
    rw [hrej, hwait] at hi
    refine h.made i ?_
    simp only [mem_append, mem_singleton, mem_filter] at hi ⊢
    rcases hi with (hi | hi | rfl) | hi
    · exact .inl (.inl hi)
    · exact .inl (.inr hi)
    · exact .inr hid
    · exact .inr hi.1
  · intro i hi
    obtain ⟨hi, hne⟩ := mem_filter.mp hi
    rw [hwait]
    exact hother i (h.budget i hi) (by simpa using hne)
  · intro l hl
    obtain ⟨hl, hne⟩ := mem_filter.mp hl
    rw [hwait]
    exact hother l.2 (h.listening l hl) (by simpa using hne)
  · intro i
    rw [hwaiters, mem_filter]
    refine mem_filter.trans ?_
    rw [h.delayed i]

lemma give_back {k : ℕ} {ticket : AdmissionTicket} (hk : q.tickets[k]? = some ticket)
    (hheld : ticket.released = false) : Sound limits (q.giveBack k ticket) := by
  obtain ⟨hlt, rfl⟩ := List.getElem?_eq_some_iff.mp hk
  have hgranted : (q.giveBack k q.tickets[k]).granted = q.granted := by
    simp only [granted, giveBack, map_set]
    refine ext_getElem (by simp) fun i hi _ => ?_
    by_cases hik : k = i
    · subst hik
      simp
    · simp [hik]
  have hone : (q.giveBack k q.tickets[k]).tickets.countP (!·.released) + 1 =
      q.tickets.countP (!·.released) := by
    have hpos : 0 < q.tickets.countP (!·.released) :=
      countP_pos_iff.mpr ⟨_, getElem_mem hlt, by simp [hheld]⟩
    rw [giveBack, countP_set hlt]
    simp only [hheld, Bool.not_false, if_true, Bool.not_true, Bool.false_eq_true, if_false]
    omega
  refine ⟨?_, ?_, h.bounded, ?_, ?_, h.queued, h.budget, h.listening, h.delayed⟩
  · have hcnt := h.counted
    rw [held, ← countP_eq_length_filter] at hcnt ⊢
    have hact : (q.giveBack k q.tickets[k]).active = q.active - 1 := rfl
    omega
  · exact (Int.sub_le_self _ (by decide)).trans h.capped
  · rw [hgranted]
    exact h.line
  · rw [hgranted]
    exact h.made

end

end Sound

/-! ## The events -/

/-- The invariant: slots and line are sound, and nobody waits who could be served. -/
structure Fair (limits : AdmissionLimits) (q : BoundedAdmissionQueue) : Prop where
  sound : Sound limits q
  awake : Awake limits q

namespace Fair

lemma of_sound (h : Sound limits q) : Fair limits (q.pump limits) :=
  ⟨h.pump, pump_awake limits q⟩

lemma init (limits : AdmissionLimits) : Fair limits .init :=
  ⟨.init limits, fun _ => rfl⟩

lemma acquire (h : Fair limits q) (opts : BoundedAcquireOptions) :
    Fair limits (q.acquire limits opts) := by
  have hreject : ∀ error, Fair limits (reject q.calls error { q with calls := q.calls + 1 }) :=
    fun error => ⟨h.sound.reject_call error, h.awake⟩
  simp only [BoundedAdmissionQueue.acquire]
  split
  · exact hreject _
  · split
    · exact hreject _
    next hdelay =>
      split
      next hfast =>
        -- the queue is empty, so nobody at its head can be ready
        have hempty : q.waiters = [] := length_eq_zero_iff.mp hfast.2.2
        refine ⟨h.sound.grant_call hfast.2.1, fun _ => ?_⟩
        simp [grant, hempty]
      · split
        · exact hreject _
        next hroom =>
          rw [Bool.not_eq_true, Bool.or_eq_false_iff, Bool.not_eq_false'] at hdelay
          exact of_sound (h.sound.enqueue_call opts hdelay.1 hdelay.2 (Nat.lt_of_not_le hroom))

variable {q' : BoundedAdmissionQueue}

section

variable (h : Fair limits q)
include h

lemma release {k : ℕ} (hstep : q.release limits k = some q') : Fair limits q' := by
  unfold BoundedAdmissionQueue.release at hstep
  split at hstep
  · cases hstep
  next _ hk =>
    split at hstep
    · obtain ⟨⟩ := hstep
      exact h
    next hheld =>
      obtain ⟨⟩ := hstep
      exact of_sound (h.sound.give_back hk (by simpa using hheld))

lemma dispatch (reason : AbortReason) (signal : ℕ) (ids : List ℕ) :
    Fair limits (q.dispatch limits reason signal ids) := by
  induction ids generalizing q with
  | nil => exact h
  | cons _ _ ih =>
    rw [BoundedAdmissionQueue.dispatch]
    split
    next hmem =>
      rw [onAbort_eq]
      exact ih (of_sound (h.sound.drop_reject (h.sound.listening _ hmem) _))
    · exact ih h

lemma abort (signal : ℕ) (reason : AbortReason) : Fair limits (q.abort limits signal reason) := by
  have hmark : Fair limits
      { q with abortReason := Function.update q.abortReason signal (some reason) } := by
    obtain ⟨⟨hcnt, hcapped, hbounded, hline, hmade, hqueued, hbud, hlistening, hdelayed⟩,
      hawake⟩ := h
    exact ⟨⟨hcnt, hcapped, hbounded, hline, hmade, hqueued, hbud, hlistening, hdelayed⟩, hawake⟩
  exact hmark.dispatch reason signal _

lemma step {e : Event} (hstep : q.step limits e = some q') : Fair limits q' := by
  cases e with
  | acquire opts =>
    obtain ⟨⟩ := hstep
    exact h.acquire opts
  | release => exact h.release hstep
  | ready id =>
    simp only [BoundedAdmissionQueue.step, Option.ite_none_right_eq_some,
      Option.some.injEq] at hstep
    obtain ⟨-, rfl⟩ := hstep
    exact of_sound (h.sound.mark_ready id)
  | budget id =>
    simp only [BoundedAdmissionQueue.step, Option.ite_none_right_eq_some,
      Option.some.injEq] at hstep
    obtain ⟨hmem, rfl⟩ := hstep
    rw [onBudget_eq]
    exact of_sound (h.sound.drop_reject (h.sound.budget id hmem) _)
  | abort signal reason =>
    simp only [BoundedAdmissionQueue.step, Option.ite_none_right_eq_some,
      Option.some.injEq] at hstep
    obtain ⟨-, rfl⟩ := hstep
    exact h.abort signal reason

lemma head_delayed (hfree : q.active < limits.concurrency) :
    q.waiters = [] ∨ ∃ w rest, q.waiters = w :: rest ∧ w.ready = false ∧ w.id ∈ q.readyTimers := by
  have hawake := h.awake hfree
  cases hwaiters : q.waiters with
  | nil => exact .inl rfl
  | cons w rest =>
    rw [hwaiters] at hawake
    have hready : w.ready = false := by simpa using hawake
    have hmem : ⟨w.id, false⟩ ∈ q.waiters := by
      rw [hwaiters, ← hready]
      exact mem_cons_self
    exact .inr ⟨w, rest, rfl, hready, (h.sound.delayed w.id).mpr hmem⟩

end

end Fair

/-- After every run: the limits are kept, no call is settled twice, no rejected call has a ticket,
the line is served in its order, and a free slot means that its head is not ready. -/
theorem admission_fair (limits : AdmissionLimits) {events : List Event}
    {q : BoundedAdmissionQueue} (hrun : run (step limits) init events = some q) :
    q.activeCount = q.held.length ∧ q.activeCount ≤ limits.concurrency ∧
      q.waitingCount ≤ limits.maxQueueDepth ∧ (q.granted ++ q.rejected).Nodup ∧
      (∀ id ∈ q.rejected, ∀ t ∈ q.tickets, t.owner ≠ id) ∧
      q.enqueued.filter (· ∉ q.rejected) = q.granted.filter (· ∈ q.enqueued) ++ q.waiting ∧
      (q.activeCount < limits.concurrency → q.waiters = [] ∨
        ∃ w rest, q.waiters = w :: rest ∧ w.ready = false ∧ w.id ∈ q.readyTimers) := by
  have h : Fair limits q := run_induction (fun _ _ _ h _ hstep => h.step hstep) (Fair.init limits)
    (along_true _ _) hrun
  have hline := h.sound.line
  refine ⟨h.sound.counted, h.sound.capped, h.sound.bounded, ?_, ?_, hline.ordered, h.head_delayed⟩
  · exact (nodup_append.mp hline.distinct).1
  · intro _ hid t ht heq
    exact hline.not_mem_served hid (mem_map.mpr ⟨t, ht, heq⟩)

def delayedRequeue : List Event :=
  [.acquire ⟨none, none, none⟩, .acquire ⟨none, some 100, some 50⟩, .acquire ⟨some 0, none, none⟩,
    .acquire ⟨none, none, none⟩, .release 0, .release 0, .abort 0 .other, .ready 1]

/-- One request is refused at once, one when it is aborted, and the delayed one gets the slot. -/
theorem admission_fair_delayedRequeue :
    ∃ q, run (step ⟨1, 2⟩) init delayedRequeue = some q ∧ q.activeCount = 1 ∧
      q.granted = [0, 1] ∧ q.rejected = [3, 2] ∧ (q.granted ++ q.rejected).Nodup :=
  exists_end (A := fun q => q.activeCount = 1 ∧ q.granted = [0, 1] ∧ q.rejected = [3, 2])
    (by decide) fun _ hrun hseen =>
    ⟨hseen.1, hseen.2.1, hseen.2.2, (admission_fair ⟨1, 2⟩ hrun).2.2.2.1⟩

end BoundedAdmissionQueue

end WispaceBot
