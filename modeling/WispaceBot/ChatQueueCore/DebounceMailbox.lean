import WispaceBot.ChatQueueCore.DebounceWiring
import WispaceBot.Foundation.Mailbox

/-!
# The mailboxes of the debounce queue

Every user of a debounce queue has a mailbox: the buffers of the user's state object together with
what the queue has accepted from, flushed for and reported to the user.  `enqueue` is an arrival at
the mailbox of its user, and everything else the queue does before it shuts down is a sequence of
steps of the mailboxes between two arrivals.
-/

namespace WispaceBot

open Relation QueueOutput Mailbox List Function

variable {V : Type}

def QueueOutput.externalUserId : QueueOutput V → String
  | .accepted user _ => user
  | .onPendingQueued user _ _ _ => user
  | .onPendingDropped user _ => user
  | .onFlush batch => batch.externalUserId
  | .onFlushTimedOut user _ => user
  | .onShutdownRejected user _ => user

def QueueOutput.acceptedFrom (user : String) : QueueOutput V → List String
  | .accepted user' text => if user' = user then [text] else []
  | _ => []

/-- The messages of a user that an output passes to `onFlush`. -/
def QueueOutput.flushedFor (user : String) : QueueOutput V → List String
  | .onFlush batch => if batch.externalUserId = user then batch.texts else []
  | _ => []

def QueueOutput.droppedFor (user : String) : QueueOutput V → ℕ
  | .onPendingDropped user' count => if user' = user then count else 0
  | _ => 0

namespace DebounceChatQueue

variable {q q' : DebounceChatQueue V} {user : String} {r : ℕ}

section

variable (user : String) (q : DebounceChatQueue V)

def accepted : List String :=
  q.log.flatMap (acceptedFrom user)

/-- The messages of a user that were passed to `onFlush`, batch after batch. -/
def flushed : List String :=
  q.log.flatMap (flushedFor user)

/-- The number of messages of a user reported through `onPendingDropped`. -/
def dropped : ℕ :=
  (q.log.map (droppedFor user)).sum

/-- The state of a user; a user without an object has nothing buffered. -/
def stateOf : QueueState V :=
  match q.get user with
  | none => { lastActivityAt := q.now }
  | some r => q.objects r

def mailbox : Mailbox String where
  front := (q.stateOf user).texts
  back := (q.stateOf user).pendingWhileProcessing
  busy := (q.stateOf user).processing
  armed := (q.stateOf user).debounceTimer.isSome
  arrived := q.accepted user
  handed := q.flushed user
  reported := q.dropped user

end

@[simp] lemma arrived_mailbox (user : String) (q : DebounceChatQueue V) :
    (q.mailbox user).arrived = q.accepted user := rfl

/-! ## Changes at one user -/

/-- Only the entry, the object `r` and the outputs of one user change, and calls that wait. -/
structure Touches (user : String) (r : ℕ) (q q' : DebounceChatQueue V) : Prop where
  get : ∀ user', user' ≠ user → q'.get user' = q.get user'
  objects : ∀ s, s ≠ r → q'.objects s = q.objects s
  log : ∃ outputs, q'.log = q.log ++ outputs ∧ ∀ o ∈ outputs, o.externalUserId = user
  shuttingDown : q'.shuttingDown = q.shuttingDown
  drains : q'.drains = q.drains

variable {q'' : DebounceChatQueue V}

lemma Touches.trans (h : Touches user r q q') (h' : Touches user r q' q'') :
    Touches user r q q'' where
  get user' hne := (h'.get user' hne).trans (h.get user' hne)
  objects s hne := (h'.objects s hne).trans (h.objects s hne)
  log := by
    obtain ⟨outputs, hlog, huser⟩ := h.log
    obtain ⟨outputs', hlog', huser'⟩ := h'.log
    refine ⟨outputs ++ outputs', by rw [hlog', hlog, append_assoc], fun o ho => ?_⟩
    rcases mem_append.mp ho with ho | ho
    · exact huser o ho
    · exact huser' o ho
  shuttingDown := h'.shuttingDown.trans h.shuttingDown
  drains := h'.drains.trans h.drains

lemma Touches.refl : Touches user r q q where
  get _ _ := rfl
  objects _ _ := rfl
  log := ⟨[], (append_nil _).symm, by simp⟩
  shuttingDown := rfl
  drains := rfl

lemma Touches.modify (h : Touches user r q q') (f : QueueState V → QueueState V) :
    Touches user r q (q'.modify r f) where
  get := h.get
  objects s hne := (objects_modify_of_ne f hne).trans (h.objects s hne)
  log := h.log
  shuttingDown := h.shuttingDown
  drains := h.drains

lemma Touches.emit (h : Touches user r q q') {o : QueueOutput V} (ho : o.externalUserId = user) :
    Touches user r q (q'.emit o) :=
  h.trans
    { get := fun _ _ => rfl
      objects := fun _ _ => rfl
      log := ⟨[o], rfl, by simpa using ho⟩
      shuttingDown := rfl
      drains := rfl }

lemma touches_disarm : Touches user r q (q.disarm r) where
  get _ _ := get_disarm
  objects s hne := by rw [objects_disarm, update_of_ne hne]
  log := ⟨[], by rw [log_disarm, append_nil], by simp⟩
  shuttingDown := by unfold disarm; split <;> rfl
  drains := by unfold disarm; split <;> rfl

lemma touches_scheduleFlush : Touches user r q (q.scheduleFlush user r) :=
  touches_disarm.trans
    { get := fun _ _ => rfl
      objects := fun _ hne => update_of_ne hne ..
      log := ⟨[], (append_nil _).symm, by simp⟩
      shuttingDown := rfl
      drains := rfl }

lemma touches_delete : Touches user r q (q.delete user) where
  get _ hne := get_delete_of_ne hne
  objects _ _ := rfl
  log := ⟨[], (append_nil _).symm, by simp⟩
  shuttingDown := rfl
  drains := rfl

lemma touches_beginFlush (dl : ℤ) (drain : Option ℕ) :
    Touches user r q (q.beginFlush user dl drain r) where
  get _ _ := rfl
  objects _ hne := objects_beginFlush_of_ne dl drain hne
  log := ⟨[.onFlush (batchOf user (q.objects r))], rfl, by
    simp [externalUserId, batchOf]⟩
  shuttingDown := rfl
  drains := rfl

lemma outputs_of_ne {user' : String} {outputs : List (QueueOutput V)} (hne : user' ≠ user)
    (huser : ∀ o ∈ outputs, o.externalUserId = user) :
    outputs.flatMap (acceptedFrom user') = [] ∧
      outputs.flatMap (flushedFor user') = [] ∧
      (outputs.map (droppedFor user')).sum = 0 := by
  induction outputs with
  | nil => exact ⟨rfl, rfl, rfl⟩
  | cons o _ ih =>
    obtain ⟨hacc, hflushed, hdrop⟩ := ih fun o' ho' => huser o' (mem_cons_of_mem _ ho')
    have ho : o.externalUserId ≠ user' := by
      rw [huser o mem_cons_self]
      exact hne.symm
    have hnone : o.acceptedFrom user' = [] ∧ o.flushedFor user' = [] ∧ o.droppedFor user' = 0 := by
      cases o <;>
        simp_all [externalUserId, acceptedFrom, flushedFor, droppedFor]
    simp [hacc, hflushed, hdrop, hnone]

lemma Touches.mailbox_eq (h : Touches user r q q') {user' : String} (hne : user' ≠ user)
    (hr : q.get user' ≠ some r) : q'.mailbox user' = q.mailbox user' := by
  obtain ⟨_, hlog, huser⟩ := h.log
  obtain ⟨hacc, hflushed, hdrop⟩ := outputs_of_ne hne huser
  have hget := h.get user' hne
  unfold mailbox stateOf accepted flushed dropped
  rw [hget, hlog]
  cases hs : q.get user' with
  | none => simp [hacc, hflushed, hdrop]
  | some s =>
    have hsr : s ≠ r := fun heq => hr (heq ▸ hs)
    simp [hacc, hflushed, hdrop, h.objects s hsr]

/-! ## The mailbox of a user under the primitive changes -/

lemma mailbox_of_get (hr : q.get user = some r) :
    q.mailbox user =
      { front := (q.objects r).texts
        back := (q.objects r).pendingWhileProcessing
        busy := (q.objects r).processing
        armed := (q.objects r).debounceTimer.isSome
        arrived := q.accepted user
        handed := q.flushed user
        reported := q.dropped user } := by
  unfold mailbox stateOf
  rw [hr]

lemma mailbox_of_none (hr : q.get user = none) :
    q.mailbox user =
      { front := [], back := [], busy := false, armed := false
        arrived := q.accepted user, handed := q.flushed user, reported := q.dropped user } := by
  unfold mailbox stateOf
  rw [hr]
  rfl

lemma mailbox_congr (hqueues : q'.queues = q.queues) (hobjs : q'.objects = q.objects)
    (hlog : q'.log = q.log) : q'.mailbox user = q.mailbox user := by
  unfold mailbox stateOf accepted flushed dropped get
  rw [hqueues, hobjs, hlog]
  cases q.queues.lookup user <;> rfl

section

variable (f : QueueState V → QueueState V)
include f

@[simp] lemma accepted_modify :
    (q.modify r f).accepted user = q.accepted user := rfl

@[simp] lemma flushed_modify :
    (q.modify r f).flushed user = q.flushed user := rfl

@[simp] lemma dropped_modify :
    (q.modify r f).dropped user = q.dropped user := rfl

end

@[simp] lemma accepted_emit (o : QueueOutput V) :
    (q.emit o).accepted user = q.accepted user ++ o.acceptedFrom user := by
  simp [accepted, emit]

@[simp] lemma flushed_emit (o : QueueOutput V) :
    (q.emit o).flushed user = q.flushed user ++ o.flushedFor user := by
  simp [flushed, emit]

@[simp] lemma dropped_emit (o : QueueOutput V) :
    (q.emit o).dropped user = q.dropped user + o.droppedFor user := by
  simp [dropped, emit]

lemma mailbox_emit (o : QueueOutput V) :
    (q.emit o).mailbox user =
      { q.mailbox user with
        arrived := q.accepted user ++ o.acceptedFrom user
        handed := q.flushed user ++ o.flushedFor user
        reported := q.dropped user + o.droppedFor user } := by
  unfold mailbox
  rw [accepted_emit, flushed_emit, dropped_emit]
  rfl

lemma mailbox_modify (hr : q.get user = some r) (f : QueueState V → QueueState V) :
    (q.modify r f).mailbox user =
      { q.mailbox user with
        front := (f (q.objects r)).texts
        back := (f (q.objects r)).pendingWhileProcessing
        busy := (f (q.objects r)).processing
        armed := (f (q.objects r)).debounceTimer.isSome } := by
  have hget : (q.modify r f).get user = some r := hr
  rw [mailbox_of_get hget, objects_modify_self]
  rfl

lemma mailbox_disarm (hr : q.get user = some r) :
    (q.disarm r).mailbox user = (q.mailbox user).disarm := by
  rw [mailbox_of_get (get_disarm.trans hr), objects_disarm_self, mailbox_of_get hr]
  unfold accepted flushed dropped
  rw [log_disarm]
  rfl

lemma mailbox_scheduleFlush (hr : q.get user = some r) :
    (q.scheduleFlush user r).mailbox user = { q.mailbox user with armed := true } := by
  have harm : (q.scheduleFlush user r).mailbox user =
      { (q.disarm r).mailbox user with armed := true } := by
    have hobj : (q.scheduleFlush user r).objects r =
        { (q.disarm r).objects r with debounceTimer := some (q.disarm r).next } :=
      update_self ..
    have hget : (q.scheduleFlush user r).get user = some r := get_disarm.trans hr
    rw [mailbox_of_get hget, hobj, mailbox_of_get (get_disarm.trans hr)]
    rfl
  rw [harm, mailbox_disarm hr]
  rfl

attribute [simp] acceptedFrom flushedFor droppedFor

lemma mailbox_beginFlush (hr : q.get user = some r)
    (htimer : (q.objects r).debounceTimer = none) (dl : ℤ) (drain : Option ℕ) :
    (q.beginFlush user dl drain r).mailbox user = (q.mailbox user).handOver := by
  have hlog : (q.beginFlush user dl drain r).log =
      q.log ++ [.onFlush (batchOf user (q.objects r))] := rfl
  have hget : (q.beginFlush user dl drain r).get user = some r := hr
  rw [mailbox_of_get hget, objects_beginFlush_self, mailbox_of_get hr]
  simp [accepted, flushed, dropped, hlog, htimer, handOver, batchOf]

/-! ## Flushes -/

/-- Before it shuts down, no drain of a queue empties the map. -/
structure Calm (q : DebounceChatQueue V) : Prop where
  running : q.shuttingDown = false
  drains : ∀ d ∈ q.drains, d.destroys = false

/-- A piece of the code does to each mailbox what a mailbox may do. -/
structure Keeps (q q' : DebounceChatQueue V) : Prop where
  wired : q'.Wired
  work : ∀ user, ReflTransGen Work (q.mailbox user) (q'.mailbox user)
  calm : q.Calm → q'.Calm

lemma Keeps.refl (h : q.Wired) : Keeps q q where
  wired := h
  work _ := .refl
  calm := id

lemma Keeps.trans (h : Keeps q q') (h' : Keeps q' q'') :
    Keeps q q'' where
  wired := h'.wired
  work user := (h.work user).trans (h'.work user)
  calm hcalm := h'.calm (h.calm hcalm)

lemma Touches.keeps (ht : Touches user r q q') (h : q.Wired) (hr : q.get user = some r)
    (hwired : q'.Wired) (hwork : ReflTransGen Work (q.mailbox user) (q'.mailbox user)) :
    Keeps q q' where
  wired := hwired
  work user' := by
    by_cases huser : user' = user
    · rw [huser]
      exact hwork
    · rw [ht.mailbox_eq huser fun hr' => huser (h.ref_inj user' user r hr' hr)]
  calm hcalm := ⟨ht.shuttingDown.trans hcalm.running, by
    rw [ht.drains]
    exact hcalm.drains⟩

lemma keeps_of_eq (hwired : q'.Wired) (hqueues : q'.queues = q.queues)
    (hobjs : q'.objects = q.objects) (hlog : q'.log = q.log) (hcalm : q.Calm → q'.Calm) :
    Keeps q q' where
  wired := hwired
  work user := by rw [mailbox_congr hqueues hobjs hlog]
  calm := hcalm

lemma keeps_disarm (h : q.Wired) (hr : q.get user = some r)
    (hdone : (q.objects r).processing = true ∨ (q.objects r).texts = []) :
    Keeps q (q.disarm r) := by
  refine touches_disarm.keeps h hr (h.disarm hr) ?_
  rw [mailbox_disarm hr]
  refine .single (.disarm _ ?_)
  rw [mailbox_of_get hr]
  exact hdone

lemma flush_of_waiting (hr : q.get user = some r) (hidle : (q.objects r).processing = false)
    (hwait : (q.objects r).texts ≠ []) (dl : ℤ) (drain : Option ℕ) :
    q.flush user dl drain = (q.disarm r).beginFlush user dl drain r := by
  unfold flush
  rw [hr]
  simp [hidle, hwait]

lemma flush_of_done (hr : q.get user = some r)
    (hdone : (q.objects r).processing = true ∨ (q.objects r).texts = []) (dl : ℤ)
    (drain : Option ℕ) : q.flush user dl drain = q := by
  unfold flush
  rw [hr]
  exact if_pos hdone

lemma keeps_beginFlush (h : q.Wired) (hr : q.get user = some r)
    (hidle : (q.objects r).processing = false) (hwait : (q.objects r).texts ≠ [])
    (dl : ℤ) (drain : Option ℕ) : Keeps q ((q.disarm r).beginFlush user dl drain r) := by
  have hr' : (q.disarm r).get user = some r := get_disarm.trans hr
  have hwired : ((q.disarm r).beginFlush user dl drain r).Wired :=
    (h.disarm hr).beginFlush hr' (by rw [objects_disarm_self, hidle]) dl drain
  have hmailbox : ((q.disarm r).beginFlush user dl drain r).mailbox user =
      (q.mailbox user).handOver := by
    rw [mailbox_beginFlush hr' (by rw [objects_disarm_self]), mailbox_disarm hr]
    rfl
  refine (touches_disarm.trans (touches_beginFlush dl drain)).keeps h hr hwired ?_
  rw [hmailbox]
  refine .single (.handOver _ ?_ ?_)
  · rw [mailbox_of_get hr]
    exact hidle
  · rw [mailbox_of_get hr]
    exact hwait

lemma keeps_flush (h : q.Wired) (user : String) (dl : ℤ) (drain : Option ℕ) :
    Keeps q (q.flush user dl drain) := by
  cases hr : q.get user with
  | none =>
    have hflush : q.flush user dl drain = q := by
      unfold flush
      rw [hr]
    rw [hflush]
    exact .refl h
  | some r =>
    by_cases hdone : (q.objects r).processing = true ∨ (q.objects r).texts = []
    · rw [flush_of_done hr hdone]
      exact .refl h
    · obtain ⟨hidle, hwait⟩ := not_or.mp hdone
      rw [flush_of_waiting hr (Bool.eq_false_iff.mpr hidle) hwait]
      exact keeps_beginFlush h hr (Bool.eq_false_iff.mpr hidle) hwait dl drain

lemma keeps_flush_disarm (h : q.Wired) (hr : q.get user = some r) (dl : ℤ)
    (drain : Option ℕ) : Keeps q ((q.disarm r).flush user dl drain) := by
  have hr' : (q.disarm r).get user = some r := get_disarm.trans hr
  by_cases hdone : (q.objects r).processing = true ∨ (q.objects r).texts = []
  · have hdone' : ((q.disarm r).objects r).processing = true ∨
        ((q.disarm r).objects r).texts = [] := by
      rw [objects_disarm_self]
      exact hdone
    rw [flush_of_done hr' hdone']
    exact keeps_disarm h hr hdone
  · obtain ⟨hidle, hwait⟩ := not_or.mp hdone
    have hidle' : ((q.disarm r).objects r).processing = false := by
      rw [objects_disarm_self]
      exact Bool.eq_false_iff.mpr hidle
    have hwait' : ((q.disarm r).objects r).texts ≠ [] := by
      rw [objects_disarm_self]
      exact hwait
    rw [flush_of_waiting hr' hidle' hwait', disarm_of_none (by rw [objects_disarm_self])]
    exact keeps_beginFlush h hr (Bool.eq_false_iff.mpr hidle) hwait dl drain

lemma modify_congr {f g : QueueState V → QueueState V} (h : f (q.objects r) = g (q.objects r)) :
    q.modify r f = q.modify r g := by
  unfold modify
  rw [h]

lemma keeps_fire (h : q.Wired) (cfg : DebounceChatQueueConfig) {t : DebounceTimer}
    (ht : t ∈ q.timers) : Keeps q (q.fire cfg t) := by
  obtain ⟨hlive, hheld⟩ := h.timer_live t ht
  -- the object still remembers the timer, so that the callback clears it
  have hcleared : ((q.clearTimeout t.id).modify t.state fun s =>
      if s.debounceTimer = some t.id then { s with debounceTimer := none } else s) =
      q.disarm t.state := by
    unfold disarm
    rw [hheld]
    exact modify_congr (if_pos hheld)
  unfold fire
  rw [hcleared]
  exact keeps_flush_disarm h hlive _ none

lemma released_texts (s : QueueState V) :
    (released s).texts = s.texts ++ s.pendingWhileProcessing := by
  unfold released
  dsimp only
  split
  next hnone =>
    rw [hnone, append_nil]
  · rfl

lemma released_pending (s : QueueState V) : (released s).pendingWhileProcessing = [] := by
  unfold released
  dsimp only
  split
  · assumption
  · rfl

lemma touches_afterFlush (f : ActiveFlush) :
    Touches f.externalUserId f.state q (q.afterFlush f) where
  get _ _ := rfl
  objects _ hne := update_of_ne hne ..
  log := ⟨[], (append_nil _).symm, by simp⟩
  shuttingDown := rfl
  drains := rfl

variable {f : ActiveFlush}

lemma mailbox_afterFlush (hr : q.get f.externalUserId = some f.state) :
    (q.afterFlush f).mailbox f.externalUserId =
      { (q.mailbox f.externalUserId).release with
        armed := (q.objects f.state).debounceTimer.isSome } := by
  have hget : (q.afterFlush f).get f.externalUserId = some f.state := hr
  have hobj : (q.afterFlush f).objects f.state = released (q.objects f.state) :=
    update_self ..
  rw [mailbox_of_get hget, hobj, released_texts, released_pending, released_processing,
    released_debounceTimer, mailbox_of_get hr]
  rfl

lemma mailbox_release (hr : q.get user = some r) :
    (q.mailbox user).release =
      { (q.mailbox user).release with
        armed := (q.objects r).debounceTimer.isSome ||
          !((q.objects r).texts ++ (q.objects r).pendingWhileProcessing).isEmpty } := by
  rw [mailbox_of_get hr]
  rfl

lemma mailbox_endFlush (hr : q.get f.externalUserId = some f.state) :
    (q.endFlush f).mailbox f.externalUserId = (q.mailbox f.externalUserId).release := by
  have hget : (q.afterFlush f).get f.externalUserId = some f.state := hr
  have hobj : (q.afterFlush f).objects f.state = released (q.objects f.state) :=
    update_self ..
  rw [mailbox_release hr, endFlush_eq, hobj, released_texts, released_pending,
    released_debounceTimer]
  split
  next hwait =>
    rw [mailbox_scheduleFlush hget, mailbox_afterFlush hr, isEmpty_eq_false_iff.mpr hwait,
      Bool.not_false, Bool.or_true]
  next hwait =>
    rw [not_ne_iff.mp hwait, isEmpty_nil, Bool.not_true, Bool.or_false]
    split
    next hnone =>
      have hfront := not_ne_iff.mp hwait
      rw [mailbox_of_none (get_delete _), hnone.1, mailbox_of_get hr]
      simp only [release, hfront]
      rfl
    · exact mailbox_afterFlush hr

lemma keeps_endFlush (h : q.Wired) (hf : f ∈ q.flushes) : Keeps q (q.endFlush f) := by
  obtain ⟨hr, hproc⟩ := h.flush_live f hf
  have hwired := h.afterFlush hf
  have hget : (q.afterFlush f).get f.externalUserId = some f.state := hr
  have hobj : (q.afterFlush f).objects f.state = released (q.objects f.state) :=
    update_self ..
  have hrel : ReflTransGen Work (q.mailbox f.externalUserId)
      ((q.endFlush f).mailbox f.externalUserId) := by
    rw [mailbox_endFlush hr]
    refine .single (.release _ ?_)
    rw [mailbox_of_get hr]
    exact hproc
  have htouches := touches_afterFlush (q := q) f
  rw [endFlush_eq, hobj, released_debounceTimer] at hrel ⊢
  split at hrel
  · rw [if_pos (by assumption)]
    exact (htouches.trans touches_scheduleFlush).keeps h hr (hwired.scheduleFlush hget) hrel
  · rw [if_neg (by assumption)]
    split at hrel
    next hnone =>
      rw [if_pos hnone]
      refine (htouches.trans touches_delete).keeps h hr (hwired.delete hget ?_ ?_) hrel
      · rw [hobj, released_debounceTimer]
        exact hnone.1
      · rw [hobj, released_processing]
    · rw [if_neg (by assumption)]
      exact htouches.keeps h hr hwired hrel

lemma keeps_settle (h : q.Wired) (hf : f ∈ q.flushes) (ending : FlushEnding) :
    Keeps q (q.settle f ending) := by
  obtain ⟨hr, _⟩ := h.flush_live f hf
  unfold settle
  split
  · -- a time-out is reported before the flush ends
    refine Keeps.trans ?_ (keeps_endFlush (h.emit _) hf)
    refine (Touches.refl.emit rfl).keeps h hr (h.emit _) ?_
    rw [mailbox_emit]
    simp only [acceptedFrom, flushedFor, droppedFor, append_nil, Nat.add_zero]
    exact .refl
  · exact keeps_endFlush h hf

/-! ## Callers that wait -/

section

variable (h : q.Wired)
include h

lemma keeps_pollOrFlush (w : FlushWaiter) : Keeps q (q.pollOrFlush w) := by
  unfold pollOrFlush
  split
  · refine keeps_of_eq ?_ rfl rfl rfl fun hcalm => ⟨hcalm.running, hcalm.drains⟩
    exact h.congr (fun _ => rfl) (fun _ => rfl) (fun _ => rfl) rfl rfl (Nat.le_refl _)
  · exact keeps_flush h _ _ _

lemma keeps_next : Keeps q { q with next := q.next + 1 } :=
  keeps_of_eq
    (h.congr (fun _ => rfl) (fun _ => rfl) (fun _ => rfl) rfl rfl (Nat.le_succ _)) rfl rfl rfl
    fun hcalm => ⟨hcalm.running, hcalm.drains⟩

lemma keeps_clock (now ms : ℤ) : Keeps q { q with now := now, debounceMs := ms } :=
  keeps_of_eq
    (h.congr (fun _ => rfl) (fun _ => rfl) (fun _ => rfl) rfl rfl (Nat.le_refl _)) rfl rfl rfl
    fun hcalm => ⟨hcalm.running, hcalm.drains⟩

lemma keeps_flushOrWait (user : String) (dl : ℤ) (drain : Option ℕ) :
    Keeps q (q.flushOrWait user dl drain) := by
  unfold flushOrWait
  split
  · exact .refl h
  · split
    · have hnext := keeps_next h
      exact hnext.trans (keeps_pollOrFlush hnext.wired _)
    · exact keeps_flush h _ _ _

lemma keeps_wake (w : FlushWaiter) : Keeps q (q.wake w) := by
  have hwired : { q with waiters := q.waiters.filter fun v => v.id ≠ w.id }.Wired :=
    h.congr (fun _ => rfl) (fun _ => rfl) (fun _ => rfl) rfl rfl (Nat.le_refl _)
  have hrem : Keeps q { q with waiters := q.waiters.filter fun v => v.id ≠ w.id } :=
    keeps_of_eq hwired rfl rfl rfl fun hcalm => ⟨hcalm.running, hcalm.drains⟩
  exact hrem.trans (keeps_pollOrFlush hwired w)

lemma keeps_flushNow (cfg : DebounceChatQueueConfig) (user : String) :
    Keeps q (q.flushNow cfg user) := by
  unfold flushNow
  cases hr : q.get user with
  | none => exact .refl h
  | some r =>
    dsimp only
    cases hproc : (q.objects r).processing with
    | true =>
      -- while a flush is active the timer is not needed
      have hdisarm := keeps_disarm h hr (.inl hproc)
      exact hdisarm.trans (keeps_flushOrWait hdisarm.wired _ _ _)
    | false =>
      have hflush : (q.disarm r).flushOrWait user (q.deadlineFromNow cfg) none =
          (q.disarm r).flush user (q.deadlineFromNow cfg) none := by
        unfold flushOrWait
        rw [get_disarm, hr]
        simp [hproc]
      rw [hflush]
      exact keeps_flush_disarm h hr _ none

end

/-! ## `drain` and `evictStale` -/

lemma mem_entries {entry : String × ℕ} : entry ∈ q.entries ↔ q.get entry.1 = some entry.2 := by
  obtain ⟨user, r⟩ := entry
  unfold entries get
  rw [mem_reverse, mem_map]
  constructor
  · rintro ⟨⟨_, _⟩, hmem, heq⟩
    obtain ⟨⟩ := heq
    exact AList.mem_lookup_iff.mpr hmem
  · intro hlookup
    exact ⟨⟨user, r⟩, AList.mem_lookup_iff.mp hlookup, rfl⟩

lemma nodup_entries : (q.entries.map Prod.fst).Nodup := by
  have hkeys : q.entries.map Prod.fst = q.queues.keys.reverse := by
    simp [entries, AList.keys, keys, comp_def]
  rw [hkeys, nodup_reverse]
  exact q.queues.keys_nodup

variable {entries : List (String × ℕ)}

section

variable (h : q.Wired)
include h

lemma keeps_sweep (hents : ∀ entry ∈ entries, q.get entry.1 = some entry.2) :
    Keeps q (q.sweep entries) := by
  induction entries generalizing q with
  | nil => exact .refl h
  | cons entry entries ih =>
    have hentry := hents entry mem_cons_self
    have hrest := fun entry' h' => hents entry' (mem_cons_of_mem entry h')
    change Keeps q (sweep entries (if hasWork (q.objects entry.2) then q else q.disarm entry.2))
    split
    · exact ih h hrest
    next hwork =>
      have htexts : (q.objects entry.2).texts = [] := by
        simp only [hasWork, Bool.or_eq_true, not_or] at hwork
        simpa using hwork.1.2
      have hdisarm := keeps_disarm h hentry (.inr htexts)
      exact hdisarm.trans (ih hdisarm.wired fun entry' h' => get_disarm.trans (hrest entry' h'))

lemma keeps_beginRound {d : ActiveDrain} (hd : d.destroys = false) : Keeps q (q.beginRound d) := by
  unfold beginRound endDrain
  rw [hd]
  split
  · exact .refl h
  · refine keeps_of_eq ?_ rfl rfl rfl fun hcalm => ⟨hcalm.running, fun d' hd' => ?_⟩
    · exact h.congr (fun _ => rfl) (fun _ => rfl) (fun _ => rfl) rfl rfl (Nat.le_refl _)
    · rcases mem_append.mp hd' with hold | hnew
      · exact hcalm.drains d' hold
      · rw [mem_singleton.mp hnew]

lemma keeps_drain (cfg : DebounceChatQueueConfig) : Keeps q (q.drain cfg false) := by
  have hnext := keeps_next h
  exact hnext.trans (keeps_beginRound hnext.wired rfl)

lemma keeps_visit (d : ActiveDrain) (user : String) (rest : List String) :
    Keeps q (q.visit d user rest) := by
  have hwired : { q with drains := leaveToVisit d rest q.drains }.Wired :=
    h.congr (fun _ => rfl) (fun _ => rfl) (fun _ => rfl) rfl rfl (Nat.le_refl _)
  have hleft : Keeps q { q with drains := leaveToVisit d rest q.drains } := by
    refine keeps_of_eq hwired rfl rfl rfl fun hcalm => ⟨hcalm.running, fun d' hd' => ?_⟩
    obtain ⟨e, he, rfl⟩ := mem_map.mp hd'
    split
    · exact hcalm.drains e he
    · exact hcalm.drains e he
  exact hleft.trans (keeps_flushOrWait hwired _ _ _)

lemma keeps_resume {d : ActiveDrain} (hd : d.destroys = false) : Keeps q (q.resume d) := by
  have hwired : { q with drains := q.drains.filter fun e => e.id ≠ d.id }.Wired :=
    h.congr (fun _ => rfl) (fun _ => rfl) (fun _ => rfl) rfl rfl (Nat.le_refl _)
  have hrem : Keeps q { q with drains := q.drains.filter fun e => e.id ≠ d.id } :=
    keeps_of_eq hwired rfl rfl rfl fun hcalm =>
      ⟨hcalm.running, fun d' hd' => hcalm.drains d' (mem_filter.mp hd').1⟩
  have hsweep : Keeps { q with drains := q.drains.filter fun e => e.id ≠ d.id }
      ({ q with drains := q.drains.filter fun e => e.id ≠ d.id }.sweep q.entries) :=
    keeps_sweep hwired fun _ => mem_entries.mp
  unfold resume
  dsimp only
  split
  · unfold endDrain
    rw [hd]
    exact hrem.trans hsweep
  · exact (hrem.trans hsweep).trans (keeps_beginRound hsweep.wired hd)

lemma keeps_delete (hr : q.get user = some r) {cutoff : ℤ}
    (hstale : isStale cutoff (q.objects r) = true) : Keeps q (q.delete user) := by
  simp only [isStale, Bool.and_eq_true, Bool.not_eq_true', List.isEmpty_iff,
    Option.isNone_iff_eq_none] at hstale
  obtain ⟨⟨⟨⟨hidle, htexts⟩, hpend⟩, htimer⟩, _⟩ := hstale
  refine touches_delete.keeps h hr (h.delete hr htimer hidle) ?_
  have heq : (q.delete user).mailbox user = q.mailbox user := by
    rw [mailbox_of_none (get_delete user), mailbox_of_get hr, hidle, htexts, hpend, htimer]
    rfl
  rw [heq]

end

lemma keeps_evict (cutoff : ℤ) (h : q.Wired) (hnodup : (entries.map Prod.fst).Nodup)
    (hents : ∀ entry ∈ entries, q.get entry.1 = some entry.2) :
    Keeps q (entries.foldl (fun p entry =>
      if isStale cutoff (p.objects entry.2) then p.delete entry.1 else p) q) := by
  induction entries generalizing q with
  | nil => exact .refl h
  | cons entry entries ih =>
    obtain ⟨hnot, hnodup'⟩ := nodup_cons.mp hnodup
    have hentry := hents entry mem_cons_self
    have hrest := fun entry' h' => hents entry' (mem_cons_of_mem entry h')
    rw [foldl_cons]
    split
    next hstale =>
      have hdel := keeps_delete h hentry hstale
      refine hdel.trans (ih hdel.wired hnodup' fun entry' h' => ?_)
      -- the other users keep their entries
      have hne : entry'.1 ≠ entry.1 := fun heq => hnot (heq ▸ mem_map_of_mem h')
      rw [get_delete_of_ne hne]
      exact hrest entry' h'
    · exact ih h hnodup' hrest

lemma keeps_evictStale (h : q.Wired) (cfg : DebounceChatQueueConfig) : Keeps q (q.evictStale cfg) :=
  keeps_evict _ h nodup_entries fun _ => mem_entries.mp

/-! ## `enqueue` -/

lemma newest_of_le {cap : ℕ} {buffer : List String} (h : ¬ cap < buffer.length) :
    newest cap buffer = buffer ∧ buffer.length - cap = 0 := by
  have hzero : buffer.length - cap = 0 := by omega
  unfold newest
  rw [hzero]
  exact ⟨rfl, rfl⟩

/-- The object of a user has been looked up or made. -/
structure Opened (user : String) (q : DebounceChatQueue V) (opened : ℕ × DebounceChatQueue V) :
    Prop where
  get : opened.2.get user = some opened.1
  wired : opened.2.Wired
  touches : Touches user opened.1 q opened.2
  mailbox : opened.2.mailbox user = q.mailbox user
  own : ∀ user', user' ≠ user → q.get user' ≠ some opened.1

lemma opened_getOrCreate (h : q.Wired) (user : String) : Opened user q (q.getOrCreate user) := by
  unfold getOrCreate
  cases hr : q.get user with
  | some r =>
    exact
      { get := hr
        wired := h
        touches := .refl
        mailbox := rfl
        own := fun user' hne hr' => hne (h.ref_inj user' user r hr' hr) }
  | none =>
    exact
      { get := get_create user
        wired := h.create hr
        touches :=
          ⟨fun _ hne => get_create_of_ne hne, fun _ hne => objects_create_of_ne hne,
            ⟨[], (append_nil _).symm, by simp⟩, rfl, rfl⟩
        mailbox := by
          rw [mailbox_of_get (get_create user), objects_create_self, mailbox_of_none hr]
          rfl
        own := fun user' _ hr' => absurd (h.ref_lt user' _ hr') (Nat.lt_irrefl _) }

variable {input : EnqueueInput V}

lemma mailbox_enqueuePending (hr : q.get input.externalUserId = some r) (cap : ℕ) (text : String) :
    (q.enqueuePending cap r input text).mailbox input.externalUserId =
      { (q.mailbox input.externalUserId).arriveBack cap text with
        arrived := q.accepted input.externalUserId } := by
  have hget : (q.enqueuePending cap r input text).get input.externalUserId = some r := by
    unfold enqueuePending
    dsimp only
    split <;> exact hr
  rw [mailbox_of_get hget, mailbox_of_get hr]
  unfold enqueuePending arriveBack
  dsimp only
  split
  next hfull =>
    simp [pushPending, hfull.1, newest]
  next hroom =>
    rw [not_and] at hroom
    by_cases hcap : 0 < cap
    · have hle : ¬ cap < ((q.objects r).pendingWhileProcessing ++ [text]).length := by
        simpa [pushPending] using hroom hcap
      rw [if_pos hcap, if_pos hcap, (newest_of_le hle).1, (newest_of_le hle).2]
      simp [pushPending]
    · rw [if_neg hcap, if_neg hcap]
      simp [pushPending]

lemma touches_enqueuePending (cap : ℕ) (input : EnqueueInput V) (text : String) :
    Touches input.externalUserId r q (q.enqueuePending cap r input text) := by
  unfold enqueuePending
  dsimp only
  split
  · exact (((Touches.refl.modify _).emit (by rfl)).modify _).emit (by rfl)
  · exact (Touches.refl.modify _).emit rfl

lemma wired_enqueuePending (h : q.Wired) (cap : ℕ) (input : EnqueueInput V) (text : String) :
    (q.enqueuePending cap r input text).Wired := by
  unfold enqueuePending
  dsimp only
  have hpushed : (q.modify r (pushPending input text)).Wired := h.modify rfl rfl
  split
  · exact ((hpushed.emit _).modify rfl rfl).emit _
  · exact hpushed.emit _

lemma mailbox_pushText (hr : q.get input.externalUserId = some r) (cap : ℕ) (text : String) :
    (q.pushText cap r input text).mailbox input.externalUserId =
      { (q.mailbox input.externalUserId).arriveFront cap text with
        arrived := q.accepted input.externalUserId
        armed := (q.mailbox input.externalUserId).armed } := by
  have hget : (q.pushText cap r input text).get input.externalUserId = some r := by
    unfold pushText
    dsimp only
    split <;> exact hr
  rw [mailbox_of_get hget, mailbox_of_get hr]
  unfold pushText arriveFront
  dsimp only
  split
  · simp [newest]
  next hroom =>
    have hle : ¬ cap < ((q.objects r).texts ++ [text]).length := by simpa using hroom
    rw [(newest_of_le hle).1, (newest_of_le hle).2]
    simp

lemma touches_pushText (cap : ℕ) (input : EnqueueInput V) (text : String) :
    Touches input.externalUserId r q (q.pushText cap r input text) := by
  unfold pushText
  dsimp only
  split
  · exact ((Touches.refl.modify _).modify _).emit rfl
  · exact Touches.refl.modify _

lemma wired_pushText (h : q.Wired) (cap : ℕ) (input : EnqueueInput V) (text : String) :
    (q.pushText cap r input text).Wired := by
  unfold pushText
  dsimp only
  have hpushed : (q.modify r fun s => { s with texts := s.texts ++ [text] }).Wired :=
    h.modify rfl rfl
  split
  · exact (hpushed.modify rfl rfl).emit _
  · exact hpushed

lemma get_pushText (cap : ℕ) (input : EnqueueInput V) (text : String) :
    (q.pushText cap r input text).get user = q.get user := by
  unfold pushText
  dsimp only
  split <;> rfl

lemma mailbox_enqueueTexts (hr : q.get input.externalUserId = some r) (cap : ℕ) (text : String) :
    (q.enqueueTexts cap r input text).mailbox input.externalUserId =
      { (q.mailbox input.externalUserId).arriveFront cap text with
        arrived := q.accepted input.externalUserId } := by
  have hget : (q.pushText cap r input text).get input.externalUserId = some r :=
    (get_pushText cap input text).trans hr
  unfold enqueueTexts
  rw [mailbox_scheduleFlush (q := modify r _ _) hget, mailbox_modify hget]
  have hpushed := mailbox_pushText hr cap text
  rw [mailbox_of_get hget] at hpushed ⊢
  exact congrArg (fun m : Mailbox String => { m with armed := true }) hpushed

lemma touches_enqueueTexts (cap : ℕ) (input : EnqueueInput V) (text : String) :
    Touches input.externalUserId r q (q.enqueueTexts cap r input text) :=
  ((touches_pushText cap input text).modify _).trans touches_scheduleFlush

lemma wired_enqueueTexts (h : q.Wired) (hr : q.get input.externalUserId = some r) (cap : ℕ)
    (text : String) : (q.enqueueTexts cap r input text).Wired := by
  have hpushed : (q.pushText cap r input text).Wired := wired_pushText h cap input text
  refine (hpushed.modify rfl rfl).scheduleFlush ?_
  exact (get_pushText cap input text).trans hr

def admitted (r : ℕ) (input : EnqueueInput V) (text : String) (q : DebounceChatQueue V) :
    DebounceChatQueue V :=
  (q.emit (.accepted input.externalUserId text)).modify r (touch q.now input)

lemma mailbox_admitted (hr : q.get input.externalUserId = some r) (text : String) :
    (q.admitted r input text).mailbox input.externalUserId =
      { q.mailbox input.externalUserId with
        arrived := (q.mailbox input.externalUserId).arrived ++ [text] } := by
  have hget : (q.admitted r input text).get input.externalUserId = some r := hr
  rw [mailbox_of_get hget, mailbox_of_get hr]
  simp [admitted, touch]

lemma enqueue_arrives (h : q.Wired) (hrunning : q.shuttingDown = false)
    (cfg : DebounceChatQueueConfig) (htext : trim input.text ≠ "") :
    ∃ r, (q.enqueue cfg input).Wired ∧
      Touches input.externalUserId r q (q.enqueue cfg input) ∧
      (∀ user', user' ≠ input.externalUserId → q.get user' ≠ some r) ∧
      (q.enqueue cfg input).mailbox input.externalUserId =
        (q.mailbox input.externalUserId).arrive cfg.maxPending (trim input.text) := by
  have hopened := opened_getOrCreate h input.externalUserId
  have henqueue : q.enqueue cfg input =
      let p := (q.getOrCreate input.externalUserId).2.admitted
        (q.getOrCreate input.externalUserId).1 input (trim input.text)
      if (p.objects (q.getOrCreate input.externalUserId).1).processing then
        p.enqueuePending cfg.maxPending (q.getOrCreate input.externalUserId).1 input
          (trim input.text)
      else
        p.enqueueTexts cfg.maxPending (q.getOrCreate input.externalUserId).1 input
          (trim input.text) := by
    unfold enqueue
    rw [if_neg htext, hrunning]
    rfl
  rw [henqueue]
  generalize q.getOrCreate input.externalUserId = opened at hopened ⊢
  obtain ⟨r, p⟩ := opened
  obtain ⟨hget, hwired, htouches, hmailbox, hown⟩ := hopened
  dsimp only at hget hwired htouches hmailbox hown ⊢
  have hadmitted : Touches input.externalUserId r q (p.admitted r input (trim input.text)) :=
    (htouches.emit rfl).modify _
  have hwired' : (p.admitted r input (trim input.text)).Wired := (hwired.emit _).modify rfl rfl
  have hget' : (p.admitted r input (trim input.text)).get input.externalUserId = some r := hget
  have hview := mailbox_admitted hget (trim input.text)
  rw [hmailbox] at hview
  have hbusy : (q.mailbox input.externalUserId).busy =
      ((p.admitted r input (trim input.text)).objects r).processing := by
    rw [mailbox_of_get hget'] at hview
    exact (congrArg busy hview).symm
  have harr : (p.admitted r input (trim input.text)).accepted input.externalUserId =
      (q.mailbox input.externalUserId).arrived ++ [trim input.text] :=
    congrArg arrived hview
  refine ⟨r, ?_⟩
  unfold arrive
  rw [hbusy]
  split
  · refine ⟨wired_enqueuePending hwired' _ _ _,
      hadmitted.trans (touches_enqueuePending _ _ _), hown,
      ?_⟩
    rw [mailbox_enqueuePending hget', hview, harr]
    rfl
  · refine ⟨wired_enqueueTexts hwired' hget' _ _,
      hadmitted.trans (touches_enqueueTexts _ _ _), hown,
      ?_⟩
    rw [mailbox_enqueueTexts hget', hview, harr]
    rfl

end DebounceChatQueue

end WispaceBot
