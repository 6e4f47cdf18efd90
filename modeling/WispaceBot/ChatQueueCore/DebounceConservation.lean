import WispaceBot.ChatQueueCore.DebounceMailbox

/-!
# No message is lost in the debounce queue

A queue is sound when its references agree, it is not shutting down, and the mailbox of every user
has kept the messages that arrived.  Every event but `clear` and `destroy` keeps a queue sound, and
the messages it accepts are those that `enqueue` is called with.  So the messages of every user are
conserved in every order of the events.
-/

namespace WispaceBot

open List Option Transition Mailbox

variable {V : Type}

namespace QueueEvent

/-- The event neither discards messages nor begins the shutdown. -/
def isOrdinary : QueueEvent V → Bool
  | .clear _ => false
  | .destroy => false
  | _ => true

/-- The message of a user that the event brings, trimmed, unless it is blank. -/
def accepts (user : String) : QueueEvent V → List String
  | .enqueue input =>
    if input.externalUserId = user ∧ trim input.text ≠ "" then [trim input.text] else []
  | _ => []

end QueueEvent

namespace DebounceChatQueue

variable {config : DebounceChatQueueConfig} {q q' : DebounceChatQueue V} {e : QueueEvent V}

/-- What holds in every state reached: each user's mailbox accounts for its messages. -/
structure Sound (config : DebounceChatQueueConfig) (q : DebounceChatQueue V) : Prop where
  wired : q.Wired
  calm : q.Calm
  conserved : ∀ user, Conserved config.maxPending (q.mailbox user)

/-- A state that is sound, with the messages that arrived in between. -/
structure SoundAfter (config : DebounceChatQueueConfig) (arrivals : String → List String)
    (q q' : DebounceChatQueue V) : Prop where
  sound : Sound config q'
  accepted : ∀ user, q'.accepted user = q.accepted user ++ arrivals user

lemma Keeps.soundAfter (hkeeps : Keeps q q') (hq : Sound config q) :
    SoundAfter config (fun _ => []) q q' where
  sound :=
    { wired := hkeeps.wired
      calm := hkeeps.calm hq.calm
      conserved := fun user => (hq.conserved user).work (hkeeps.work user) }
  accepted user := by
    rw [append_nil]
    exact arrived_work (hkeeps.work user)

lemma soundAfter_enqueue (hq : Sound config q) (input : EnqueueInput V) :
    SoundAfter config (fun user => QueueEvent.accepts user (.enqueue input)) q
      (q.enqueue config input) := by
  by_cases htext : trim input.text = ""
  · -- a blank message is ignored
    have hblank : q.enqueue config input = q := if_pos htext
    rw [hblank]
    exact ⟨hq, fun user => by simp [QueueEvent.accepts, htext]⟩
  · obtain ⟨_, hwired, htouches, hown, hmailbox⟩ :=
      enqueue_arrives hq.wired hq.calm.running config htext
    have hother : ∀ user, user ≠ input.externalUserId →
        (q.enqueue config input).mailbox user = q.mailbox user :=
      fun user hne => htouches.mailbox_eq hne (hown user hne)
    refine ⟨⟨hwired, ⟨htouches.shuttingDown.trans hq.calm.running, ?_⟩, fun user => ?_⟩,
      fun user => ?_⟩
    · rw [htouches.drains]
      exact hq.calm.drains
    · by_cases huser : user = input.externalUserId
      · rw [huser, hmailbox]
        exact (hq.conserved _).arrive _
      · rw [hother user huser]
        exact hq.conserved user
    · by_cases huser : user = input.externalUserId
      · subst huser
        have harr := congrArg arrived hmailbox
        rw [arrived_arrive, arrived_mailbox, arrived_mailbox] at harr
        have hnew : QueueEvent.accepts input.externalUserId (.enqueue input) =
            [trim input.text] := by
          simp [QueueEvent.accepts, htext]
        rw [hnew, harr]
      · have harr := congrArg arrived (hother user huser)
        have hnone : QueueEvent.accepts user (.enqueue input) = [] := by
          simp [QueueEvent.accepts, Ne.symm huser]
        rw [arrived_mailbox, arrived_mailbox] at harr
        rw [hnone, append_nil, harr]

lemma soundAfter_step (hq : Sound config q) (he : e.isOrdinary = true)
    (hstep : q.step config e = some q') : SoundAfter config (fun user => e.accepts user) q q' := by
  have h := hq.wired
  cases e with
  | clock now =>
    obtain ⟨⟩ := hstep
    exact (keeps_clock h now q.debounceMs).soundAfter hq
  | reconfigure ms =>
    obtain ⟨⟩ := hstep
    exact (keeps_clock h q.now ms).soundAfter hq
  | enqueue input =>
    obtain ⟨⟩ := hstep
    exact soundAfter_enqueue hq input
  | flushNow user =>
    obtain ⟨⟩ := hstep
    exact (keeps_flushNow h config user).soundAfter hq
  | clear | destroy => exact absurd he Bool.false_ne_true
  | drain =>
    obtain ⟨⟩ := hstep
    exact (keeps_drain h config).soundAfter hq
  | cleanup =>
    simp only [step, hq.calm.running, Bool.false_eq_true, if_false, Option.some.injEq] at hstep
    obtain rfl := hstep
    exact (keeps_evictStale h config).soundAfter hq
  | fire =>
    obtain ⟨_, ht, hfire⟩ := bind_eq_some_iff.mp hstep
    split at hfire
    · obtain ⟨⟩ := hfire
      exact (keeps_fire h config (mem_of_find?_eq_some ht)).soundAfter hq
    · simp at hfire
  | settle _ ending =>
    obtain ⟨_, hf, hset⟩ := bind_eq_some_iff.mp hstep
    split at hset
    · simp at hset
    · obtain ⟨⟩ := hset
      exact (keeps_settle h (mem_of_find?_eq_some hf) ending).soundAfter hq
  | wake =>
    obtain ⟨w, _, hwake⟩ := bind_eq_some_iff.mp hstep
    split at hwake
    · obtain ⟨⟩ := hwake
      exact (keeps_wake h w).soundAfter hq
    · simp at hwake
  | visit =>
    obtain ⟨d, _, hvisit⟩ := bind_eq_some_iff.mp hstep
    split at hvisit
    · simp at hvisit
    · obtain ⟨⟩ := hvisit
      exact (keeps_visit h d _ _).soundAfter hq
  | resume =>
    obtain ⟨d, hd, hresume⟩ := bind_eq_some_iff.mp hstep
    split at hresume
    · obtain ⟨⟩ := hresume
      exact (keeps_resume h (hq.calm.drains d (mem_of_find?_eq_some hd))).soundAfter hq
    · simp at hresume

lemma soundAfter_run {events : List (QueueEvent V)} (hq : Sound config q)
    (hevents : ∀ e ∈ events, e.isOrdinary = true) (hrun : run (step config) q events = some q') :
    SoundAfter config (fun user => events.flatMap fun e => e.accepts user) q q' := by
  induction events generalizing q with
  | nil =>
    obtain ⟨⟩ := hrun
    exact ⟨hq, fun user => (append_nil _).symm⟩
  | cons e _ ih =>
    obtain ⟨_, hstep, hrest⟩ := run_cons_eq_some.mp hrun
    have hp := soundAfter_step hq (hevents e mem_cons_self) hstep
    have hq' := ih hp.sound (fun e' he' => hevents e' (mem_cons_of_mem e he')) hrest
    refine ⟨hq'.sound, fun user => ?_⟩
    rw [hq'.accepted user, hp.accepted user, append_assoc, flatMap_cons]

lemma sound_empty (config : DebounceChatQueueConfig) (now ms : ℤ) :
    Sound config (empty now ms : DebounceChatQueue V) where
  wired := wired_empty now ms
  calm := ⟨rfl, by simp [empty]⟩
  conserved user := by
    exact conserved_blank config.maxPending

lemma Sound.timer (hq : Sound config q) {user : String} (htexts : (q.stateOf user).texts ≠ [])
    (hidle : ∀ f ∈ q.flushes, f.externalUserId ≠ user) :
    ∃ t ∈ q.timers, t.externalUserId = user ∧ q.get user = some t.state := by
  cases hr : q.get user with
  | none =>
    have hnone : (q.stateOf user).texts = [] := by
      unfold stateOf
      rw [hr]
    exact absurd hnone htexts
  | some r =>
    have hstate : q.stateOf user = q.objects r := by
      unfold stateOf
      rw [hr]
    have hproc : (q.stateOf user).processing = false := by
      refine Bool.eq_false_iff.mpr fun hbusy => ?_
      obtain ⟨f, hf, hfr⟩ := hq.wired.flush_held user r hr (hstate ▸ hbusy)
      have hlive := (hq.wired.flush_live f hf).1
      rw [hfr] at hlive
      exact hidle f hf (hq.wired.ref_inj _ _ r hlive hr)
    obtain ⟨id, hid⟩ := isSome_iff_exists.mp ((hq.conserved user).armed hproc htexts)
    rw [hstate] at hid
    obtain ⟨t, ht, htr, _⟩ := hq.wired.timer_held user r id hr hid
    have hlive := (hq.wired.timer_live t ht).1
    rw [htr] at hlive
    exact ⟨t, ht, hq.wired.ref_inj _ _ r hlive hr, by rw [htr]⟩

/-- Before a `clear` and the shutdown: the accepted messages of a user are those that left, each
flushed or dropped, followed by those buffered, in order; the buffers are bounded, and a user with
texts and no active flush has a timer. -/
theorem debounced_messages_conserved (config : DebounceChatQueueConfig) (now debounceMs : ℤ)
    {events : List (QueueEvent V)} {q : DebounceChatQueue V}
    (hevents : ∀ e ∈ events, e.isOrdinary = true)
    (hrun : run (step config) (empty now debounceMs) events = some q) (user : String) :
    (∃ history : List (String × Fate), events.flatMap (fun e => e.accepts user) =
          history.map Prod.fst ++
            ((q.stateOf user).texts ++ (q.stateOf user).pendingWhileProcessing) ∧
        withFate .handed history = q.flushed user ∧
        (withFate .dropped history).length = q.dropped user) ∧
      (q.stateOf user).texts.length ≤ config.maxPending ∧
      (q.stateOf user).pendingWhileProcessing.length ≤ config.maxPending ∧
      ((q.stateOf user).texts ≠ [] → (∀ f ∈ q.flushes, f.externalUserId ≠ user) →
        ∃ t ∈ q.timers, t.externalUserId = user ∧ q.get user = some t.state) := by
  obtain ⟨hsound, hacc⟩ := soundAfter_run (sound_empty config now debounceMs) hevents hrun
  have hconserved := hsound.conserved user
  obtain ⟨history, harr, hhanded, hdrop⟩ := hconserved.split
  refine ⟨⟨history, ?_, hhanded, hdrop⟩, hconserved.front_le, hconserved.back_le, hsound.timer⟩
  have hevents' : q.accepted user = events.flatMap fun e => e.accepts user := hacc user
  rw [← hevents']
  exact harr

def narrowConfig : DebounceChatQueueConfig where
  staleTtlMs := 600000
  maxPendingSize := some (.finite 1)
  drainTimeoutMs := none

/-- A message of the user `u`. -/
def messageOf (text : String) : EnqueueInput Unit where
  externalUserId := "u"
  text := text
  context := none
  idempotencyKey := none

def busyEvents : List (QueueEvent Unit) :=
  [.enqueue (messageOf "a"), .enqueue (messageOf "b"), .clock 2000, .fire 2,
    .enqueue (messageOf " c "), .settle 3 .completed]

/-- With room for one message, the first is dropped, the second flushed and the third waits. -/
theorem debounced_messages_conserved_busyEvents :
    ∃ q, run (step narrowConfig) (empty 0 1500) busyEvents = some q ∧ q.flushed "u" = ["b"] ∧
      (∃ history : List (String × Fate), ["a", "b", "c"] = history.map Prod.fst ++
            ((q.stateOf "u").texts ++ (q.stateOf "u").pendingWhileProcessing) ∧
          withFate .handed history = ["b"] ∧
          (withFate .dropped history).length = q.dropped "u") := by
  refine exists_end (A := fun q => q.flushed "u" = ["b"]) (by decide +kernel)
    fun q hrun hflushed => ?_
  obtain ⟨history, harr, hhanded, hdrop⟩ :=
    (debounced_messages_conserved narrowConfig 0 1500 (by decide) hrun "u").1
  have hacc : busyEvents.flatMap (fun e => e.accepts "u") = ["a", "b", "c"] := by decide +kernel
  exact ⟨hflushed, history, harr, hhanded.trans hflushed, hdrop⟩

end DebounceChatQueue

end WispaceBot
