import Mathlib
import WispaceBot.Contracts
import WispaceBot.Foundation.Script

/-!
# Welcome messages

`tryClaimWelcome` claims the welcome of a user in one statement, the winner sends the message, and
`markWelcomed` writes its time.  The statement takes the claim if the user was never or long ago
welcomed, or if the last claim has expired; so two calls for a new user both send
(`welcomed_twice`).  Where no claim is still good at the time of a claim, messages are a window
apart (`welcomes_apart`).
-/

namespace WispaceBot

open List Option Function Transition Script

/-! ## The record -/

inductive WelcomeSource
  | organic
  | linked
  deriving DecidableEq

/-- A row of `discord_welcome_records` or `zalo_welcome_records`. -/
structure WelcomeRecord where
  lastWelcomedAt : Option ℤ
  source : Option WelcomeSource
  claimExpiresAt : Option ℤ

namespace WelcomeRecord

/-- The clause of the update in `tryClaimWelcome`. -/
def claimable (now windowMs : ℤ) (record : WelcomeRecord) : Bool :=
  record.lastWelcomedAt.isNone || record.lastWelcomedAt.any (· < now - windowMs) ||
    record.claimExpiresAt.any (· < now)

/-- `tryClaimWelcome`: the record the winner leaves. -/
def tryClaimWelcome (now windowMs leaseMs : ℤ) : Option WelcomeRecord → Option WelcomeRecord
  | none => some ⟨none, none, some (now + leaseMs)⟩
  | some record =>
    if record.claimable now windowMs then
      some { record with claimExpiresAt := some (now + leaseMs) }
    else none

lemma claimExpiresAt_tryClaimWelcome {now windowMs ms : ℤ} {old : Option WelcomeRecord}
    {rec : WelcomeRecord} (h : tryClaimWelcome now windowMs ms old = some rec) :
    rec.claimExpiresAt = some (now + ms) := by
  cases old with
  | none =>
    obtain ⟨⟩ := h
    rfl
  | some =>
    obtain ⟨-, hnew⟩ := ite_none_right_eq_some.mp h
    obtain ⟨⟩ := hnew
    rfl

def markWelcomed (now : ℤ) (source : WelcomeSource) : WelcomeRecord where
  lastWelcomedAt := some now
  source := some source
  claimExpiresAt := none

end WelcomeRecord

/-! ## The services -/

/-- The calls of a welcome. -/
inductive WelcomeCall
  | tryClaimWelcome (windowMs leaseMs : ℤ)
  | sendMenuButtons
  | sendText
  | markWelcomed (source : WelcomeSource)

abbrev WelcomeCall.Answer : WelcomeCall → Type
  | .tryClaimWelcome _ _ => Bool
  | .sendMenuButtons => Bool
  | .sendText => DeliveryOutcome
  | .markWelcomed _ => Unit

inductive WelcomeDeliveryOutcome
  | sent
  | skipped
  | error
  deriving DecidableEq

abbrev WelcomeScript (α : Type) := Script WelcomeCall WelcomeCall.Answer String α

namespace WelcomeScript

def perform (c : WelcomeCall) : WelcomeScript c.Answer :=
  Script.perform c

/-- `sendIfDue` of the Discord bot. -/
def sendIfDue (windowMs claimMs : ℤ) (source : WelcomeSource) :
    WelcomeScript WelcomeDeliveryOutcome := do
  let claimed ← perform (.tryClaimWelcome windowMs claimMs)
  if claimed then do
    let delivered ← perform .sendMenuButtons
    if delivered then do
      perform (.markWelcomed source)
      pure .sent
    else pure .error
  else pure .skipped

/-- The `try` of `deliverIfDue`. -/
def deliver (source : WelcomeSource) : WelcomeScript WelcomeDeliveryOutcome := do
  let outcome ← perform .sendText
  if outcome = .sent then do
    perform (.markWelcomed source)
    pure .sent
  else pure .error

/-- `deliverIfDue` of the Zalo bot. -/
def deliverIfDue (windowMs claimMs : ℤ) (source : WelcomeSource) :
    WelcomeScript WelcomeDeliveryOutcome := do
  let claimed ← perform (.tryClaimWelcome windowMs claimMs)
  if claimed then Script.tryCatch (deliver source) fun _ => pure .error
  else pure .skipped

end WelcomeScript

namespace WelcomeSystem

/-! ## The system -/

variable {ι : Type}

inductive Service
  | discord
  | zalo

def Service.script (windowMs claimMs : ℤ) (source : WelcomeSource) :
    Service → WelcomeScript WelcomeDeliveryOutcome
  | .discord => WelcomeScript.sendIfDue windowMs claimMs source
  | .zalo => WelcomeScript.deliverIfDue windowMs claimMs source

/-- How far a call has got. -/
inductive Stage
  | started
  | claimed
  | acknowledged
  | ended
  deriving DecidableEq

/-- The record and the clock; the calls, the times of their claims, and of the messages. -/
structure Store (ι : Type) where
  record : Option WelcomeRecord
  clock : ℤ
  stage : ι → Stage
  claimedAt : ι → ℤ
  acknowledged : List (ι × ℤ)

/-- The time, the provider's answer, and an error of the call with whether it had its effect. -/
structure Input where
  now : ℤ
  delivered : Bool
  outcome : DeliveryOutcome
  failure : Option (String × Bool)

open WelcomeRecord

/-- The call as it is carried out, at the time of the store. -/
def Store.carryOut (s : Store ι) (input : Input) :
    (c : WelcomeCall) → Except String c.Answer × Store ι
  | .tryClaimWelcome windowMs leaseMs =>
    match tryClaimWelcome s.clock windowMs leaseMs s.record with
    | some record => (.ok true, { s with record := some record })
    | none => (.ok false, s)
  | .sendMenuButtons => (.ok input.delivered, s)
  | .sendText => (.ok input.outcome, s)
  | .markWelcomed source =>
    (.ok (), { s with record := some (markWelcomed s.clock source) })

variable [DecidableEq ι]

def Store.reach (s : Store ι) (i : ι) (stage : Stage) : Store ι :=
  { s with stage := update s.stage i stage }

def Store.note (s : Store ι) (i : ι) : (c : WelcomeCall) → Except String c.Answer → Store ι
  | .tryClaimWelcome _ _, .ok true =>
    { s.reach i .claimed with claimedAt := update s.claimedAt i s.clock }
  | .sendMenuButtons, .ok true =>
    { s.reach i .acknowledged with acknowledged := s.acknowledged ++ [(i, s.clock)] }
  | .sendText, .ok .sent =>
    { s.reach i .acknowledged with acknowledged := s.acknowledged ++ [(i, s.clock)] }
  | _, _ => s.reach i .ended

def serve (i : ι) (c : WelcomeCall) (input : Input) (s : Store ι) :
    Option (Except String c.Answer × Store ι) :=
  if input.now < s.clock then none
  else
    let before := { s with clock := input.now }
    let r := faulty input.failure before (before.carryOut input c)
    some (r.1, r.2.note i c r.1)

def happen (event : Empty) (_ : Store ι) : Option (Store ι) :=
  event.elim

abbrev State (ι : Type) :=
  Crew ι (Store ι) WelcomeCall WelcomeCall.Answer String WelcomeDeliveryOutcome

abbrev Event (ι : Type) := Crew.Event ι Input Empty

def step (s : State ι) (event : Event ι) : Option (State ι) :=
  Crew.step serve happen s event

/-- Calls for one user before they start, on any record. -/
def init (service : Service) (windowMs claimMs : ℤ) (record : Option WelcomeRecord) (clock : ℤ)
    (sources : ι → WelcomeSource) : State ι where
  shared := ⟨record, clock, fun _ => .started, fun _ => clock, []⟩
  scripts := fun i => some (service.script windowMs claimMs (sources i))

/-- The call has won its claim and is not at its end yet. -/
def Between (s : State ι) (i : ι) : Prop :=
  s.working i = true ∧ (s.shared.stage i = .claimed ∨ s.shared.stage i = .acknowledged)
  deriving Decidable

/-! ## What a call may do -/

variable {windowMs claimMs : ℤ}

def Stage.after : (c : WelcomeCall) → Except String c.Answer → Stage
  | .tryClaimWelcome _ _, .ok true => .claimed
  | .sendMenuButtons, .ok true => .acknowledged
  | .sendText, .ok .sent => .acknowledged
  | _, _ => .ended

def monitor (windowMs claimMs : ℤ) : Monitor WelcomeCall WelcomeCall.Answer String Stage where
  allowed := fun stage c => match c with
    | .tryClaimWelcome window lease => stage = .started ∧ window = windowMs ∧ lease = claimMs
    | .sendMenuButtons => stage = .claimed
    | .sendText => stage = .claimed
    | .markWelcomed _ => stage = .acknowledged
  possible := fun _ _ => True
  after := fun _ c answer => Stage.after c answer

lemma follows_mark {source : WelcomeSource} :
    (do
      WelcomeScript.perform (.markWelcomed source)
      pure WelcomeDeliveryOutcome.sent : WelcomeScript WelcomeDeliveryOutcome).Follows
      (monitor windowMs claimMs) .acknowledged (fun _ _ => True) fun _ _ => True :=
  Follows.bind (Follows.perform rfl (fun _ _ => trivial) fun _ _ => trivial)

lemma script_follows (service : Service) (source : WelcomeSource) :
    (service.script windowMs claimMs source).Follows (monitor windowMs claimMs) .started
      (fun _ _ => True) fun _ _ => True := by
  cases service with
  | discord =>
    refine Follows.bind (Follows.perform ⟨rfl, rfl, rfl⟩ (fun claimed _ => ?_) fun _ _ => trivial)
    cases claimed with
    | false => trivial
    | true =>
      refine Follows.bind (Follows.perform rfl (fun delivered _ => ?_) fun _ _ => trivial)
      cases delivered with
      | false => trivial
      | true => exact follows_mark
  | zalo =>
    refine Follows.bind (Follows.perform ⟨rfl, rfl, rfl⟩ (fun claimed _ => ?_) fun _ _ => trivial)
    cases claimed with
    | false => trivial
    | true =>
      refine Follows.tryCatch (Follows.bind (Follows.perform rfl (fun out _ => ?_)
        fun _ _ => trivial))
      cases out with
      | sent => exact follows_mark
      | _ => trivial

/-! ## The record and the calls -/

/-- A call that won a claim is done with it while the claim is good: a call whose message was
acknowledged is still at work and its mark takes effect, and no call at work outlives its claim. -/
def InTime (claimMs : ℤ) (s : Store ι) (work : ι → Bool) (c : WelcomeCall) (input : Input) : Prop :=
  (∀ i, s.stage i = .acknowledged → work i = true) ∧
    (∀ i, work i = true → s.stage i = .claimed ∨ s.stage i = .acknowledged →
      input.now ≤ s.claimedAt i + claimMs) ∧
    (∀ source error, c = .markWelcomed source → input.failure ≠ some (error, false))

instance [Fintype ι] (claimMs : ℤ) (s : Store ι) (work : ι → Bool) (c : WelcomeCall)
    (input : Input) : Decidable (InTime claimMs s work c input) :=
  have : Decidable (∀ source error, c = .markWelcomed source →
      input.failure ≠ some (error, false)) :=
    match c with
    | .markWelcomed _ => decidable_of_iff (input.failure.all (·.2) = true)
        (by rcases input.failure with _ | ⟨_, _ | _⟩ <;> simp)
    | .tryClaimWelcome _ _ | .sendMenuButtons | .sendText => .isTrue (by simp)
  inferInstanceAs (Decidable (_ ∧ _ ∧ _))

/-- At a claim the record has no claim that is still good. -/
def Unclaimed (s : Store ι) (c : WelcomeCall) (input : Input) : Prop :=
  match c with
  | .tryClaimWelcome _ _ =>
    (s.record.all fun record => record.claimExpiresAt.all (· < input.now)) = true
  | _ => True

instance (s : Store ι) (c : WelcomeCall) (input : Input) : Decidable (Unclaimed s c input) := by
  unfold Unclaimed
  split <;> infer_instance

def Live (s : Store ι) (work : ι → Bool) (i : ι) : Prop :=
  s.stage i = .acknowledged ∨ work i = true ∧ s.stage i = .claimed

def Settled (windowMs : ℤ) (s : Store ι) (time : ℤ) : Prop :=
  ∃ record welcomedAt, s.record = some record ∧ record.lastWelcomedAt = some welcomedAt ∧
    time ≤ welcomedAt ∧ (record.claimExpiresAt.isSome = true → welcomedAt + windowMs ≤ s.clock)

/-- The record holds the claim of the call that is at work, and the time of the last message. -/
structure Tied (windowMs claimMs : ℤ) (s : Store ι) (stage : ι → Stage) (work : ι → Bool) :
    Prop where
  agree : ∀ i, work i = true → s.stage i = stage i
  held : ∀ i, Live s work i → ∃ record, s.record = some record ∧
    record.claimExpiresAt = some (s.claimedAt i + claimMs)
  one : ∀ i j, Live s work i → Live s work j → i = j
  settled : ∀ p ∈ s.acknowledged, s.stage p.1 = .acknowledged ∨ Settled windowMs s p.2
  past : ∀ p ∈ s.acknowledged, p.2 ≤ s.clock
  apart : s.acknowledged.Pairwise fun p q => p.2 + windowMs ≤ q.2

section Tie

variable {s : Store ι} {stage : ι → Stage} {work : ι → Bool} {i : ι}

omit [DecidableEq ι] in
lemma Tied.tick (h : Tied windowMs claimMs s stage work) {now : ℤ} (hnow : s.clock ≤ now) :
    Tied windowMs claimMs { s with clock := now } stage work := by
  refine ⟨h.agree, h.held, h.one, fun p hp => ?_, fun p hp => (h.past p hp).trans hnow, h.apart⟩
  refine (h.settled p hp).imp_right ?_
  rintro ⟨rec, welcomedAt, hrec, hlast, hle, hclaim⟩
  exact ⟨rec, welcomedAt, hrec, hlast, hle, fun hsome => (hclaim hsome).trans hnow⟩

omit [DecidableEq ι] in
lemma Tied.mono (h : Tied windowMs claimMs s stage work) {work' : ι → Bool}
    (hwork : ∀ j, work' j = true → work j = true) : Tied windowMs claimMs s stage work' := by
  have hlive : ∀ j, Live s work' j → Live s work j :=
    fun j hj => hj.imp_right fun hcl => ⟨hwork j hcl.1, hcl.2⟩
  exact ⟨fun j hj => h.agree j (hwork j hj), fun j hj => h.held j (hlive j hj),
    fun j k hj hk => h.one j k (hlive j hj) (hlive k hk), h.settled, h.past, h.apart⟩

variable {t : Store ι}

lemma agree_reach (h : Tied windowMs claimMs s stage work) {q : Stage}
    (ht : t.stage = update s.stage i q) : ∀ j, work j = true → t.stage j = update stage i q j := by
  intro j hj
  rw [ht]
  by_cases hji : j = i
  · subst hji
    simp
  · rw [update_of_ne hji, update_of_ne hji]
    exact h.agree j hj

lemma live_of_ended (ht : t.stage = update s.stage i .ended) {j : ι} (hj : Live t work j) :
    j ≠ i ∧ Live s work j := by
  rw [Live, ht] at hj
  by_cases hji : j = i
  · subst hji
    simp at hj
  · rw [update_of_ne hji] at hj
    exact ⟨hji, hj⟩

lemma Tied.finish (h : Tied windowMs claimMs s stage work) (hi : s.stage i ≠ .acknowledged) :
    Tied windowMs claimMs (s.reach i .ended) (update stage i .ended) work := by
  refine ⟨agree_reach h rfl, fun j hj => h.held j (live_of_ended rfl hj).2,
    fun j k hj hk => h.one j k (live_of_ended rfl hj).2 (live_of_ended rfl hk).2,
    fun p hp => ?_, h.past, h.apart⟩
  refine (h.settled p hp).imp_left fun hstage => ?_
  have hne : p.1 ≠ i := by
    rintro rfl
    exact hi hstage
  simpa [Store.reach, update_of_ne hne] using hstage

variable {rec : WelcomeRecord}

section

variable (h : Tied windowMs claimMs s stage work)
include h

omit [DecidableEq ι] in
lemma Tied.claim (hnobody : ∀ j, ¬ Live s work j)
    (hrec : tryClaimWelcome s.clock windowMs claimMs s.record = some rec) :
    Tied windowMs claimMs { s with record := some rec } stage work := by
  refine ⟨h.agree, fun j hj => absurd hj (hnobody j), h.one, fun p hp => ?_, h.past, h.apart⟩
  refine (h.settled p hp).imp_right ?_
  rintro ⟨old, welcomedAt, hold, hlast, hle, hclaim⟩
  rw [hold] at hrec
  obtain ⟨hclaimable, hnew⟩ := ite_none_right_eq_some.mp hrec
  obtain ⟨⟩ := hnew
  refine ⟨_, welcomedAt, rfl, hlast, hle, fun _ => ?_⟩
  simp only [claimable, hlast, isNone_some, any_some,
    Bool.false_or, Bool.or_eq_true, decide_eq_true_eq] at hclaimable
  rcases hclaimable with _ | hexpired
  · change welcomedAt + windowMs ≤ s.clock
    omega
  · refine hclaim ?_
    cases hexp : old.claimExpiresAt with
    | none => simp [hexp] at hexpired
    | some => rfl

lemma Tied.win (hnobody : ∀ j, ¬ Live s work j) (hrec : s.record = some rec)
    (hexp : rec.claimExpiresAt = some (s.clock + claimMs)) :
    Tied windowMs claimMs
      { s.reach i .claimed with claimedAt := update s.claimedAt i s.clock }
      (update stage i .claimed) work := by
  have hlive : ∀ j, Live { s.reach i .claimed with
      claimedAt := update s.claimedAt i s.clock } work j → j = i := by
    intro j hj
    by_contra hji
    simp only [Live, Store.reach, update_of_ne hji] at hj
    exact hnobody j hj
  refine ⟨agree_reach h rfl, fun j hj => ?_, fun j k hj hk => ?_, fun p hp => ?_, h.past, h.apart⟩
  · obtain rfl := hlive j hj
    exact ⟨rec, hrec, by simpa using hexp⟩
  · rw [hlive j hj, hlive k hk]
  · exact .inr ((h.settled p hp).resolve_left fun hstage => hnobody p.1 (.inl hstage))

lemma Tied.acknowledge (hwork : work i = true) (hcl : s.stage i = .claimed) :
    Tied windowMs claimMs
      { s.reach i .acknowledged with acknowledged := s.acknowledged ++ [(i, s.clock)] }
      (update stage i .acknowledged) work := by
  have hilive : Live s work i := .inr ⟨hwork, hcl⟩
  obtain ⟨rec, hrec, hexp⟩ := h.held i hilive
  have hlive : ∀ j, Live { s.reach i .acknowledged with
      acknowledged := s.acknowledged ++ [(i, s.clock)] } work j → j = i := by
    intro j hj
    by_contra hji
    simp only [Live, Store.reach, update_of_ne hji] at hj
    exact hji (h.one j i hj hilive)
  -- the messages before are in the record, whose window has passed
  have hpre : ∀ p ∈ s.acknowledged, Settled windowMs s p.2 := by
    intro p hp
    refine (h.settled p hp).resolve_left fun hstage => ?_
    rw [h.one p.1 i (.inl hstage) hilive, hcl] at hstage
    cases hstage
  have hwin : ∀ p ∈ s.acknowledged, p.2 + windowMs ≤ s.clock := by
    intro p hp
    obtain ⟨_, _, hrec', -, _, hpassed⟩ := hpre p hp
    obtain ⟨⟩ := (hrec.symm.trans hrec')
    have hclock := hpassed (by rw [hexp]; rfl)
    omega
  refine ⟨agree_reach h rfl, fun j hj => ?_, fun j k hj hk => ?_, fun p hp => ?_, fun p hp => ?_,
    pairwise_append.mpr ⟨h.apart, pairwise_singleton _ _, fun p hp q hq => ?_⟩⟩
  · obtain rfl := hlive j hj
    exact ⟨rec, hrec, hexp⟩
  · rw [hlive j hj, hlive k hk]
  · rcases mem_append.mp hp with hold | hnew
    · exact .inr (hpre p hold)
    · obtain rfl := mem_singleton.mp hnew
      exact .inl (by simp [Store.reach])
  · rcases mem_append.mp hp with hold | hnew
    · exact h.past p hold
    · obtain rfl := mem_singleton.mp hnew
      exact le_refl s.clock
  · obtain rfl := mem_singleton.mp hq
    exact hwin p hp

lemma Tied.mark (hstage : s.stage i = .acknowledged) (source : WelcomeSource) :
    Tied windowMs claimMs
      (Store.reach { s with record := some (markWelcomed s.clock source) } i .ended)
      (update stage i .ended) work := by
  have hnobody : ∀ j, ¬ Live (Store.reach { s with
      record := some (markWelcomed s.clock source) } i .ended) work j := by
    intro j hj
    obtain ⟨hji, hlive⟩ := live_of_ended (s := s) rfl hj
    exact hji (h.one j i hlive (.inl hstage))
  refine ⟨agree_reach h rfl, fun j hj => absurd hj (hnobody j),
    fun j _ hj => absurd hj (hnobody j), fun p hp => ?_, h.past, h.apart⟩
  exact .inr ⟨_, s.clock, rfl, rfl, h.past p hp, fun hno => nomatch hno⟩

omit [DecidableEq ι] in
lemma Tied.nobody {window lease : ℤ} {input : Input}
    (hintime : InTime claimMs s work (.tryClaimWelcome window lease) input)
    (hunclaimed : Unclaimed s (.tryClaimWelcome window lease) input) (j : ι) : ¬ Live s work j := by
  intro hlive
  obtain ⟨_, hrec, hexp⟩ := h.held j hlive
  have hwork : work j = true := hlive.elim (hintime.1 j) fun hcl => hcl.1
  have hnow := hintime.2.1 j hwork (hlive.elim .inr fun hcl => .inl hcl.2)
  simp only [Unclaimed, hrec, hexp, all_some, decide_eq_true_eq] at hunclaimed
  omega

lemma Tied.sent (hwork : work i = true) (hcl : s.stage i = .claimed) {q : Stage}
    (ht : t = { s.reach i .acknowledged with acknowledged := s.acknowledged ++ [(i, s.clock)] } ∧
      q = .acknowledged ∨ t = s.reach i .ended ∧ q = .ended) :
    Tied windowMs claimMs t (update stage i q) work := by
  rcases ht with ⟨rfl, rfl⟩ | ⟨rfl, rfl⟩
  · exact h.acknowledge hwork hcl
  · exact h.finish (by simp [hcl])

lemma Tied.serve {c : WelcomeCall} {input : Input} {ans : Except String c.Answer}
    (hwork : work i = true) (hallow : (monitor windowMs claimMs).allowed (stage i) c)
    (hintime : InTime claimMs s work c input) (hunclaimed : Unclaimed s c input)
    (hserve : WelcomeSystem.serve i c input s = some (ans, t)) :
    Tied windowMs claimMs t (update stage i (Stage.after c ans)) work := by
  simp only [WelcomeSystem.serve] at hserve
  split at hserve
  case isTrue => cases hserve
  case isFalse hclock =>
    obtain ⟨⟩ := hserve
    have hnow := h.tick (not_lt.mp hclock)
    have hagree := h.agree i hwork
    cases c with
    | tryClaimWelcome window lease =>
      obtain ⟨hstarted, rfl, rfl⟩ := hallow
      have hnobody := h.nobody hintime hunclaimed
      have hstage : s.stage i ≠ .acknowledged := by simp [hagree, hstarted]
      have hcarryOut : ∀ r, Store.carryOut { s with clock := input.now } input
          (.tryClaimWelcome window lease) = r →
          r = (.ok false, { s with clock := input.now }) ∨ ∃ rec,
            tryClaimWelcome input.now window lease s.record = some rec ∧
            r = (.ok true, { s with clock := input.now, record := some rec }) := by
        rintro _ rfl
        simp only [Store.carryOut]
        split
        next rec hrec =>
          exact .inr ⟨rec, hrec, rfl⟩
        · exact .inl rfl
      rcases hcarryOut _ rfl with hlost | ⟨_, hrec, hwon⟩
      · rw [hlost]
        rcases input.failure with _ | ⟨e, _ | _⟩ <;> exact hnow.finish hstage
      · rw [hwon]
        have hclaim := hnow.claim hnobody hrec
        rcases input.failure with _ | ⟨e, _ | _⟩
        · exact hclaim.win hnobody rfl (claimExpiresAt_tryClaimWelcome hrec)
        · exact hnow.finish hstage
        · exact hclaim.finish hstage
    | sendMenuButtons =>
      refine hnow.sent hwork (hagree.trans hallow) ?_
      rcases input.failure with _ | ⟨e, _ | _⟩
      · simp only [Store.carryOut]
        cases input.delivered with
        | true => exact .inl ⟨rfl, rfl⟩
        | false => exact .inr ⟨rfl, rfl⟩
      · exact .inr ⟨rfl, rfl⟩
      · exact .inr ⟨rfl, rfl⟩
    | sendText =>
      refine hnow.sent hwork (hagree.trans hallow) ?_
      rcases input.failure with _ | ⟨e, _ | _⟩
      · simp only [Store.carryOut]
        cases input.outcome with
        | sent => exact .inl ⟨rfl, rfl⟩
        | _ => exact .inr ⟨rfl, rfl⟩
      · exact .inr ⟨rfl, rfl⟩
      · exact .inr ⟨rfl, rfl⟩
    | markWelcomed source =>
      have hstage : s.stage i = .acknowledged := hagree.trans hallow
      rcases hfail : input.failure with _ | ⟨e, _ | _⟩
      · exact hnow.mark hstage source
      · exact absurd hfail (hintime.2.2 source e rfl)
      · exact hnow.mark hstage source

end

end Tie

/-! ## Whole runs -/

lemma tied_kept (windowMs claimMs : ℤ) :
    Crew.KeptWhile (fun _ : ι => monitor windowMs claimMs) serve happen
      (fun s work _ c input => InTime claimMs s work c input ∧ Unclaimed s c input)
      (fun _ _ _ => True) (Tied windowMs claimMs) where
  possible := fun _ _ _ _ _ _ _ _ _ _ => trivial
  call := by
    intro s stage work i _ _ _ _ htied hwork hallow hcond hserve _
    refine (htied.serve hwork hallow hcond.1 hcond.2 hserve).mono fun j hj => ?_
    by_cases hji : j = i
    · rw [hji]
      exact hwork
    · rwa [update_of_ne hji] at hj
  stop := by
    intro _ _ _ i htied
    refine htied.mono fun j hj => ?_
    by_cases hji : j = i
    · subst hji
      simp at hj
    · rwa [update_of_ne hji] at hj
  other := fun _ _ _ event => event.elim

/-- If calls are in time and no claim finds another that has not expired, at most one call is
between its claim and its end, and the messages shown are at least a window apart. -/
theorem welcomes_apart {service : Service} {windowMs claimMs clock : ℤ}
    {record : Option WelcomeRecord} {sources : ι → WelcomeSource} {events : List (Event ι)}
    {s : State ι} (hcondition : Along step (Crew.MeetsWhile (fun s work _ c input =>
        InTime claimMs s work c input ∧ Unclaimed s c input) fun _ _ _ => True)
      (init service windowMs claimMs record clock sources) events)
    (hrun : run step (init service windowMs claimMs record clock sources) events = some s) :
    (∀ i j, Between s i → Between s j → i = j) ∧
      s.shared.acknowledged.Pairwise fun p q => p.2 + windowMs ≤ q.2 := by
  have hinit : (init service windowMs claimMs record clock sources).Obeys
      (fun _ => monitor windowMs claimMs) (Tied windowMs claimMs) := by
    refine ⟨fun _ => .started, fun i script hscr => ?_, ?_⟩
    · obtain ⟨⟩ := hscr
      exact script_follows service (sources i)
    · have hnobody : ∀ work (j : ι), ¬ Live (init service windowMs claimMs record clock
          sources).shared work j := by
        rintro work j (hno | ⟨-, hno⟩) <;> cases hno
      exact ⟨fun _ _ => rfl, fun j hj => absurd hj (hnobody _ j),
        fun j _ hj => absurd hj (hnobody _ j), fun _ hp => absurd hp not_mem_nil,
        fun _ hp => absurd hp not_mem_nil, List.Pairwise.nil⟩
  obtain ⟨_, -, htied⟩ := hinit.run_while (tied_kept windowMs claimMs) hcondition hrun
  have hlive : ∀ i, Between s i → Live s.shared s.working i :=
    fun i hi => hi.2.elim (fun hcl => .inr ⟨hi.1, hcl⟩) .inl
  exact ⟨fun i j hi hj => htied.one i j (hlive i hi) (hlive j hj), htied.apart⟩

def callAt (i : Bool) (now : ℤ) : Event Bool :=
  .call i ⟨now, true, .sent, none⟩

/-- The second call comes after the window of the first welcome and sends another one. -/
theorem welcomes_apart_again : ∃ s : State Bool,
    run step (init .zalo 1000 100 none 0 fun _ => .linked)
      [callAt false 0, callAt false 2, callAt false 4, callAt true 1005, callAt true 1006,
        callAt true 1007] = some s ∧
      s.shared.acknowledged = [(false, 2), (true, 1006)] ∧
      (∀ i j, Between s i → Between s j → i = j) ∧
      s.shared.acknowledged.Pairwise fun p q => p.2 + 1000 ≤ q.2 :=
  exists_end (A := fun s => s.shared.acknowledged = [(false, 2), (true, 1006)]) (by decide +kernel)
    fun _ hrun hboth => ⟨hboth, welcomes_apart (by decide +kernel) hrun⟩

/-- `last_welcomed_at` is empty, so the claim of the first call does not keep the second one out. -/
theorem welcomed_twice : ∃ s t : State Bool,
    run step (init .discord 1000 100 none 0 fun _ => .linked) [callAt false 0, callAt true 1] =
        some s ∧ Between s false ∧ Between s true ∧
      run step s [callAt false 2, callAt true 3, callAt false 4, callAt true 5] = some t ∧
      t.shared.acknowledged = [(false, 2), (true, 3)] ∧
      Along step (Crew.MeetsWhile (fun s work _ c input => InTime 100 s work c input)
        fun _ _ _ => True) (init .discord 1000 100 none 0 fun _ => .linked)
        [callAt false 0, callAt true 1, callAt false 2, callAt true 3, callAt false 4,
          callAt true 5] := by
  simp only [exists_and_left]
  decide +kernel

end WelcomeSystem

end WispaceBot
