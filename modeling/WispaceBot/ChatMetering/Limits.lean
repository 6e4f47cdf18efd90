import WispaceBot.ChatMetering.Interleaving

/-!
# Daily limits and burst windows of interleaved reservations

With one daily limit in all calls no learner's sum and no anonymous counter passes it, and a counter
only changes when a reservation of its owner is charged or refunded.  No burst window has more
reservations of a user than the burst limit.
-/

namespace WispaceBot

open Table Transition ChatRateLimitRepository SlidingWindow

/-! ## The calls -/

/-- `ChatRateLimitSettings`, as far as a reservation reads them. -/
structure ChatRateLimitSettings where
  freeFormDailyLimit : ℤ
  burstPerMinute : ℕ
  burstCountsRefunded : Option Bool

def chatBurstWindowMs : ℤ := 60000

/-- In the first attempt and in the one after a reopened key. -/
def ChatRateLimitCore.reserveInput (settings : ChatRateLimitSettings) (now : ℤ)
    (usageDate : UsageDate) (externalUserId : String) (userId : Option ℕ)
    (idempotencyKey : String) : ReserveFreeFormSlotInput where
  externalUserId := externalUserId
  userId := userId
  usageDate := usageDate
  idempotencyKey := idempotencyKey
  dailyLimit := settings.freeFormDailyLimit
  burstLimit := some settings.burstPerMinute
  burstSince := some (now - chatBurstWindowMs)
  burstCountsRefunded := settings.burstCountsRefunded.getD false

namespace QuotaEvent

variable {n : ℕ}

def hasDailyLimit (limit : ℤ) : QuotaEvent n → Bool
  | .start _ _ _ input => input.dailyLimit = limit
  | _ => true

/-- A transaction that starts has the input of a call of the rate limiter made before. -/
def IsCall (settings : Platform → ChatRateLimitSettings) : QuotaEvent n → Prop
  | .start _ platform startedAt input => ∃ now ≤ startedAt,
      input = ChatRateLimitCore.reserveInput (settings platform) now input.usageDate
        input.externalUserId input.userId input.idempotencyKey
  | _ => True

/-- The rows that an event charges or refunds. -/
def touched (e : QuotaEvent n) (s : QuotaSystem n) : List ChatIdempotency :=
  match e with
  | .advance i =>
    match s.sessions i with
    | .active tx => if tx.stage = .charge then [tx.row] else []
    | _ => []
  | .settle op => op.refundedRows s.db
  | _ => []

end QuotaEvent

/-! ## Daily limits -/

lemma usageOf_upsertUsage_of_ne {usage : List ChatDailyUsage} {bucket other : QuotaBucket}
    {guard : ChatDailyUsage → Bool} (hsound : SoundCounters usage)
    (hpaid : (upsertUsage bucket guard usage).2 = true) (hne : other ≠ bucket) :
    usageOf (upsertUsage bucket guard usage).1 other = usageOf usage other := by
  have hmem := fun u => mem_upsertUsage (u := u) hsound.buckets hpaid
  by_cases hold : ∃ u ∈ usage, u.bucket = other
  · obtain ⟨u, hu, hbuck⟩ := hold
    have hkept := (hmem u).mpr (.inl ⟨hu, hbuck ▸ hne⟩)
    rw [usageOf_eq_of_mem hsound.buckets hu hbuck,
      usageOf_eq_of_mem (hsound.charge hpaid).buckets hkept hbuck]
  · have hnone : ∀ u ∈ usage, u.bucket ≠ other := fun u hu hbuck => hold ⟨u, hu, hbuck⟩
    rw [usageOf_eq_zero hnone, usageOf_eq_zero fun u hu => ?_]
    rcases (hmem u).mp hu with ⟨hu, -⟩ | rfl
    · exact hnone u hu
    · exact Ne.symm hne

namespace QuotaSystem

variable {n : ℕ} {s t : QuotaSystem n} {e : QuotaEvent n}

lemma touches_of_usageOf_ne (hsound : SoundCounters s.db.usage) (hmove : QuotaMove s e t)
    {bucket : QuotaBucket} (hne : usageOf t.db.usage bucket ≠ usageOf s.db.usage bucket) :
    ∃ row ∈ e.touched s, Touches e.KeepsDates row bucket := by
  cases hmove with
  | start | proceed | leave => exact absurd rfl hne
  | @commit i tx hact hstage hpaid =>
    by_cases hbuck : bucket = tx.bucket
    · refine ⟨tx.row, ?_, hbuck ▸ touches_bucket _ tx.row⟩
      simp [QuotaEvent.touched, hact, hstage]
    · exact absurd (usageOf_upsertUsage_of_ne hsound hpaid hbuck) hne
  | @settle op hop => exact (op.apply_settles hop s.db).1.of_usageOf_ne hne

end QuotaSystem

/-- The daily limit is kept by the tables and by the reservations under way. -/
structure DailyCapped {n : ℕ} (limit : ℤ) (s : QuotaSystem n) : Prop where
  consistent : Consistent False s
  limits : ∀ i tx, s.sessions i = .active tx → tx.input.dailyLimit = limit
  within : WithinLimit limit s.db.usage

namespace DailyCapped

variable {n : ℕ} {limit : ℤ} {s t : QuotaSystem n} {e : QuotaEvent n}

lemma init (hlimit : 1 ≤ limit) : DailyCapped limit (QuotaSystem.init n) where
  consistent := Consistent.init
  limits := by
    intro _ _ h
    cases h
  within := WithinLimit.empty hlimit

lemma charge (h : DailyCapped limit s) (hlimit : 1 ≤ limit) {i : Fin n} {tx : ReserveTx}
    (hact : s.sessions i = .active tx) (hstage : tx.stage = .charge)
    (hpaid : (upsertUsage tx.bucket tx.guard s.db.usage).2 = true) :
    WithinLimit limit (upsertUsage tx.bucket tx.guard s.db.usage).1 := by
  have hown := h.limits i tx hact
  refine h.within.charge h.consistent.counters hlimit hpaid ?_ ?_
  · intro uid huser
    have huser' : tx.input.userId = some uid := huser
    have hcheck : tx.overLimit s.db.usage = false :=
      h.consistent.passed i tx hact .checkDaily (fun hb => by cases hb) (by rw [hstage]; decide)
    simp only [ReserveTx.overLimit, huser', decide_eq_false_iff_not] at hcheck
    rw [← hown]
    have hbelow : learnerUsage s.db.usage tx.input.usageDate uid < tx.input.dailyLimit := by
      omega
    exact hbelow
  · intro huser _ hguard
    have huser' : tx.input.userId = none := huser
    simp only [ReserveTx.guard, huser', decide_eq_true_eq] at hguard
    omega

lemma move (h : DailyCapped limit s) (hlimit : 1 ≤ limit) (hcall : e.hasDailyLimit limit = true)
    (hmove : QuotaMove s e t) : DailyCapped limit t := by
  refine ⟨h.consistent.move (fun hb => hb.elim) hmove, ?_, ?_⟩
  · refine QuotaSystem.forall_active_move (D := fun _ _ input => input.dailyLimit = limit)
      h.limits ?_ hmove
    rintro _ _ _ _ rfl
    simpa [QuotaEvent.hasDailyLimit] using hcall
  · cases hmove with
    | commit hact hstage hpaid => exact h.charge hlimit hact hstage hpaid
    | @settle op hop =>
      exact h.within.lowered h.consistent.counters (op.apply_settles hop s.db).1
    | _ => exact h.within

end DailyCapped

namespace QuotaSystem

variable {n : ℕ}

/-- In every state reached a learner's counters of a date, over all channels, and an anonymous
counter are within the limit; and a counter changes only when a reservation of its owner on its
platform is charged or refunded, one of its date unless the bulk recovery runs east of UTC. -/
theorem daily_limit_kept (limit : ℤ) (hlimit : 1 ≤ limit) (events : List (QuotaEvent n))
    (s : QuotaSystem n) (hcalls : ∀ e ∈ events, e.hasDailyLimit limit = true)
    (hrun : run step (init n) events = some s) :
    (s.db.usage.map ChatDailyUsage.bucket).Nodup ∧
    (∀ date userId, learnerUsage s.db.usage date userId ≤ limit) ∧
    (∀ u ∈ s.db.usage, u.userId = none → u.freeFormCount ≤ limit) ∧
    ∀ e t, s.step e = some t → ∀ bucket, usageOf t.db.usage bucket ≠ usageOf s.db.usage bucket →
        ∃ row ∈ e.touched s, Touches e.KeepsDates row bucket := by
  have hcapped : DailyCapped limit s :=
    run_induction (C := fun _ e => e.hasDailyLimit limit = true)
      (fun _ _ _ h hcall hstep => h.move hlimit hcall (step_move hstep))
      (DailyCapped.init hlimit) (along_of_forall hcalls) hrun
  refine ⟨hcapped.consistent.counters.buckets, hcapped.within.learner, hcapped.within.anonymous, ?_⟩
  intro _ _ hstep _ hne
  exact touches_of_usageOf_ne hcapped.consistent.counters (step_move hstep) hne

end QuotaSystem

namespace QuotaSample

open MeteringSample

def settings : ChatRateLimitSettings := ⟨1, 1, none⟩

def sharedLearner : List (QuotaEvent 2) :=
  [.start 0 .messenger 0 (ChatRateLimitCore.reserveInput settings 0 date "u1" (some 7) "m1"),
    .start 1 .discord 1 (ChatRateLimitCore.reserveInput settings 1 date "u2" (some 7) "d1"),
    .advance 0, .advance 0, .advance 0, .advance 0, .advance 0, .advance 0,
    .advance 1, .advance 1, .advance 1, .advance 1, .advance 1,
    .start 0 .messenger 70000 (ChatRateLimitCore.reserveInput settings 70000 date "u1" none "m2"),
    .advance 0, .advance 0, .advance 0, .advance 0, .advance 0, .advance 0]

end QuotaSample

namespace QuotaSystem

/-- A learner with a limit of one writes on two platforms at once; the second is refused. -/
theorem daily_limit_kept_shared_learner :
    ∃ s, run step (init 2) QuotaSample.sharedLearner = some s ∧
      s.sessions 1 = .finished .dailyLimitExceeded ∧ s.sessions 0 = .finished (.reserved 1) ∧
      learnerUsage s.db.usage MeteringSample.date 7 = 1 ∧
      learnerUsage s.db.usage MeteringSample.date 7 ≤ 1 :=
  ⟨_, rfl, rfl, rfl, rfl,
    (daily_limit_kept 1 (by decide) QuotaSample.sharedLearner _ (by decide) rfl).2.1 _ 7⟩

end QuotaSystem

/-! ## Burst windows -/

/-- Every transaction looks back far enough, and no window holds more than its limit. -/
structure BurstCapped {n : ℕ} (limit : Platform → ℕ) (width : ℤ) (s : QuotaSystem n) : Prop where
  consistent : Consistent True s
  calls : ∀ i tx, s.sessions i = .active tx → ∃ since,
    tx.input.burst = some ((limit tx.platform : ℤ), since) ∧ since + width ≤ tx.startedAt
  bounded : BurstBounded limit width s.db.idempotency

namespace BurstCapped

variable {n : ℕ} {limit : Platform → ℕ} {width : ℤ} {s t : QuotaSystem n} {e : QuotaEvent n}

lemma init : BurstCapped limit width (QuotaSystem.init n) where
  consistent := Consistent.init
  calls := by
    intro _ _ h
    cases h
  bounded := BurstBounded.empty

lemma move (h : BurstCapped limit width s)
    (hcall : ∀ i p t₀ input, e = .start i p t₀ input → ∃ since,
      input.burst = some ((limit p : ℤ), since) ∧ since + width ≤ t₀)
    (hmove : QuotaMove s e t) : BurstCapped limit width t := by
  have hburst : True → e.UsesBurst := by
    intro _
    cases e with
    | start i p t₀ input =>
      obtain ⟨since, hsome, -⟩ := hcall i p t₀ input rfl
      simp [QuotaEvent.UsesBurst, hsome]
    | _ => trivial
  refine ⟨h.consistent.move hburst hmove, ?_, ?_⟩
  · exact QuotaSystem.forall_active_move (D := fun p t₀ input => ∃ since,
      input.burst = some ((limit p : ℤ), since) ∧ since + width ≤ t₀)
      h.calls hcall hmove
  · cases hmove with
    | @commit i tx hact hstage hpaid =>
      obtain ⟨_, hsome, hsince⟩ := h.calls i tx hact
      exact h.bounded.reserve hsome hsince
        (h.consistent.passed i tx hact .countBurst (fun _ => trivial) (by rw [hstage]; decide))
    | @settle op hop => exact h.bounded.retired (op.apply_settles hop s.db).2
    | _ => exact h.bounded

end BurstCapped

namespace QuotaSystem

variable {n : ℕ}

/-- Every half-open window of the length `CHAT_BURST_WINDOW_MS` has at most the burst limit of a
user's reservations that are not refunded. -/
theorem burst_windows_kept (settings : Platform → ChatRateLimitSettings)
    (events : List (QuotaEvent n)) (s : QuotaSystem n) (hcalls : ∀ e ∈ events, e.IsCall settings)
    (hrun : run step (init n) events = some s) (platform : Platform) (externalUserId : String)
    (start : ℤ) :
    countFrom ChatIdempotency.reservedAt (isBurst platform externalUserId) chatBurstWindowMs start
        s.db.idempotency ≤ (settings platform).burstPerMinute ∧
      countAfter ChatIdempotency.reservedAt (isBurst platform externalUserId) chatBurstWindowMs
        start s.db.idempotency ≤ (settings platform).burstPerMinute := by
  have hcapped : BurstCapped (fun platform => (settings platform).burstPerMinute)
      chatBurstWindowMs s := by
    refine run_induction (C := fun _ e => e.IsCall settings) (fun u e t h hcall hstep => ?_)
      BurstCapped.init (along_of_forall hcalls) hrun
    refine h.move ?_ (step_move hstep)
    rintro _ platform _ _ rfl
    obtain ⟨now, _, hinput⟩ := hcall
    refine ⟨now - chatBurstWindowMs, by rw [hinput]; rfl, by omega⟩
  exact hcapped.bounded platform externalUserId start

end QuotaSystem

namespace QuotaSample

open MeteringSample

def outOfOrder : List (QuotaEvent 2) :=
  [.start 0 .messenger 5 (ChatRateLimitCore.reserveInput settings 4 date "u1" none "m1"),
    .start 1 .messenger 9 (ChatRateLimitCore.reserveInput settings 8 date "u1" none "m2"),
    .advance 1, .advance 1, .advance 1, .advance 1, .advance 1, .advance 1,
    .advance 0, .advance 0, .advance 0, .advance 0]

end QuotaSample

namespace QuotaSystem

/-- The later of two calls is charged first, and the earlier one is refused for the same window. -/
theorem burst_windows_kept_out_of_order :
    ∃ s, run step (init 2) QuotaSample.outOfOrder = some s ∧
      s.sessions 1 = .finished (.reserved 1) ∧ s.sessions 0 = .finished (.burstLimitExceeded 2) ∧
      countFrom ChatIdempotency.reservedAt (isBurst .messenger "u1") chatBurstWindowMs 0
        s.db.idempotency = 1 ∧
      countFrom ChatIdempotency.reservedAt (isBurst .messenger "u1") chatBurstWindowMs 0
        s.db.idempotency ≤ 1 := by
  have hcalls : ∀ e ∈ QuotaSample.outOfOrder, e.IsCall fun _ => QuotaSample.settings := by
    intro _ he
    simp only [QuotaSample.outOfOrder, List.mem_cons, List.not_mem_nil, or_false] at he
    rcases he with rfl | rfl | rfl | rfl | rfl | rfl | rfl | rfl | rfl | rfl | rfl | rfl
    · exact ⟨4, by decide, rfl⟩
    · exact ⟨8, by decide, rfl⟩
    all_goals trivial
  exact ⟨_, rfl, rfl, rfl, rfl,
    (burst_windows_kept (fun _ => QuotaSample.settings) QuotaSample.outOfOrder _ hcalls rfl
      .messenger "u1" 0).1⟩

end QuotaSystem

end WispaceBot
