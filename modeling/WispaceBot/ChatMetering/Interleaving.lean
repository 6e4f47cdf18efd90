import WispaceBot.ChatMetering.Quota
import WispaceBot.Foundation.Locks

/-!
# Interleaved reservations

`QuotaSystem n` has `n` database sessions, each at some statement of a reservation, over the
committed tables.  Locks and inserted keys are held until the transaction ends, and its rows are
seen when it commits, in its last step.  The other transactions are single steps.

What a reservation has checked is still true when it commits (`Consistent`), so a commit is the
whole reservation done at once (`commit_eq_reserve`), and every run leaves the tables of a serial
one (`interleaved_serializable`).
-/

namespace WispaceBot

open Table Locks Transition ChatRateLimitRepository

/-! ## Sessions -/

/-- The statement that a transaction runs next. -/
inductive ReserveStage
  /-- `pg_advisory_xact_lock` of the learner and the date. -/
  | lockLearner
  /-- `pg_advisory_xact_lock` of the platform and the external id. -/
  | lockUser
  /-- `tryReserveIdempotency`. -/
  | insertKey
  | countBurst
  | checkDaily
  | charge
deriving DecidableEq

def ReserveStage.index : ReserveStage → ℕ
  | .lockLearner => 0
  | .lockUser => 1
  | .insertKey => 2
  | .countBurst => 3
  | .checkDaily => 4
  | .charge => 5

/-- What transactions wait for. -/
inductive QuotaLock
  | advisory (text : String)
  | uniqueKey (key : Platform × String)
deriving DecidableEq

/-- A transaction in progress. -/
structure ReserveTx where
  platform : Platform
  startedAt : ℤ
  input : ReserveFreeFormSlotInput
  stage : ReserveStage

namespace ReserveTx

section

variable (tx : ReserveTx)

def row : ChatIdempotency := reservation tx.platform tx.startedAt tx.input

def bucket : QuotaBucket := tx.input.bucket tx.platform

def goto (stage : ReserveStage) : ReserveTx := { tx with stage := stage }

/-- The lock of the learner and the date, which does not name the platform. -/
def learnerLock : List QuotaLock :=
  match tx.input.userId with
  | some userId =>
    [.advisory ("chat-quota:user:" ++ toString userId ++ ":" ++ tx.input.usageDate.text)]
  | none => []

def userLock : List QuotaLock :=
  match tx.input.burst with
  | some _ => [.advisory (tx.platform.name ++ ":" ++ tx.input.externalUserId)]
  | none => []

def locksBefore (index : ℕ) : List QuotaLock :=
  (if 0 < index then tx.learnerLock else []) ++ (if 1 < index then tx.userLock else []) ++
    if 2 < index then [.uniqueKey tx.row.key] else []

def locks : List QuotaLock := tx.locksBefore tx.stage.index

def overLimit (usage : List ChatDailyUsage) : Bool :=
  match tx.input.userId with
  | some userId => tx.input.dailyLimit ≤ learnerUsage usage tx.input.usageDate userId
  | none => false

def guard (row : ChatDailyUsage) : Bool :=
  match tx.input.userId with
  | some _ => true
  | none => row.freeFormCount < tx.input.dailyLimit

end

end ReserveTx

/-- A database session. -/
inductive Session
  | idle
  | active (tx : ReserveTx)
  | finished (outcome : ReserveFreeFormSlotOutcome)

def Session.locks : Session → List QuotaLock
  | .active tx => tx.locks
  | _ => []

/-- The tables, and the sessions that work on them. -/
structure QuotaSystem (n : ℕ) where
  db : MeteringDb
  sessions : Fin n → Session

/-- The steps of the sessions, and the operations that are one statement. -/
inductive QuotaEvent (n : ℕ)
  | start (session : Fin n) (platform : Platform) (startedAt : ℤ)
      (input : ReserveFreeFormSlotInput)
  | advance (session : Fin n)
  | abort (session : Fin n)
  | settle (op : MeteringOp)

namespace QuotaSystem

variable {n : ℕ}

def init (n : ℕ) : QuotaSystem n := ⟨⟨[], []⟩, fun _ => .idle⟩

def set (s : QuotaSystem n) (i : Fin n) (session : Session) : QuotaSystem n :=
  { s with sessions := Function.update s.sessions i session }

instance (s : QuotaSystem n) (i : Fin n) (lock : QuotaLock) :
    Decidable (Free Session.locks s.sessions i lock) :=
  inferInstanceAs (Decidable (∀ j, j ≠ i → lock ∉ (s.sessions j).locks))

/-- The session goes on with the locks it wants, if nobody else holds them. -/
def acquire (s : QuotaSystem n) (i : Fin n) (tx : ReserveTx) (wanted : List QuotaLock)
    (next : ReserveStage) : Option (QuotaSystem n) :=
  if ∀ lock ∈ wanted, Free Session.locks s.sessions i lock then
    some (s.set i (.active (tx.goto next)))
  else none

def advance (s : QuotaSystem n) (i : Fin n) (tx : ReserveTx) : Option (QuotaSystem n) :=
  match tx.stage with
  | .lockLearner => s.acquire i tx tx.learnerLock .lockUser
  | .lockUser => s.acquire i tx tx.userLock .insertKey
  | .insertKey =>
    -- the insert waits for an uncommitted one of the same key
    if hasKey s.db.idempotency tx.row.key then some (s.set i (.finished .idempotencyConflict))
    else s.acquire i tx [.uniqueKey tx.row.key] .countBurst
  | .countBurst =>
    match burstExceeded tx.platform tx.input (s.db.idempotency ++ [tx.row]) with
    | some count => some (s.set i (.finished (.burstLimitExceeded count)))
    | none => some (s.set i (.active (tx.goto .checkDaily)))
  | .checkDaily =>
    if tx.overLimit s.db.usage then some (s.set i (.finished .dailyLimitExceeded))
    else some (s.set i (.active (tx.goto .charge)))
  | .charge =>
    let charged := upsertUsage tx.bucket tx.guard s.db.usage
    if charged.2 then
      some ({ s with db := ⟨charged.1, s.db.idempotency ++ [tx.row]⟩ }.set i
        (.finished (.reserved (usedAfter tx.platform tx.input charged.1))))
    else some (s.set i (.finished .dailyLimitExceeded))

def step (s : QuotaSystem n) : QuotaEvent n → Option (QuotaSystem n)
  | .start i platform startedAt input =>
    match s.sessions i with
    | .active _ => none
    | _ => some (s.set i (.active ⟨platform, startedAt, input, .lockLearner⟩))
  | .advance i =>
    match s.sessions i with
    | .active tx => s.advance i tx
    | _ => none
  | .abort i =>
    match s.sessions i with
    | .active _ => some (s.set i .idle)
    | _ => none
  | .settle op => if op.isReserve then none else some { s with db := op.apply s.db }

end QuotaSystem

/-! ## What a step does -/

namespace ReserveTx

/-- What a transaction finds out before it goes on from a statement. -/
def Passes (tx : ReserveTx) (db : MeteringDb) : ReserveStage → Prop
  | .insertKey => hasKey db.idempotency tx.row.key = false
  | .countBurst => burstExceeded tx.platform tx.input (db.idempotency ++ [tx.row]) = none
  | .checkDaily => tx.overLimit db.usage = false
  | _ => True

end ReserveTx

/-- What a step can do, by cases. -/
inductive QuotaMove {n : ℕ} (s : QuotaSystem n) : QuotaEvent n → QuotaSystem n → Prop
  | start {i : Fin n} {platform : Platform} {startedAt : ℤ} {input : ReserveFreeFormSlotInput} :
      QuotaMove s (.start i platform startedAt input)
        (s.set i (.active ⟨platform, startedAt, input, .lockLearner⟩))
  | proceed {i : Fin n} {tx : ReserveTx} {next : ReserveStage}
      (hactive : s.sessions i = .active tx) (hnext : next.index = tx.stage.index + 1)
      (hlocks : ∀ lock ∈ tx.locksBefore next.index,
        lock ∈ tx.locks ∨ Free Session.locks s.sessions i lock)
      (hpasses : tx.Passes s.db tx.stage) :
      QuotaMove s (.advance i) (s.set i (.active (tx.goto next)))
  | leave {e : QuotaEvent n} {i : Fin n} {session : Session}
      (hidle : ∀ tx, session ≠ .active tx) : QuotaMove s e (s.set i session)
  | commit {i : Fin n} {tx : ReserveTx} (hactive : s.sessions i = .active tx)
      (hstage : tx.stage = .charge)
      (hcharged : (upsertUsage tx.bucket tx.guard s.db.usage).2 = true) :
      QuotaMove s (.advance i)
        ({ s with db := ⟨(upsertUsage tx.bucket tx.guard s.db.usage).1,
            s.db.idempotency ++ [tx.row]⟩ }.set i
          (.finished (.reserved (usedAfter tx.platform tx.input
            (upsertUsage tx.bucket tx.guard s.db.usage).1))))
  | settle {op : MeteringOp} (hop : op.isReserve = false) :
      QuotaMove s (.settle op) { s with db := op.apply s.db }

namespace QuotaSystem

variable {n : ℕ} {s t : QuotaSystem n} {e : QuotaEvent n} {i : Fin n} {tx : ReserveTx}

lemma acquire_move {wanted : List QuotaLock} {next : ReserveStage}
    (hact : s.sessions i = .active tx) (hnext : next.index = tx.stage.index + 1)
    (hwanted : ∀ lock ∈ tx.locksBefore next.index, lock ∈ tx.locks ∨ lock ∈ wanted)
    (hpasses : tx.Passes s.db tx.stage) (h : s.acquire i tx wanted next = some t) :
    QuotaMove s (.advance i) t := by
  unfold acquire at h
  split at h
  next hfree =>
    obtain ⟨⟩ := h
    exact .proceed hact hnext (fun lock hlock => (hwanted lock hlock).imp_right (hfree lock))
      hpasses
  · cases h

open ReserveTx

lemma advance_move (hact : s.sessions i = .active tx) (h : s.advance i tx = some t) :
    QuotaMove s (.advance i) t := by
  unfold advance at h
  cases hstage : tx.stage with
  | lockLearner =>
    rw [hstage] at h
    refine acquire_move hact (by rw [hstage]; rfl) (fun lock hlock => .inr ?_)
      (by rw [hstage]; trivial) h
    simpa [locksBefore, ReserveStage.index] using hlock
  | lockUser =>
    rw [hstage] at h
    refine acquire_move hact (by rw [hstage]; rfl) ?_ (by rw [hstage]; trivial) h
    simp [locks, locksBefore, ReserveStage.index, hstage]
  | insertKey =>
    simp only [hstage] at h
    split at h
    · obtain ⟨⟩ := h
      exact .leave (by simp)
    next hkey =>
      refine acquire_move hact (by rw [hstage]; rfl) ?_ ?_ h
      · simp [locks, locksBefore, ReserveStage.index, hstage, or_assoc]
      · rw [hstage]
        simpa [ReserveTx.Passes] using hkey
  | countBurst =>
    simp only [hstage] at h
    split at h
    · obtain ⟨⟩ := h
      exact .leave (by simp)
    next hburst =>
      obtain ⟨⟩ := h
      refine .proceed hact (by rw [hstage]; rfl) (fun lock hlock => .inl ?_)
        (by rw [hstage]; exact hburst)
      simpa [locks, locksBefore, ReserveStage.index, hstage] using hlock
  | checkDaily =>
    simp only [hstage] at h
    split at h
    · obtain ⟨⟩ := h
      exact .leave (by simp)
    next hlimit =>
      obtain ⟨⟩ := h
      refine .proceed hact (by rw [hstage]; rfl) (fun lock hlock => .inl ?_)
        (by rw [hstage]; simpa [ReserveTx.Passes] using hlimit)
      simpa [locks, locksBefore, ReserveStage.index, hstage] using hlock
  | charge =>
    simp only [hstage] at h
    split at h
    next hpaid =>
      obtain ⟨⟩ := h
      exact .commit hact hstage hpaid
    · obtain ⟨⟩ := h
      exact .leave (by simp)

lemma step_move (h : s.step e = some t) : QuotaMove s e t := by
  cases e with
  | start =>
    simp only [step] at h
    split at h
    · cases h
    · obtain ⟨⟩ := h
      exact .start
  | advance =>
    simp only [step] at h
    split at h
    next _ hact =>
      exact advance_move hact h
    · cases h
  | abort =>
    simp only [step] at h
    split at h
    · obtain ⟨⟩ := h
      exact .leave (by simp)
    · cases h
  | settle =>
    simp only [step] at h
    split at h
    · cases h
    next hop =>
      obtain ⟨⟩ := h
      exact .settle (by simpa using hop)

end QuotaSystem

/-! ## Checks stay true -/

lemma ReserveStage.index_inj {first second : ReserveStage} (h : first.index = second.index) :
    first = second := by
  cases first <;> cases second <;> first | rfl | cases h

namespace ReserveTx

variable {tx other : ReserveTx} {db : MeteringDb} {stage : ReserveStage}

lemma mem_locks {lock : QuotaLock} :
    lock ∈ tx.locks ↔ (0 < tx.stage.index ∧ lock ∈ tx.learnerLock) ∨
      (1 < tx.stage.index ∧ lock ∈ tx.userLock) ∨
      (2 < tx.stage.index ∧ lock = .uniqueKey tx.row.key) := by
  unfold locks locksBefore
  simp

lemma goto_passes {next : ReserveStage} : (tx.goto next).Passes db stage ↔ tx.Passes db stage := by
  cases stage <;> exact Iff.rfl

lemma Passes.settle (h : tx.Passes db stage) (hcounters : SoundCounters db.usage)
    {op : MeteringOp} (hop : op.isReserve = false) : tx.Passes (op.apply db) stage := by
  obtain ⟨hlow, hretired⟩ := op.apply_settles hop db
  cases stage with
  | insertKey => exact hretired.hasKey_eq_false h
  | countBurst =>
    refine burstExceeded_mono (fun since => ?_) h
    rw [burstCount_append, burstCount_append]
    exact Nat.add_le_add_right (burstCount_le_of_retiredFrom hretired _ _ _) _
  | checkDaily =>
    unfold Passes overLimit at h ⊢
    cases huser : tx.input.userId with
    | none => rfl
    | some uid =>
      simp only [huser, decide_eq_false_iff_not] at h ⊢
      have hle := learnerUsage_le_of_loweredOn hlow hcounters.nonneg tx.input.usageDate uid
      omega
  | _ => trivial

section Exclusion

variable (hexclusive : ∀ lock ∈ tx.locks, lock ∉ other.locks)

include hexclusive

lemma key_ne (htx : 2 < tx.stage.index) (hother : 2 < other.stage.index) :
    other.row.key ≠ tx.row.key := by
  intro hkey
  refine hexclusive (.uniqueKey tx.row.key) (mem_locks.mpr ?_) (mem_locks.mpr ?_)
  · exact .inr (.inr ⟨htx, rfl⟩)
  · exact .inr (.inr ⟨hother, by rw [hkey]⟩)

lemma user_ne (htx : 1 < tx.stage.index) (hother : 1 < other.stage.index)
    (hburst : tx.input.burst ≠ none) (hburst' : other.input.burst ≠ none) :
    ¬(other.platform = tx.platform ∧ other.input.externalUserId = tx.input.externalUserId) := by
  rintro ⟨hplat, hext⟩
  obtain ⟨_, hsome⟩ := Option.ne_none_iff_exists'.mp hburst
  obtain ⟨_, hsome'⟩ := Option.ne_none_iff_exists'.mp hburst'
  refine hexclusive (.advisory (tx.platform.name ++ ":" ++ tx.input.externalUserId))
    (mem_locks.mpr ?_) (mem_locks.mpr ?_)
  · exact .inr (.inl ⟨htx, by simp [userLock, hsome]⟩)
  · exact .inr (.inl ⟨hother, by simp [userLock, hsome', hplat, hext]⟩)

lemma learner_ne (htx : 0 < tx.stage.index) (hother : 0 < other.stage.index) {uid : ℕ}
    (huser : tx.input.userId = some uid) :
    ¬(other.input.usageDate = tx.input.usageDate ∧ other.input.userId = some uid) := by
  rintro ⟨hdate, huser'⟩
  refine hexclusive
    (.advisory ("chat-quota:user:" ++ toString uid ++ ":" ++ tx.input.usageDate.text))
    (mem_locks.mpr ?_) (mem_locks.mpr ?_)
  · exact .inl ⟨htx, by simp [learnerLock, huser]⟩
  · exact .inl ⟨hother, by simp [learnerLock, huser', hdate]⟩

lemma Passes.commit (h : tx.Passes db stage) (hindex : stage.index < tx.stage.index)
    (huniq : UniqueOn ChatDailyUsage.bucket db.usage) (hstage : other.stage = .charge)
    (hburst : stage = .countBurst → tx.input.burst ≠ none ∧ other.input.burst ≠ none)
    (hpaid : (upsertUsage other.bucket other.guard db.usage).2 = true) :
    tx.Passes ⟨(upsertUsage other.bucket other.guard db.usage).1, db.idempotency ++ [other.row]⟩
      stage := by
  have hdone : 4 < other.stage.index := by rw [hstage]; decide
  cases stage with
  | insertKey =>
    have hpast : 2 < tx.stage.index := hindex
    rw [Passes, hasKey_eq_false] at h ⊢
    intro r hr
    rcases List.mem_append.mp hr with hold | hnew
    · exact h r hold
    · obtain rfl : r = other.row := by simpa using hnew
      exact key_ne hexclusive hpast (by omega)
  | countBurst =>
    have hpast : 3 < tx.stage.index := hindex
    obtain ⟨hown, hother⟩ := hburst rfl
    have huser := user_ne hexclusive (by omega) (by omega) hown hother
    refine burstExceeded_mono (fun since => ?_) h
    have hnone : burstCount tx.platform tx.input.externalUserId since tx.input.burstCountsRefunded
        [other.row] = 0 := by
      refine List.countP_eq_zero.mpr fun r hr => ?_
      obtain rfl : r = other.row := by simpa using hr
      rw [Bool.and_eq_true, decide_eq_true_eq]
      rintro ⟨⟨hplat, hext, -⟩, -⟩
      exact huser ⟨hplat, hext⟩
    rw [burstCount_append, burstCount_append, burstCount_append, hnone]
    omega
  | checkDaily =>
    unfold Passes overLimit at h ⊢
    cases hown : tx.input.userId with
    | none => rfl
    | some uid =>
      have hscope : ¬(other.bucket.usageDate = tx.input.usageDate ∧
          other.bucket.userId = some uid) :=
        learner_ne hexclusive (by omega) (by omega) hown
      simp only [hown, decide_eq_false_iff_not] at h ⊢
      rw [learnerUsage_upsertUsage huniq hpaid, if_neg hscope, Int.add_zero]
      exact h
  | _ => trivial

end Exclusion

end ReserveTx

namespace QuotaSystem

variable {n : ℕ} {s t : QuotaSystem n} {e : QuotaEvent n}

lemma active_of_set {i j : Fin n} {session : Session} {tx : ReserveTx}
    (h : (s.set i session).sessions j = .active tx) :
    (j = i ∧ session = .active tx) ∨ (j ≠ i ∧ s.sessions j = .active tx) := by
  have hset : Function.update s.sessions i session j = .active tx := h
  by_cases hji : j = i
  · rw [hji, Function.update_self] at hset
    exact .inl ⟨hji, hset⟩
  · rw [Function.update_of_ne hji] at hset
    exact .inr ⟨hji, hset⟩

lemma forall_active_move {D : Platform → ℤ → ReserveFreeFormSlotInput → Prop}
    (h : ∀ i tx, s.sessions i = .active tx → D tx.platform tx.startedAt tx.input)
    (hcall : ∀ i p t₀ input, e = .start i p t₀ input → D p t₀ input) (hmove : QuotaMove s e t) :
    ∀ i tx, t.sessions i = .active tx → D tx.platform tx.startedAt tx.input := by
  intro j tx' hj
  cases hmove with
  | @start i p t₀ input =>
    rcases active_of_set hj with ⟨-, hnew⟩ | ⟨-, hold⟩
    · cases hnew
      exact hcall i p t₀ input rfl
    · exact h j tx' hold
  | @proceed i tx next hact _ _ _ =>
    rcases active_of_set hj with ⟨-, hnew⟩ | ⟨-, hold⟩
    · cases hnew
      exact h i tx hact
    · exact h j tx' hold
  | leave hidle =>
    rcases active_of_set hj with ⟨-, hnew⟩ | ⟨-, hold⟩
    · exact absurd hnew (hidle tx')
    · exact h j tx' hold
  | commit =>
    rcases active_of_set hj with ⟨-, hnew⟩ | ⟨-, hold⟩
    · cases hnew
    · exact h j tx' hold
  | settle => exact h j tx' hj

end QuotaSystem

/-- What holds in every state reached, whatever the sessions are doing. -/
structure Consistent {n : ℕ} (bursts : Prop) (s : QuotaSystem n) : Prop where
  exclusive : Exclusive Session.locks s.sessions
  counters : SoundCounters s.db.usage
  limited : bursts → ∀ i tx, s.sessions i = .active tx → tx.input.burst ≠ none
  passed : ∀ i tx, s.sessions i = .active tx → ∀ stage, (stage = .countBurst → bursts) →
    stage.index < tx.stage.index → tx.Passes s.db stage

/-- A transaction that starts has a burst limit. -/
def QuotaEvent.UsesBurst {n : ℕ} : QuotaEvent n → Prop
  | .start _ _ _ input => input.burst ≠ none
  | _ => True

namespace Consistent

open QuotaSystem

variable {n : ℕ} {bursts : Prop} {s t : QuotaSystem n} {e : QuotaEvent n}

lemma init : Consistent bursts (QuotaSystem.init n) where
  exclusive := by
    intro i _ _ hi
    cases hi
  counters := SoundCounters.empty
  limited := by
    intro _ i tx h
    cases h
  passed := by
    intro _ _ h
    cases h

lemma locks_eq_nil {session : Session} (h : ∀ tx, session ≠ .active tx) : session.locks = [] := by
  cases session with
  | active tx => exact absurd rfl (h tx)
  | _ => rfl

lemma move (h : Consistent bursts s) (hcall : bursts → e.UsesBurst) (hmove : QuotaMove s e t) :
    Consistent bursts t := by
  have hlim : bursts → ∀ i tx, t.sessions i = .active tx → tx.input.burst ≠ none := by
    intro hb
    refine forall_active_move (D := fun _ _ input => input.burst ≠ none) (h.limited hb) ?_ hmove
    rintro i _ _ _ rfl
    exact hcall hb
  cases hmove with
  | start =>
    refine ⟨h.exclusive.release rfl, h.counters, hlim, fun j tx' hj => ?_⟩
    rcases active_of_set hj with ⟨-, hnew⟩ | ⟨-, hold⟩
    · cases hnew
      intro stage _ hindex
      exact absurd hindex (Nat.not_lt_zero _)
    · exact h.passed j tx' hold
  | @proceed i tx next hact _ hlocks hpasses =>
    refine ⟨h.exclusive.update ?_, h.counters, hlim, fun j tx' hj => ?_⟩
    · rw [hact]
      exact hlocks
    · rcases active_of_set hj with ⟨-, hnew⟩ | ⟨-, hold⟩
      · cases hnew
        intro stage hstage hindex
        refine ReserveTx.goto_passes.mpr ?_
        have hle : stage.index < tx.stage.index ∨ stage.index = tx.stage.index := by
          have hgoto : (tx.goto next).stage.index = next.index := rfl
          omega
        rcases hle with hlt | heq
        · exact h.passed i tx hact stage hstage hlt
        · rw [ReserveStage.index_inj heq]
          exact hpasses
      · exact h.passed j tx' hold
  | leave hidle =>
    refine ⟨h.exclusive.release (locks_eq_nil hidle), h.counters, hlim, fun j tx' hj => ?_⟩
    rcases active_of_set hj with ⟨-, hnew⟩ | ⟨-, hold⟩
    · exact absurd hnew (hidle tx')
    · exact h.passed j tx' hold
  | @commit i tx hact hstage hpaid =>
    refine ⟨h.exclusive.release rfl, h.counters.charge hpaid, hlim, fun j tx' hj => ?_⟩
    rcases active_of_set hj with ⟨-, hnew⟩ | ⟨hne, hold⟩
    · cases hnew
    · intro stage hbursts hindex
      refine ReserveTx.Passes.commit (fun lock hlock hlock' => hne ?_)
        (h.passed j tx' hold stage hbursts hindex) hindex h.counters.buckets hstage
        (fun hb => ?_) hpaid
      · refine h.exclusive j i lock ?_ ?_
        · rw [hold]
          exact hlock
        · rw [hact]
          exact hlock'
      · exact ⟨h.limited (hbursts hb) j tx' hold, h.limited (hbursts hb) i tx hact⟩
  | @settle op hop =>
    refine ⟨h.exclusive, h.counters.lowered (op.apply_settles hop s.db).1, hlim, ?_⟩
    intro i tx hi stage hbursts hindex
    exact (h.passed i tx hi stage hbursts hindex).settle h.counters hop

end Consistent

/-! ## Commits are whole reservations -/

def QuotaEvent.colonFree {n : ℕ} : QuotaEvent n → Bool
  | .start _ _ _ input => ':' ∉ input.externalUserId.toList
  | _ => true

def QuotaEvent.KeepsDates {n : ℕ} : QuotaEvent n → Prop
  | .settle op => op.KeepsDates
  | _ => True

lemma ReserveTx.chargeUsage_eq {tx : ReserveTx} {usage : List ChatDailyUsage}
    (hlimit : tx.overLimit usage = false)
    (hpaid : (upsertUsage tx.bucket tx.guard usage).2 = true) :
    chargeUsage tx.platform tx.input usage = some (upsertUsage tx.bucket tx.guard usage).1 := by
  unfold chargeUsage
  cases huser : tx.input.userId with
  | some =>
    have hguard : tx.guard = fun _ => true := by
      funext row
      simp [guard, huser]
    simp only [overLimit, huser, decide_eq_false_iff_not] at hlimit
    rw [hguard]
    simp only [if_neg hlimit]
    rfl
  | none =>
    have hguard : tx.guard = fun row => decide (row.freeFormCount < tx.input.dailyLimit) := by
      funext row
      simp [guard, huser]
    rw [hguard] at hpaid ⊢
    exact if_pos hpaid

namespace QuotaSystem

variable {n : ℕ} {s t : QuotaSystem n} {e : QuotaEvent n}

lemma commit_eq_reserve (h : Consistent True s) {i : Fin n} {tx : ReserveTx}
    (hact : s.sessions i = .active tx) (hstage : tx.stage = .charge)
    (hpaid : (upsertUsage tx.bucket tx.guard s.db.usage).2 = true) :
    reserveFreeFormSlotInTransaction tx.platform tx.startedAt tx.input s.db =
      (⟨(upsertUsage tx.bucket tx.guard s.db.usage).1, s.db.idempotency ++ [tx.row]⟩,
        .reserved (usedAfter tx.platform tx.input
          (upsertUsage tx.bucket tx.guard s.db.usage).1)) := by
  have hpassed : ∀ stage, stage.index < 5 → tx.Passes s.db stage := by
    intro stage hindex
    refine h.passed i tx hact stage (fun _ => trivial) ?_
    rw [hstage]
    exact hindex
  have hkey : hasKey s.db.idempotency (tx.platform, tx.input.idempotencyKey) = false :=
    hpassed .insertKey (by decide)
  have hburst : burstExceeded tx.platform tx.input (s.db.idempotency ++
      [reservation tx.platform tx.startedAt tx.input]) = none :=
    hpassed .countBurst (by decide)
  have hcharge := ReserveTx.chargeUsage_eq (hpassed .checkDaily (by decide)) hpaid
  simp only [reserveFreeFormSlotInTransaction, tryReserveIdempotency, hkey, Bool.false_eq_true,
    if_false, hburst, hcharge]
  rfl

/-- The tables are those of a ledger whose transactions are done at once, and which is balanced if
all of them keep dates. -/
structure Serial (dates : Prop) (s : QuotaSystem n) : Prop where
  consistent : Consistent True s
  colonFree : ∀ i tx, s.sessions i = .active tx → ':' ∉ tx.input.externalUserId.toList
  reached : ∃ m, Reachable Metering.step .init m ∧ (dates → Balanced m.db ∧ Accounted m) ∧
    m.db = s.db

lemma Serial.move {dates : Prop} (h : Serial dates s) (hcall : e.UsesBurst ∧ e.colonFree = true)
    (hdates : dates → e.KeepsDates) (hmove : QuotaMove s e t) : Serial dates t := by
  refine ⟨h.consistent.move (fun _ => hcall.1) hmove, forall_active_move
    (D := fun _ _ input => ':' ∉ input.externalUserId.toList) h.colonFree ?_ hmove, ?_⟩
  · rintro _ _ _ _ rfl
    simpa [QuotaEvent.colonFree] using hcall.2
  obtain ⟨m, hm, hsound, hdb⟩ := h.reached
  have hstep : ∀ op : MeteringOp, op.colonFree = true → (dates → op.KeepsDates) →
      t.db = op.apply s.db → ∃ m, Reachable Metering.step .init m ∧
        (dates → Balanced m.db ∧ Accounted m) ∧ m.db = t.db := by
    intro op hop hkeeps ht
    have hnext := Metering.step_eq_some (s := m).mpr ⟨hop, rfl⟩
    exact ⟨_, hm.tail hnext, fun hd => Metering.step_sound (hsound hd) (hkeeps hd) hnext,
      by rw [ht, ← hdb]; rfl⟩
  cases hmove with
  | start | proceed | leave => exact ⟨m, hm, hsound, hdb⟩
  | @commit i tx hact hstage hpaid =>
    refine hstep (.reserve tx.platform tx.startedAt tx.input) ?_ (fun _ => trivial) ?_
    · simpa [MeteringOp.colonFree] using h.colonFree i tx hact
    · rw [MeteringOp.apply, MeteringOp.applyWith, commit_eq_reserve h.consistent hact hstage hpaid]
      rfl
  | @settle op hop => exact hstep op (by cases op <;> first | rfl | cases hop) hdates rfl

/-- The tables that interleaved reservations leave are also left by whole transactions done one
after the other.  Unless a bulk recovery runs in a process east of UTC, every counter is the number
of its reservations that are not refunded. -/
theorem interleaved_serializable (events : List (QuotaEvent n))
    (hcalls : ∀ e ∈ events, e.UsesBurst ∧ e.colonFree = true)
    (hrun : run step (init n) events = some s) :
    (∃ m, Reachable Metering.step .init m ∧ m.db = s.db) ∧
      ((∀ e ∈ events, e.KeepsDates) →
        ∀ bucket, usageOf s.db.usage bucket = chargedCount s.db.idempotency bucket) := by
  have hinit : Serial (∀ e ∈ events, e.KeepsDates) (init n) :=
    ⟨Consistent.init, fun _ _ h => (by cases h), _, ⟨[], rfl⟩, fun _ => Metering.init_sound, rfl⟩
  have hevents : ∀ e ∈ events, (e.UsesBurst ∧ e.colonFree = true) ∧
      ((∀ e ∈ events, e.KeepsDates) → e.KeepsDates) :=
    fun e he => ⟨hcalls e he, fun hdates => hdates e he⟩
  have h := run_induction (fun _ _ _ h hcall hstep => h.move hcall.1 hcall.2 (step_move hstep))
    hinit (along_of_forall hevents) hrun
  obtain ⟨m, hm, hsound, hdb⟩ := h.reached
  refine ⟨⟨m, hm, hdb⟩, fun hdates bucket => ?_⟩
  rw [← hdb]
  exact (hsound hdates).1.usageOf_eq bucket

def overlapping : List (QuotaEvent 4) :=
  [.start 0 .zalo 0 (MeteringSample.input 0 "m1"), .advance 0,
    .start 1 .zalo 1 (MeteringSample.input 0 "m2")] ++ .replicate 5 (.advance 0) ++
    [.advance 1, .settle (.refund .zalo "m1")]

/-- Two sessions overlap and a slot is refunded; the counters agree with the rows. -/
theorem interleaved_serializable_overlap : ∃ s, run step (init 4) overlapping = some s ∧
    ∀ bucket, usageOf s.db.usage bucket = chargedCount s.db.idempotency bucket := by
  refine ⟨_, rfl, (interleaved_serializable overlapping ?_ rfl).2 ?_⟩
  · simp [overlapping, QuotaEvent.UsesBurst, QuotaEvent.colonFree, MeteringSample.input,
      ReserveFreeFormSlotInput.burst]
  · simp [overlapping, QuotaEvent.KeepsDates, MeteringOp.KeepsDates]

end QuotaSystem

end WispaceBot
