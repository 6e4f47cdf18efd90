import WispaceBot.StudyReminder.Dispatch

/-!
# A reminder is delivered at most once

After `sent`, `ambiguous` or `rate_limited` the message is not sent again.  `load` counts these
answers together with the workers that are about to call the provider; it is never above one, and
zero while the row can be claimed.  The number of calls is bounded by the tries counted in the row.
-/

namespace WispaceBot

open List Transition StudyReminderJob DispatchPc

/-- The row after the `markCancelled` that a worker makes next, if it does and has the lease. -/
def DispatchWorker.cancels (w : DispatchWorker) (row : StudyReminderJob) :
    Option StudyReminderJob :=
  match w.pc with
  | .cancelling reason => row.markCancelled w.token reason
  | _ => none

namespace ReminderSystem

def isCalling (worker : DispatchWorker) : Bool :=
  worker.pc.stance == .calling

section

variable (s : ReminderSystem)

def calling : ℕ :=
  s.workers.countP isCalling

def settledAnswers : ℕ :=
  s.answers.countP DeliveryOutcome.isTerminal

def load : ℕ :=
  s.settledAnswers + s.calling

def calls : ℕ :=
  s.answers.length + s.calling

end

abbrev afterClaim (s : ReminderSystem) (row : StudyReminderJob) (uuid : String) : ReminderSystem :=
  { s with
    row := row
    workers := s.workers ++ [⟨row, s.nextToken, row.deliveryKey.getD uuid, .claimed⟩]
    nextToken := s.nextToken + 1 }

abbrev afterAnswer (s : ReminderSystem) (i : ℕ) (worker : DispatchWorker) (out : DeliveryOutcome) :
    ReminderSystem :=
  { s.advance i worker (.reported out) s.row with answers := s.answers ++ [out] }

/-- The invariant: tokens are distinct, and the row stands for every delivery. -/
structure Once (maxRetries : ℤ) (s : ReminderSystem) : Prop where
  distinct : ∀ (i j : ℕ) (v w : DispatchWorker), s.workers[i]? = some v →
    s.workers[j]? = some w → v.token = w.token → i = j
  token_lt : ∀ (i : ℕ) (w : DispatchWorker), s.workers[i]? = some w → w.token < s.nextToken
  lease_lt : ∀ t, s.row.leaseToken = some t → t < s.nextToken
  retries : s.row.maxRetries = maxRetries
  outcome : s.row.status = .failed → s.row.deliveryStatus ≠ none
  le_one : s.load ≤ 1
  open_zero : s.row.isOpen = true → s.load = 0
  held_zero : ∀ (i : ℕ) (w : DispatchWorker), s.workers[i]? = some w →
    s.row.leasedBy w.token = true → w.pc.stance = .mayCall ∨ w.pc.stance = .declined → s.load = 0

variable {maxRetries : ℤ} {s t : ReminderSystem} {i : ℕ} {worker : DispatchWorker}
  {pc : DispatchPc} {row : StudyReminderJob}

lemma calling_advance (hi : s.workers[i]? = some worker) (pc : DispatchPc)
    (row : StudyReminderJob) :
    (s.advance i worker pc row).calling + (if worker.pc.stance = .calling then 1 else 0) =
      s.calling + if pc.stance = .calling then 1 else 0 := by
  obtain ⟨hlt, hget⟩ := List.getElem?_eq_some_iff.mp hi
  have hcount : (s.advance i worker pc row).calling =
      (s.calling - if worker.pc.stance = .calling then 1 else 0) +
        if pc.stance = .calling then 1 else 0 := by
    have hset := countP_set (p := isCalling) (a := { worker with pc := pc }) hlt
    rw [hget] at hset
    simpa only [isCalling, beq_iff_eq, calling, advance] using hset
  have hpos : worker.pc.stance = .calling → 0 < s.calling := fun hcalling =>
    countP_pos_iff.mpr ⟨worker, mem_of_getElem? hi, by simp [isCalling, hcalling]⟩
  rw [hcount]
  split
  · have := hpos ‹_›
    omega
  · omega

variable {workers : List DispatchWorker} {v w : DispatchWorker}

lemma getElem?_set_worker {j : ℕ} (h : (workers.set i v)[j]? = some w) :
    (j = i ∧ w = v) ∨ (j ≠ i ∧ workers[j]? = some w) := by
  rw [getElem?_set] at h
  split at h
  next heq =>
    split at h
    · exact .inl ⟨heq.symm, (Option.some.inj h).symm⟩
    · cases h
  next hne =>
    exact .inr ⟨fun heq => hne heq.symm, h⟩

lemma getElem?_append_worker {j : ℕ} (h : (workers ++ [v])[j]? = some w) :
    workers[j]? = some w ∨ (j = workers.length ∧ w = v) := by
  rw [getElem?_append] at h
  split at h
  · exact .inl h
  · rw [getElem?_singleton] at h
    split at h
    · exact .inr ⟨by omega, (Option.some.inj h).symm⟩
    · cases h

lemma stance_reported_ne (out : DeliveryOutcome) : (reported out).stance ≠ .calling := by
  cases out <;> simp [stance, DeliveryOutcome.isTerminal]

lemma Stance.of_turns {stance stance' : Stance} (h : stance.turns stance' = true) :
    stance' ≠ .calling ∧ stance' ≠ .mayCall := by
  constructor
  · rintro rfl
    cases stance <;> cases h
  · rintro rfl
    cases stance <;> cases h

variable {answers : List DeliveryOutcome}

lemma Once.advance (h : Once maxRetries s) (hi : s.workers[i]? = some worker)
    (hlease : ∀ t, row.leaseToken = some t → s.row.leaseToken = some t)
    (hret : row.maxRetries = maxRetries) (hout : row.status = .failed → row.deliveryStatus ≠ none)
    (hle : load { s.advance i worker pc row with answers := answers } ≤ 1)
    (hopen : row.isOpen = true → load { s.advance i worker pc row with answers := answers } = 0)
    (hheld : row.leasedBy worker.token = true → pc.stance = .mayCall ∨ pc.stance = .declined →
      load { s.advance i worker pc row with answers := answers } = 0)
    (hothers : ∀ token, token ≠ worker.token → row.leasedBy token = true →
      s.row.leasedBy token = true ∧
        load { s.advance i worker pc row with answers := answers } ≤ s.load) :
    Once maxRetries { s.advance i worker pc row with answers := answers } where
  distinct := by
    intro j k v w hv hw htoken
    rcases getElem?_set_worker hv with ⟨hj, rfl⟩ | ⟨hj, hv'⟩ <;>
      rcases getElem?_set_worker hw with ⟨hk, rfl⟩ | ⟨hk, hw'⟩
    · exact hj.trans hk.symm
    · exact hj.trans (h.distinct i k worker w hi hw' htoken)
    · exact (h.distinct j i v worker hv' hi htoken).trans hk.symm
    · exact h.distinct j k v w hv' hw' htoken
  token_lt := by
    intro j w hw
    rcases getElem?_set_worker hw with ⟨-, rfl⟩ | ⟨-, hw'⟩
    · exact h.token_lt i worker hi
    · exact h.token_lt j w hw'
  lease_lt := fun t ht => h.lease_lt t (hlease t ht)
  retries := hret
  outcome := hout
  le_one := hle
  open_zero := hopen
  held_zero := by
    intro j w hw hlsd hst
    rcases getElem?_set_worker hw with ⟨-, rfl⟩ | ⟨hj, hw'⟩
    · exact hheld hlsd hst
    · have htoken : w.token ≠ worker.token := fun heq => hj (h.distinct j i w worker hw' hi heq)
      obtain ⟨hpre, _⟩ := hothers w.token htoken hlsd
      have hzero := h.held_zero j w hw' hpre hst
      omega

lemma load_advance (hi : s.workers[i]? = some worker) (pc : DispatchPc) (row : StudyReminderJob) :
    (s.advance i worker pc row).load + (if worker.pc.stance = .calling then 1 else 0) =
      s.load + if pc.stance = .calling then 1 else 0 := by
  have hcalling := calling_advance hi pc row
  have hans : (s.advance i worker pc row).settledAnswers = s.settledAnswers := rfl
  simp only [load, hans]
  omega

lemma not_leasedBy_of_ne {tok other : ℕ} (h : row.leasedBy tok = true) (hne : other ≠ tok) :
    row.leasedBy other = false := by
  have hlease := (status_of_leasedBy h).1
  simp only [leasedBy, hlease, Bool.and_eq_false_iff, beq_eq_false_iff_ne]
  exact .inl fun heq => hne (Option.some.inj heq).symm

section

variable (h : Once maxRetries s) (hi : s.workers[i]? = some worker)
include h hi

lemma Once.release (hlease : row.leaseToken = none) (hret : row.maxRetries = maxRetries)
    (hout : row.status = .failed → row.deliveryStatus ≠ none) (hpc : pc.stance ≠ .calling)
    (hopen : row.isOpen = true → s.load = 0) : Once maxRetries (s.advance i worker pc row) := by
  have hload := load_advance hi pc row
  rw [if_neg hpc] at hload
  have hle := h.le_one
  have hfree : ∀ tok, row.leasedBy tok = false := by
    simp [leasedBy, hlease]
  refine h.advance hi (by simp [hlease]) hret hout ?_ ?_ ?_ ?_
  · change (s.advance i worker pc row).load ≤ 1
    omega
  · intro hisOpen
    have hzero := hopen hisOpen
    change (s.advance i worker pc row).load = 0
    omega
  · intro hlsd
    rw [hfree] at hlsd
    cases hlsd
  · intro _ _ hlsd
    rw [hfree] at hlsd
    cases hlsd

lemma Once.call (hpc : worker.pc = .claimed)
    (hrow : s.row.ownDelivery worker.token worker.deliveryKey = some row) :
    Once maxRetries (s.advance i worker .authorized row) := by
  obtain ⟨hlsd, rfl⟩ := ite_some_eq_some.mp hrow
  have hst : worker.pc.stance = .mayCall := by rw [hpc]; rfl
  have hzero := h.held_zero i worker hi hlsd (.inl hst)
  have hload := load_advance hi .authorized
    { s.row with deliveryKey := some (s.row.deliveryKey.getD worker.deliveryKey) }
  rw [hst, hzero] at hload
  have hproc := (status_of_leasedBy hlsd).2
  refine h.advance hi (fun t ht => ht) h.retries h.outcome ?_ ?_ ?_ ?_
  · exact Nat.le_of_eq hload
  · intro hopen
    have hclosed : isOpen { s.row with
        deliveryKey := some (s.row.deliveryKey.getD worker.deliveryKey) } = false :=
      isOpen_eq_false_of_status (.inl hproc)
    rw [hclosed] at hopen
    cases hopen
  · intro _ hpc
    rcases hpc with hpc | hpc <;> cases hpc
  · intro tok hne hother
    have hnot : s.row.leasedBy tok = false := not_leasedBy_of_ne hlsd hne
    exact absurd (hnot.symm.trans hother) Bool.false_ne_true

lemma Once.answer (hpc : worker.pc = .authorized) (out : DeliveryOutcome) :
    Once maxRetries (s.afterAnswer i worker out) := by
  have hst : worker.pc.stance = .calling := by rw [hpc]; rfl
  have hcalling := calling_advance hi (.reported out) s.row
  rw [if_pos hst, if_neg (stance_reported_ne out)] at hcalling
  have hle := h.le_one
  -- the call was the whole load, and its answer takes its place
  have hload : (s.afterAnswer i worker out).load = if out.isTerminal then 1 else 0 := by
    have hset : (s.afterAnswer i worker out).settledAnswers =
        s.settledAnswers + if out.isTerminal then 1 else 0 := by
      simp [settledAnswers]
    have hsame : (s.afterAnswer i worker out).calling =
        (s.advance i worker (.reported out) s.row).calling := rfl
    simp only [load, hset, hsame] at hle ⊢
    omega
  have hpos : 1 ≤ s.load := by
    simp only [load]
    omega
  refine h.advance hi (fun t ht => ht) h.retries h.outcome ?_ ?_ ?_ ?_
  · rw [hload]
    split <;> decide
  · intro hopen
    have := h.open_zero hopen
    omega
  · intro _ hdeclined
    rw [hload]
    cases out with
    | notSent => rfl
    | _ => simp [stance, DeliveryOutcome.isTerminal] at hdeclined
  · intro _ _ hlsd
    refine ⟨hlsd, ?_⟩
    rw [hload]
    split <;> omega

lemma Once.turn (hturn : worker.pc.stance.turns pc.stance = true) :
    Once maxRetries (s.advance i worker pc s.row) := by
  have hload := load_advance hi pc s.row
  rw [if_neg (Stance.of_turns hturn).1] at hload
  have hle := h.le_one
  refine h.advance hi (fun t ht => ht) h.retries h.outcome ?_ ?_ ?_ ?_
  · change (s.advance i worker pc s.row).load ≤ 1
    omega
  · intro hopen
    have hzero := h.open_zero hopen
    change (s.advance i worker pc s.row).load = 0
    omega
  · intro hlsd hst
    have hpre : worker.pc.stance = .mayCall ∨ worker.pc.stance = .declined := by
      cases hworker : worker.pc.stance with
      | mayCall => exact .inl rfl
      | declined => exact .inr rfl
      | calling | settled =>
        rcases hst with hpc | hpc <;> rw [hworker, hpc] at hturn <;> cases hturn
    have hzero := h.held_zero i worker hi hlsd hpre
    change (s.advance i worker pc s.row).load = 0
    omega
  · intro _ _ hlsd
    refine ⟨hlsd, ?_⟩
    change (s.advance i worker pc s.row).load ≤ s.load
    omega

end

section

variable (h : Once maxRetries s)
include h

lemma Once.claim {now ms : ℤ} {uuid : String}
    (hrow : s.row.claimJob s.nextToken now ms = some row) :
    Once maxRetries (s.afterClaim row uuid) := by
  obtain ⟨hdisp, rfl⟩ := ite_some_eq_some.mp hrow
  have hzero : s.load = 0 := h.open_zero (by simp [isOpen, hdisp])
  set claimed : StudyReminderJob := _
  have hload : (s.afterClaim claimed uuid).load = 0 := by
    simpa [load, settledAnswers, calling, isCalling, stance] using hzero
  constructor
  · intro j k v w hv hw htoken
    rcases getElem?_append_worker hv with hold | ⟨_, rfl⟩ <;>
      rcases getElem?_append_worker hw with hold' | ⟨_, rfl⟩
    · exact h.distinct j k v w hold hold' htoken
    · have hlt := h.token_lt j v hold
      rw [htoken] at hlt
      exact absurd hlt (Nat.lt_irrefl _)
    · have hlt := h.token_lt k w hold'
      rw [← htoken] at hlt
      exact absurd hlt (Nat.lt_irrefl _)
    · omega
  · intro j w hw
    rcases getElem?_append_worker hw with hold | ⟨-, rfl⟩
    · exact Nat.lt_succ_of_lt (h.token_lt j w hold)
    · exact Nat.lt_succ_self _
  · intro _ ht
    cases ht
    exact Nat.lt_succ_self _
  · exact h.retries
  · intro hfail
    cases hfail
  · exact hload.le.trans (Nat.zero_le 1)
  · exact fun _ => hload
  · exact fun _ _ _ _ _ => hload

lemma Once.write (hlease : ∀ t, row.leaseToken = some t → s.row.leaseToken = some t)
    (hret : row.maxRetries = maxRetries) (hout : row.status = .failed → row.deliveryStatus ≠ none)
    (hopen : row.isOpen = true → s.row.isOpen = true)
    (hheld : ∀ token, row.leasedBy token = true → s.row.leasedBy token = true) :
    Once maxRetries { s with row := row } where
  distinct := h.distinct
  token_lt := h.token_lt
  lease_lt := fun t ht => h.lease_lt t (hlease t ht)
  retries := hret
  outcome := hout
  le_one := h.le_one
  open_zero := fun hrow => h.open_zero (hopen hrow)
  held_zero := fun j w hw hlsd hst => h.held_zero j w hw (hheld w.token hlsd) hst

lemma Once.synced {input : UpsertStudyReminderJobInput} (hown : s.row.scheduleChanged input = false)
    (hret : input.maxRetries = maxRetries) :
    Once maxRetries { s with row := s.row.applyExisting input true } := by
  have hopen := isOpen_of_applyExisting hown (hret.trans h.retries.symm) h.outcome
  rcases applyExisting_kept hown with heq | ⟨-, heq⟩ | ⟨-, hkept⟩
  · rw [heq]
    exact h
  · rw [heq] at hopen ⊢
    exact h.write (by rintro t ⟨⟩) hret (fun hfail => by cases hfail) hopen
      (by simp [leasedBy, reopenToPending])
  · refine h.write ?_ (hkept.maxRetries.trans hret) hkept.outcome hopen ?_
    · rw [hkept.leaseToken]
      exact fun t ht => ht
    · intro _ hlsd
      have hproc := (status_of_leasedBy hlsd).2
      rcases hkept.status with hwaits | hwaits <;> rw [hwaits] at hproc <;> cases hproc

lemma Once.moves (hmove : Moves maxRetries s t) : Once maxRetries t := by
  induction hmove with
  | idle => exact h
  | claim hrow => exact h.claim hrow
  | call hi hpc hrow => exact h.call hi hpc hrow
  | answer hi hpc => exact h.answer hi hpc _
  | turn hi hturn => exact h.turn hi hturn
  | sent hi _ hset _ hrow =>
    obtain ⟨-, rfl⟩ := ite_some_eq_some.mp hrow
    refine h.release hi rfl h.retries (fun hfail => by cases hfail) (by simp [hset]) ?_
    intro hopen
    cases hopen
  | @failed i worker failure _ hi hpc hrow =>
    obtain ⟨hlsd, rfl⟩ := ite_some_eq_some.mp hrow
    refine h.release hi rfl h.retries (fun _ => by simp) (by simp [stance]) ?_
    intro hopen
    cases hterm : failure.deliveryStatus.isTerminal with
    | true =>
      rw [isOpen_eq_false_of_outcome (by simp) rfl hterm] at hopen
      cases hopen
    | false =>
      have hst : worker.pc.stance = .declined := by simp [hpc, stance, hterm]
      exact h.held_zero i worker hi hlsd (.inr hst)
  | @cancelled i worker _ _ _ hi hpc hturn _ hrow =>
    obtain ⟨hlsd, rfl⟩ := ite_some_eq_some.mp hrow
    refine h.release hi rfl h.retries (fun hfail => by cases hfail) ?_ ?_
    · intro hcalling
      rw [hcalling] at hturn
      cases hturn
    · intro _
      have hst : worker.pc.stance = .declined := by rw [hpc]; rfl
      exact h.held_zero i worker hi hlsd (.inr hst)
  | reset hrow =>
    obtain ⟨-, rfl⟩ := ite_some_eq_some.mp hrow
    refine h.write (by rintro t ⟨⟩) h.retries (fun _ => by simp) ?_ (by simp [leasedBy, unleased])
    intro hopen
    rw [isOpen_eq_false_of_outcome (by simp) rfl rfl] at hopen
    cases hopen
  | synced hown hret => exact h.synced hown hret

end

/-! ## The number of calls -/

/-- The invariant behind the number of calls, for a row that is not cancelled. -/
structure Counted (maxRetries : ℤ) (s : ReminderSystem) : Prop where
  live : s.row.status ≠ .cancelled
  counts : ∀ (i : ℕ) (w : DispatchWorker), s.workers[i]? = some w → CountsTry w.job w.pc
  snapshot : ∀ (i : ℕ) (w : DispatchWorker), s.workers[i]? = some w →
    s.row.leasedBy w.token = true → w.job.retryCount = s.row.retryCount
  bound : (s.calls : ℤ) ≤ max 1 maxRetries
  opened : s.row.dispatchable = true →
    (s.calls : ℤ) ≤ s.row.retryCount ∧ s.row.retryCount + 1 ≤ max 1 maxRetries
  held : s.row.status = .processing →
    (s.calls : ℤ) ≤ s.row.retryCount + 1 ∧ s.row.retryCount + 1 ≤ max 1 maxRetries
  mayCall : ∀ (i : ℕ) (w : DispatchWorker), s.workers[i]? = some w →
    s.row.leasedBy w.token = true → w.pc.stance = .mayCall → (s.calls : ℤ) ≤ s.row.retryCount

lemma calls_advance (hi : s.workers[i]? = some worker) (pc : DispatchPc) (row : StudyReminderJob) :
    (s.advance i worker pc row).calls + (if worker.pc.stance = .calling then 1 else 0) =
      s.calls + if pc.stance = .calling then 1 else 0 := by
  have hcalling := calling_advance hi pc row
  have hans : (s.advance i worker pc row).answers = s.answers := rfl
  simp only [calls, hans]
  omega

lemma calls_advance_le (hi : s.workers[i]? = some worker) (hpc : pc.stance ≠ .calling)
    (row : StudyReminderJob) : (s.advance i worker pc row).calls ≤ s.calls := by
  have hcalls := calls_advance hi pc row
  rw [if_neg hpc] at hcalls
  omega

section

variable (h : Counted maxRetries s) (honce : Once maxRetries s) (hi : s.workers[i]? = some worker)
include h honce hi

lemma Counted.advance (hlive : row.status ≠ .cancelled) (hcnts : CountsTry worker.job pc)
    (hpc : pc.stance ≠ .mayCall)
    (hlsd : ∀ tok, row.leasedBy tok = true →
      s.row.leasedBy tok = true ∧ row.retryCount = s.row.retryCount)
    (hbound : (calls { s.advance i worker pc row with answers := answers } : ℤ) ≤ max 1 maxRetries)
    (hopened : row.dispatchable = true →
      (calls { s.advance i worker pc row with answers := answers } : ℤ) ≤ row.retryCount ∧
        row.retryCount + 1 ≤ max 1 maxRetries)
    (hheld : row.status = .processing →
      (calls { s.advance i worker pc row with answers := answers } : ℤ) ≤ row.retryCount + 1 ∧
        row.retryCount + 1 ≤ max 1 maxRetries)
    (hothers : ∀ tok, tok ≠ worker.token → row.leasedBy tok = true →
      calls { s.advance i worker pc row with answers := answers } ≤ s.calls) :
    Counted maxRetries { s.advance i worker pc row with answers := answers } where
  live := hlive
  counts := by
    intro j w hw
    rcases getElem?_set_worker hw with ⟨-, rfl⟩ | ⟨-, hw'⟩
    · exact hcnts
    · exact h.counts j w hw'
  snapshot := by
    intro j w hw hrow
    obtain ⟨hpre, hsame⟩ := hlsd w.token hrow
    rcases getElem?_set_worker hw with ⟨-, rfl⟩ | ⟨-, hw'⟩
    · exact (h.snapshot i worker hi hpre).trans hsame.symm
    · exact (h.snapshot j w hw' hpre).trans hsame.symm
  bound := hbound
  opened := hopened
  held := hheld
  mayCall := by
    intro j w hw hrow hst
    rcases getElem?_set_worker hw with ⟨-, rfl⟩ | ⟨hj, hw'⟩
    · exact absurd hst hpc
    · have htoken : w.token ≠ worker.token := fun heq =>
        hj (honce.distinct j i w worker hw' hi heq)
      obtain ⟨hpre, _⟩ := hlsd w.token hrow
      have hle := h.mayCall j w hw' hpre hst
      have hfewer := hothers w.token htoken hrow
      change _ ≤ row.retryCount
      omega

lemma Counted.release (hlease : row.leaseToken = none)
    (hstat : row.status = .sent ∨ row.status = .failed) (hcnts : CountsTry worker.job pc)
    (hpc : pc.stance = .settled)
    (hopened : row.dispatchable = true →
      (s.calls : ℤ) ≤ row.retryCount ∧ row.retryCount + 1 ≤ max 1 maxRetries) :
    Counted maxRetries (s.advance i worker pc row) := by
  have hnot : pc.stance ≠ .calling := by simp [hpc]
  have hle := calls_advance_le hi hnot row
  have hbound := h.bound
  have hfree : ∀ tok, row.leasedBy tok = false := by
    simp [leasedBy, hlease]
  refine h.advance honce hi ?_ hcnts (by simp [hpc]) ?_ ?_ ?_ ?_ ?_
  · rcases hstat with h | h <;> simp [h]
  · intro tok hlsd
    rw [hfree] at hlsd
    cases hlsd
  · change ((s.advance i worker pc row).calls : ℤ) ≤ _
    omega
  · intro hdisp
    obtain ⟨_, hleft⟩ := hopened hdisp
    refine ⟨?_, hleft⟩
    change ((s.advance i worker pc row).calls : ℤ) ≤ _
    omega
  · intro hproc
    rcases hstat with h | h <;> rw [h] at hproc <;> cases hproc
  · intro _ _ hlsd
    rw [hfree] at hlsd
    cases hlsd

lemma Counted.stay (hcnts : CountsTry worker.job pc) (hpc : pc.stance ≠ .mayCall)
    (hle : calls { s.advance i worker pc s.row with answers := answers } ≤ s.calls) :
    Counted maxRetries { s.advance i worker pc s.row with answers := answers } := by
  have hbound := h.bound
  refine h.advance honce hi h.live hcnts hpc (fun tok hlsd => ⟨hlsd, rfl⟩) ?_ ?_ ?_ ?_
  · omega
  · intro hdisp
    obtain ⟨hcalls, hleft⟩ := h.opened hdisp
    exact ⟨by omega, hleft⟩
  · intro hproc
    obtain ⟨_, hleft⟩ := h.held hproc
    exact ⟨by omega, hleft⟩
  · exact fun _ _ _ => hle

lemma Counted.call (hpc : worker.pc = .claimed)
    (hrow : s.row.ownDelivery worker.token worker.deliveryKey = some row) :
    Counted maxRetries (s.advance i worker .authorized row) := by
  obtain ⟨hlsd, rfl⟩ := ite_some_eq_some.mp hrow
  have hproc := (status_of_leasedBy hlsd).2
  have hst : worker.pc.stance = .mayCall := by rw [hpc]; rfl
  have hpre := h.mayCall i worker hi hlsd hst
  obtain ⟨-, hleft⟩ := h.held hproc
  have hcalls := calls_advance hi .authorized
    { s.row with deliveryKey := some (s.row.deliveryKey.getD worker.deliveryKey) }
  rw [hst] at hcalls
  have hone : ((s.advance i worker .authorized { s.row with
      deliveryKey := some (s.row.deliveryKey.getD worker.deliveryKey) }).calls : ℤ) =
        s.calls + 1 := by
    exact_mod_cast hcalls
  refine h.advance honce hi h.live (by rintro _ ⟨⟩) (by simp [stance]) ?_ ?_ ?_ ?_ ?_
  · exact fun tok htoken => ⟨htoken, rfl⟩
  · exact hone.le.trans (by omega)
  · intro hdisp
    have hnot : dispatchable { s.row with
        deliveryKey := some (s.row.deliveryKey.getD worker.deliveryKey) } = false := by
      simp [dispatchable, hproc]
    rw [hnot] at hdisp
    cases hdisp
  · exact fun _ => ⟨hone.le.trans (by dsimp only; omega), hleft⟩
  · intro tok hne hother
    have hnot : s.row.leasedBy tok = false := not_leasedBy_of_ne hlsd hne
    exact absurd (hnot.symm.trans hother) Bool.false_ne_true

end

lemma calls_answer (hi : s.workers[i]? = some worker) (hpc : worker.pc = .authorized)
    (out : DeliveryOutcome) : (s.afterAnswer i worker out).calls = s.calls := by
  have hst : worker.pc.stance = .calling := by rw [hpc]; rfl
  have hcalling := calling_advance hi (.reported out) s.row
  rw [if_pos hst, if_neg (stance_reported_ne out)] at hcalling
  have hsame : (s.afterAnswer i worker out).calling =
      (s.advance i worker (.reported out) s.row).calling := rfl
  simp only [calls, hsame, length_append, length_singleton]
  omega

lemma Counted.claim (h : Counted maxRetries s) (honce : Once maxRetries s) {now ms : ℤ}
    {uuid : String} (hrow : s.row.claimJob s.nextToken now ms = some row) :
    Counted maxRetries (s.afterClaim row uuid) := by
  obtain ⟨hdisp, rfl⟩ := ite_some_eq_some.mp hrow
  obtain ⟨hcalls, hleft⟩ := h.opened hdisp
  set claimed : StudyReminderJob := _
  have hsame : (s.afterClaim claimed uuid).calls = s.calls := by
    simp [calls, calling, isCalling, stance]
  constructor
  · intro hcanc
    cases hcanc
  · intro j w hw
    rcases getElem?_append_worker hw with hold | ⟨-, rfl⟩
    · exact h.counts j w hold
    · rintro _ ⟨⟩
  · intro j w hw hlsd
    rcases getElem?_append_worker hw with hold | ⟨-, rfl⟩
    · -- the lease is the new worker's
      have hlt := honce.token_lt j w hold
      have htoken := Option.some.inj (status_of_leasedBy hlsd).1
      omega
    · rfl
  · rw [hsame]
    exact h.bound
  · intro hopen
    have hnot : claimed.dispatchable = false := by simp [dispatchable, claimed]
    cases hopen
  · intro _
    rw [hsame]
    exact ⟨by change _ ≤ s.row.retryCount + 1; omega, hleft⟩
  · intro _ _ _ _ _
    rw [hsame]
    exact hcalls

lemma Counted.write (h : Counted maxRetries s) (hlive : row.status ≠ .cancelled)
    (hstat : row.status ≠ .processing)
    (hopened : row.dispatchable = true → s.row.dispatchable = true ∧
      row.retryCount = s.row.retryCount) :
    Counted maxRetries { s with row := row } where
  live := hlive
  counts := h.counts
  snapshot := fun _ _ _ hlsd => absurd (status_of_leasedBy hlsd).2 hstat
  bound := h.bound
  opened := by
    intro hdisp
    obtain ⟨hpre, hsame⟩ := hopened hdisp
    rw [hsame]
    exact h.opened hpre
  held := fun hproc => absurd hproc hstat
  mayCall := fun _ _ _ hlsd => absurd (status_of_leasedBy hlsd).2 hstat

lemma Counted.moves (h : Counted maxRetries s) (honce : Once maxRetries s)
    (hmove : Moves maxRetries s t)
    (hkept : ∀ w ∈ s.workers, w.cancels s.row ≠ some t.row) : Counted maxRetries t := by
  induction hmove with
  | idle => exact h
  | claim hrow => exact h.claim honce hrow
  | call hi hpc hrow => exact h.call honce hi hpc hrow
  | @answer i worker outcome hi hpc =>
    refine h.stay honce hi (by rintro _ ⟨⟩) ?_ (calls_answer hi hpc outcome).le
    cases outcome <;> simp [stance, DeliveryOutcome.isTerminal]
  | @turn i worker pc hi hturn hcnts =>
    obtain ⟨hnotCalling, hnotMay⟩ := Stance.of_turns hturn
    exact h.stay honce hi hcnts hnotMay (calls_advance_le hi hnotCalling s.row)
  | sent hi _ hset hcnts hrow =>
    obtain ⟨-, rfl⟩ := ite_some_eq_some.mp hrow
    refine h.release honce hi rfl (.inl rfl) hcnts hset ?_
    simp [dispatchable]
  | @failed i worker failure _ hi hpc hrow =>
    obtain ⟨hlsd, rfl⟩ := ite_some_eq_some.mp hrow
    refine h.release honce hi rfl (.inr rfl) (by rintro _ ⟨⟩) rfl ?_
    intro hdisp
    -- the failure counts the call, and the row is claimed again only while a try is left
    have hcnt := h.counts i worker hi failure hpc
    rw [h.snapshot i worker hi hlsd] at hcnt
    obtain ⟨_, -⟩ := h.held (status_of_leasedBy hlsd).2
    obtain ⟨hpend | ⟨-, hleft⟩, -⟩ := dispatchable_iff.mp hdisp
    · cases hpend
    · have hmax : s.row.maxRetries = maxRetries := honce.retries
      change failure.retryCount < s.row.maxRetries at hleft
      change (s.calls : ℤ) ≤ failure.retryCount ∧ failure.retryCount + 1 ≤ _
      omega
  | cancelled hi hpc _ _ hrow =>
    have hnot := hkept _ (mem_of_getElem? hi)
    rw [DispatchWorker.cancels, hpc] at hnot
    exact absurd hrow hnot
  | reset hrow =>
    obtain ⟨-, rfl⟩ := ite_some_eq_some.mp hrow
    refine h.write (by simp) (by simp) ?_
    intro hdisp
    simp [dispatchable] at hdisp
  | @synced input hown hret =>
    have hdisp := dispatchable_of_applyExisting hown (hret.trans honce.retries.symm) h.live
      honce.outcome
    rcases applyExisting_kept hown with heq | ⟨hcanc, -⟩ | ⟨-, hkept⟩
    · rw [heq]
      exact h
    · exact absurd hcanc h.live
    · refine h.write ?_ ?_ fun hopen => ⟨hdisp hopen, hkept.retryCount⟩ <;>
        rcases hkept.status with hwaits | hwaits <;> simp [hwaits]

/-! ## Whole runs -/

lemma once_init (id : ℕ) (now : ℤ) (input : UpsertStudyReminderJobInput) :
    Once input.maxRetries (init id now input) where
  distinct := by simp [init]
  token_lt := by simp [init]
  lease_lt := by simp [init, ofInput]
  retries := rfl
  outcome := by simp [init, ofInput]
  le_one := by simp [init, load, settledAnswers, calling]
  open_zero := by simp [init, load, settledAnswers, calling]
  held_zero := by simp [init]

lemma counted_init (id : ℕ) (now : ℤ) (input : UpsertStudyReminderJobInput) :
    Counted input.maxRetries (init id now input) where
  live := by simp [init, ofInput]
  counts := by simp [init]
  snapshot := by simp [init]
  bound := by simp [init, calls, calling]
  opened := by simp [init, calls, calling, ofInput]
  held := by simp [init, ofInput]
  mayCall := by simp [init]

/-- The step is no `markCancelled` of a worker that takes effect on the row. -/
def KeepsJob (s : ReminderSystem) (e : ReminderEvent) : Prop :=
  ∀ t ∈ s.step e, ∀ w ∈ s.workers, w.cancels s.row ≠ some t.row
  deriving Decidable

/-- A row has at most one delivery that is not retried; and if no worker cancels the job, the
provider is called no more often than the tries allow. -/
theorem delivered_at_most_once (id : ℕ) (now : ℤ) (input : UpsertStudyReminderJobInput)
    (events : List ReminderEvent) {s : ReminderSystem}
    (hkeeps : Along step (fun s e => s.KeepsSchedule input.maxRetries e) (init id now input) events)
    (hrun : run step (init id now input) events = some s) :
    s.settledAnswers ≤ 1 ∧ (Along step KeepsJob (init id now input) events →
        (s.answers.length : ℤ) ≤ max 1 input.maxRetries) := by
  have honce : Once input.maxRetries s :=
    run_induction (fun _ _ _ h hkeeps hstep => h.moves (moves_of_step hkeeps hstep))
      (once_init id now input) hkeeps hrun
  constructor
  · have hle := honce.le_one
    simp only [load] at hle
    omega
  · intro hlive
    have hboth : Once input.maxRetries s ∧ Counted input.maxRetries s := by
      refine run_induction (I := fun t => Once input.maxRetries t ∧ Counted input.maxRetries t) ?_
        ⟨once_init id now input, counted_init id now input⟩ (hkeeps.and hlive) hrun
      rintro _ _ t ⟨honce, hcnt⟩ ⟨hkeeps, hlive⟩ hstep
      have hmove := moves_of_step hkeeps hstep
      exact ⟨honce.moves hmove, hcnt.moves honce hmove (hlive t hstep)⟩
    have hbound := hboth.2.bound
    simp only [calls] at hbound
    omega

/-- The reminder of a session at noon, half an hour before it, with two tries. -/
def noonReminder : UpsertStudyReminderJobInput where
  platform := .discord
  externalUserId := "wumpus"
  userId := some 7
  mappingGeneration := some 1
  sessionKey := "2026-03-02T12:00"
  scheduledAt := 43200000
  remindAt := 41400000
  topic := some "Reading"
  maxRetries := 2

def twoTries : List ReminderEvent :=
  let error : ClassifiedError := ⟨"503", false, some 41460000⟩
  [.claim 41400000 60000 "a", .act 0 (.fence .owned), .act 0 (.send .notSent),
    .act 0 (.commit true error), .act 0 (.write .returned 41400100 error),
    .upsert noonReminder, .claim 41460000 60000 "b", .act 1 (.fence .owned),
    .act 1 (.send .ambiguous), .act 1 .crash, .resetStuck 41520001 41220001,
    .upsert noonReminder, .claim 41530000 60000 "c"]

/-- The run ends with two calls, one of them ambiguous, and no third worker. -/
theorem delivered_at_most_once_twoTries :
    ∃ s, run step (init 1 0 noonReminder) twoTries = some s ∧
      s.answers = [.notSent, .ambiguous] ∧ s.workers.length = 2 ∧ s.settledAnswers ≤ 1 ∧
        (s.answers.length : ℤ) ≤ 2 :=
  exists_end (A := fun s => s.answers = [.notSent, .ambiguous] ∧ s.workers.length = 2)
    (by decide +kernel) fun _ hrun hs =>
    have honce := delivered_at_most_once 1 0 noonReminder twoTries (by decide +kernel) hrun
    ⟨hs.1, hs.2, honce.1, honce.2 (by decide +kernel)⟩

end ReminderSystem

end WispaceBot
