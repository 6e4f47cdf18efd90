import WispaceBot.DeadLetter.RetryCron

/-!
# A dead letter is replayed once

Ticks on any number of pods run interleaved on one row; each may stop, and every call may fail, with
or without its effect.  When the write after the send fails, the `catch` opens the row although the
message was sent (`replayed_twice`).  As long as that write does not get lost, a message that may
have been sent is not sent again (`replayed_once`).
-/

namespace WispaceBot

open Function Transition Script DeadLetter

namespace DeadLetterSystem

variable {ι : Type}

/-- The row, and what `sendText` has returned for it. -/
structure Store (ι : Type) where
  row : Option (DeadLetter ι)
  returned : List DeliveryOutcome

/-- What the surroundings answer at a call; a failure says whether it had its effect. -/
structure Input where
  now : ℤ
  inBatch : Bool
  newKey : String
  outcome : DeliveryOutcome
  failure : Option (String × Bool)

/-- What `sendText` has returned is noted. -/
def Store.note (s : Store ι) : (c : DeadLetterCall ι) → Except String c.Answer → Store ι
  | .sendText _ _ _, .ok outcome =>
    { s with returned := s.returned ++ [(outcome : DeliveryOutcome)] }
  | _, _ => s

variable [DecidableEq ι]

def Store.write (s : Store ι) (token : ι) (set : DeadLetter ι → DeadLetter ι) :
    Except String Bool × Store ι :=
  match s.row with
  | some row =>
    if row.ownedBy token then (.ok true, { s with row := some (set row) }) else (.ok false, s)
  | none => (.ok false, s)

def Store.carryOut (s : Store ι) (i : ι) (input : Input) :
    (c : DeadLetterCall ι) → Except String c.Answer × Store ι
  | .listPendingForRetry platform maxRetries minRetryAgeMs =>
    (.ok (if input.inBatch then
      s.row.filter (isPendingForRetry platform maxRetries (input.now - minRetryAgeMs))
      else none), s)
  | .claimForRetry leaseMs =>
    match s.row.bind (claimForRetry i input.newKey input.now leaseMs) with
    | some (claimed, row) => (.ok (some claimed), { s with row := some row })
    | none => (.ok none, s)
  | .sendText _ _ _ => (.ok input.outcome, s)
  | .markReplayed token deliveryKey => s.write token (markReplayed deliveryKey input.now)
  | .markAbandoned _ _ token deliveryStatus =>
    s.write token (markAbandoned deliveryStatus input.now)
  | .incrementRetry _ _ token => s.write token (incrementRetry input.now)

def serve (i : ι) (c : DeadLetterCall ι) (input : Input) (s : Store ι) :
    Option (Except String c.Answer × Store ι) :=
  let r := faulty input.failure s (s.carryOut i input c)
  some (r.1, r.2.note c r.1)

/-- `handleDeadLetterCleanup` deletes rows that are settled. -/
def happen (_ : Unit) (s : Store ι) : Option (Store ι) :=
  some { s with
    row := s.row.filter fun row => !decide (row.status = .replayed ∨ row.status = .abandoned) }

abbrev State (ι : Type) :=
  Crew ι (Store ι) (DeadLetterCall ι) DeadLetterCall.Answer String (Option DeadLetterItem)

abbrev Event (ι : Type) := Crew.Event ι Input Unit

def step (s : State ι) (event : Event ι) : Option (State ι) :=
  Crew.step serve happen s event

def init (row : DeadLetter ι) (crons : ι → DeadLetterCron) : State ι where
  shared := ⟨some row, []⟩
  scripts := fun i => some (crons i).handleRetry

/-! ## What a tick may do -/

def isDelivered (outcome : DeliveryOutcome) : Bool :=
  decide (outcome = .sent ∨ outcome = .ambiguous)

/-- How far a tick has got with the row. -/
inductive Phase
  | started
  | holding
  | delivered
  | settling

def monitor (i : ι) : Monitor (DeadLetterCall ι) DeadLetterCall.Answer String Phase where
  allowed := fun phase c => match c with
    | .listPendingForRetry _ _ _ => True
    | .claimForRetry _ => phase = .started
    | .sendText _ _ _ => phase = .holding
    | .markReplayed token _ => token = i ∧ phase = .delivered
    | .markAbandoned _ _ token deliveryStatus =>
      token = i ∧ (phase = .delivered → deliveryStatus = some .ambiguous)
    | .incrementRetry _ _ token => token = i ∧ phase = .settling
  possible := fun c answer => match c, answer with
    | .claimForRetry _, .ok (some claimed) => claimed.leaseToken = i
    | _, _ => True
  after := fun phase c answer => match c, answer with
    | .claimForRetry _, .ok (some _) => .holding
    | .sendText _ _ _, .ok outcome => if isDelivered outcome then .delivered else .settling
    | .sendText _ _ _, .error _ => .settling
    | .markReplayed _ _, _ => .settling
    | .markAbandoned _ _ _ _, _ => .settling
    | _, _ => phase

section Scripts

omit [DecidableEq ι]

variable {cron : DeadLetterCron} {entry : DeadLetter ι} {i : ι} {ph : Phase}

lemma follows_handleFailure {errorMsg : String} :
    (cron.handleFailure entry errorMsg i).Follows (monitor i) .settling
      (fun _ q => q = .settling) fun _ q => q = .settling := by
  unfold DeadLetterCron.handleFailure
  by_cases hlast : cron.isLast entry = true
  · rw [if_pos hlast]
    exact Follows.perform ⟨rfl, fun hno => nomatch hno⟩ (fun _ _ => rfl) fun _ _ => rfl
  · rw [if_neg hlast]
    exact Follows.perform ⟨rfl, rfl⟩ (fun _ _ => rfl) fun _ _ => rfl

lemma follows_onError {error : String} :
    (cron.onError entry i error).Follows (monitor i) .settling (fun _ _ => True)
      fun _ _ => False := by
  refine Follows.tryCatch (Follows.bind (follows_handleFailure.imp ?_ ?_))
  · exact fun _ _ _ => trivial
  · exact fun _ _ _ => trivial

variable {key : String}

section

variable (hambiguous : cron.retryAmbiguous = false)
include hambiguous

lemma follows_afterSend (out : DeliveryOutcome) :
    (cron.afterSend entry ⟨i, key⟩ out).Follows (monitor i)
      (if isDelivered out then .delivered else .settling) (fun _ _ => True)
      fun _ q => q = .settling := by
  cases out with
  | sent =>
    exact Follows.bind (Follows.perform ⟨rfl, rfl⟩ (fun _ _ => trivial) fun _ _ => rfl)
  | ambiguous =>
    simp only [DeadLetterCron.afterSend, hambiguous]
    exact Follows.bind (Follows.perform ⟨rfl, fun _ => rfl⟩ (fun _ _ => trivial) fun _ _ => rfl)
  | rateLimited =>
    exact Follows.bind (Follows.perform ⟨rfl, fun hno => nomatch hno⟩ (fun _ _ => trivial)
      fun _ _ => rfl)
  | notSent => exact Follows.bind (follows_handleFailure.imp (fun _ _ _ => trivial) fun _ _ h => h)

lemma follows_attempt :
    (cron.attempt entry ⟨i, key⟩).Follows (monitor i) .holding (fun _ _ => True)
      fun _ q => q = .settling := by
  unfold DeadLetterCron.attempt
  dsimp only
  split
  · exact Follows.bind (Follows.perform ⟨rfl, fun hno => nomatch hno⟩ (fun _ _ => trivial)
      fun _ _ => rfl)
  · exact Follows.bind (Follows.perform rfl (fun out _ => follows_afterSend hambiguous out)
      fun _ _ => rfl)

lemma handleRetry_follows :
    (cron.handleRetry : DeadLetterScript ι _).Follows (monitor i) .started (fun _ _ => True)
      fun _ _ => True := by
  refine Follows.bind (Follows.perform trivial (fun listed _ => ?_) fun _ _ => trivial)
  cases listed with
  | none => trivial
  | some =>
    refine Follows.bind ⟨rfl, fun ans hposs => ?_⟩
    match ans with
    | .error _ => trivial
    | .ok none => trivial
    | .ok (some ⟨tok, key⟩) =>
      obtain rfl : tok = i := hposs
      refine Follows.tryCatch ((follows_attempt hambiguous).imp (fun _ _ _ => trivial) ?_)
      rintro _ _ rfl
      exact follows_onError.imp (fun _ _ _ => trivial) fun _ _ h => h.elim

end

end Scripts

/-! ## The row and the ticks -/

/-- The write that says that a message was sent, or may have been, does not get lost. -/
def Recorded : DeadLetterCall ι → Input → Prop
  | .markReplayed _ _, input => ∀ error, input.failure ≠ some (error, false)
  | .markAbandoned _ _ _ (some .ambiguous), input => ∀ error, input.failure ≠ some (error, false)
  | _, _ => True

instance (c : DeadLetterCall ι) (input : Input) : Decidable (Recorded c input) := by
  have : Decidable (∀ error, input.failure ≠ some (error, false)) :=
    decidable_of_iff (input.failure.all (·.2) = true)
      (by rcases input.failure with _ | ⟨_, _ | _⟩ <;> simp)
  unfold Recorded
  split <;> infer_instance

/-- A tick that holds the row owns its lease, and after a delivery nobody else can get it. -/
structure Tied (s : Store ι) (phase : ι → Phase) (work : ι → Bool) : Prop where
  holding : ∀ i, work i = true → phase i = .holding → ∃ row, s.row = some row ∧ row.ownedBy i = true
  alone : s.returned.any isDelivered = true → ∀ i, work i = true → phase i ≠ .holding
  row : s.returned.any isDelivered = true → ∀ row, s.row = some row → row.status ≠ .pending ∧
    (row.status = .processing → ∃ i, row.leaseToken = some i ∧
      (work i = true → phase i = .delivered))

lemma ownedBy_iff {row : DeadLetter ι} {i : ι} :
    row.ownedBy i = true ↔ row.status = .processing ∧ row.leaseToken = some i := by
  simp [ownedBy]

lemma write_cases (s : Store ι) (tok : ι) (set : DeadLetter ι → DeadLetter ι) :
    (s.write tok set).2 = s ∧ (∀ row, s.row = some row → row.ownedBy tok = false) ∨
      ∃ row, s.row = some row ∧ row.ownedBy tok = true ∧
        (s.write tok set).2 = { s with row := some (set row) } := by
  unfold Store.write
  cases hrow : s.row with
  | none => exact .inl ⟨rfl, fun row hno => nomatch hno⟩
  | some row =>
    cases howned : row.ownedBy tok with
    | true => exact .inr ⟨row, rfl, howned, by simp [howned]⟩
    | false =>
      refine .inl ⟨by simp [howned], ?_⟩
      rintro _ ⟨⟩
      exact howned

variable {s t : Store ι} {phase : ι → Phase} {work : ι → Bool} {i : ι}

lemma Tied.holder_unique (h : Tied s phase work) {j : ι} (hi : work i = true)
    (hhold : phase i = .holding) (hj : work j = true) (hother : phase j = .holding) : j = i := by
  obtain ⟨_, hrow, howned⟩ := h.holding i hi hhold
  obtain ⟨_, hrow', howned'⟩ := h.holding j hj hother
  obtain ⟨⟩ := (hrow.symm.trans hrow')
  have hlease := (ownedBy_iff.mp howned).2
  have hlease' := (ownedBy_iff.mp howned').2
  exact Option.some.inj (hlease'.symm.trans hlease)

lemma Tied.mono {work' : ι → Bool} (h : Tied s phase work)
    (hwork : ∀ j, work' j = true → work j = true) : Tied s phase work' where
  holding := fun j hj => h.holding j (hwork j hj)
  alone := fun hsent j hj => h.alone hsent j (hwork j hj)
  row := by
    intro hsent row hrow
    obtain ⟨hpend, howner⟩ := h.row hsent row hrow
    refine ⟨hpend, fun hproc => ?_⟩
    obtain ⟨j, hlease, hphase⟩ := howner hproc
    exact ⟨j, hlease, fun hj => hphase (hwork j hj)⟩

variable {q : Phase}

lemma holding_of_update {j : ι} (hq : q ≠ .holding) (h : update phase i q j = .holding) :
    j ≠ i ∧ phase j = .holding := by
  by_cases hji : j = i
  · subst hji
    exact absurd h (by rwa [update_self])
  · exact ⟨hji, by rwa [update_of_ne hji] at h⟩

lemma Tied.move (h : Tied s phase work) (hq : q ≠ .holding)
    (hkeep : phase i = .delivered → ∀ row, s.row = some row → row.ownedBy i = false) :
    Tied s (update phase i q) work := by
  refine ⟨fun j hj hhold => h.holding j hj (holding_of_update hq hhold).2,
    fun hsent j hj hhold => h.alone hsent j hj (holding_of_update hq hhold).2,
    fun hsent row hrow => ?_⟩
  · obtain ⟨hpend, howner⟩ := h.row hsent row hrow
    refine ⟨hpend, fun hproc => ?_⟩
    obtain ⟨j, hlease, hphase⟩ := howner hproc
    refine ⟨j, hlease, fun hj => ?_⟩
    by_cases hji : j = i
    · subst hji
      have hnot := hkeep (hphase hj) row hrow
      rw [ownedBy_iff.mpr ⟨hproc, hlease⟩] at hnot
      cases hnot
    · rw [update_of_ne hji]
      exact hphase hj

variable {row new : DeadLetter ι}

lemma Tied.write (h : Tied s phase work) (hrow : s.row = some row) (howned : row.ownedBy i = true)
    (hq : q ≠ .holding)
    (hnew : s.returned.any isDelivered = true → new.status ≠ .pending ∧ new.status ≠ .processing) :
    Tied { s with row := some new } (update phase i q) work := by
  refine ⟨fun j hj hhold => ?_,
    fun hsent j hj hhold => h.alone hsent j hj (holding_of_update hq hhold).2,
    fun hsent row' hrow' => ?_⟩
  · obtain ⟨hji, hhold⟩ := holding_of_update hq hhold
    obtain ⟨_, hrow', howned'⟩ := h.holding j hj hhold
    obtain ⟨⟩ := (hrow.symm.trans hrow')
    have hlease := (ownedBy_iff.mp howned).2
    have hlease' := (ownedBy_iff.mp howned').2
    exact absurd (Option.some.inj (hlease'.symm.trans hlease)) hji
  · obtain ⟨⟩ := hrow'
    exact ⟨(hnew hsent).1, fun hproc => absurd hproc (hnew hsent).2⟩

lemma Tied.claim (h : Tied s phase work) (hrow : s.row = some row)
    (hpend : row.status = .pending) (hnew : new.ownedBy i = true) :
    Tied { s with row := some new } (update phase i q) work := by
  have hunsent : ¬ s.returned.any isDelivered = true :=
    fun hsent => (h.row hsent row hrow).1 hpend
  refine ⟨fun j hj hhold => ?_, fun hsent => absurd hsent hunsent,
    fun hsent => absurd hsent hunsent⟩
  by_cases hji : j = i
  · subst hji
    exact ⟨new, rfl, hnew⟩
  · rw [update_of_ne hji] at hhold
    obtain ⟨_, hrow', howned⟩ := h.holding j hj hhold
    obtain ⟨⟩ := (hrow.symm.trans hrow')
    rw [(ownedBy_iff.mp howned).1] at hpend
    cases hpend

lemma Tied.send (h : Tied s phase work) (hwork : work i = true) (hhold : phase i = .holding)
    (out : DeliveryOutcome) :
    Tied { s with returned := s.returned ++ [out] }
      (update phase i (if isDelivered out then .delivered else .settling)) work := by
  cases hdeliv : isDelivered out with
  | false =>
    have hsame : ∀ list : List DeliveryOutcome, (list ++ [out]).any isDelivered =
        list.any isDelivered := by
      simp [List.any_append, hdeliv]
    have hmove := h.move (i := i) (q := .settling) (by simp)
      fun hno => by rw [hhold] at hno; cases hno
    exact ⟨hmove.holding, fun hsent => hmove.alone (hsame _ ▸ hsent),
      fun hsent => hmove.row (hsame _ ▸ hsent)⟩
  | true =>
    obtain ⟨_, hrow, howned⟩ := h.holding i hwork hhold
    obtain ⟨hproc, hlease⟩ := ownedBy_iff.mp howned
    refine ⟨fun j hj hother => h.holding j hj (holding_of_update (by simp) hother).2,
      fun _ j hj hother => ?_, fun _ row' hrow' => ?_⟩
    · obtain ⟨hji, hother⟩ := holding_of_update (by simp) hother
      exact hji (h.holder_unique hwork hhold hj hother)
    · obtain ⟨⟩ := (hrow.symm.trans hrow')
      refine ⟨by simp [hproc], fun _ => ⟨i, hlease, fun _ => by simp⟩⟩

variable {set : DeadLetter ι → DeadLetter ι}

lemma Tied.settle (h : Tied s phase work)
    (hset : ∀ row, (set row).status ≠ .pending ∧ (set row).status ≠ .processing) :
    Tied (s.write i set).2 (update phase i .settling) work := by
  rcases write_cases s i set with ⟨hsame, hnot⟩ | ⟨row, hrow, howned, hwrote⟩
  · rw [hsame]
    exact h.move (by simp) fun _ => hnot
  · rw [hwrote]
    exact h.write hrow howned (by simp) fun _ => hset row

lemma Tied.reopen (h : Tied s phase work) (hwork : work i = true) (hphase : phase i = .settling) :
    Tied (s.write i set).2 phase work := by
  rcases write_cases s i set with ⟨hsame, -⟩ | ⟨row, hrow, howned, hwrote⟩
  · rw [hsame]
    exact h
  · rw [hwrote]
    have hwrite :
        Tied { s with row := some (set row) } (update phase i (phase i)) work := by
      refine h.write hrow howned (by simp [hphase]) fun hsent => ?_
      obtain ⟨hproc, hlease⟩ := ownedBy_iff.mp howned
      obtain ⟨_, hlease', hdeliv⟩ := (h.row hsent row hrow).2 hproc
      obtain ⟨⟩ := (hlease.symm.trans hlease')
      rw [hphase] at hdeliv
      exact absurd (hdeliv hwork) (by simp)
    rwa [update_eq_self] at hwrite

lemma claim_cases (s : Store ι) (i : ι) (input : Input) (ms : ℤ) :
    s.carryOut i input (.claimForRetry ms) = (.ok none, s) ∨
      ∃ row new claimed, s.row = some row ∧ row.status = .pending ∧ new.ownedBy i = true ∧
        s.carryOut i input (.claimForRetry ms) =
          (.ok (some claimed), { s with row := some new }) ∧ claimed.leaseToken = i := by
  simp only [Store.carryOut]
  split
  next _ _ hclaim =>
    obtain ⟨row, hrow, hcl⟩ := Option.bind_eq_some_iff.mp hclaim
    obtain ⟨hpend, hnew⟩ := Option.ite_none_right_eq_some.mp hcl
    obtain ⟨⟩ := hnew
    exact .inr ⟨row, _, _, hrow, hpend.1, by simp [ownedBy], rfl, rfl⟩
  · exact .inl rfl

omit [DecidableEq ι] in
lemma status_markReplayed (key : String) (now : ℤ) (row : DeadLetter ι) :
    (row.markReplayed key now).status ≠ .pending ∧
      (row.markReplayed key now).status ≠ .processing := by
  simp [markReplayed]

omit [DecidableEq ι] in
lemma status_markAbandoned (deliveryStatus : Option DeliveryOutcome) (now : ℤ)
    (row : DeadLetter ι) : (row.markAbandoned deliveryStatus now).status ≠ .pending ∧
      (row.markAbandoned deliveryStatus now).status ≠ .processing := by
  simp [markAbandoned]

lemma Tied.serve (h : Tied s phase work) {c : DeadLetterCall ι} {input : Input}
    {ans : Except String c.Answer} (hwork : work i = true)
    (hallow : (monitor i).allowed (phase i) c) (hrec : Recorded c input)
    (hserve : DeadLetterSystem.serve i c input s = some (ans, t)) :
    Tied t (update phase i ((monitor i).after (phase i) c ans)) work := by
  obtain ⟨⟩ := hserve
  have hstay : Tied s (update phase i (phase i)) work := by
    rwa [update_eq_self]
  -- the call is served, its answer gets lost, or the call itself does
  cases c with
  | listPendingForRetry =>
    rcases input.failure with _ | ⟨e, _ | _⟩ <;> exact hstay
  | claimForRetry ms =>
    rcases claim_cases s i input ms with hnone | ⟨_, _, _, hrow, hpend, hnew, hclaim, -⟩
    · rw [hnone]
      rcases input.failure with _ | ⟨e, _ | _⟩ <;> exact hstay
    · rw [hclaim]
      rcases input.failure with _ | ⟨e, _ | _⟩
      · exact h.claim hrow hpend hnew
      · exact hstay
      · exact h.claim hrow hpend hnew
  | sendText =>
    have hunsent : Tied s (update phase i .settling) work :=
      h.move (by simp) fun hno => by
        rw [show phase i = .holding from hallow] at hno
        cases hno
    rcases input.failure with _ | ⟨e, _ | _⟩
    · exact h.send hwork hallow input.outcome
    · exact hunsent
    · exact hunsent
  | markReplayed _ key =>
    obtain ⟨rfl, hphase⟩ := hallow
    rcases hfail : input.failure with _ | ⟨e, _ | _⟩
    · exact h.settle (status_markReplayed key input.now)
    · exact absurd hfail (hrec e)
    · exact h.settle (status_markReplayed key input.now)
  | markAbandoned _ _ _ deliveryStatus =>
    obtain ⟨rfl, hphase⟩ := hallow
    rcases hfail : input.failure with _ | ⟨e, _ | _⟩
    · exact h.settle (status_markAbandoned deliveryStatus input.now)
    · -- the write gets lost, so it is not the one after a message that was sent
      refine h.move (by simp [monitor]) fun hdeliv => ?_
      obtain rfl := hphase hdeliv
      exact absurd hfail (hrec e)
    · exact h.settle (status_markAbandoned deliveryStatus input.now)
  | incrementRetry _ _ tok =>
    obtain ⟨rfl, hphase⟩ := hallow
    rcases input.failure with _ | ⟨_, _ | _⟩
    · exact (update_eq_self tok phase).symm ▸ h.reopen hwork hphase
    · exact hstay
    · exact (update_eq_self tok phase).symm ▸ h.reopen hwork hphase

/-! ## Whole runs -/

lemma tied_kept : Crew.Kept (monitor (ι := ι)) serve happen (fun _ _ c input => Recorded c input)
    (fun _ _ _ => True) Tied where
  possible := by
    intro i c input s ans t hserve
    obtain ⟨⟩ := hserve
    cases c with
    | claimForRetry ms =>
      rcases input.failure with _ | ⟨_, _ | _⟩
      · rcases claim_cases s i input ms with hnone | ⟨_, _, _, _, _, _, hclaim, htoken⟩
        · rw [hnone]
          trivial
        · rw [hclaim]
          exact htoken
      · trivial
      · trivial
    | _ => trivial
  call := by
    intro s phase work i _ _ _ t htied hwork hallow hrec hserve _
    refine (htied.serve hwork hallow hrec hserve).mono fun j hj => ?_
    by_cases hji : j = i
    · rw [hji]
      exact hwork
    · rwa [update_of_ne hji] at hj
  stop := by
    intro s phase work i htied
    refine htied.mono fun j hj => ?_
    by_cases hji : j = i
    · subst hji
      simp at hj
    · rwa [update_of_ne hji] at hj
  other := by
    intro _ _ _ _ _ htied _ hhappen
    obtain ⟨⟩ := hhappen
    refine ⟨fun i hi hhold => ?_, htied.alone, fun hsent row hrow => ?_⟩
    · -- a row that is held is not settled, so it is not cleaned up
      obtain ⟨row, hrow, howned⟩ := htied.holding i hi hhold
      refine ⟨row, ?_, howned⟩
      simp [hrow, Option.filter, (ownedBy_iff.mp howned).1]
    · exact htied.row hsent row (Option.eq_some_of_filter_eq_some hrow)

/-- If ambiguous sends are not retried and no record of a send gets lost, a tick that is about to
send finds that no earlier send was shown or left in doubt. -/
theorem replayed_once {row : DeadLetter ι} {crons : ι → DeadLetterCron} {events : List (Event ι)}
    {s : State ι} {i : ι} {externalUserId text deliveryKey : String}
    (hambiguous : ∀ i, (crons i).retryAmbiguous = false)
    (hrecorded : Along step (Crew.Meets (fun _ _ c input => Recorded c input) fun _ _ _ => True)
      (init row crons) events) (hrun : run step (init row crons) events = some s)
    (hsend : s.calling i = some (.sendText externalUserId text deliveryKey)) :
    ∀ outcome ∈ s.shared.returned, outcome ≠ .sent ∧ outcome ≠ .ambiguous := by
  have hinit : (init row crons).Obeys monitor Tied := by
    refine ⟨fun _ => .started, fun i script hscr => ?_, ?_, ?_, ?_⟩
    · obtain ⟨⟩ := hscr
      exact handleRetry_follows (hambiguous i)
    · rintro i _ ⟨⟩
    · rintro ⟨⟩
    · rintro ⟨⟩
  obtain ⟨phase, hfol, htied⟩ := hinit.run tied_kept hrecorded hrun
  obtain ⟨_, hscr⟩ := Crew.scripts_of_calling hsend
  have hhold : phase i = .holding := (hfol i _ hscr).1
  have hwork : s.working i = true := by simp [Crew.working, hscr]
  intro outcome hmem
  by_contra hsent
  refine htied.alone ?_ i hwork hhold
  refine List.any_eq_true.mpr ⟨outcome, hmem, ?_⟩
  simp only [isDelivered, decide_eq_true_eq]
  tauto

def waitingRow : DeadLetter Bool where
  platform := .zalo
  externalUserId := some "z"
  direction := .outbound
  rawPayload := .null
  retryCount := 0
  status := .pending
  replayedAt := none
  deliveryKey := none
  deliveryStatus := none
  processingStartedAt := none
  leaseToken := none
  leaseExpiresAt := none
  updatedAt := 0

def zaloCron : DeadLetterCron where
  platform := .zalo
  extractPayload := fun _ => (some "z", some "text")
  abandonReason := "unknown payload"
  retryAmbiguous := false
  maskExternalIdInText := fun text _ => text
  maxRetries := 5
  minRetryAgeMs := 60
  leaseMs := 100

def callAt (i : Bool) (now : ℤ) (outcome : DeliveryOutcome) (failed : Bool) : Event Bool :=
  .call i ⟨now, true, "key", outcome, if failed then some ("timeout", false) else none⟩

/-- A message that could not be sent is sent by the next tick. -/
theorem replayed_once_retried : ∃ s : State Bool,
    s.calling true = some (.sendText "z" "text" "key") ∧ s.shared.returned = [.notSent] ∧
      ∀ outcome ∈ s.shared.returned, outcome ≠ .sent ∧ outcome ≠ .ambiguous := by
  let events : List (Event Bool) := List.replicate 4 (callAt false 100 .notSent false) ++
    List.replicate 2 (callAt true 300 .sent false)
  let s := (run step (init waitingRow fun _ => zaloCron) events).get (by decide +kernel)
  have hsend : s.calling true = some (.sendText "z" "text" "key") := by decide +kernel
  have hrec : Along step (Crew.Meets (fun _ _ c input => Recorded c input) fun _ _ _ => True)
      (init waitingRow fun _ => zaloCron) events := by decide +kernel
  refine ⟨s, hsend, by decide +kernel, ?_⟩
  exact replayed_once (fun _ => rfl) hrec (Option.some_get _).symm hsend

/-- The write of `markReplayed` is lost, and the next tick sends the message again. -/
theorem replayed_twice : ∃ s t : State Bool, run step (init waitingRow fun _ => zaloCron)
      (List.replicate 3 (callAt false 100 .sent false) ++ [callAt false 100 .sent true] ++
        [callAt false 100 .sent false] ++ List.replicate 2 (callAt true 300 .sent false)) = some s ∧
      s.shared.returned = [.sent] ∧ s.calling true = some (.sendText "z" "text" "key") ∧
      step s (callAt true 300 .sent false) = some t ∧ t.shared.returned = [.sent, .sent] := by
  simp only [exists_and_left]
  decide +kernel

end DeadLetterSystem

end WispaceBot
