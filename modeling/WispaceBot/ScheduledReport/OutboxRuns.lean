import WispaceBot.ScheduledReport.RetryDispatch

/-!
# Runs on the outbox of scheduled reports

Retry dispatchers, recorded failures and single statements run interleaved on one outbox; each may
crash, and each call may fail, with or without its effect.

`markSent` keeps the lease token, and `recordRetryableFailure` saves the row it has read
(`sent_row_failed`); `claimJob` looks at nothing but the status (`claimed_early`).  If no failure is
written to a row that was sent since it was read, a row that was sent stays so (`sent_is_final`); if
claims find the counters last seen, only due rows are claimed (`claims_are_due`).
-/

namespace WispaceBot

open Option Function Script Transition ReportSendJob

namespace ReportOutboxSystem

variable {ι ε : Type}

abbrev View := ℕ → Option ReportSendJob

/-- The outbox, the clock, the next token, what callers have read, and the claimed rows. -/
structure Store (ι : Type) where
  outbox : ReportOutbox
  clock : ℤ
  nextToken : ℕ
  seen : ι → View
  claimed : List (ReportSendJob × ℤ)

/-- What the surroundings answer at a call. -/
structure Input (ε : Type) where
  (now retryAt : ℤ)
  account : Option ReportAccount
  mapping : Option ReportMapping
  linkState : Option PlatformLinkState
  exam : String × ℤ
  date : String → String
  result : Except ε ClaimAndSendResult
  violation : ε
  failure : Option (ε × Bool)

def Store.exec (s : Store ι) (statement : ReportSendJob → Option ReportSendJob) : Store ι :=
  { s with outbox := s.outbox.exec statement }

/-- `claimJob`, with its entry in the record of claims. -/
def Store.claimJob (s : Store ι) (platform : Platform) (jobId : ℕ) (leaseMs : ℤ) :
    Option ReportSendJob × Store ι :=
  let statement := ReportSendJob.claimJob platform jobId s.nextToken s.clock leaseMs
  let hit := (s.outbox.jobWith jobId).filter fun job => (statement job).isSome
  (hit.bind statement,
    { s.exec statement with
      nextToken := s.nextToken + 1
      claimed := s.claimed ++ (hit.map fun job => (job, s.clock)).toList })

def Store.carryOut (s : Store ι) (input : Input ε) :
    (c : OutboxCall) → Except ε c.Answer × Store ι
  | .readClock => (.ok s.clock, s)
  | .retryAt _ => (.ok input.retryAt, s)
  | .resetStuckProcessingJobs platform olderThan =>
    (.ok (), s.exec (resetStuckProcessing platform s.clock olderThan))
  | .findDueJobs platform now => (.ok (s.outbox.findDueJobs platform now), s)
  | .claimJob platform jobId leaseMs =>
    let r := s.claimJob platform jobId leaseMs
    (.ok (r.1.map (returned input.date)), r.2)
  | .markSent platform jobId leaseToken =>
    (.ok (), match leaseToken with
      | some token => s.exec (markSent platform jobId token s.clock)
      | none => s)
  | .markFailed platform failure =>
    (.ok (), s.exec (markFailed platform failure s.clock))
  | .findLinkStateByExternalUserId _ => (.ok input.account, s)
  | .findActiveMappingByPsid _ => (.ok input.mapping, s)
  | .findMappingStateByPsid _ => (.ok input.linkState, s)
  | .resolveExamDate _ _ => (.ok input.exam, s)
  | .claimAndSend .. => (input.result, s)
  | .findJob platform externalUserId examDate =>
    (.ok (s.outbox.jobFor platform externalUserId examDate), s)
  | .saveJob existing failure retryAt =>
    (.ok (), { s with outbox := s.outbox.save (existing.failedAgain failure retryAt s.clock) })
  | .insertJob failure retryAt =>
    match s.outbox.insert failure retryAt s.clock with
    | some (_, outbox) => (.ok (), { s with outbox := outbox })
    | none => (.error input.violation, s)
  | .markSentByExternalUserExamDate platform externalUserId examDate =>
    (.ok (), s.exec (markSentByExternalUserExamDate platform externalUserId examDate s.clock))

def View.note (view : View) : (c : OutboxCall) → Except ε c.Answer → View
  | .findDueJobs _ _, .ok jobs => fun id => (Table.lookup ReportSendJob.id id jobs).or (view id)
  | .claimJob _ _ _, .ok (some job) => update view job.id (some job)
  | .findJob _ _ _, .ok (some job) => update view job.id (some job)
  | _, _ => view

def shown : (c : OutboxCall) → Except ε c.Answer → List ReportSendJob
  | .findDueJobs _ _, .ok jobs => jobs
  | .claimJob _ _ _, .ok job => Option.toList job
  | .findJob _ _ _, .ok job => Option.toList job
  | _, _ => []

/-- The answer a caller gets, and the state that is left. -/
def Store.answer (s : Store ι) (input : Input ε) (c : OutboxCall) : Except ε c.Answer × Store ι :=
  match input.failure with
  | none => s.carryOut input c
  | some (error, true) => (.error error, (s.carryOut input c).2)
  | some (error, false) => (.error error, s)

def serve [DecidableEq ι] (i : ι) (c : OutboxCall) (input : Input ε) (s : Store ι) :
    Option (Except ε c.Answer × Store ι) :=
  if input.now < s.clock then none
  else
    let r := { s with clock := input.now }.answer input c
    some (r.1, { r.2 with seen := update r.2.seen i ((r.2.seen i).note c r.1) })

def happen : Empty → Store ι → Option (Store ι) := nofun

/-- Who uses the outbox: the dispatchers, and calls of single operations. -/
inductive Request (ε : Type)
  | discord (leaseMs : ℤ) (message : ε → String)
  | messenger (settings : OutboxScript.Messenger.Settings) (message : ε → String)
  | recordRetryableFailure (failure : RetryableFailure)
  | claimJob (platform : Platform) (jobId : ℕ) (leaseMs : ℤ)
  | markSent (platform : Platform) (jobId : ℕ) (leaseToken : Option ℕ)
  | markFailed (platform : Platform) (failure : ReportJobFailure)
  | markSentByExternalUserExamDate (platform : Platform) (externalUserId examDate : String)
  | resetStuckProcessingJobs (platform : Platform) (olderThan : ℤ)

def Request.script : Request ε → OutboxScript ε Unit
  | .discord leaseMs message => OutboxScript.Discord.dispatchDueReportRetries leaseMs message
  | .messenger settings message =>
    OutboxScript.Messenger.dispatchDueReportRetries settings message
  | .recordRetryableFailure failure => OutboxScript.recordRetryableFailure failure
  | .claimJob platform jobId leaseMs => do
    let _ ← OutboxScript.perform (.claimJob platform jobId leaseMs)
    pure ()
  | .markSent platform jobId leaseToken =>
    OutboxScript.perform (.markSent platform jobId leaseToken)
  | .markFailed platform failure => OutboxScript.perform (.markFailed platform failure)
  | .markSentByExternalUserExamDate platform externalUserId examDate =>
    OutboxScript.perform (.markSentByExternalUserExamDate platform externalUserId examDate)
  | .resetStuckProcessingJobs platform olderThan =>
    OutboxScript.perform (.resetStuckProcessingJobs platform olderThan)

open OutboxCall

abbrev State (ι ε : Type) := Crew ι (Store ι) OutboxCall Answer ε Unit

abbrev Event (ι ε : Type) := Crew.Event ι (Input ε) Empty

def step [DecidableEq ι] (s : State ι ε) (event : Event ι ε) : Option (State ι ε) :=
  Crew.step serve happen s event

def init (outbox : ReportOutbox) (clock : ℤ) (nextToken : ℕ) (requests : ι → Request ε) :
    State ι ε where
  shared := ⟨outbox, clock, nextToken, fun _ _ => none, []⟩
  scripts := fun i => some (requests i).script

/-! ## What a call does -/

variable {job : ReportSendJob} {c : OutboxCall} {answer : Except ε c.Answer} {view : View}

lemma View.note_cases {id : ℕ} (h : view.note c answer id = some job) :
    job ∈ shown c answer ∨ view id = some job := by
  have hupd : ∀ row : ReportSendJob,
      update view row.id (some row) id = some job → job = row ∨ view id = some job := by
    intro row hrow
    rw [update_apply] at hrow
    split at hrow
    · exact .inl (Option.some.inj hrow).symm
    · exact .inr hrow
  unfold note at h
  split at h
  · rcases or_eq_some_iff.mp h with hdue | ⟨-, hold⟩
    · exact .inl (Table.mem_of_lookup hdue)
    · exact .inr hold
  iterate 2
    · rcases hupd _ h with rfl | hold
      · exact .inl (List.mem_singleton_self _)
      · exact .inr hold
  · exact .inr h

lemma shown_error {e : ε} : shown c (.error e) = [] := by
  cases c <;> rfl

section Calls

variable {s t : Store ι} {input : Input ε} {c : OutboxCall}

lemma seen_carryOut : (s.carryOut input c).2.seen = s.seen := by
  cases c with
  | markSent _ _ tok => cases tok <;> rfl
  | insertJob =>
    simp only [Store.carryOut]
    split <;> rfl
  | _ => rfl

lemma answer_effect (s : Store ι) (input : Input ε) (c : OutboxCall) :
    (s.answer input c).2 = (s.carryOut input c).2 ∨ (s.answer input c).2 = s := by
  simp only [Store.answer]
  split
  · exact .inl rfl
  · exact .inl rfl
  · exact .inr rfl

lemma answer_value (s : Store ι) (input : Input ε) (c : OutboxCall) :
    (s.answer input c).1 = (s.carryOut input c).1 ∨ ∃ e, (s.answer input c).1 = .error e := by
  simp only [Store.answer]
  split
  · exact .inl rfl
  · exact .inr ⟨_, rfl⟩
  · exact .inr ⟨_, rfl⟩

lemma seen_answer : (s.answer input c).2.seen = s.seen := by
  rcases answer_effect s input c with h | h
  · rw [h, seen_carryOut]
  · rw [h]

lemma served [DecidableEq ι] {i : ι} {answer : Except ε c.Answer}
    (h : serve i c input s = some (answer, t)) :
    s.clock ≤ input.now ∧ answer = ({ s with clock := input.now }.answer input c).1 ∧
      t = { ({ s with clock := input.now }.answer input c).2 with
        seen := update s.seen i ((s.seen i).note c answer) } := by
  obtain ⟨hclock, hr⟩ := ite_none_left_eq_some.mp h
  obtain ⟨⟩ := hr
  refine ⟨not_lt.mp hclock, rfl, ?_⟩
  simp [seen_answer]

end Calls

/-! ## A row that was sent -/

/-- A failure that finds a row sent is written by a caller that has read it as sent. -/
def WritesWhatItSaw (s : Store ι) (i : ι) : OutboxCall → Input ε → Prop
  | .markFailed platform failure, _ => ∀ job ∈ s.outbox.jobWith failure.jobId,
      job.FailureSelects platform failure → job.status = .sent →
      ∃ seen ∈ s.seen i failure.jobId, seen.status = .sent
  | .saveJob existing _ _, _ => ∀ job ∈ s.outbox.jobWith existing.id,
      job.status = .sent → existing.status = .sent
  | _, _ => True

instance (s : Store ι) (i : ι) (c : OutboxCall) (input : Input ε) :
    Decidable (WritesWhatItSaw s i c input) := by
  unfold WritesWhatItSaw
  split <;> infer_instance

def View.Unsent (view : View) : Prop :=
  ∀ id job, view id = some job → job.status ≠ .sent

/-- The calls that read no row for a save, and save none. -/
def ReadsOpen : OutboxCall → Prop
  | .findJob _ _ _ => False
  | .saveJob .. => False
  | _ => True

/-- A caller marks no row as failed of which it has read that it was sent, and saves none. -/
def saver : Monitor OutboxCall Answer ε View where
  allowed view c := match c with
    | .markFailed _ failure => ∀ job, view failure.jobId = some job → job.status ≠ .sent
    | .saveJob existing _ _ => existing.status ≠ .sent
    | _ => True
  possible c answer := ReadsOpen c → ∀ job ∈ shown c answer, job.status ≠ .sent
  after view c answer := view.note c answer

lemma View.Unsent.note (h : view.Unsent) (hc : ReadsOpen c)
    (hposs : (saver : Monitor OutboxCall Answer ε View).possible c answer) :
    (view.note c answer).Unsent := by
  intro id job hjob
  rcases View.note_cases hjob with hshown | hold
  · exact hposs hc job hshown
  · exact h id job hold

variable {x : OutboxScript ε Unit}

lemma follows_of_readsOpen (hx : x.Uses ReadsOpen) :
    x.Follows saver (fun _ => none) (fun _ _ => True) fun _ _ => True := by
  have hempty : View.Unsent fun _ => none := by
    intro _ job h
    cases h
  have hallow : ∀ (view : View) (c : OutboxCall), view.Unsent → ReadsOpen c →
      (saver : Monitor OutboxCall Answer ε View).allowed view c := by
    intro view c h hc
    cases c with
    | markFailed => exact fun job hjob => h _ job hjob
    | saveJob => exact hc.elim
    | _ => trivial
  have hkeeps := Uses.keeps (M := saver) (I := View.Unsent) hx hempty hallow
    fun view c answer h hc hposs => h.note hc hposs
  exact hkeeps.imp (fun _ _ _ => trivial) fun _ _ _ => trivial

lemma readsOpen_of_forRow (hc : OutboxScript.ForRow c) : ReadsOpen c := by
  cases c <;> trivial

variable {item : ReportSendJob → OutboxScript ε Unit} {platform : Platform} {olderThan : ℤ → ℤ}

lemma readsOpen_dispatch (hitem : ∀ job, (item job).Uses OutboxScript.ForRow) :
    (do
      let now : ℤ ← OutboxScript.perform .readClock
      OutboxScript.perform (.resetStuckProcessingJobs platform (olderThan now))
      let dueJobs : List ReportSendJob ← OutboxScript.perform (.findDueJobs platform now)
      dueJobs.forM item : OutboxScript ε Unit).Uses ReadsOpen := by
  refine Uses.bind (Uses.perform trivial) fun now => ?_
  refine Uses.bind (Uses.perform trivial) fun _ => ?_
  refine Uses.bind (Uses.perform trivial) fun jobs => ?_
  exact Uses.forM fun job _ => (hitem job).imp fun _ => readsOpen_of_forRow

lemma follows_recordRetryableFailure {fail : RetryableFailure} :
    (OutboxScript.recordRetryableFailure fail : OutboxScript ε Unit).Follows saver view
      (fun _ _ => True) fun _ _ => True := by
  refine Follows.bind (Follows.perform trivial (fun now _ => ?_) fun _ _ => trivial)
  refine Follows.bind (Follows.perform trivial (fun old _ => ?_) fun _ _ => trivial)
  split
  · split
    · trivial
    next hopen =>
      exact Follows.perform hopen (fun _ _ => trivial) fun _ _ => trivial
  · exact Follows.perform trivial (fun _ _ => trivial) fun _ _ => trivial

lemma follows_script (req : Request ε) :
    req.script.Follows saver (fun _ => none) (fun _ _ => True) fun _ _ => True := by
  cases req with
  | discord =>
    exact follows_of_readsOpen (readsOpen_dispatch fun _ => OutboxScript.forRow_discordItem)
  | messenger =>
    exact follows_of_readsOpen (readsOpen_dispatch fun _ => OutboxScript.forRow_messengerItem)
  | recordRetryableFailure => exact follows_recordRetryableFailure
  | claimJob =>
    exact follows_of_readsOpen (Uses.bind (Uses.perform trivial) fun _ => trivial)
  | markSent | markFailed => exact follows_of_readsOpen (Uses.perform trivial)
  | markSentByExternalUserExamDate | resetStuckProcessingJobs =>
    exact follows_of_readsOpen (Uses.perform trivial)

section Sent

variable {s : Store ι} {i : ι} {input : Input ε} {c : OutboxCall} {id : ℕ}

lemma sentRow_save {outbox : ReportOutbox} {entity old : ReportSendJob}
    (h : outbox.SentRow id) (hex : old.status ≠ .sent) (hid : entity.id = old.id)
    (hopen : ∀ job ∈ outbox.jobWith old.id, job.status = .sent → old.status = .sent) :
    (outbox.save entity).SentRow id := by
  rw [ReportOutbox.save]
  split
  · refine h.exec (fun job row hrow => ?_) fun job row hjob hsent hrow => ?_
    · obtain ⟨hentity, ⟨⟩⟩ := ite_none_right_eq_some.mp hrow
      exact hentity.symm
    · obtain ⟨hentity, -⟩ := ite_none_right_eq_some.mp hrow
      have hkey : job.id = id := Table.key_of_lookup hjob
      have hsame : outbox.jobWith old.id = some job := by
        rw [← hid, ← hentity, hkey]
        exact hjob
      exact absurd (hopen job hsame hsent) hex
  · exact h.append entity _

lemma sentRow_carryOut (h : s.outbox.SentRow id)
    (hallow : (saver : Monitor OutboxCall Answer ε View).allowed (s.seen i) c)
    (hsaw : WritesWhatItSaw s i c input) :
    (s.carryOut input c).2.outbox.SentRow id := by
  cases c with
  | resetStuckProcessingJobs =>
    refine h.exec (fun _ _ => id_of_clause rfl) fun job row _ hsent hrow => ?_
    obtain ⟨⟨-, hproc, -⟩, -⟩ := ite_none_right_eq_some.mp hrow
    rw [hproc] at hsent
    cases hsent
  | claimJob =>
    refine h.exec (fun _ _ => id_of_clause rfl) fun job row _ hsent hrow => ?_
    obtain ⟨⟨-, -, hfail⟩, -⟩ := ite_none_right_eq_some.mp hrow
    rw [hfail] at hsent
    cases hsent
  | markSent _ _ tok =>
    cases tok with
    | none => exact h
    | some =>
      refine h.exec (fun _ _ => id_of_clause rfl) fun job row _ _ hrow => ?_
      obtain ⟨-, ⟨⟩⟩ := ite_none_right_eq_some.mp hrow
      rfl
  | markFailed _ fail =>
    refine h.exec (fun _ _ => id_of_clause rfl) fun job row hjob hsent hrow => ?_
    obtain ⟨hclause, -⟩ := ite_none_right_eq_some.mp hrow
    have hkey : job.id = id := Table.key_of_lookup hjob
    have hsame : s.outbox.jobWith fail.jobId = some job := by
      rw [← hclause.1, hkey]
      exact hjob
    -- the caller would have read the row as sent
    obtain ⟨seen, hseen, hread⟩ := hsaw job hsame hclause hsent
    exact absurd hread (hallow seen hseen)
  | saveJob => exact sentRow_save h hallow rfl hsaw
  | insertJob =>
    simp only [Store.carryOut, ReportOutbox.insert]
    split
    next hinsert =>
      obtain ⟨-, ⟨⟩⟩ := ite_none_left_eq_some.mp hinsert
      exact h.append _ _
    · exact h
  | markSentByExternalUserExamDate =>
    refine h.exec (fun _ _ => id_of_clause rfl) fun job row _ _ hrow => ?_
    obtain ⟨-, ⟨⟩⟩ := ite_none_right_eq_some.mp hrow
    rfl
  | _ => exact h

lemma status_of_claimJob {platform : Platform} {jobId : ℕ} {ms : ℤ} {job : ReportSendJob}
    (h : (s.claimJob platform jobId ms).1 = some job) : job.status = .processing := by
  obtain ⟨_, -, hrow⟩ := bind_eq_some_iff.mp h
  obtain ⟨-, ⟨⟩⟩ := ite_none_right_eq_some.mp hrow
  rfl

lemma possible_carryOut :
    (saver : Monitor OutboxCall Answer ε View).possible c (s.carryOut input c).1 := by
  intro hopen _ hjob
  cases c with
  | findDueJobs =>
    have hdue := ReportOutbox.isDue_of_findDueJobs hjob
    simp [(isDue_iff.mp hdue).2.1]
  | claimJob =>
    obtain ⟨row, hrow, rfl⟩ := map_eq_some_iff.mp (mem_toList.mp hjob)
    simp [returned, status_of_claimJob hrow]
  | findJob => exact hopen.elim
  | _ => cases hjob

end Sent

def Tied (ids : Set ℕ) (s : Store ι) (phase : ι → View) (_ : ι → Bool) : Prop :=
  (∀ i, phase i = s.seen i) ∧ ∀ id ∈ ids, s.outbox.SentRow id

lemma obeys_init (outbox : ReportOutbox) (clock : ℤ) (nextToken : ℕ) (requests : ι → Request ε) :
    (init outbox clock nextToken requests).Obeys (fun _ => saver) (Tied ∅) := by
  refine ⟨fun _ _ => none, fun i script hscr => ?_, fun _ => rfl, nofun⟩
  obtain ⟨⟩ := hscr
  exact follows_script (requests i)

variable [DecidableEq ι]

lemma kept_tied (ids : Set ℕ) :
    Crew.Kept (fun _ : ι => (saver : Monitor OutboxCall Answer ε View)) serve happen
      WritesWhatItSaw (fun _ _ _ => True) (Tied ids) where
  possible := by
    intro i c input s answer t hserve
    obtain ⟨-, rfl, -⟩ := served hserve
    rcases answer_value { s with clock := input.now } input c with h | h
    · rw [h]
      exact possible_carryOut
    · obtain ⟨_, he⟩ := h
      rw [he]
      intro _ _ hjob
      rw [shown_error] at hjob
      cases hjob
  call := by
    intro s _ _ i c input _ _ htied _ hallow hsaw hserve _
    obtain ⟨_, -, rfl⟩ := served hserve
    obtain ⟨hseen, hsent⟩ := htied
    rw [hseen i] at hallow ⊢
    refine ⟨fun j => ?_, fun id hid => ?_⟩
    · by_cases hji : j = i
      · subst hji
        simp [saver]
      · simp [update_of_ne hji, hseen j]
    · have hrow := hsent id hid
      rcases answer_effect { s with clock := input.now } input c with h | h
      · simp only [h]
        exact sentRow_carryOut (s := { s with clock := input.now }) hrow hallow hsaw
      · simp only [h]
        exact hrow
  stop := fun _ _ _ _ htied => htied
  other := fun _ _ _ event => event.elim

/-- As long as no failure is written to a row that was sent since it was read, a row that is sent
stays so, whatever dispatchers, waves and single statements do and wherever they crash. -/
theorem sent_is_final (outbox : ReportOutbox) (clock : ℤ) (nextToken : ℕ)
    (requests : ι → Request ε) {before after : List (Event ι ε)} {s t : State ι ε} {id : ℕ}
    (hsaw : Along step (Crew.Meets WritesWhatItSaw fun _ _ _ => True)
      (init outbox clock nextToken requests) before)
    (hbefore : run step (init outbox clock nextToken requests) before = some s)
    (hsent : s.shared.outbox.SentRow id)
    (hsawAfter : Along step (Crew.Meets WritesWhatItSaw fun _ _ _ => True) s after)
    (hafter : run step s after = some t) : t.shared.outbox.SentRow id := by
  obtain ⟨phase, hfol, hseen, -⟩ :=
    Crew.Obeys.run (kept_tied ∅) (obeys_init outbox clock nextToken requests) hsaw hbefore
  have hstart : s.Obeys (fun _ => saver) (Tied {id}) := by
    refine ⟨phase, hfol, hseen, ?_⟩
    rintro _ rfl
    exact hsent
  obtain ⟨-, -, -, hend⟩ := Crew.Obeys.run (kept_tied {id}) hstart hsawAfter hafter
  exact hend id rfl

def waveAndRetry : Fin 3 → Request Unit
  | 0 => .recordRetryableFailure
      ⟨.discord, "d-7", some 7, "2026-09-01", "2026-08-07", 3, 15, "error", none⟩
  | 1 => .discord 600000 fun _ => "error"
  | 2 => .markSentByExternalUserExamDate .discord "d-7" "2026-09-01"

/-- A call at a time; `claimAndSend`, if it is called, has the result. -/
def callAt (i : Fin 3) (now : ℤ) (result : ClaimAndSendResult) : Event (Fin 3) Unit :=
  .call i ⟨now, now + 900000, some ⟨some .active, some 7⟩, none, none, ("2026-09-01", 25), id,
    .ok result, (), none⟩

def markedInBetween (result : ClaimAndSendResult) : List (Event (Fin 3) Unit) :=
  List.replicate 3 (callAt 0 0 result) ++ List.replicate 6 (callAt 1 900000 result) ++
    [callAt 2 900000 result]

/-- The dispatcher has sent the report as well, and marks the row once more. -/
theorem sent_is_final_sent : ∃ s t,
    run step (init ⟨[], 0⟩ 0 0 waveAndRetry) (markedInBetween { sent := 1 }) = some s ∧
    s.shared.outbox.SentRow 0 ∧ run step s [callAt 1 900000 { sent := 1 }] = some t ∧
    t.shared.outbox.SentRow 0 := by
  simp only [exists_and_left]
  refine exists_end (A := fun s => s.shared.outbox.SentRow 0 ∧
    Along step (Crew.Meets WritesWhatItSaw fun _ _ _ => True) s [callAt 1 900000 { sent := 1 }] ∧
    ∃ t, run step s [callAt 1 900000 { sent := 1 }] = some t ∧ True)
    (by decide +kernel) ?_
  rintro _ hpre ⟨hsent, hsaw, hrest⟩
  exact ⟨hsent, exists_end hrest fun t hafter _ => sent_is_final ⟨[], 0⟩ 0 0 waveAndRetry
    (by decide +kernel) hpre hsent hsaw hafter⟩

/-- The wave has sent the report since; the dispatcher's lease token is still there. -/
theorem sent_row_failed : ∃ s t,
    run step (init ⟨[], 0⟩ 0 0 waveAndRetry) (markedInBetween { claimSkipped := 1 }) =
      some s ∧ s.shared.outbox.SentRow 0 ∧
    run step s (List.replicate 2 (callAt 1 900000 { claimSkipped := 1 })) = some t ∧
    ¬ t.shared.outbox.SentRow 0 := by
  simp only [exists_and_left]
  decide +kernel

/-! ## A row that is claimed -/

/-- The job has a retry left, and its time has come. -/
def Eligible (job : ReportSendJob) (now : ℤ) : Prop :=
  job.retryCount < job.maxRetries ∧ ∀ time ∈ job.nextRetryAt, time ≤ now
  deriving Decidable

def SameSchedule (job seen : ReportSendJob) : Prop :=
  job.retryCount = seen.retryCount ∧ job.maxRetries = seen.maxRetries ∧
    job.nextRetryAt = seen.nextRetryAt
  deriving Decidable

/-- A claim finds the counters its caller has last seen. -/
def ClaimsWhatItSaw (s : Store ι) (i : ι) : OutboxCall → Input ε → Prop
  | .claimJob platform jobId _, _ => ∀ job ∈ s.outbox.jobWith jobId,
      job.platform = platform ∧ job.status = .failed →
      ∃ seen ∈ s.seen i jobId, SameSchedule job seen
  | _, _ => True

instance (s : Store ι) (i : ι) (c : OutboxCall) (input : Input ε) :
    Decidable (ClaimsWhatItSaw s i c input) := by
  unfold ClaimsWhatItSaw
  split <;> infer_instance

lemma Eligible.mono {now later : ℤ} (h : Eligible job now) (hle : now ≤ later) :
    Eligible job later :=
  ⟨h.1, fun time htime => (h.2 time htime).trans hle⟩

lemma Eligible.of_same {seen : ReportSendJob} {now : ℤ} (h : Eligible seen now)
    (hsame : SameSchedule job seen) : Eligible job now := by
  obtain ⟨hcount, hmax, htime⟩ := hsame
  rw [Eligible, hcount, hmax, htime]
  exact h

lemma eligible_of_isDue {now : ℤ} (h : job.isDue platform now = true) : Eligible job now := by
  obtain ⟨-, -, hcount, time, htime, hle⟩ := isDue_iff.mp h
  refine ⟨hcount, fun other hother => ?_⟩
  obtain rfl : time = other := mem_unique htime hother
  exact hle

def Request.records : Request ε → Bool
  | .recordRetryableFailure _ => true
  | _ => false

def reader (records : Bool) : Monitor OutboxCall Answer ε (Option ℤ) where
  allowed time c := match c with
    | .findDueJobs _ now => ∃ read, time = some read ∧ now ≤ read
    | .findJob _ _ _ => records = true
    | .claimJob _ _ _ => records = false
    | _ => True
  possible _ _ := True
  after time c answer := match c, answer with
    | .readClock, .ok now => some now
    | _, _ => time

lemma follows_forRow (hx : x.Uses OutboxScript.ForRow) {time : Option ℤ} :
    x.Follows (reader false) time (fun _ _ => True) fun _ _ => True := by
  have hallow : ∀ c, OutboxScript.ForRow c →
      (reader false : Monitor OutboxCall Answer ε (Option ℤ)).allowed time c := by
    intro c hc
    cases c <;> first | exact hc.elim | rfl | trivial
  have hafter : ∀ c answer, OutboxScript.ForRow c →
      (reader false : Monitor OutboxCall Answer ε (Option ℤ)).after time c answer = time := by
    intro c _ hc
    cases c <;> first | exact hc.elim | rfl
  exact (hx.follows hallow hafter).imp (fun _ _ _ => trivial) fun _ _ _ => trivial

lemma follows_dispatch (hitem : ∀ job, (item job).Uses OutboxScript.ForRow) :
    (do
      let now : ℤ ← OutboxScript.perform .readClock
      OutboxScript.perform (.resetStuckProcessingJobs platform (olderThan now))
      let dueJobs : List ReportSendJob ← OutboxScript.perform (.findDueJobs platform now)
      dueJobs.forM item : OutboxScript ε Unit).Follows (reader false) none (fun _ _ => True)
        fun _ _ => True := by
  refine Follows.bind (Follows.perform trivial (fun now _ => ?_) fun _ _ => trivial)
  refine Follows.bind (Follows.perform trivial (fun _ _ => ?_) fun _ _ => trivial)
  refine Follows.bind (Follows.perform ⟨now, rfl, le_rfl⟩ (fun jobs _ => ?_) fun _ _ => trivial)
  exact follows_forRow (Uses.forM fun job _ => hitem job)

lemma follows_reader (req : Request ε) :
    req.script.Follows (reader req.records) none (fun _ _ => True) fun _ _ => True := by
  cases req with
  | discord => exact follows_dispatch fun _ => OutboxScript.forRow_discordItem
  | messenger =>
    exact follows_dispatch fun _ => OutboxScript.forRow_messengerItem
  | recordRetryableFailure =>
    refine Follows.bind (Follows.perform trivial (fun now _ => ?_) fun _ _ => trivial)
    refine Follows.bind (Follows.perform rfl (fun old _ => ?_) fun _ _ => trivial)
    split
    · split
      · trivial
      · exact Follows.perform trivial (fun _ _ => trivial) fun _ _ => trivial
    · exact Follows.perform trivial (fun _ _ => trivial) fun _ _ => trivial
  | claimJob =>
    exact Follows.bind (Follows.perform rfl (fun _ _ => trivial) fun _ _ => trivial)
  | markSent | markFailed => exact follows_forRow (Uses.perform trivial)
  | markSentByExternalUserExamDate | resetStuckProcessingJobs =>
    exact Follows.perform trivial (fun _ _ => trivial) fun _ _ => trivial

/-- What a caller has seen was due when it was read. -/
structure Punctual (records : ι → Bool) (s : Store ι) (time : ι → Option ℤ) (_ : ι → Bool) :
    Prop where
  past : ∀ i, ∀ read ∈ time i, read ≤ s.clock
  seen : ∀ i, records i = false → ∀ id job, s.seen i id = some job → Eligible job s.clock
  claimed : ∀ entry ∈ s.claimed, Eligible entry.1 entry.2

section Claim

omit [DecidableEq ι]

variable {s : Store ι} {i : ι} {input : Input ε} {c : OutboxCall}

lemma clock_carryOut : (s.carryOut input c).2.clock = s.clock := by
  cases c with
  | markSent _ _ tok => cases tok <;> rfl
  | insertJob =>
    simp only [Store.carryOut]
    split <;> rfl
  | _ => rfl

lemma claimed_carryOut {entry : ReportSendJob × ℤ} (h : entry ∈ (s.carryOut input c).2.claimed) :
    entry ∈ s.claimed ∨ ∃ platform jobId ms, c = .claimJob platform jobId ms ∧
      entry.1 ∈ s.outbox.jobWith jobId ∧ entry.1.platform = platform ∧
      entry.1.status = .failed ∧ entry.2 = s.clock := by
  cases c with
  | claimJob platform jobId ms =>
    rcases List.mem_append.mp h with hold | hnew
    · exact .inl hold
    · right
      obtain ⟨_, hhit, rfl⟩ := map_eq_some_iff.mp (mem_toList.mp hnew)
      obtain ⟨hjob, hsome⟩ := filter_eq_some_iff.mp hhit
      obtain ⟨_, hrow⟩ := isSome_iff_exists.mp hsome
      obtain ⟨⟨-, hplat, hfail⟩, -⟩ := ite_none_right_eq_some.mp hrow
      exact ⟨platform, jobId, ms, rfl, hjob, hplat, hfail, rfl⟩
  | markSent _ _ tok =>
    cases tok <;> exact .inl h
  | insertJob =>
    simp only [Store.carryOut] at h
    split at h <;> exact .inl h
  | _ => exact .inl h

lemma sameSchedule_of_claimJob {platform : Platform} {jobId : ℕ} {ms : ℤ}
    {row : ReportSendJob} (h : (s.claimJob platform jobId ms).1 = some row) :
    ∃ job ∈ s.outbox.jobWith jobId, job.platform = platform ∧ job.status = .failed ∧
      SameSchedule row job := by
  obtain ⟨job, hhit, hrow⟩ := bind_eq_some_iff.mp h
  obtain ⟨⟨-, hplat, hfail⟩, ⟨⟩⟩ := ite_none_right_eq_some.mp hrow
  exact ⟨job, (filter_eq_some_iff.mp hhit).1, hplat, hfail, rfl, rfl, rfl⟩

lemma eligible_shown {time : Option ℤ}
    (hallow : (reader false : Monitor OutboxCall Answer ε (Option ℤ)).allowed time c)
    (hpast : ∀ read ∈ time, read ≤ s.clock)
    (hseen : ∀ id job, s.seen i id = some job → Eligible job s.clock)
    (hsaw : ClaimsWhatItSaw s i c input) {job : ReportSendJob}
    (hjob : job ∈ shown c (s.carryOut input c).1) : Eligible job s.clock := by
  cases c with
  | findDueJobs =>
    obtain ⟨read, htime, hnow⟩ := hallow
    have hdue := eligible_of_isDue (ReportOutbox.isDue_of_findDueJobs hjob)
    exact hdue.mono (hnow.trans (hpast read htime))
  | claimJob _ jobId =>
    obtain ⟨row, hclaim, rfl⟩ := map_eq_some_iff.mp (mem_toList.mp hjob)
    obtain ⟨before, hpre, hplat, hfail, hsame⟩ := sameSchedule_of_claimJob hclaim
    obtain ⟨seen, hrow, hschedule⟩ := hsaw before hpre ⟨hplat, hfail⟩
    exact ((hseen jobId seen hrow).of_same hschedule).of_same hsame
  | findJob => cases hallow
  | _ => cases hjob

end Claim

lemma kept_punctual (recs : ι → Bool) :
    Crew.Kept (fun i => (reader (recs i) : Monitor OutboxCall Answer ε (Option ℤ)))
      serve happen ClaimsWhatItSaw (fun _ _ _ => True) (Punctual recs) where
  possible := fun _ _ _ _ _ _ _ => trivial
  call := by
    intro s time _ i c input _ _ h _ hallow hsaw hserve _
    obtain ⟨hclock, rfl, rfl⟩ := served hserve
    set u : Store ι := { s with clock := input.now } with hu
    have hnow : (u.answer input c).2.clock = input.now := by
      rcases answer_effect u input c with heffect | heffect
      · rw [heffect, clock_carryOut]
      · rw [heffect]
    have hpast : ∀ j, ∀ read ∈ time j, read ≤ input.now :=
      fun j read hread => (h.past j read hread).trans hclock
    have hseen : ∀ j, recs j = false → ∀ id job, s.seen j id = some job →
        Eligible job input.now :=
      fun j hj id job hjob => (h.seen j hj id job hjob).mono hclock
    refine ⟨fun j read hread => ?_, fun j hj id job hjob => ?_, fun entry hentry => ?_⟩
    · simp only [hnow]
      by_cases hji : j = i
      · subst hji
        rw [update_self] at hread
        simp only [reader] at hread
        split at hread
        next _ heq =>
          rcases answer_value u input .readClock with hvalue | ⟨e, he⟩
          · rw [hvalue] at heq
            obtain rfl := Except.ok.inj heq
            exact (Option.some.inj hread).ge
          · rw [he] at heq
            cases heq
        · exact hpast j read hread
      · rw [update_of_ne hji] at hread
        exact hpast j read hread
    · simp only [hnow]
      by_cases hji : j = i
      · subst hji
        simp only [update_self] at hjob
        rcases View.note_cases hjob with hshown | hold
        · rcases answer_value u input c with hvalue | ⟨_, he⟩
          · rw [hvalue] at hshown
            rw [hj] at hallow
            exact eligible_shown (s := u) (i := j) hallow (hpast j) (hseen j hj) hsaw hshown
          · rw [he, shown_error] at hshown
            cases hshown
        · exact hseen j hj id job hold
      · simp only [update_of_ne hji] at hjob
        exact hseen j hj id job hjob
    · have hold : entry ∈ s.claimed → Eligible entry.1 entry.2 := h.claimed entry
      rcases answer_effect u input c with heffect | heffect
      · simp only [heffect] at hentry
        rcases claimed_carryOut hentry with hpre | ⟨_, jobId, _, rfl, hnew⟩
        · exact hold hpre
        · obtain ⟨hjob, hplat, hfail, hat⟩ := hnew
          -- whoever claims is no recorder, and has seen the row with these counters
          have hrecs : recs i = false := hallow
          obtain ⟨seen, hrow, hsame⟩ := hsaw entry.1 hjob ⟨hplat, hfail⟩
          rw [hat]
          exact (hseen i hrecs jobId seen hrow).of_same hsame
      · simp only [heffect] at hentry
        exact hold hentry
  stop := fun _ _ _ _ h => ⟨h.past, h.seen, h.claimed⟩
  other := fun _ _ _ event => event.elim

omit [DecidableEq ι] in
lemma punctual_init {recs work : ι → Bool} {outbox : ReportOutbox} {clock : ℤ} {nextToken : ℕ} :
    Punctual recs ⟨outbox, clock, nextToken, fun _ _ => none, []⟩ (fun _ => none) work where
  past := by
    intro i _ hread
    cases hread
  seen := by
    intro _ _ _ _ hjob
    cases hjob
  claimed := by
    intro _ hentry
    cases hentry

/-- If claims find the counters that their callers have seen, every job that is claimed is due. -/
theorem claims_are_due (outbox : ReportOutbox) (clock : ℤ) (nextToken : ℕ)
    (requests : ι → Request ε) {events : List (Event ι ε)} {s : State ι ε}
    (hsaw : Along step (Crew.Meets ClaimsWhatItSaw fun _ _ _ => True)
      (init outbox clock nextToken requests) events)
    (hrun : run step (init outbox clock nextToken requests) events = some s) :
    ∀ entry ∈ s.shared.claimed, Eligible entry.1 entry.2 := by
  have hinit : (init outbox clock nextToken requests).Obeys
      (fun i => reader (requests i).records) (Punctual fun i => (requests i).records) := by
    refine ⟨fun _ => none, fun i script hscr => ?_, ?_⟩
    · obtain ⟨⟩ := hscr
      exact follows_reader (requests i)
    · exact punctual_init
  obtain ⟨_, -, hpunctual⟩ := Crew.Obeys.run (kept_punctual _) hinit hsaw hrun
  exact hpunctual.claimed

/-- The report of learner 7 fails on two days; a dispatcher of Discord runs in between. -/
def twoFailures : Fin 3 → Request Unit
  | 0 => .recordRetryableFailure
      ⟨.discord, "d-7", some 7, "2026-09-01", "2026-08-07", 3, 15, "error", none⟩
  | 1 => .discord 600000 fun _ => "error"
  | 2 => .recordRetryableFailure
      ⟨.discord, "d-7", some 7, "2026-09-01", "2026-08-08", 3, 15, "error", none⟩

/-- The dispatcher claims the row after its first failure. -/
theorem claims_are_due_first : ∃ s, run step (init ⟨[], 0⟩ 0 0 twoFailures)
      (List.replicate 3 (callAt 0 0 {}) ++ List.replicate 4 (callAt 1 900000 {})) = some s ∧
    s.shared.claimed.length = 1 ∧ ∀ entry ∈ s.shared.claimed, Eligible entry.1 entry.2 :=
  exists_end (A := fun s => s.shared.claimed.length = 1) (by decide +kernel)
    fun _ hrun hlen =>
      ⟨hlen, claims_are_due ⟨[], 0⟩ 0 0 twoFailures (by decide +kernel) hrun⟩

/-- The row fails once more between the read of the due list and the claim. -/
theorem claimed_early : ∃ s, run step (init ⟨[], 0⟩ 0 0 twoFailures)
      (List.replicate 3 (callAt 0 0 {}) ++ List.replicate 3 (callAt 1 900000 {}) ++
        List.replicate 3 (callAt 2 900000 {}) ++ [callAt 1 900000 {}]) = some s ∧
    s.shared.claimed.map (fun entry => (entry.1.nextRetryAt, entry.2)) =
      [(some 1800000, 900000)] := by
  decide +kernel

end ReportOutboxSystem

end WispaceBot
