import Mathlib.Tactic.Linarith
import WispaceBot.Foundation.Run
import WispaceBot.StudyReminder.JobRow

/-!
# Dispatching a reminder

A worker of `processJob` claims the row, passes the ownership fence, calls the provider inside its
transaction, and writes down what came of it.  Between two statements anything else may run, a
worker may stop, and a statement may fail for its caller after it took effect.  Nothing rests on the
row being locked during the call.
-/

namespace WispaceBot

open Transition StudyReminderJob

/-! ## The workers -/

structure ClassifiedError where
  errorMessage : String
  terminal : Bool
  nextRetryAt : Option ℤ

/-- Where a worker stands in `processJob`. -/
inductive DispatchPc
  | claimed
  | authorized
  | reported (outcome : DeliveryOutcome)
  /-- `markSent` is next. -/
  | finalizing
  /-- `markFailed` is next. -/
  | failing (failure : Failure)
  /-- `markCancelled` is next. -/
  | cancelling (reason : String)
  | done

/-- A worker: the row it claimed, its lease token, and the delivery key it uses. -/
structure DispatchWorker where
  job : StudyReminderJob
  token : ℕ
  deliveryKey : String
  pc : DispatchPc

section

variable (job : StudyReminderJob)

/-- The failure the outer catch clause writes: the provider has not sent the message. -/
def notSentFailure (error : ClassifiedError) : Failure where
  errorMessage := error.errorMessage
  retryCount := if error.terminal then max (job.retryCount + 1) job.maxRetries
    else job.retryCount + 1
  nextRetryAt := if error.terminal then none else error.nextRetryAt
  terminal := error.terminal
  deliveryStatus := .notSent

/-- The failure written when the provider answered and the transaction did not commit. -/
def uncommittedFailure (outcome : DeliveryOutcome) (error : String) :
    Failure where
  errorMessage := match outcome with
    | .ambiguous => "ambiguous delivery — ownership finalization failed"
    | .rateLimited => "outbound_rate_limited"
    | _ => "delivery acknowledged but ownership finalization failed: " ++ error
  retryCount := max (job.retryCount + 1) job.maxRetries
  nextRetryAt := none
  terminal := true
  deliveryStatus := outcome

/-- The failure written when `markSent` failed after an acknowledged delivery. -/
def finalizationFailure (error : String) : Failure where
  errorMessage := "delivery acknowledged but finalization failed: " ++ error
  retryCount := job.retryCount + 1
  nextRetryAt := none
  terminal := true
  deliveryStatus := .ambiguous

/-- The failure written for an outcome that is not retried. -/
def terminalFailure (outcome : DeliveryOutcome) : Failure where
  errorMessage := if outcome = .ambiguous then "ambiguous delivery — not auto-retried"
    else "outbound_rate_limited"
  retryCount := job.retryCount + 1
  nextRetryAt := none
  terminal := true
  deliveryStatus := outcome

/-- Where `processJob` goes on after the transaction of the fence. -/
def afterDelivery (outcome : DeliveryOutcome) (committed : Bool) (error : ClassifiedError) :
    DispatchPc :=
  match outcome with
  | .notSent => .failing (notSentFailure job error)
  | .sent => if committed then .finalizing
    else .failing (uncommittedFailure job .sent error.errorMessage)
  | outcome => if committed then .failing (terminalFailure job outcome)
    else .failing (uncommittedFailure job outcome error.errorMessage)

end

/-- What the ownership fence answers. -/
inductive Fence
  | owned
  | refused (reason : String)
  | unavailable (error : ClassifiedError)

/-- How a statement ends for the worker that made it. -/
inductive StatementReply
  | returned
  | failed (applied : Bool)

/-- The row after a statement: changed if it took effect and selected the row. -/
def StatementReply.row (reply : StatementReply) (statement : Option StudyReminderJob)
    (row : StudyReminderJob) : StudyReminderJob :=
  match reply with
  | .returned | .failed true => statement.getD row
  | .failed false => row

lemma StatementReply.row_cases (reply : StatementReply) (stmt : Option StudyReminderJob)
    (row : StudyReminderJob) : reply.row stmt row = row ∨ stmt = some (reply.row stmt row) := by
  cases reply with
  | returned => cases stmt <;> simp [StatementReply.row]
  | failed applied => cases applied <;> cases stmt <;> simp [StatementReply.row]

/-! ## The system -/

/-- The row, the workers that claimed it, the next lease token and what the provider answered. -/
structure ReminderSystem where
  row : StudyReminderJob
  workers : List DispatchWorker
  nextToken : ℕ
  answers : List DeliveryOutcome

inductive WorkerAction
  | fence (answer : Fence)
  /-- The provider answers; `notSent` also stands for a call that throws. -/
  | send (outcome : DeliveryOutcome)
  | commit (committed : Bool) (error : ClassifiedError)
  | giveUp (error : ClassifiedError)
  | cancel (reason : String)
  | write (reply : StatementReply) (now : ℤ) (error : ClassifiedError)
  | crash

/-- A worker claims or acts, or the row is reset or synced. -/
inductive ReminderEvent
  | claim (now leaseMs : ℤ) (uuid : String)
  | act (worker : ℕ) (action : WorkerAction)
  | resetStuck (now olderThan : ℤ)
  | upsert (input : UpsertStudyReminderJobInput)

namespace ReminderSystem

section

variable (s : ReminderSystem) (i : ℕ) (worker : DispatchWorker)

def advance (pc : DispatchPc) (row : StudyReminderJob) : ReminderSystem :=
  { s with row := row, workers := s.workers.set i { worker with pc := pc } }

/-- The fence for a worker: a mapping that is owned lets the update of the row decide. -/
def passFence : Fence → ReminderSystem
  | .owned =>
    match s.row.ownDelivery worker.token worker.deliveryKey with
    | some row => s.advance i worker .authorized row
    | none => s.advance i worker .done s.row
  | .refused reason => s.advance i worker (.cancelling reason) s.row
  | .unavailable error => s.advance i worker (.failing (notSentFailure worker.job error)) s.row

/-- The statement a worker makes next, and where it goes on. -/
def writeNext (reply : StatementReply) (now : ℤ) (error : ClassifiedError) :
    Option ReminderSystem :=
  match worker.pc with
  | .finalizing =>
    let row := reply.row (s.row.markSent worker.token now (some "sent") (some worker.deliveryKey))
      s.row
    match reply with
    | .returned => some (s.advance i worker .done row)
    | .failed _ => some (s.advance i worker
        (.failing (finalizationFailure worker.job error.errorMessage)) row)
  | .failing failure =>
    some (s.advance i worker .done (reply.row (s.row.markFailed worker.token failure) s.row))
  | .cancelling reason =>
    let row := reply.row (s.row.markCancelled worker.token reason) s.row
    match reply with
    | .returned => some (s.advance i worker .done row)
    | .failed _ => some (s.advance i worker (.failing (notSentFailure worker.job error)) row)
  | _ => none

/-- A step of a worker, where its program allows it. -/
def act :
    WorkerAction → Option ReminderSystem
  | .fence answer =>
    match worker.pc with
    | .claimed => some (s.passFence i worker answer)
    | _ => none
  | .send outcome =>
    match worker.pc with
    | .authorized => some { s.advance i worker (.reported outcome) s.row with
        answers := s.answers ++ [outcome] }
    | _ => none
  | .commit committed error =>
    match worker.pc with
    | .reported outcome =>
      some (s.advance i worker (afterDelivery worker.job outcome committed error) s.row)
    | _ => none
  | .giveUp error =>
    match worker.pc with
    | .claimed => some (s.advance i worker (.failing (notSentFailure worker.job error)) s.row)
    | _ => none
  | .cancel reason =>
    match worker.pc with
    | .claimed => some (s.advance i worker (.cancelling reason) s.row)
    | _ => none
  | .write reply now error => s.writeNext i worker reply now error
  | .crash => some (s.advance i worker .done s.row)

end

def step (s : ReminderSystem) : ReminderEvent → Option ReminderSystem
  | .claim now leaseMs uuid =>
    match s.row.claimJob s.nextToken now leaseMs with
    | some row =>
      let worker := ⟨row, s.nextToken, row.deliveryKey.getD uuid, .claimed⟩
      some { s with row := row, workers := s.workers ++ [worker], nextToken := s.nextToken + 1 }
    | none => some s
  | .act i action => s.workers[i]?.bind fun worker => s.act i worker action
  | .resetStuck now olderThan =>
    some { s with row := (s.row.resetStuck now olderThan .failed).getD s.row }
  | .upsert input => some { s with row := s.row.applyExisting input true }

def init (id : ℕ) (now : ℤ) (input : UpsertStudyReminderJobInput) : ReminderSystem where
  row := ofInput id now input
  workers := []
  nextToken := 0
  answers := []

end ReminderSystem

/-! ## What a step does -/

/-- Where a worker stands towards the provider. -/
inductive Stance
  | mayCall
  | calling
  | declined
  | settled
  deriving DecidableEq

def DispatchPc.stance : DispatchPc → Stance
  | .claimed => .mayCall
  | .authorized => .calling
  | .reported outcome => if outcome.isTerminal then .settled else .declined
  | .finalizing => .settled
  | .failing failure => if failure.deliveryStatus.isTerminal then .settled else .declined
  | .cancelling _ => .declined
  | .done => .settled

/-- A worker may turn from one stance to another without a word to the provider or the row. -/
def Stance.turns : Stance → Stance → Bool
  | .mayCall, .declined => true
  | .declined, .declined => true
  | _, .settled => true
  | _, _ => false

namespace ReminderSystem

def CountsTry (job : StudyReminderJob) (pc : DispatchPc) : Prop :=
  ∀ failure, pc = .failing failure → job.retryCount + 1 ≤ failure.retryCount

/-- What a step can do, by cases. -/
inductive Moves (maxRetries : ℤ) (s : ReminderSystem) : ReminderSystem → Prop
  | idle : Moves maxRetries s s
  | claim {now leaseMs : ℤ} {uuid : String} {row : StudyReminderJob}
      (hrow : s.row.claimJob s.nextToken now leaseMs = some row) :
      Moves maxRetries s { s with
        row := row
        workers := s.workers ++ [⟨row, s.nextToken, row.deliveryKey.getD uuid, .claimed⟩]
        nextToken := s.nextToken + 1 }
  | call {i : ℕ} {worker : DispatchWorker} {row : StudyReminderJob}
      (hi : s.workers[i]? = some worker) (hpc : worker.pc = .claimed)
      (hrow : s.row.ownDelivery worker.token worker.deliveryKey = some row) :
      Moves maxRetries s (s.advance i worker .authorized row)
  | answer {i : ℕ} {worker : DispatchWorker} {outcome : DeliveryOutcome}
      (hi : s.workers[i]? = some worker) (hpc : worker.pc = .authorized) :
      Moves maxRetries s { s.advance i worker (.reported outcome) s.row with
        answers := s.answers ++ [outcome] }
  | turn {i : ℕ} {worker : DispatchWorker} {pc : DispatchPc}
      (hi : s.workers[i]? = some worker) (hturn : worker.pc.stance.turns pc.stance = true)
      (hcounts : CountsTry worker.job pc) :
      Moves maxRetries s (s.advance i worker pc s.row)
  | sent {i : ℕ} {worker : DispatchWorker} {pc : DispatchPc} {now : ℤ} {row : StudyReminderJob}
      (hi : s.workers[i]? = some worker) (hpc : worker.pc = .finalizing)
      (hsettled : pc.stance = .settled) (hcounts : CountsTry worker.job pc)
      (hrow : s.row.markSent worker.token now (some "sent") (some worker.deliveryKey) = some row) :
      Moves maxRetries s (s.advance i worker pc row)
  | failed {i : ℕ} {worker : DispatchWorker} {failure : Failure} {row : StudyReminderJob}
      (hi : s.workers[i]? = some worker) (hpc : worker.pc = .failing failure)
      (hrow : s.row.markFailed worker.token failure = some row) :
      Moves maxRetries s (s.advance i worker .done row)
  | cancelled {i : ℕ} {worker : DispatchWorker} {reason : String} {pc : DispatchPc}
      {row : StudyReminderJob} (hi : s.workers[i]? = some worker)
      (hpc : worker.pc = .cancelling reason) (hturn : Stance.declined.turns pc.stance = true)
      (hcounts : CountsTry worker.job pc)
      (hrow : s.row.markCancelled worker.token reason = some row) :
      Moves maxRetries s (s.advance i worker pc row)
  | reset {now olderThan : ℤ} {row : StudyReminderJob}
      (hrow : s.row.resetStuck now olderThan .failed = some row) :
      Moves maxRetries s { s with row := row }
  | synced {input : UpsertStudyReminderJobInput} (hown : s.row.scheduleChanged input = false)
      (hretries : input.maxRetries = maxRetries) :
      Moves maxRetries s { s with row := s.row.applyExisting input true }

lemma countsTry_notSentFailure (job : StudyReminderJob) (error : ClassifiedError) :
    CountsTry job (.failing (notSentFailure job error)) := by
  rintro _ ⟨⟩
  simp only [notSentFailure]
  split
  · exact le_max_left _ _
  · exact le_rfl

section

variable (job : StudyReminderJob) (out : DeliveryOutcome) (committed : Bool)
  (error : ClassifiedError)
include job out committed error

lemma countsTry_afterDelivery : CountsTry job (afterDelivery job out committed error) := by
  have huncom : ∀ out, CountsTry job
      (.failing (uncommittedFailure job out error.errorMessage)) := by
    rintro out _ ⟨⟩
    exact le_max_left _ _
  have hterm : ∀ out, CountsTry job (.failing (terminalFailure job out)) := by
    rintro out _ ⟨⟩
    exact le_rfl
  cases out with
  | notSent => exact countsTry_notSentFailure job error
  | sent =>
    cases committed with
    | true => rintro _ ⟨⟩
    | false => exact huncom .sent
  | ambiguous =>
    cases committed with
    | true => exact hterm .ambiguous
    | false => exact huncom .ambiguous
  | rateLimited =>
    cases committed with
    | true => exact hterm .rateLimited
    | false => exact huncom .rateLimited

lemma stance_afterDelivery :
    (afterDelivery job out committed error).stance = (DispatchPc.reported out).stance := by
  cases out <;> cases committed <;> rfl

end

lemma turns_reported (out : DeliveryOutcome) :
    (DispatchPc.reported out).stance.turns (DispatchPc.reported out).stance = true := by
  cases out <;> rfl

variable {maxRetries : ℤ} {s t : ReminderSystem} {w : DispatchWorker}

lemma moves_passFence {i : ℕ} (hi : s.workers[i]? = some w) (hpc : w.pc = .claimed)
    (ans : Fence) : Moves maxRetries s (s.passFence i w ans) := by
  have hst : w.pc.stance = .mayCall := by rw [hpc]; rfl
  cases ans with
  | owned =>
    simp only [passFence]
    cases hrow : s.row.ownDelivery w.token w.deliveryKey with
    | some => exact .call hi hpc hrow
    | none => exact .turn hi (by rw [hst]; rfl) (by rintro _ ⟨⟩)
  | refused => exact .turn hi (by rw [hst]; rfl) (by rintro _ ⟨⟩)
  | unavailable error =>
    exact .turn hi (by rw [hst]; rfl) (countsTry_notSentFailure w.job error)

lemma moves_writeNext {i : ℕ} {reply : StatementReply} {now : ℤ} {error : ClassifiedError}
    (hi : s.workers[i]? = some w) (h : s.writeNext i w reply now error = some t) :
    Moves maxRetries s t := by
  unfold writeNext at h
  cases hpc : w.pc with
  | finalizing =>
    -- the row is marked or not, and an error makes the worker record an ambiguous delivery
    have hmove : ∀ pc : DispatchPc, pc.stance = .settled → CountsTry w.job pc →
        Moves maxRetries s (s.advance i w pc (reply.row
          (s.row.markSent w.token now (some "sent") (some w.deliveryKey)) s.row)) := by
      intro pc hset hcnts
      rcases StatementReply.row_cases reply (s.row.markSent w.token now (some "sent")
        (some w.deliveryKey)) s.row with hsame | hrow
      · rw [hsame]
        exact .turn hi (by rw [hpc, hset]; rfl) hcnts
      · exact .sent hi hpc hset hcnts hrow
    simp only [hpc] at h
    cases hreply : reply with
    | returned =>
      simp only [hreply] at h hmove
      cases h
      exact hmove .done rfl (by rintro _ ⟨⟩)
    | failed =>
      simp only [hreply] at h hmove
      cases h
      refine hmove _ rfl ?_
      rintro _ ⟨⟩
      exact le_rfl
  | failing fail =>
    simp only [hpc] at h
    cases h
    rcases StatementReply.row_cases reply (s.row.markFailed w.token fail) s.row with
      hsame | hrow
    · rw [hsame]
      refine .turn hi ?_ (by rintro _ ⟨⟩)
      cases w.pc.stance <;> rfl
    · exact .failed hi hpc hrow
  | cancelling reason =>
    have hmove : ∀ pc : DispatchPc, Stance.declined.turns pc.stance = true →
        CountsTry w.job pc →
        Moves maxRetries s (s.advance i w pc
          (reply.row (s.row.markCancelled w.token reason) s.row)) := by
      intro _ hturn hcnts
      rcases StatementReply.row_cases reply (s.row.markCancelled w.token reason) s.row with
        hsame | hrow
      · rw [hsame]
        exact .turn hi (by rw [hpc]; exact hturn) hcnts
      · exact .cancelled hi hpc hturn hcnts hrow
    simp only [hpc] at h
    cases hreply : reply with
    | returned =>
      simp only [hreply] at h hmove
      cases h
      exact hmove .done rfl (by rintro _ ⟨⟩)
    | failed =>
      simp only [hreply] at h hmove
      cases h
      exact hmove _ rfl (countsTry_notSentFailure w.job error)
  | claimed => simp [hpc] at h
  | authorized => simp [hpc] at h
  | reported => simp [hpc] at h
  | done => simp [hpc] at h

lemma moves_of_act {i : ℕ} {action : WorkerAction} (hi : s.workers[i]? = some w)
    (h : s.act i w action = some t) : Moves maxRetries s t := by
  cases action with
  | fence ans =>
    simp only [act] at h
    split at h
    next hpc =>
      cases h
      exact moves_passFence hi hpc ans
    · cases h
  | send =>
    simp only [act] at h
    split at h
    next hpc =>
      cases h
      exact .answer hi hpc
    · cases h
  | commit committed error =>
    simp only [act] at h
    split at h
    next out hpc =>
      cases h
      refine .turn hi ?_ (countsTry_afterDelivery w.job out committed error)
      rw [hpc, stance_afterDelivery]
      exact turns_reported out
    · cases h
  | giveUp error =>
    simp only [act] at h
    split at h
    next hpc =>
      cases h
      exact .turn hi (by rw [hpc]; rfl) (countsTry_notSentFailure w.job error)
    · cases h
  | cancel =>
    simp only [act] at h
    split at h
    next hpc =>
      cases h
      exact .turn hi (by rw [hpc]; rfl) (by rintro _ ⟨⟩)
    · cases h
  | write => exact moves_writeNext hi h
  | crash =>
    cases h
    refine .turn hi ?_ (by rintro _ ⟨⟩)
    cases w.pc.stance <;> rfl

/-- A sync comes with the schedule that the row has. -/
def KeepsSchedule (s : ReminderSystem) (maxRetries : ℤ) : ReminderEvent → Prop
  | .upsert input => s.row.scheduleChanged input = false ∧ input.maxRetries = maxRetries
  | _ => True

instance (s : ReminderSystem) (maxRetries : ℤ) (e : ReminderEvent) :
    Decidable (s.KeepsSchedule maxRetries e) := by
  unfold KeepsSchedule
  split <;> infer_instance

lemma moves_of_step {e : ReminderEvent} (hkeeps : s.KeepsSchedule maxRetries e)
    (h : s.step e = some t) : Moves maxRetries s t := by
  cases e with
  | claim now ms =>
    simp only [step] at h
    cases hrow : s.row.claimJob s.nextToken now ms with
    | none =>
      simp only [hrow] at h
      cases h
      exact .idle
    | some =>
      simp only [hrow] at h
      cases h
      exact .claim hrow
  | act =>
    obtain ⟨_, hi, hact⟩ := Option.bind_eq_some_iff.mp h
    exact moves_of_act hi hact
  | resetStuck now olderThan =>
    cases h
    cases hrow : s.row.resetStuck now olderThan .failed with
    | none => exact .idle
    | some => exact .reset hrow
  | upsert =>
    cases h
    exact .synced hkeeps.1 hkeeps.2

end ReminderSystem

end WispaceBot
