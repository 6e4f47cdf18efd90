import WispaceBot.Foundation.Run
import WispaceBot.Reschedule.Recovery
import WispaceBot.Reschedule.Service

/-!
# Interleavings of the reschedule processes

A step starts a process, lets one make its next awaited call, or stops one for good.  Random
identifiers are fresh.  `Proc.op` names the store method the next call of a process invokes, and
`Proc.step_db` says that a step changes the tables by that method or not at all.
-/

namespace WispaceBot

open TypeormRescheduleStore TypeormRescheduleAttemptStore RescheduleRecoveryCron StoreOp

/-! ## Processes -/

/-- Where a tick of the recovery is. -/
inductive RecoveryPc
  /-- `listStaleProcessing`. -/
  | start
  /-- `findAttempt` for the first of the rows that are left. -/
  | lookup (rows : List StaleRow)
  /-- `cancelStaleRow` or `revertStaleRow`, by the attempt seen, and then the rows that are left. -/
  | settle (row : StaleRow) (attempt : Option RescheduleConfirmationAttemptEntity)
      (rest : List StaleRow)
  | done

/-- A failed lookup counts as no attempt, any other failed call ends the tick. -/
def RecoveryPc.step (platform : Platform) (env : Env) (db : RescheduleDb) :
    RecoveryPc → RescheduleDb × RecoveryPc
  | .start =>
    if env.reply ≠ .returned then (db, .done)
    else (db, .lookup (listStaleProcessing staleAfterMs env.now db))
  | .lookup [] => (db, .done)
  | .lookup (row :: rest) =>
    (db, .settle row (lookupAttempt platform (decide (env.reply ≠ .returned)) row db) rest)
  | .settle row attempt rest =>
    let (db', returned) := env.reply.exec (settleStaleRow env.now row attempt) db
    (db', if returned then .lookup rest else .done)
  | .done => (db, .done)

/-- A running process, with the awaited call it makes next. -/
inductive Proc
  | confirm (call : ConfirmCall) (pc : ConfirmPc)
  | stage (input : StageInput) (pc : StagePc)
  | cancel (call : CancelCall) (pc : CancelPc)
  | recovery (platform : Platform) (pc : RecoveryPc)
  | crashed

/-- What the processes are configured with: the options of the bots and the hash function. -/
structure Config where
  options : Platform → RescheduleConfirmationOptions
  sha256 : String → String

/-- A staged request: the learner on a platform and the nonce of the approval. -/
structure Request where
  platform : Platform
  (externalId nonce : String)
  deriving DecidableEq

/-- A call to the calendar, and whether it returned. -/
structure WriteCall where
  request : Request
  userId : ℤ
  returned : Bool

/-- `rescheduleSession` returned. -/
def WriteReply.isReturned : WriteReply → Bool
  | .returned _ => true
  | _ => false

namespace Proc

/-- The next awaited call of a process: the database it leaves and the process after it. -/
def step (cfg : Config) (env : Env) (db : RescheduleDb) : Proc → RescheduleDb × Proc
  | .confirm call pc =>
    ((call.step (cfg.options call.platform) env db pc).1,
      .confirm call (call.step (cfg.options call.platform) env db pc).2)
  | .stage input pc =>
    ((input.step cfg.sha256 env db pc).1, .stage input (input.step cfg.sha256 env db pc).2)
  | .cancel call pc => ((call.step env db pc).1, .cancel call (call.step env db pc).2)
  | .recovery platform pc =>
    ((pc.step platform env db).1, .recovery platform (pc.step platform env db).2)
  | .crashed => (db, .crashed)

def leases (env : Env) : Proc → List String
  | .confirm _ .take => [env.uuid]
  | _ => []

def requests (env : Env) : Proc → List Request
  | .stage input (.save _) => [⟨input.botPlatform, input.externalId, env.uuid⟩]
  | _ => []

/-- The calls of `rescheduleSession` made by the next step of a process. -/
def writes (env : Env) : Proc → List WriteCall
  | .confirm call (.write claim) =>
    [⟨⟨call.platform, call.externalId, claim.attemptNonce⟩, claim.pending.userId,
      env.write.isReturned⟩]
  | _ => []

end Proc

/-! ## The system -/

/-- The tables and the processes, with the calls and requests so far. -/
structure RescheduleSystem where
  db : RescheduleDb
  procs : List Proc
  writes : List WriteCall
  requests : List Request
  leases : List String

/-- The system before the first process is started. -/
def RescheduleSystem.init : RescheduleSystem where
  db := .empty
  procs := []
  writes := []
  requests := []
  leases := []

/-- A process starts, takes a step, or crashes. -/
inductive RescheduleEvent
  | confirm (call : ConfirmCall)
  | stage (input : StageInput)
  | cancel (call : CancelCall)
  | tick (platform : Platform)
  | advance (i : ℕ) (env : Env)
  | crash (i : ℕ)

namespace RescheduleSystem

def launch (s : RescheduleSystem) (p : Proc) : RescheduleSystem :=
  { s with procs := s.procs ++ [p] }

/-- The identifiers that process `p` draws in its next call have not been drawn before. -/
def Fresh (s : RescheduleSystem) (env : Env) (p : Proc) : Prop :=
  (∀ l ∈ p.leases env, l ∉ s.leases) ∧ ∀ q ∈ p.requests env, q.nonce ∉ s.requests.map Request.nonce
  deriving Decidable

/-- Process `i`, which is `p`, makes its next awaited call. -/
def advance (cfg : Config) (s : RescheduleSystem) (i : ℕ) (env : Env) (p : Proc) :
    RescheduleSystem where
  db := (p.step cfg env s.db).1
  procs := s.procs.set i (p.step cfg env s.db).2
  writes := s.writes ++ p.writes env
  requests := p.requests env ++ s.requests
  leases := p.leases env ++ s.leases

def step (cfg : Config) (s : RescheduleSystem) : RescheduleEvent → Option RescheduleSystem
  | .confirm call => some (s.launch (.confirm call .start))
  | .stage input => some (s.launch (.stage input .start))
  | .cancel call => some (s.launch (.cancel call .start))
  | .tick platform => some (s.launch (.recovery platform .start))
  | .advance i env =>
    match s.procs[i]? with
    | none => none
    | some p => if s.Fresh env p then some (s.advance cfg i env p) else none
  | .crash i =>
    match s.procs[i]? with
    | none => none
    | some _ => some { s with procs := s.procs.set i .crashed }

end RescheduleSystem

/-- The process has just started. -/
inductive Proc.IsNew : Proc → Prop
  | confirm (call : ConfirmCall) : IsNew (.confirm call .start)
  | stage (input : StageInput) : IsNew (.stage input .start)
  | cancel (call : CancelCall) : IsNew (.cancel call .start)
  | recovery (platform : Platform) : IsNew (.recovery platform .start)

variable {s t : RescheduleSystem} {cfg : Config} {e : RescheduleEvent}

lemma RescheduleSystem.step_cases (h : s.step cfg e = some t) :
    (∃ p, p.IsNew ∧ t = s.launch p) ∨
      (∃ i env p, e = .advance i env ∧ s.procs[i]? = some p ∧ s.Fresh env p ∧
        t = s.advance cfg i env p) ∨
      ∃ i p, s.procs[i]? = some p ∧ t = { s with procs := s.procs.set i .crashed } := by
  cases e with
  | confirm call => exact .inl ⟨_, .confirm call, (Option.some.inj h).symm⟩
  | stage input => exact .inl ⟨_, .stage input, (Option.some.inj h).symm⟩
  | cancel call => exact .inl ⟨_, .cancel call, (Option.some.inj h).symm⟩
  | tick platform => exact .inl ⟨_, .recovery platform, (Option.some.inj h).symm⟩
  | advance i env =>
    simp only [step] at h
    split at h
    · simp at h
    next p hp =>
      split at h
      next hfresh =>
        exact .inr (.inl ⟨i, env, p, rfl, hp, hfresh, (Option.some.inj h).symm⟩)
      · simp at h
  | crash i =>
    simp only [step] at h
    split at h
    · simp at h
    next p hp =>
      exact .inr (.inr ⟨i, p, hp, (Option.some.inj h).symm⟩)

lemma RescheduleSystem.eq_advance_of_step {i : ℕ} {env : Env} {p : Proc} (hp : s.procs[i]? = some p)
    (h : s.step cfg (.advance i env) = some t) : t = s.advance cfg i env p := by
  simp only [step, hp] at h
  split at h
  · exact (Option.some.inj h).symm
  · simp at h

/-! ## The store method behind a step -/

/-- The mutating store method that the next call of `confirm` invokes. -/
def ConfirmCall.op (call : ConfirmCall) (env : Env) : ConfirmPc → Option StoreOp
  | .start => some (.getPendingState call.platform env.appNow env.now call.externalId)
  | .take =>
    some (.takeValid call.platform env.now env.uuid call.externalId call.userId call.claimBinding)
  | .recheckState => some (.getPendingState call.platform env.appNow env.now call.externalId)
  | .begin claim =>
    some (.beginAttempt call.platform call.externalId claim.attemptNonce claim.pending.userId)
  | .record claim label =>
    some (.confirmAttempt call.platform call.externalId claim.attemptNonce label)
  | .cleanup claim _ => some (.cancelClaimed call.platform call.externalId claim.leaseToken)
  | .clear claim _ => some (.clearAttempt call.platform call.externalId claim.attemptNonce)
  | .drop claim => some (.cancelClaimed call.platform call.externalId claim.leaseToken)
  | .giveBack leaseToken _ =>
    some (.revertToPending call.platform env.now call.externalId leaseToken)
  | _ => none

/-- The mutating store method that the next call of `stage` invokes. -/
def StageInput.op (sha256 : String → String) (input : StageInput) (env : Env) :
    StagePc → Option StoreOp
  | .save entry => some (.save input.botPlatform env.uuid (input.pendingRecord sha256 env entry))
  | .abort nonce _ => some (.cancelPending input.botPlatform input.externalId (some nonce))
  | _ => none

/-- The mutating store method that the next call of `cancel` invokes. -/
def CancelCall.op (call : CancelCall) (env : Env) : CancelPc → Option StoreOp
  | .start => some (.getPendingState call.platform env.appNow env.now call.externalId)
  | .remove => some (.cancelPending call.platform call.externalId call.approvalToken)
  | .done _ => none

/-- The mutating store method that the next call of a tick invokes. -/
def RecoveryPc.op (env : Env) : RecoveryPc → Option StoreOp
  | .settle row none _ => some (.revertStaleRow env.now row.id)
  | .settle row (some _) _ => some (.cancelStaleRow row.id)
  | _ => none

/-- The mutating store method that the next call of a process invokes. -/
def Proc.op (cfg : Config) (env : Env) : Proc → Option StoreOp
  | .confirm call pc => call.op env pc
  | .stage input pc => input.op cfg.sha256 env pc
  | .cancel call pc => call.op env pc
  | .recovery _ pc => pc.op env
  | .crashed => none

namespace Reply

variable {α : Type} (reply : Reply) (db : RescheduleDb)

lemma call_fst (f : RescheduleDb → RescheduleDb × α) :
    (reply.call f db).1 = if reply.applied then (f db).1 else db := by
  rcases reply with _ | (_ | _) <;> rfl

lemma exec_fst (f : RescheduleDb → RescheduleDb) :
    (reply.exec f db).1 = if reply.applied then f db else db := by
  rcases reply with _ | (_ | _) <;> rfl

lemma exec_snd (f : RescheduleDb → RescheduleDb) (h : (reply.exec f db).2 = true) :
    reply.applied = true := by
  rcases reply with _ | (_ | _)
  · rfl
  · simp [exec] at h
  · rfl

lemma call_snd {f : RescheduleDb → RescheduleDb × α} {a : α}
    (h : (reply.call f db).2 = some a) : reply.applied = true ∧ (f db).2 = a := by
  rcases reply with _ | (_ | _)
  · exact ⟨rfl, Option.some.inj h⟩
  · simp [call] at h
  · simp [call] at h

end Reply

def StoreOp.MayChange (op : Option StoreOp) (env : Env) (db db' : RescheduleDb) : Prop :=
  db' = db ∨ ∃ o, op = some o ∧ env.reply.applied = true ∧ db' = o.apply db

lemma StoreOp.mayChange_call {α : Type} {f : RescheduleDb → RescheduleDb × α} (o : StoreOp)
    (hf : ∀ db, (f db).1 = o.apply db) (env : Env) (db : RescheduleDb) :
    MayChange (some o) env db (env.reply.call f db).1 := by
  rw [Reply.call_fst]
  cases happ : env.reply.applied with
  | true => exact .inr ⟨o, rfl, happ, hf db⟩
  | false => exact .inl rfl

lemma StoreOp.mayChange_exec {f : RescheduleDb → RescheduleDb} (o : StoreOp)
    (hf : ∀ db, f db = o.apply db) (env : Env) (db : RescheduleDb) :
    MayChange (some o) env db (env.reply.exec f db).1 := by
  rw [Reply.exec_fst]
  cases happ : env.reply.applied with
  | true => exact .inr ⟨o, rfl, happ, hf db⟩
  | false => exact .inl rfl

lemma ConfirmCall.step_db (options : RescheduleConfirmationOptions) (call : ConfirmCall)
    (env : Env) (db : RescheduleDb) (pc : ConfirmPc) :
    MayChange (call.op env pc) env db (call.step options env db pc).1 := by
  cases pc with
  | start =>
    have hcall := mayChange_call
      (.getPendingState call.platform env.appNow env.now call.externalId) (fun _ => rfl) env db
    simp only [step]
    split
    · exact .inl rfl
    · split <;> exact hcall
  | take =>
    have hcall := mayChange_call
      (.takeValid call.platform env.now env.uuid call.externalId call.userId call.claimBinding)
      (fun _ => rfl) env db
    simp only [step]
    split <;> exact hcall
  | findRecorded =>
    simp only [step]
    split
    · exact .inl rfl
    · split
      · exact .inl rfl
      · split <;> exact .inl rfl
  | recheckState =>
    have hcall := mayChange_call
      (.getPendingState call.platform env.appNow env.now call.externalId) (fun _ => rfl) env db
    simp only [step]
    split <;> exact hcall
  | consume | lookup =>
    simp only [step]
    split
    · exact .inl rfl
    · split <;> exact .inl rfl
  | begin claim =>
    have hcall := mayChange_exec
      (.beginAttempt call.platform call.externalId claim.attemptNonce claim.pending.userId)
      (fun _ => rfl) env db
    simp only [step]
    split <;> exact hcall
  | write | refund =>
    simp only [step]
    split <;> exact .inl rfl
  | record claim label =>
    have hcall := mayChange_call
      (.confirmAttempt call.platform call.externalId claim.attemptNonce label)
      (fun _ => rfl) env db
    simp only [step]
    split <;> exact hcall
  | cleanup | clear | drop | giveBack => exact mayChange_exec _ (fun _ => rfl) env db
  | done => exact .inl rfl

lemma StageInput.step_db (sha256 : String → String) (input : StageInput) (env : Env)
    (db : RescheduleDb) (pc : StagePc) :
    MayChange (input.op sha256 env pc) env db (input.step sha256 env db pc).1 := by
  cases pc with
  | start =>
    have hsame : (input.step sha256 env db .start).1 = db := by
      simp only [step]
      repeat' split
      all_goals rfl
    exact .inl hsame
  | save entry =>
    have hcall := mayChange_call
      (.save input.botPlatform env.uuid (input.pendingRecord sha256 env entry))
      (fun _ => rfl) env db
    simp only [step]
    split <;> exact hcall
  | abort => exact mayChange_call _ (fun _ => rfl) env db
  | done => exact .inl rfl

lemma CancelCall.step_db (call : CancelCall) (env : Env) (db : RescheduleDb) (pc : CancelPc) :
    MayChange (call.op env pc) env db (call.step env db pc).1 := by
  cases pc with
  | start =>
    have hcall := mayChange_call
      (.getPendingState call.platform env.appNow env.now call.externalId) (fun _ => rfl) env db
    simp only [step]
    split
    · exact .inl rfl
    · split <;> exact hcall
  | remove => exact mayChange_call _ (fun _ => rfl) env db
  | done => exact .inl rfl

lemma RecoveryPc.step_db (p : Platform) (env : Env) (db : RescheduleDb) (pc : RecoveryPc) :
    MayChange (pc.op env) env db (pc.step p env db).1 := by
  cases pc with
  | start =>
    simp only [step]
    split <;> exact .inl rfl
  | lookup rows => cases rows <;> exact .inl rfl
  | settle row att =>
    cases att with
    | none => exact mayChange_exec (.revertStaleRow env.now row.id) (fun _ => rfl) env db
    | some =>
      refine mayChange_exec (.cancelStaleRow row.id) (fun db => ?_) env db
      rw [settleStaleRow_eq]
      rfl
  | done => exact .inl rfl

lemma Proc.step_db (cfg : Config) (env : Env) (db : RescheduleDb) (p : Proc) :
    MayChange (p.op cfg env) env db (p.step cfg env db).1 := by
  cases p with
  | confirm call pc => exact call.step_db _ env db pc
  | stage input pc => exact input.step_db _ env db pc
  | cancel call pc => exact call.step_db env db pc
  | recovery platform pc => exact pc.step_db platform env db
  | crashed => exact .inl rfl

lemma RescheduleSystem.wellFormed_step (hs : s.db.WellFormed) (h : s.step cfg e = some t) :
    t.db.WellFormed := by
  rcases step_cases h with ⟨p, -, rfl⟩ | ⟨_, env, p, -, -, -, rfl⟩ | ⟨_, p, -, rfl⟩
  · exact hs
  · change (p.step cfg env s.db).1.WellFormed
    rcases p.step_db cfg env s.db with hdb | ⟨o, -, -, hdb⟩
    · rwa [hdb]
    · rw [hdb]
      exact hs.apply o
  · exact hs

/-! ## A learner on Messenger -/

namespace Sample

def config : Config where
  options _ := ⟨true, true, none⟩
  sha256 text := "sha256:" ++ text

/-- A step at this time in which every call succeeds. -/
def env (now : ℤ) : Env where
  appNow := now
  now := now
  uuid := ""
  reply := .returned
  consumed := true
  write := .returned "21/09 19:00"
  upcoming := [⟨7, "20/09 19:00", some 42⟩]
  abortedBefore := false
  aborted := false
  abortError := false

def nonce : String := "11111111-1111-4111-8111-111111111111"

def input : StageInput where
  botPlatform := .messenger
  externalId := "psid-1"
  userId := 42
  calendarId := 7
  schedulingMode := .defaultNextDaySameTime
  newLocalDate := none
  newTime := none
  platform := some "messenger"
  mappingVersion := some "1:1"
  intent := some "reschedule"
  canonicalArgs := some "calendarId=7"

def record : PendingRescheduleRecord :=
  input.pendingRecord config.sha256 { env 0 with uuid := nonce } ⟨7, "20/09 19:00", some 42⟩

def call : ConfirmCall where
  platform := .messenger
  externalId := "psid-1"
  userId := some 42
  approvalToken := some nonce
  binding := some ⟨some "messenger", some "1:1", none, none, none⟩

/-- The request is staged by process 0 and claimed by process 1 under `lease-1`. -/
def claimed : List RescheduleEvent :=
  [.stage input, .advance 0 (env 0), .advance 0 { env 0 with uuid := nonce },
    .confirm call, .advance 1 (env 1000), .advance 1 { env 1000 with uuid := "lease-1" }]

end Sample

end WispaceBot
