import WispaceBot.Reschedule.ConfirmationStore

/-!
# The attempt store

The table `reschedule_confirmation_attempts` records, per `(platform, external id, nonce)`, that a
calendar write was started (`attempting`) and that it returned (`confirmed`).  `StoreOp` collects
the mutating methods of both stores; `RescheduleDb.WellFormed` is what every sequence of them keeps.
-/

namespace WispaceBot

open Table

namespace TypeormRescheduleAttemptStore

/-- The identity of an attempt: `idx_reschedule_attempt_identity_unique`. -/
def identity (row : RescheduleConfirmationAttemptEntity) : Platform × String × String :=
  (row.platform, row.externalId, row.nonce)

/-- The row `beginAttempt` inserts. -/
def startedRow (platform : Platform) (externalId nonce : String) (userId : ℤ) :
    RescheduleConfirmationAttemptEntity where
  platform := platform
  externalId := externalId
  nonce := nonce
  userId := userId
  status := .attempting
  scheduledTimeLabel := none
  notificationStatus := .pending
  notificationAttempts := 0
  nextNotificationAttemptAt := none

/-- What `beginAttempt` writes over an existing attempt. -/
def restarted (row : RescheduleConfirmationAttemptEntity) : RescheduleConfirmationAttemptEntity :=
  { row with
    status := .attempting
    notificationStatus := .pending
    notificationAttempts := 0 }

/-- `beginAttempt`: record that a calendar write is about to be started. -/
def beginAttempt (platform : Platform) (externalId nonce : String) (userId : ℤ)
    (db : RescheduleDb) : RescheduleDb :=
  { db with
    attempts := (insertOnConflict identity (fun _ => true) restarted
      (startedRow platform externalId nonce userId) db.attempts).1 }

/-- The attempt of this learner under this nonce, on the platform of the store. -/
def isAttemptOf (platform : Platform) (externalId nonce : String)
    (row : RescheduleConfirmationAttemptEntity) : Bool :=
  decide (row.externalId = externalId) && decide (row.nonce = nonce) &&
    decide (row.platform = platform)

/-- What `confirmAttempt` writes. -/
def committed (scheduledTimeLabel : String) (row : RescheduleConfirmationAttemptEntity) :
    RescheduleConfirmationAttemptEntity :=
  { row with
    status := .confirmed
    scheduledTimeLabel := some scheduledTimeLabel }

section

variable (platform : Platform)

/-- The row `confirmAttempt` selects: a started attempt that has not been recorded as returned. -/
def isOpenAttemptOf (externalId nonce : String) (row : RescheduleConfirmationAttemptEntity) :
    Bool :=
  isAttemptOf platform externalId nonce row && decide (row.status = .attempting)

/-- The flag says whether a started attempt was found. -/
def confirmAttempt (externalId nonce scheduledTimeLabel : String) (db : RescheduleDb) :
    RescheduleDb × Bool :=
  ({ db with
      attempts := updateWhere (isOpenAttemptOf platform externalId nonce)
        (committed scheduledTimeLabel) db.attempts },
    db.attempts.any (isOpenAttemptOf platform externalId nonce))

/-- `clearAttempt`: forget an attempt whose write did not commit. -/
def clearAttempt (externalId nonce : String) (db : RescheduleDb) : RescheduleDb :=
  { db with
    attempts := deleteWhere (isAttemptOf platform externalId nonce) db.attempts }

/-- `findAttempt`: the attempt of this learner under this nonce, if one is recorded. -/
def findAttempt (externalId nonce : String) (db : RescheduleDb) :
    Option RescheduleConfirmationAttemptEntity :=
  db.attempts.find? (isAttemptOf platform externalId nonce)

end

variable {ext nonce : String} {p : Platform}

lemma isAttemptOf_iff {row : RescheduleConfirmationAttemptEntity} :
    isAttemptOf p ext nonce row = true ↔ identity row = (p, ext, nonce) := by
  simp only [isAttemptOf, identity, Bool.and_eq_true, decide_eq_true_eq, Prod.mk.injEq]
  tauto

lemma findAttempt_eq_none_iff {db : RescheduleDb} :
    findAttempt p ext nonce db = none ↔ ∀ a ∈ db.attempts, identity a ≠ (p, ext, nonce) := by
  simp [findAttempt, isAttemptOf_iff]

lemma mem_of_findAttempt {db : RescheduleDb} {a : RescheduleConfirmationAttemptEntity}
    (h : findAttempt p ext nonce db = some a) : a ∈ db.attempts ∧ identity a = (p, ext, nonce) :=
  ⟨List.mem_of_find?_eq_some h, isAttemptOf_iff.mp (List.find?_some h)⟩

end TypeormRescheduleAttemptStore

open TypeormRescheduleStore TypeormRescheduleAttemptStore

/-! ## The mutating methods of the two stores -/

/-- The operations on the two tables. -/
inductive StoreOp
  | save (platform : Platform) (uuid : String) (pending : PendingRescheduleRecord)
  | takeValid (platform : Platform) (now : ℤ) (leaseToken externalId : String)
      (userId : Option ℤ) (binding : RescheduleApprovalBinding)
  | revertToPending (platform : Platform) (now : ℤ) (externalId leaseToken : String)
  | cancelPending (platform : Platform) (externalId : String) (nonce : Option String)
  | cancelClaimed (platform : Platform) (externalId leaseToken : String)
  | getPendingState (platform : Platform) (appNow now : ℤ) (externalId : String)
  | revertStaleRow (now : ℤ) (id : ℕ)
  | cancelStaleRow (id : ℕ)
  | beginAttempt (platform : Platform) (externalId nonce : String) (userId : ℤ)
  | confirmAttempt (platform : Platform) (externalId nonce scheduledTimeLabel : String)
  | clearAttempt (platform : Platform) (externalId nonce : String)

def StoreOp.apply : StoreOp → RescheduleDb → RescheduleDb
  | .save platform uuid pending, db => (TypeormRescheduleStore.save platform uuid pending db).1
  | .takeValid platform now leaseToken externalId userId binding, db =>
    (TypeormRescheduleStore.takeValid platform now leaseToken externalId userId binding db).1
  | .revertToPending platform now externalId leaseToken, db =>
    TypeormRescheduleStore.revertToPending platform now externalId leaseToken db
  | .cancelPending platform externalId nonce, db =>
    (TypeormRescheduleStore.cancelPending platform externalId nonce db).1
  | .cancelClaimed platform externalId leaseToken, db =>
    TypeormRescheduleStore.cancelClaimed platform externalId leaseToken db
  | .getPendingState platform appNow now externalId, db =>
    (TypeormRescheduleStore.getPendingState platform appNow now externalId db).1
  | .revertStaleRow now id, db => TypeormRescheduleStore.revertStaleRow now id db
  | .cancelStaleRow id, db => TypeormRescheduleStore.cancelStaleRow id db
  | .beginAttempt platform externalId nonce userId, db =>
    TypeormRescheduleAttemptStore.beginAttempt platform externalId nonce userId db
  | .confirmAttempt platform externalId nonce scheduledTimeLabel, db =>
    (TypeormRescheduleAttemptStore.confirmAttempt platform externalId nonce scheduledTimeLabel db).1
  | .clearAttempt platform externalId nonce, db =>
    TypeormRescheduleAttemptStore.clearAttempt platform externalId nonce db

def RescheduleDb.after (db : RescheduleDb) (ops : List StoreOp) : RescheduleDb :=
  ops.foldl (fun db op => op.apply db) db

/-- The keys of the tables, and rows as the store writes them. -/
structure RescheduleDb.WellFormed (db : RescheduleDb) : Prop where
  unique_id : UniqueOn RescheduleConfirmationEntity.id db.confirmations
  /-- `idx_reschedule_confirm_external_unique`. -/
  unique_externalId : UniqueOn RescheduleConfirmationEntity.externalId db.confirmations
  id_lt : ∀ r ∈ db.confirmations, r.id < db.nextId
  /-- `idx_reschedule_attempt_identity_unique`. -/
  unique_attempt : UniqueOn identity db.attempts

lemma RescheduleDb.wellFormed_empty : RescheduleDb.empty.WellFormed := by
  refine ⟨?_, ?_, ?_, ?_⟩ <;> simp [RescheduleDb.empty, UniqueOn]

namespace RescheduleDb.WellFormed

variable {db : RescheduleDb}

section

variable (h : db.WellFormed)
include h

lemma updateWhere {p : RescheduleConfirmationEntity → Bool}
    {f : RescheduleConfirmationEntity → RescheduleConfirmationEntity} (hid : ∀ r, (f r).id = r.id)
    (hkey : ∀ r, (f r).externalId = r.externalId) :
    { db with confirmations := updateWhere p f db.confirmations }.WellFormed := by
  refine ⟨h.unique_id.updateWhere hid, h.unique_externalId.updateWhere hkey, ?_, h.unique_attempt⟩
  intro r hr
  rcases mem_updateWhere.mp hr with ⟨q, hq, -, rfl⟩ | ⟨hq, -⟩
  · rw [hid]
    exact h.id_lt q hq
  · exact h.id_lt r hq

lemma deleteWhere (p : RescheduleConfirmationEntity → Bool) :
    { db with confirmations := deleteWhere p db.confirmations }.WellFormed :=
  ⟨h.unique_id.deleteWhere, h.unique_externalId.deleteWhere,
    fun r hr => h.id_lt r (mem_deleteWhere.mp hr).1, h.unique_attempt⟩

lemma save (p : Platform) (uuid : String) (pending : PendingRescheduleRecord) :
    (TypeormRescheduleStore.save p uuid pending db).1.WellFormed := by
  have hfresh : ∀ q ∈ db.confirmations,
      q.id ≠ (pendingRow p uuid pending db.nextId).id :=
    fun q hq => (h.id_lt q hq).ne
  refine ⟨h.unique_id.insertOnConflict (fun _ _ => rfl) (fun _ => hfresh),
    h.unique_externalId.insertOnConflict (fun _ _ => rfl) id, ?_, h.unique_attempt⟩
  intro r hr
  rcases mem_insertOnConflict hr with ⟨rfl, -⟩ | ⟨q, hq, -, -, rfl⟩ | ⟨hq, -⟩
  · exact Nat.lt_succ_self _
  · exact Nat.lt_succ_of_lt (h.id_lt q hq)
  · exact Nat.lt_succ_of_lt (h.id_lt r hq)

lemma apply (op : StoreOp) : (op.apply db).WellFormed := by
  cases op with
  | save p uuid pending => exact h.save p uuid pending
  | takeValid | revertToPending | revertStaleRow | cancelStaleRow =>
    exact h.updateWhere (fun _ => rfl) (fun _ => rfl)
  | cancelPending p ext nonce =>
    simp only [StoreOp.apply]
    rcases cancelPending_fst p ext nonce db with hdb | hdb <;> rw [hdb]
    · exact h
    · exact h.deleteWhere _
  | cancelClaimed => exact h.deleteWhere _
  | getPendingState p appNow now ext =>
    simp only [StoreOp.apply]
    rcases getPendingState_fst p appNow now ext db with hdb | hdb <;> rw [hdb]
    · exact h
    · exact h.deleteWhere _
  | beginAttempt =>
    exact ⟨h.unique_id, h.unique_externalId, h.id_lt,
      h.unique_attempt.insertOnConflict (fun _ _ => rfl) id⟩
  | confirmAttempt =>
    exact ⟨h.unique_id, h.unique_externalId, h.id_lt, h.unique_attempt.updateWhere fun _ => rfl⟩
  | clearAttempt =>
    exact ⟨h.unique_id, h.unique_externalId, h.id_lt, h.unique_attempt.deleteWhere⟩

lemma after (ops : List StoreOp) : (db.after ops).WellFormed := by
  induction ops generalizing db with
  | nil => exact h
  | cons op _ ih => exact ih (h.apply op)

end

end RescheduleDb.WellFormed

/-! ## Where rows come from -/

variable {r : RescheduleConfirmationEntity} {db : RescheduleDb}

section

variable (op : StoreOp) (hr : r ∈ (op.apply db).confirmations)
include op hr

lemma StoreOp.processing_cases (hproc : r.status = .processing) :
    r ∈ db.confirmations ∨ ∃ p now tok ext uid binding,
        op = .takeValid p now tok ext uid binding ∧
          ∃ q ∈ db.confirmations, claimable p now ext uid binding q = true ∧
            claimed now tok q = r := by
  cases op with
  | save =>
    rcases mem_insertOnConflict hr with ⟨rfl, -⟩ | ⟨q, -, -, -, rfl⟩ | ⟨hq, -⟩
    · simp [pendingRow] at hproc
    · simp [overwrite, pendingRow] at hproc
    · exact .inl hq
  | takeValid =>
    rcases mem_updateWhere.mp hr with ⟨q, hq, hp, rfl⟩ | ⟨hq, -⟩
    · exact .inr ⟨_, _, _, _, _, _, rfl, q, hq, hp, rfl⟩
    · exact .inl hq
  | revertToPending | revertStaleRow =>
    rcases mem_updateWhere.mp hr with ⟨q, -, -, rfl⟩ | ⟨hq, -⟩
    · simp [rearmed] at hproc
    · exact .inl hq
  | cancelPending p ext nonce =>
    simp only [StoreOp.apply] at hr
    rcases cancelPending_fst p ext nonce db with hdb | hdb <;> rw [hdb] at hr
    · exact .inl hr
    · exact .inl (mem_deleteWhere.mp hr).1
  | cancelClaimed => exact .inl (mem_deleteWhere.mp hr).1
  | getPendingState p appNow now ext =>
    simp only [StoreOp.apply] at hr
    rcases getPendingState_fst p appNow now ext db with hdb | hdb <;> rw [hdb] at hr
    · exact .inl hr
    · exact .inl (mem_deleteWhere.mp hr).1
  | cancelStaleRow =>
    rcases mem_updateWhere.mp hr with ⟨_, -, -, rfl⟩ | ⟨hq, -⟩
    · simp [released] at hproc
    · exact .inl hq
  | beginAttempt => exact .inl hr
  | confirmAttempt => exact .inl hr
  | clearAttempt => exact .inl hr

lemma StoreOp.stagedColumns_cases :
    (∃ q ∈ db.confirmations, stagedColumns q = stagedColumns r) ∨
      ∃ platform uuid pending, op = .save platform uuid pending ∧
        (TypeormRescheduleStore.save platform uuid pending db).2 = true ∧
        stagedColumns r = stagedColumns (pendingRow platform uuid pending db.nextId) := by
  have hupd : ∀ {p f}, r ∈ updateWhere p f db.confirmations →
      (∀ q : RescheduleConfirmationEntity, stagedColumns (f q) = stagedColumns q) →
      ∃ q ∈ db.confirmations, stagedColumns q = stagedColumns r := by
    intro p _ h hf
    rcases mem_updateWhere.mp h with ⟨q, hq, -, rfl⟩ | ⟨hq, -⟩
    · exact ⟨q, hq, (hf q).symm⟩
    · exact ⟨r, hq, rfl⟩
  have hdel : ∀ {p}, r ∈ deleteWhere p db.confirmations →
      ∃ q ∈ db.confirmations, stagedColumns q = stagedColumns r :=
    fun h => ⟨r, (mem_deleteWhere.mp h).1, rfl⟩
  cases op with
  | save =>
    rcases mem_insertOnConflict hr with ⟨rfl, hnew⟩ | ⟨_, hq, hkey, hguard, rfl⟩ | ⟨hq, -⟩
    · exact .inr ⟨_, _, _, rfl, insertOnConflict_snd_of_new hnew, rfl⟩
    · refine .inr ⟨_, _, _, rfl, insertOnConflict_snd_of_conflict hq hkey hguard, ?_⟩
      simp [stagedColumns, overwrite, hkey]
    · exact .inl ⟨r, hq, rfl⟩
  | takeValid | revertToPending | revertStaleRow | cancelStaleRow =>
    exact .inl (hupd hr fun _ => rfl)
  | cancelPending platform ext nonce =>
    simp only [StoreOp.apply] at hr
    rcases cancelPending_fst platform ext nonce db with hdb | hdb <;> rw [hdb] at hr
    · exact .inl ⟨r, hr, rfl⟩
    · exact .inl (hdel hr)
  | cancelClaimed => exact .inl (hdel hr)
  | getPendingState platform appNow now ext =>
    simp only [StoreOp.apply] at hr
    rcases getPendingState_fst platform appNow now ext db with hdb | hdb <;> rw [hdb] at hr
    · exact .inl ⟨r, hr, rfl⟩
    · exact .inl (hdel hr)
  | beginAttempt | confirmAttempt | clearAttempt => exact .inl ⟨r, hr, rfl⟩

lemma StoreOp.row_cases :
    (∃ q ∈ db.confirmations, q.externalId = r.externalId ∧ q.nonce = r.nonce) ∨
      ∃ p uuid pending, op = .save p uuid pending ∧
        r.externalId = key p pending.externalId ∧ r.nonce = pending.nonce.getD uuid := by
  rcases op.stagedColumns_cases hr with ⟨q, hq, hcols⟩ | ⟨_, _, _, rfl, -, hcols⟩
  · exact .inl ⟨q, hq, congrArg StagedColumns.externalId hcols,
      congrArg StagedColumns.nonce hcols⟩
  · exact .inr ⟨_, _, _, rfl, congrArg StagedColumns.externalId hcols,
      congrArg StagedColumns.nonce hcols⟩

end

end WispaceBot
