import WispaceBot.Reschedule.AttemptStore

/-!
# The recovery cron

`runRecovery` lists the stale claims and re-arms those for which no attempt is recorded.  The scan
is global, but the attempt store is bound to one platform, and it is asked with the storage key.
`runRecovery_rearms_only_unattempted_iff` says on which databases that goes well.
-/

namespace WispaceBot

open List TypeormRescheduleStore TypeormRescheduleAttemptStore RescheduleDb

namespace RescheduleRecoveryCron

def staleAfterMs : ℤ := 5 * 60000

/-- A row without a nonce is not looked up, and a lookup that fails counts as no attempt. -/
def lookupAttempt (platform : Platform) (fails : Bool) (row : StaleRow) (db : RescheduleDb) :
    Option RescheduleConfirmationAttemptEntity :=
  if row.nonce = "" then none
  else if fails then none
  else findAttempt platform row.externalId row.nonce db

/-- What the loop does with a stale row, given the attempt it saw. -/
def settleStaleRow (now : ℤ) (row : StaleRow) (attempt : Option RescheduleConfirmationAttemptEntity)
    (db : RescheduleDb) : RescheduleDb :=
  match attempt.map RescheduleConfirmationAttemptEntity.status with
  | some .attempting => cancelStaleRow row.id db
  | some .confirmed => cancelStaleRow row.id db
  | none => revertStaleRow now row.id db

def recoverRow (platform : Platform) (clock : StaleRow → ℤ) (fails : StaleRow → Bool)
    (db : RescheduleDb) (row : StaleRow) : RescheduleDb :=
  settleStaleRow (clock row) row (lookupAttempt platform (fails row) row db) db

/-- Without the replay of notifications.  `clock` is when a row is settled, `fails` which lookups
fail. -/
def runRecovery (platform : Platform) (now : ℤ) (clock : StaleRow → ℤ) (fails : StaleRow → Bool)
    (db : RescheduleDb) : RescheduleDb :=
  (listStaleProcessing staleAfterMs now db).foldl (recoverRow platform clock fails) db

/-- The staged request `r` is put back from processing to pending between `db` and `db'`. -/
def Rearms (db db' : RescheduleDb) (r : RescheduleConfirmationEntity) : Prop :=
  r ∈ db.confirmations ∧ r.status = .processing ∧
    ∃ r' ∈ db'.confirmations, r'.id = r.id ∧ r'.status = .pending

/-- An attempt is recorded for the request. -/
def HasAttempt (db : RescheduleDb) (r : RescheduleConfirmationEntity) : Prop :=
  ∃ a ∈ db.attempts, key a.platform a.externalId = r.externalId ∧ a.nonce = r.nonce

/-- The recovery finds an attempt for the row it has listed. -/
def VisibleToCron (platform : Platform) (fails : StaleRow → Bool) (db : RescheduleDb)
    (row : StaleRow) : Prop :=
  row.nonce ≠ "" ∧ fails row = false ∧
    ∃ a ∈ db.attempts, identity a = (platform, row.externalId, row.nonce)

/-! ## One round -/

def settled (now : ℤ) (seen : Bool) (r : RescheduleConfirmationEntity) :
    RescheduleConfirmationEntity :=
  if seen then released r else rearmed now r

lemma settleStaleRow_eq (now : ℤ) (row : StaleRow)
    (att : Option RescheduleConfirmationAttemptEntity) (db : RescheduleDb) :
    settleStaleRow now row att db =
      { db with
        confirmations := Table.updateWhere (claimedWithId row.id) (settled now att.isSome)
          db.confirmations } := by
  rcases att with _ | a
  · rfl
  · unfold settleStaleRow
    cases hstat : a.status <;> simp only [Option.map_some, hstat] <;> rfl

variable {db : RescheduleDb}

lemma lookupAttempt_isSome_iff {p : Platform} {fails : StaleRow → Bool} {row : StaleRow} :
    (lookupAttempt p (fails row) row db).isSome = true ↔ VisibleToCron p fails db row := by
  unfold lookupAttempt VisibleToCron
  by_cases hnonce : row.nonce = ""
  · simp [hnonce]
  · by_cases hfails : fails row = true
    · simp [hfails]
    · have hfails' : fails row = false := by simpa using hfails
      simp only [hnonce, hfails', if_false, Bool.false_eq_true, ne_eq, not_false_eq_true, true_and]
      simp [findAttempt, isAttemptOf_iff]

def touch (clock : StaleRow → ℤ) (seen : StaleRow → Bool) (r : RescheduleConfirmationEntity)
    (row : StaleRow) : RescheduleConfirmationEntity :=
  if claimedWithId row.id r then settled (clock row) (seen row) r else r

lemma foldl_recoverRow (p : Platform) (clock : StaleRow → ℤ) (fails : StaleRow → Bool)
    (rows : List StaleRow) (db : RescheduleDb) :
    rows.foldl (recoverRow p clock fails) db =
      { db with
        confirmations := db.confirmations.map fun r => rows.foldl (touch clock fun row =>
          (lookupAttempt p (fails row) row db).isSome) r } := by
  induction rows generalizing db with
  | nil => simp
  | cons row _ ih =>
    have hround : recoverRow p clock fails db row =
        { db with
          confirmations := Table.updateWhere (claimedWithId row.id)
            (settled (clock row) (lookupAttempt p (fails row) row db).isSome)
            db.confirmations } :=
      settleStaleRow_eq _ _ _ _
    rw [foldl_cons, ih, hround]
    simp only [Table.updateWhere, map_map]
    rfl

lemma foldl_touch_id (clock : StaleRow → ℤ) (seen : StaleRow → Bool) (rows : List StaleRow)
    (r : RescheduleConfirmationEntity) : (rows.foldl (touch clock seen) r).id = r.id := by
  induction rows generalizing r with
  | nil => rfl
  | cons _ _ ih =>
    rw [foldl_cons, ih]
    unfold touch settled
    split
    · split <;> rfl
    · rfl

variable {r : RescheduleConfirmationEntity}

lemma foldl_touch_of_not_processing (clock : StaleRow → ℤ) (seen : StaleRow → Bool)
    (rows : List StaleRow) (h : r.status ≠ .processing) : rows.foldl (touch clock seen) r = r := by
  induction rows with
  | nil => rfl
  | cons row _ ih =>
    have htouch : touch clock seen r row = r := by simp [touch, claimedWithId, h]
    rw [foldl_cons, htouch, ih]

lemma foldl_touch_pending_iff (clock : StaleRow → ℤ) (seen : StaleRow → Bool)
    {rows : List StaleRow} (hnodup : (rows.map StaleRow.id).Nodup) (hr : r.status = .processing) :
    (rows.foldl (touch clock seen) r).status = .pending ↔
      ∃ row ∈ rows, row.id = r.id ∧ seen row = false := by
  induction rows with
  | nil => simp [hr]
  | cons row rows ih =>
    rw [map_cons, nodup_cons] at hnodup
    rw [foldl_cons]
    by_cases hid : row.id = r.id
    · -- the head settles the request, and no later row has its id
      have hrest : ∀ row' ∈ rows, row'.id ≠ r.id := fun row' hmem heq =>
        hnodup.1 (mem_map.mpr ⟨row', hmem, heq.trans hid.symm⟩)
      have htouch : touch clock seen r row = settled (clock row) (seen row) r := by
        simp [touch, claimedWithId, hid, hr]
      have hdone : (settled (clock row) (seen row) r).status ≠ .processing := by
        unfold settled
        split <;> simp [released, rearmed]
      rw [htouch, foldl_touch_of_not_processing _ _ _ hdone]
      cases hseen : seen row with
      | true =>
        simp only [settled, if_true, released, mem_cons, exists_eq_or_imp, hseen,
          Bool.true_eq_false, and_false, false_or, reduceCtorEq, false_iff]
        rintro ⟨row', hmem, heq, -⟩
        exact hrest row' hmem heq
      | false => simp [settled, rearmed, hid, hseen]
    · have htouch : touch clock seen r row = r := by
        simp [touch, claimedWithId, Ne.symm hid]
      rw [htouch, ih hnodup.2]
      simp [hid]

/-! ## The scan -/

lemma exists_of_mem_listStaleProcessing {ms now : ℤ} {row : StaleRow}
    (h : row ∈ listStaleProcessing ms now db) :
    ∃ r ∈ db.confirmations, isStale ms now r = true ∧ toStaleRow r = row := by
  obtain ⟨r, hr, rfl⟩ := mem_map.mp h
  have hsort := mem_of_mem_take hr
  rw [mem_insertionSort] at hsort
  exact ⟨r, mem_of_mem_filter hsort, of_mem_filter hsort, rfl⟩

lemma status_of_isStale {ms now : ℤ} (h : isStale ms now r = true) : r.status = .processing := by
  simp only [isStale, Bool.and_eq_true, decide_eq_true_eq] at h
  exact h.1.1

lemma listStaleProcessing_ids_nodup (h : db.WellFormed) (ms now : ℤ) :
    ((listStaleProcessing ms now db).map StaleRow.id).Nodup := by
  have hcols : StaleRow.id ∘ toStaleRow = RescheduleConfirmationEntity.id := rfl
  rw [listStaleProcessing, map_map, hcols]
  refine ((take_sublist _ _).map _).nodup ?_
  have hperm := perm_insertionSort (fun a b : RescheduleConfirmationEntity => a.id ≤ b.id)
    (db.confirmations.filter (isStale ms now))
  exact (hperm.map _).nodup_iff.mpr ((filter_sublist.map _).nodup h.unique_id)

/-! ## Which claims a tick re-arms -/

lemma rearms_runRecovery_iff (h : db.WellFormed) (p : Platform) (now : ℤ)
    (clock : StaleRow → ℤ) (fails : StaleRow → Bool) (r : RescheduleConfirmationEntity) :
    Rearms db (runRecovery p now clock fails db) r ↔
      r ∈ db.confirmations ∧ toStaleRow r ∈ listStaleProcessing staleAfterMs now db ∧
        ¬ VisibleToCron p fails db (toStaleRow r) := by
  have hnodup := listStaleProcessing_ids_nodup h staleAfterMs now
  unfold Rearms runRecovery
  rw [foldl_recoverRow]
  constructor
  · rintro ⟨hr, hproc, _, hr', hid, hpend⟩
    obtain ⟨q, hq, rfl⟩ := mem_map.mp hr'
    rw [foldl_touch_id] at hid
    obtain rfl := h.unique_id.eq_of_key_eq hq hr hid
    obtain ⟨row, hrow, hrowid, hseen⟩ :=
      (foldl_touch_pending_iff clock _ hnodup hproc).mp hpend
    -- the listed row with the id of the request is the request itself
    obtain ⟨_, hq', -, rfl⟩ := exists_of_mem_listStaleProcessing hrow
    obtain rfl := h.unique_id.eq_of_key_eq hq' hr hrowid
    refine ⟨hr, hrow, fun hvis => ?_⟩
    rw [lookupAttempt_isSome_iff.mpr hvis] at hseen
    simp at hseen
  · rintro ⟨hr, hrow, hvis⟩
    obtain ⟨q, hq, hstale, heq⟩ := exists_of_mem_listStaleProcessing hrow
    have hid : q.id = r.id := congrArg StaleRow.id heq
    obtain rfl := h.unique_id.eq_of_key_eq hq hr hid
    have hproc := status_of_isStale hstale
    refine ⟨hr, hproc, _, mem_map.mpr ⟨q, hr, rfl⟩, foldl_touch_id _ _ _ _, ?_⟩
    refine (foldl_touch_pending_iff clock _ hnodup hproc).mpr ⟨toStaleRow q, hrow, rfl, ?_⟩
    exact Bool.eq_false_iff.mpr fun hseen => hvis (lookupAttempt_isSome_iff.mp hseen)

/-- A tick re-arms only claims without an attempt if and only if every listed claim with an attempt
also has one filed on the platform of the cron under its storage key, with a lookup that succeeds.
-/
theorem runRecovery_rearms_only_unattempted_iff (ops : List StoreOp) (platform : Platform)
    (now : ℤ) (clock : StaleRow → ℤ) (fails : StaleRow → Bool) :
    (∀ r, Rearms (empty.after ops)
        (runRecovery platform now clock fails (empty.after ops)) r →
      ¬ HasAttempt (empty.after ops) r) ↔
    ∀ r ∈ (empty.after ops).confirmations,
      toStaleRow r ∈ listStaleProcessing staleAfterMs now (empty.after ops) →
      HasAttempt (empty.after ops) r →
      VisibleToCron platform fails (empty.after ops) (toStaleRow r) := by
  have hwf := wellFormed_empty.after ops
  constructor
  · intro h r hr hrow hatt
    by_contra hvis
    exact h r ((rearms_runRecovery_iff hwf platform now clock fails r).mpr ⟨hr, hrow, hvis⟩) hatt
  · intro h r hrearms hatt
    obtain ⟨hr, hrow, hvis⟩ := (rearms_runRecovery_iff hwf platform now clock fails r).mp hrearms
    exact hvis (h r hr hrow hatt)

def committedClaim : List StoreOp :=
  let pending : PendingRescheduleRecord :=
    { externalId := "psid-1", userId := 42, calendarId := 7,
      schedulingMode := .defaultNextDaySameTime, newLocalDate := none, newTime := none,
      sessionLabel := "20/09 19:00", expiresAt := 600000, leaseToken := none,
      toolName := some "reschedule_study_session", platform := some "messenger",
      mappingVersion := some "1:1", intentHash := some "intent", argsHash := some "args",
      nonce := some "11111111-1111-4111-8111-111111111111" }
  [.save .messenger "11111111-1111-4111-8111-111111111111" pending,
    .takeValid .messenger 1000 "22222222-2222-4222-8222-222222222222" "psid-1" (some 42)
      ⟨some "messenger", some "1:1", none, none, some "11111111-1111-4111-8111-111111111111"⟩,
    .beginAttempt .messenger "psid-1" "11111111-1111-4111-8111-111111111111" 42,
    .confirmAttempt .messenger "psid-1" "11111111-1111-4111-8111-111111111111" "21/09 19:00"]

/-- The attempt is filed under `psid-1` and looked up under `messenger:psid-1`. -/
theorem runRecovery_rearms_committedClaim :
    ¬ ∀ (ops : List StoreOp) (platform : Platform) (now : ℤ) (clock : StaleRow → ℤ)
      (fails : StaleRow → Bool) (r : RescheduleConfirmationEntity),
      Rearms (empty.after ops)
          (runRecovery platform now clock fails (empty.after ops)) r →
        ¬ HasAttempt (empty.after ops) r := by
  intro h
  have hwf := wellFormed_empty.after committedClaim
  have hall : ∀ r ∈ (empty.after committedClaim).confirmations,
      toStaleRow r ∈ listStaleProcessing staleAfterMs 361000 (empty.after committedClaim) →
      ¬ VisibleToCron .messenger (fun _ => false) (empty.after committedClaim) (toStaleRow r) →
      ¬ HasAttempt (empty.after committedClaim) r := by
    intro r hr hrow hvis
    refine h committedClaim .messenger 361000 (fun _ => 361000) (fun _ => false) r ?_
    exact (rearms_runRecovery_iff hwf _ _ _ _ r).mpr ⟨hr, hrow, hvis⟩
  revert hall
  simp only [HasAttempt, VisibleToCron]
  decide

end RescheduleRecoveryCron

end WispaceBot
