import WispaceBot.Reschedule.System

/-!
# One request in the two tables

For a request `q`, a learner on a platform with a nonce, the tables say three things: whether it is
pending, under which leases it is claimed, and the status of its attempt.  This module says for
every store method how the three change, for the request the method is called for and for all
others.
-/

namespace WispaceBot

open TypeormRescheduleStore TypeormRescheduleAttemptStore TypeormRescheduleStore Table

namespace Request

variable {q q' : Request} {db db' : RescheduleDb}

def IsRow (q : Request) (r : RescheduleConfirmationEntity) : Prop :=
  r.externalId = key q.platform q.externalId ∧ r.nonce = q.nonce
  deriving Decidable

section

variable (q : Request) (db : RescheduleDb)

def PendingIn : Prop :=
  ∃ r ∈ db.confirmations, q.IsRow r ∧ r.status = .pending

def ClaimedIn (leaseToken : String) : Prop :=
  ∃ r ∈ db.confirmations, q.IsRow r ∧ r.status = .processing ∧ r.leaseToken = some leaseToken

def attemptIn : Option RescheduleAttemptStatus :=
  (findAttempt q.platform q.externalId q.nonce db).map RescheduleConfirmationAttemptEntity.status

end

def attemptIdentity (q : Request) : Platform × String × String :=
  (q.platform, q.externalId, q.nonce)

lemma IsRow.inj {r : RescheduleConfirmationEntity} (h : q.IsRow r) (h' : q'.IsRow r) : q = q' := by
  obtain ⟨_, _⟩ := key_inj (h.1.symm.trans h'.1)
  have hn := h.2.symm.trans h'.2
  cases q
  cases q'
  simp_all

lemma attemptIdentity_inj (h : q.attemptIdentity = q'.attemptIdentity) : q = q' := by
  cases q
  cases q'
  simpa [attemptIdentity] using h

lemma attemptIn_eq_some_iff (hdb : db.WellFormed) {status : RescheduleAttemptStatus} :
    q.attemptIn db = some status ↔
      ∃ a ∈ db.attempts, identity a = q.attemptIdentity ∧ a.status = status := by
  unfold attemptIn
  constructor
  · intro h
    obtain ⟨a, ha, hstat⟩ := Option.map_eq_some_iff.mp h
    obtain ⟨hmem, hid⟩ := mem_of_findAttempt ha
    exact ⟨a, hmem, hid, hstat⟩
  · rintro ⟨a, hmem, hid, hstat⟩
    cases hfind : findAttempt q.platform q.externalId q.nonce db with
    | none => exact absurd hid (findAttempt_eq_none_iff.mp hfind a hmem)
    | some =>
      obtain ⟨hb, hbid⟩ := mem_of_findAttempt hfind
      obtain rfl := hdb.unique_attempt.eq_of_key_eq hb hmem (hbid.trans hid.symm)
      exact congrArg some hstat

lemma attemptIn_congr (h : db'.attempts = db.attempts) (q : Request) :
    q.attemptIn db' = q.attemptIn db := by
  simp [attemptIn, findAttempt, h]

/-! ## Methods that at most remove a request -/

/-- No request becomes pending or claimed, and no attempt changes. -/
structure Shrinks (db db' : RescheduleDb) : Prop where
  pending : ∀ {q : Request}, q.PendingIn db' → q.PendingIn db
  claimed : ∀ {q : Request} {l}, q.ClaimedIn db' l → q.ClaimedIn db l
  attempt : ∀ q : Request, q.attemptIn db' = q.attemptIn db

lemma Shrinks.of_rows
    (hrows : ∀ r ∈ db'.confirmations, r.status = .pending ∨ r.status = .processing →
      r ∈ db.confirmations) (hatts : db'.attempts = db.attempts) : Shrinks db db' where
  pending := by
    rintro q ⟨r, hr, hrow, hstat⟩
    exact ⟨r, hrows r hr (.inl hstat), hrow, hstat⟩
  claimed := by
    rintro _ _ ⟨r, hr, hrow, hstat, hlease⟩
    exact ⟨r, hrows r hr (.inr hstat), hrow, hstat, hlease⟩
  attempt := attemptIn_congr hatts

lemma Shrinks.refl (db : RescheduleDb) : Shrinks db db :=
  .of_rows (fun _ hr _ => hr) rfl

lemma Shrinks.deleteWhere (p : RescheduleConfirmationEntity → Bool) :
    Shrinks db { db with confirmations := deleteWhere p db.confirmations } :=
  .of_rows (fun _ hr _ => (mem_deleteWhere.mp hr).1) rfl

lemma Shrinks.getPendingState (p : Platform) (appNow now : ℤ) (ext : String) :
    Shrinks db (getPendingState p appNow now ext db).1 := by
  rcases getPendingState_fst p appNow now ext db with hdb | hdb <;> rw [hdb]
  · exact .refl db
  · exact .deleteWhere _

lemma Shrinks.cancelPending (p : Platform) (ext : String) (nonce : Option String) :
    Shrinks db (cancelPending p ext nonce db).1 := by
  rcases cancelPending_fst p ext nonce db with hdb | hdb <;> rw [hdb]
  · exact .refl db
  · exact .deleteWhere _

lemma Shrinks.cancelStaleRow (id : ℕ) : Shrinks db (cancelStaleRow id db) := by
  refine .of_rows (fun r hr hopen => ?_) rfl
  rcases mem_updateWhere.mp hr with ⟨_, -, -, rfl⟩ | ⟨hq, -⟩
  · simp [released] at hopen
  · exact hq

/-! ## Staging -/

variable {pending : PendingRescheduleRecord} {platform : Platform}

lemma isRow_pendingRow {uuid : String} {id : ℕ} {nonce : String}
    (hnonce : pending.nonce = some nonce) :
    (⟨platform, pending.externalId, nonce⟩ : Request).IsRow
      (pendingRow platform uuid pending id) := by
  refine ⟨rfl, ?_⟩
  simp [pendingRow, hnonce]

lemma save_other (db : RescheduleDb) {uuid nonce : String} (hnonce : pending.nonce = some nonce)
    (hq : q ≠ ⟨platform, pending.externalId, nonce⟩) :
    (q.PendingIn (save platform uuid pending db).1 → q.PendingIn db) ∧
      ∀ l, q.ClaimedIn (save platform uuid pending db).1 l → q.ClaimedIn db l := by
  have hnew : (⟨platform, pending.externalId, nonce⟩ : Request).IsRow
      (pendingRow platform uuid pending db.nextId) := isRow_pendingRow hnonce
  have hback : ∀ r ∈ (save platform uuid pending db).1.confirmations,
      q.IsRow r → r ∈ db.confirmations := by
    intro r hr hrow
    rcases mem_insertOnConflict hr with ⟨rfl, -⟩ | ⟨_, -, hkey, -, rfl⟩ | ⟨hr', -⟩
    · exact absurd (hrow.inj hnew) hq
    · -- the overwritten row has the key of the staged request and its nonce
      exact absurd (hrow.inj ⟨hkey.trans hnew.1, hnew.2⟩) hq
    · exact hr'
  refine ⟨?_, ?_⟩
  · rintro ⟨r, hr, hrow, hstat⟩
    exact ⟨r, hback r hr hrow, hrow, hstat⟩
  · rintro _ ⟨r, hr, hrow, hstat⟩
    exact ⟨r, hback r hr hrow, hrow, hstat⟩

/-! ## Claiming -/

lemma takeValid_cases (hdb : db.WellFormed) (platform : Platform) (now : ℤ)
    (tok ext : String) (uid : Option ℤ) (binding : RescheduleApprovalBinding) :
    takeValid platform now tok ext uid binding db = (db, none) ∨
      ∃ r ∈ db.confirmations, claimable platform now ext uid binding r = true ∧
        (takeValid platform now tok ext uid binding db).2 =
          some (mapRow platform (claimed now tok r)) ∧
        ∀ r' ∈ (takeValid platform now tok ext uid binding db).1.confirmations,
          r' = claimed now tok r ∨ (r' ∈ db.confirmations ∧ r'.externalId ≠ r.externalId) := by
  by_cases hany : ∃ r ∈ db.confirmations, claimable platform now ext uid binding r = true
  · obtain ⟨r, hr, hclaim⟩ := hany
    have hkey : ∀ q ∈ db.confirmations,
        claimable platform now ext uid binding q = true → q = r := by
      intro q hq hq'
      simp only [claimable, Bool.and_eq_true, decide_eq_true_eq] at hclaim hq'
      exact hdb.unique_externalId.eq_of_key_eq hq hr (hq'.1.1.1.1.trans hclaim.1.1.1.1.symm)
    refine .inr ⟨r, hr, hclaim, ?_, ?_⟩
    · have hhead := head?_updateReturning (f := claimed now tok) hr hclaim hkey
      exact congrArg (Option.map (mapRow platform)) hhead
    · intro _ hr'
      rcases mem_updateWhere.mp hr' with ⟨q, hq, hq', rfl⟩ | ⟨hq, hnot⟩
      · rw [hkey q hq hq']
        exact .inl rfl
      · refine .inr ⟨hq, fun hsame => ?_⟩
        obtain rfl := hdb.unique_externalId.eq_of_key_eq hq hr hsame
        exact absurd (hnot.symm.trans hclaim) (by simp)
  · have hnone : ∀ r ∈ db.confirmations,
        claimable platform now ext uid binding r = false := by
      simpa using hany
    refine .inl ?_
    simp [takeValid, updateWhere_of_forall_not hnone, updateReturning_of_forall_not hnone]

/-! ## Putting a request back -/

lemma rearmed_cases (db : RescheduleDb) (p : RescheduleConfirmationEntity → Bool) (now : ℤ)
    (q : Request) :
    (q.PendingIn { db with confirmations := updateWhere p (rearmed now) db.confirmations } →
      q.PendingIn db ∨ ∃ r ∈ db.confirmations, q.IsRow r ∧ p r = true) ∧
    ∀ l, q.ClaimedIn { db with confirmations := updateWhere p (rearmed now) db.confirmations } l →
      q.ClaimedIn db l := by
  refine ⟨?_, ?_⟩
  · rintro ⟨r', hr', hrow, hstat⟩
    rcases mem_updateWhere.mp hr' with ⟨r, hr, hp, rfl⟩ | ⟨hr, -⟩
    · exact .inr ⟨r, hr, hrow, hp⟩
    · exact .inl ⟨r', hr, hrow, hstat⟩
  · rintro _ ⟨r', hr', hrow, hstat, hlease⟩
    rcases mem_updateWhere.mp hr' with ⟨_, -, -, rfl⟩ | ⟨hr, -⟩
    · simp [rearmed] at hstat
    · exact ⟨r', hr, hrow, hstat, hlease⟩

/-! ## Attempts -/

lemma attemptIn_eq (hdb : db.WellFormed) (hdb' : db'.WellFormed)
    (h : ∀ a, identity a = q.attemptIdentity → (a ∈ db'.attempts ↔ a ∈ db.attempts)) :
    q.attemptIn db' = q.attemptIn db := by
  refine Option.ext fun status => ?_
  rw [attemptIn_eq_some_iff hdb', attemptIn_eq_some_iff hdb]
  constructor
  · rintro ⟨a, ha, hid, hstat⟩
    exact ⟨a, (h a hid).mp ha, hid, hstat⟩
  · rintro ⟨a, ha, hid, hstat⟩
    exact ⟨a, (h a hid).mpr ha, hid, hstat⟩

section

variable (hdb : db.WellFormed) (q : Request)

include hdb

lemma attemptIn_beginAttempt (uid : ℤ) :
    q.attemptIn (beginAttempt q.platform q.externalId q.nonce uid db) = some .attempting := by
  have hdb' := hdb.apply (.beginAttempt q.platform q.externalId q.nonce uid)
  refine (attemptIn_eq_some_iff hdb').mpr ?_
  rcases exists_mem_insertOnConflict identity (fun _ => true) restarted
    (startedRow q.platform q.externalId q.nonce uid) db.attempts (fun _ => rfl) with
    hnew | ⟨a, -, hid, ha⟩
  · exact ⟨_, hnew, rfl, rfl⟩
  · exact ⟨_, ha, hid, rfl⟩

lemma attemptIn_beginAttempt_of_ne (uid : ℤ) (hne : q' ≠ q) :
    q'.attemptIn (beginAttempt q.platform q.externalId q.nonce uid db) = q'.attemptIn db := by
  have hdb' := hdb.apply (.beginAttempt q.platform q.externalId q.nonce uid)
  refine attemptIn_eq hdb hdb' fun a hid => ⟨fun ha => ?_, fun ha => ?_⟩
  · rcases mem_insertOnConflict ha with ⟨rfl, -⟩ | ⟨_, -, hb, -, rfl⟩ | ⟨ha', -⟩
    · exact absurd (attemptIdentity_inj hid.symm) hne
    · exact absurd (attemptIdentity_inj (hid.symm.trans hb)) hne
    · exact ha'
  · refine mem_insertOnConflict_of_ne ha fun hsame => hne ?_
    exact attemptIdentity_inj (hid.symm.trans hsame)

omit hdb in
lemma attemptIn_clearAttempt :
    q.attemptIn (clearAttempt q.platform q.externalId q.nonce db) = none := by
  have hnone : findAttempt q.platform q.externalId q.nonce
      (clearAttempt q.platform q.externalId q.nonce db) = none := by
    refine findAttempt_eq_none_iff.mpr fun a ha hid => ?_
    have hkept := (mem_deleteWhere.mp ha).2
    rw [isAttemptOf_iff.mpr hid] at hkept
    simp at hkept
  rw [attemptIn, hnone]
  rfl

lemma attemptIn_clearAttempt_of_ne (hne : q' ≠ q) :
    q'.attemptIn (clearAttempt q.platform q.externalId q.nonce db) = q'.attemptIn db := by
  have hdb' := hdb.apply (.clearAttempt q.platform q.externalId q.nonce)
  refine attemptIn_eq hdb hdb' fun a hid => ⟨fun ha => (mem_deleteWhere.mp ha).1, fun ha => ?_⟩
  refine mem_deleteWhere.mpr ⟨ha, Bool.eq_false_iff.mpr fun hsame => hne ?_⟩
  exact attemptIdentity_inj (hid.symm.trans (isAttemptOf_iff.mp hsame))

lemma attemptIn_confirmAttempt (label : String) (hopen : q.attemptIn db = some .attempting) :
    q.attemptIn (confirmAttempt q.platform q.externalId q.nonce label db).1 = some .confirmed := by
  have hdb' := hdb.apply (.confirmAttempt q.platform q.externalId q.nonce label)
  obtain ⟨a, ha, hid, hstat⟩ := (attemptIn_eq_some_iff hdb).mp hopen
  refine (attemptIn_eq_some_iff hdb').mpr ⟨committed label a, ?_, hid, rfl⟩
  refine mem_updateWhere.mpr (.inl ⟨a, ha, ?_, rfl⟩)
  simp [isOpenAttemptOf, isAttemptOf_iff.mpr hid, hstat]

lemma attemptIn_confirmAttempt_of_ne (label : String) (hne : q' ≠ q) :
    q'.attemptIn (confirmAttempt q.platform q.externalId q.nonce label db).1 = q'.attemptIn db := by
  have hdb' := hdb.apply (.confirmAttempt q.platform q.externalId q.nonce label)
  have hother : ∀ a, identity a = q'.attemptIdentity →
      isOpenAttemptOf q.platform q.externalId q.nonce a = false := by
    intro a hid
    refine Bool.eq_false_iff.mpr fun hopen => hne ?_
    rw [isOpenAttemptOf, Bool.and_eq_true, isAttemptOf_iff] at hopen
    exact attemptIdentity_inj (hid.symm.trans hopen.1)
  refine attemptIn_eq hdb hdb' fun a hid => ⟨fun ha => ?_, fun ha => ?_⟩
  · rcases mem_updateWhere.mp ha with ⟨b, -, hb, rfl⟩ | ⟨ha', -⟩
    · exact absurd ((hother b hid).symm.trans hb) (by simp)
    · exact ha'
  · exact mem_updateWhere.mpr (.inr ⟨ha, hother a hid⟩)

end

end Request

end WispaceBot
