import WispaceBot.ChatMetering.Ledger

/-!
# The bulk recovery and the recovery row by row

`recoverAllStuckReserved` completes and refunds all stuck rows at once.  For given rows it leaves
the tables that the one-row paths leave, in any order of the rows and for any counters, exactly if
no stuck reservation belongs to an external id with a colon, and the process reads the dates of the
stuck reservations as they are (`recoverAll_eq_settleAll_iff`).
-/

namespace WispaceBot

open List MeteringOp ChatIdempotency

namespace ChatRateLimitRepository

open Table Tally Pages

variable {isoDay : UsageDate → UsageDate} {platform : Platform} {stuckBefore : ℤ}
  {usage : List ChatDailyUsage}
  {rows order : List ChatIdempotency} {r : ChatIdempotency}

/-- The rows that a recovery with this cutoff settles. -/
def stuckRows (platform : Platform) (stuckBefore : ℤ) (rows : List ChatIdempotency) :
    List ChatIdempotency :=
  rows.filter fun row =>
    isStuck platform stuckBefore .delivered row || isStuck platform stuckBefore .reserved row

/-- The one-row path of a stuck row. -/
def settleRow (platform : Platform) (db : MeteringDb) (row : ChatIdempotency) : MeteringDb :=
  if row.status = .delivered then (completeReservedSlot platform row.idempotencyKey db).1
  else (refundReservedSlot greatestZero platform row.idempotencyKey db).1

/-! ## Counters -/

lemma lowered_lowered (first second : ℕ) (count : ℤ) :
    lowered greatestZero second (lowered greatestZero first count) =
      lowered greatestZero (first + second) count := by
  simp only [lowered, greatestZero]
  split_ifs <;> omega

/-- The counters after the rows were released. -/
def lowerAll (released : List ChatIdempotency) (usage : List ChatDailyUsage) :
    List ChatDailyUsage :=
  usage.map fun row =>
    withCount row (lowered greatestZero (bucketCount released row.bucket) row.freeFormCount)

lemma lowerAll_lowerAll (first second : List ChatIdempotency) :
    lowerAll second (lowerAll first usage) = lowerAll (first ++ second) usage := by
  rw [lowerAll, lowerAll, map_map]
  refine map_congr_left fun row _ => ?_
  simp only [Function.comp, withCount_bucket, withCount_freeFormCount, lowered_lowered,
    bucketCount_append]
  rfl

lemma lowerAll_nil : lowerAll [] usage = usage := by
  have hrow : ∀ row : ChatDailyUsage,
      withCount row (lowered greatestZero (bucketCount [] row.bucket) row.freeFormCount) = row :=
    fun _ => rfl
  simp [lowerAll, hrow]

lemma releaseUsage_eq_lowerAll : releaseUsage greatestZero r.bucket usage = lowerAll [r] usage := by
  refine map_congr_left fun row _ => ?_
  by_cases hbuck : row.bucket = r.bucket
  · simp [bucketCount, hbuck, lowered, withCount]
  · simp [bucketCount, hbuck, Ne.symm hbuck, lowered]

lemma foldl_decrementPage_eq_lowerAll {batches : List (List ChatIdempotency)}
    (hplat : ∀ r ∈ batches.flatten, r.platform = platform)
    (hcolon : ∀ r ∈ batches.flatten, ':' ∉ r.externalUserId.toList) :
    batches.foldl (decrementPage greatestZero platform) usage = lowerAll batches.flatten usage := by
  induction batches generalizing usage with
  | nil => exact lowerAll_nil.symm
  | cons _ _ ih =>
    simp only [flatten_cons, mem_append] at hplat hcolon ⊢
    rw [foldl_cons, decrementPage_eq greatestZero (fun r hr => hplat r (.inl hr))
      (fun r hr => hcolon r (.inl hr)), ← lowerAll_lowerAll]
    exact ih (fun r hr => hplat r (.inr hr)) (fun r hr => hcolon r (.inr hr))

/-! ## Row by row -/

/-- A stuck row after its recovery. -/
def settled (row : ChatIdempotency) : ChatIdempotency :=
  setStatus (if row.status = .delivered then .completed else .refunded) row

/-- The tables when the rows of the list have been settled. -/
def progress (usage : List ChatDailyUsage) (rows order : List ChatIdempotency) : MeteringDb :=
  ⟨lowerAll (order.filter fun row => row.status = .reserved) usage,
    rows.map fun row => if row ∈ order then settled row else row⟩

lemma settleRow_progress (hkeys : UniqueOn key rows) (hr : r ∈ rows) (hnew : r ∉ order)
    (hplat : r.platform = platform) (hstat : r.status = .delivered ∨ r.status = .reserved) :
    settleRow platform (progress usage rows order) r = progress usage rows (order ++ [r]) := by
  have hkey : ∀ row, (if row ∈ order then settled row else row).key = row.key := by
    intro row
    split <;> rfl
  -- the row of the key is `r`, which has not been touched
  have hselected : ∀ (status : ChatIdempotencyStatus → Bool) {row}, row ∈ rows →
      selects platform r.idempotencyKey status (if row ∈ order then settled row else row) = true →
      row = r := by
    intro status row hrow hsel
    have hsame := (selects_eq_true.mp hsel).1
    rw [hkey, ← hplat] at hsame
    exact hkeys.eq_of_key_eq hrow hr hsame
  have hupd : ∀ (status : ChatIdempotencyStatus → Bool) (after),
      status r.status = true → settled r = setStatus after r →
      updateWhere (selects platform r.idempotencyKey status) (setStatus after)
          (progress usage rows order).idempotency =
        (progress usage rows (order ++ [r])).idempotency := by
    intro status _ hr hafter
    simp only [progress, updateWhere, map_map]
    refine map_congr_left fun row hrow => ?_
    by_cases hrow' : row = r
    · subst hrow'
      have hsel : selects platform row.idempotencyKey status row = true :=
        selects_eq_true.mpr ⟨by simp [key, hplat], hr⟩
      simp [hnew, hsel, hafter]
    · have hsel := mt (hselected status hrow) hrow'
      simp [if_neg hsel, hrow']
  rcases hstat with hdeliv | hres
  · have hcomp := hupd (fun status => status = .reserved ∨ status = .delivered)
      .completed (by simp [hdeliv]) (by simp [settled, hdeliv])
    rw [settleRow, if_pos hdeliv, completeReservedSlot, hcomp]
    simp [progress, filter_append, hdeliv]
  · have hrefunded := hupd (· = .reserved) .refunded
      (by simp [hres]) (by simp [settled, hres])
    have hmem : r ∈ (progress usage rows order).idempotency :=
      mem_map.mpr ⟨r, hr, if_neg hnew⟩
    have hsel : selects platform r.idempotencyKey (· = .reserved) r = true :=
      selects_eq_true.mpr ⟨by simp [key, hplat], by simp [hres]⟩
    have hhead := head?_updateReturning (f := setStatus .refunded) hmem hsel fun q hq hqsel => by
      obtain ⟨_, hrow, rfl⟩ := mem_map.mp hq
      rw [hselected _ hrow hqsel, if_neg hnew]
    rw [settleRow, if_neg (by simp [hres]), refundReservedSlot, hhead]
    simp only [hrefunded]
    rw [releaseUsage_eq_lowerAll]
    have hcount : lowerAll [setStatus .refunded r] = lowerAll [r] := rfl
    rw [hcount]
    simp [progress, lowerAll_lowerAll, hres]

lemma foldl_settleRow (hkeys : UniqueOn key rows) (hnodup : order.Nodup)
    (hstuck : ∀ r ∈ order, r ∈ rows ∧ r.platform = platform ∧
      (r.status = .delivered ∨ r.status = .reserved)) :
    order.foldl (settleRow platform) ⟨usage, rows⟩ = progress usage rows order := by
  induction order using List.reverseRecOn with
  | nil => simp [progress, lowerAll_nil]
  | append_singleton order r ih =>
    obtain ⟨hrows, hplat, hstat⟩ := hstuck r (by simp)
    obtain ⟨horder, -, hapart⟩ := nodup_append.mp hnodup
    have hnew : r ∉ order := fun hr => hapart r hr r (by simp) rfl
    rw [foldl_append, ih horder fun q hq => hstuck q (by simp [hq])]
    exact settleRow_progress hkeys hrows hnew hplat hstat

lemma progress_congr {other : List ChatIdempotency} (h : order.Perm other) :
    progress usage rows order = progress usage rows other := by
  have hcount : ∀ bucket, bucketCount (order.filter fun row => row.status = .reserved) bucket =
      bucketCount (other.filter fun row => row.status = .reserved) bucket :=
    fun bucket => (h.filter _).countP_eq _
  simp [progress, lowerAll, hcount, h.mem_iff]

lemma mem_stuckRows (h : r ∈ stuckRows platform stuckBefore rows) :
    r ∈ rows ∧ r.platform = platform ∧ (r.status = .delivered ∨ r.status = .reserved) := by
  obtain ⟨hr, hstuck⟩ := mem_filter.mp h
  rcases Bool.or_eq_true_iff.mp hstuck with hstuck | hstuck
  · exact ⟨hr, (isStuck_eq_true hstuck).1, .inl (isStuck_eq_true hstuck).2⟩
  · exact ⟨hr, (isStuck_eq_true hstuck).1, .inr (isStuck_eq_true hstuck).2⟩

lemma settleAll_eq (hkeys : UniqueOn key rows)
    (horder : order.Perm (stuckRows platform stuckBefore rows)) :
    order.foldl (settleRow platform) ⟨usage, rows⟩ =
      progress usage rows (stuckRows platform stuckBefore rows) := by
  have hnodup : order.Nodup := horder.nodup_iff.mpr ((List.Nodup.of_map _ hkeys).filter _)
  rw [foldl_settleRow hkeys hnodup fun r hr => mem_stuckRows (horder.mem_iff.mp hr),
    progress_congr horder]

/-! ## All at once -/

/-- The rows that the second statement hands back. -/
def refundedRows (platform : Platform) (stuckBefore : ℤ) (rows : List ChatIdempotency) :
    List ChatIdempotency :=
  updateReturning (isStuck platform stuckBefore .reserved) (setStatus .refunded)
    (updateWhere (isStuck platform stuckBefore .delivered) (setStatus .completed) rows)

lemma isStuck_finalized (row : ChatIdempotency) :
    isStuck platform stuckBefore .reserved (if isStuck platform stuckBefore .delivered row then
      setStatus .completed row else row) = isStuck platform stuckBefore .reserved row := by
  split
  next hstuck =>
    simp [isStuck, setStatus, (isStuck_eq_true hstuck).2]
  · rfl

lemma recoverAll_idempotency : (recoverAllStuckReserved greatestZero isoDay platform stuckBefore
    ⟨usage, rows⟩).1.idempotency =
      (progress usage rows (stuckRows platform stuckBefore rows)).idempotency := by
  simp only [recoverAllStuckReserved, updateWhere, progress, map_map]
  refine map_congr_left fun row hrow => ?_
  simp only [Function.comp, isStuck_finalized, stuckRows, mem_filter, hrow, true_and]
  cases hdeliv : isStuck platform stuckBefore .delivered row with
  | true =>
    have hstat := (isStuck_eq_true hdeliv).2
    have hres : isStuck platform stuckBefore .reserved row = false := by
      simp [isStuck, hstat]
    simp [hres, settled, hstat]
  | false =>
    cases hres : isStuck platform stuckBefore .reserved row with
    | true => simp [settled, (isStuck_eq_true hres).2]
    | false => simp

lemma bucketCount_refundedRows (bucket : QuotaBucket) :
    bucketCount (refundedRows platform stuckBefore rows) bucket = bucketCount
      ((stuckRows platform stuckBefore rows).filter fun row => row.status = .reserved) bucket := by
  rw [refundedRows, bucketCount_updateReturning]
  simp only [bucketCount, countP_filter, stuckRows, countP_updateWhere]
  refine countP_congr fun row _ => ?_
  have hbuck : (if isStuck platform stuckBefore .delivered row then setStatus .completed row
      else row).bucket = row.bucket := by
    split <;> rfl
  rw [isStuck_finalized, hbuck]
  cases hres : isStuck platform stuckBefore .reserved row with
  | true => simp [(isStuck_eq_true hres).2]
  | false =>
    cases hdeliv : isStuck platform stuckBefore .delivered row with
    | true => simp [(isStuck_eq_true hdeliv).2]
    | false => simp

lemma mem_refundedRows (hr : r ∈ refundedRows platform stuckBefore rows) :
    r.platform = platform ∧ ∃ old ∈ rows, isStuck platform stuckBefore .reserved old = true ∧
      r.externalUserId = old.externalUserId ∧ r.usageDate = old.usageDate := by
  obtain ⟨_, hq, hstuck, rfl⟩ := mem_updateReturning.mp hr
  obtain ⟨old, hold, rfl⟩ := mem_map.mp hq
  refine ⟨(isStuck_eq_true hstuck).1, old, hold, by rwa [isStuck_finalized] at hstuck, ?_⟩
  split <;> exact ⟨rfl, rfl⟩

lemma recoverAll_usage (hcolon : ∀ r ∈ rows, isStuck platform stuckBefore .reserved r = true →
      ':' ∉ r.externalUserId.toList) :
    (recoverAllStuckReserved greatestZero isoDay platform stuckBefore ⟨usage, rows⟩).1.usage =
      lowerAll ((refundedRows platform stuckBefore rows).map (readRow isoDay)) usage := by
  have hpages := flatten_pages (by decide : 0 < pageSize)
    ((refundedRows platform stuckBefore rows).map (readRow isoDay))
  have hrow : ∀ r ∈ (refundedRows platform stuckBefore rows).map (readRow isoDay),
      r.platform = platform ∧ ':' ∉ r.externalUserId.toList := by
    intro _ hr
    obtain ⟨row, hrow, rfl⟩ := mem_map.mp hr
    obtain ⟨hplat, old, hold, hstuck, hid, -⟩ := mem_refundedRows hrow
    refine ⟨hplat, ?_⟩
    rw [readRow, hid]
    exact hcolon old hold hstuck
  rw [← hpages] at hrow ⊢
  exact foldl_decrementPage_eq_lowerAll (fun r hr => (hrow r hr).1) fun r hr => (hrow r hr).2

lemma recoverAll_eq (hplain : ∀ r ∈ rows, isStuck platform stuckBefore .reserved r = true →
      ':' ∉ r.externalUserId.toList ∧ isoDay r.usageDate = r.usageDate) :
    (recoverAllStuckReserved greatestZero isoDay platform stuckBefore ⟨usage, rows⟩).1 =
      progress usage rows (stuckRows platform stuckBefore rows) := by
  have hread : (refundedRows platform stuckBefore rows).map (readRow isoDay) =
      refundedRows platform stuckBefore rows := by
    refine (map_congr_left fun r hr => ?_).trans (List.map_id _)
    obtain ⟨-, old, hold, hstuck, -, hdate⟩ := mem_refundedRows hr
    rw [readRow, hdate, (hplain old hold hstuck).2, ← hdate]
    rfl
  rw [MeteringDb.mk.injEq]
  refine ⟨?_, recoverAll_idempotency⟩
  rw [recoverAll_usage fun r hr hstuck => (hplain r hr hstuck).1, hread, lowerAll]
  simp only [bucketCount_refundedRows]
  rfl

/-! ## Ids with a colon -/

lemma not_mem_of_mem_splitOn {part chars : List Char} (h : part ∈ chars.splitOn ':') :
    ':' ∉ part := by
  induction chars generalizing part with
  | nil =>
    rw [splitOn_nil, mem_singleton] at h
    simp [h]
  | cons _ chars ih =>
    rw [List.splitOn, splitOnP_cons_eq_if_modifyHead] at h
    split at h
    · rcases mem_cons.mp h with rfl | hrest
      · simp
      · exact ih hrest
    next hc =>
      cases hparts : chars.splitOnP (· == ':') with
      | nil => simp [hparts] at h
      | cons first =>
        rw [hparts, modifyHead_cons, mem_cons] at h
        rcases h with rfl | hrest
        · have hfirst : ':' ∉ first := ih (by rw [List.splitOn, hparts]; simp)
          simp only [beq_iff_eq] at hc
          simp [hfirst, Ne.symm hc]
        · exact ih (by rw [List.splitOn, hparts]; simp [hrest])

/-- No statement of a page finds a counter whose external id has a colon. -/
theorem decrementPage_of_colon {u : ChatDailyUsage} (hcolon : ':' ∈ u.externalUserId.toList)
    (page : List ChatIdempotency) : decrementPage greatestZero platform [u] page = [u] := by
  have hpart : ∀ (key : String) (i : ℕ), some u.externalUserId ≠ (splitKey key)[i]? := by
    intro key _ hfind
    obtain ⟨_, hpart, hid⟩ := mem_map.mp (mem_of_getElem? hfind.symm)
    rw [← hid, String.toList_ofList] at hcolon
    exact not_mem_of_mem_splitOn hpart hcolon
  have hanon : ∀ key, matchesAnonymous platform u key = false := fun key => by
    simp [matchesAnonymous, hpart]
  have hlearn : ∀ key, matchesLearner platform u key = false := fun key => by
    simp [matchesLearner, hpart]
  have hkept : ∀ {isMatch : ChatDailyUsage → String → Bool}, (∀ key, isMatch u key = false) →
      ∀ entries, decrementMatching greatestZero isMatch entries [u] = [u] := by
    intro isMatch hnone entries
    have hfind : (entries.find? fun entry => isMatch u entry.1) = none :=
      find?_eq_none.mpr fun entry _ => by simp [hnone]
    simp [decrementMatching, hfind]
  rw [decrementPage, hkept hanon, hkept hlearn]

/-! ## Dates that are read as another day -/

/-- A stuck reservation of the last date that is read as an earlier day: no row is read as one of
its bucket. -/
lemma exists_missed_bucket (hback : ∀ date, (isoDay date).text ≤ date.text) (hr : r ∈ rows)
    (hstuck : isStuck platform stuckBefore .reserved r = true)
    (hdate : isoDay r.usageDate ≠ r.usageDate) :
    ∃ q ∈ rows, isStuck platform stuckBefore .reserved q = true ∧
      bucketCount ((refundedRows platform stuckBefore rows).map (readRow isoDay)) q.bucket = 0 := by
  let shifted := rows.filter fun row => isStuck platform stuckBefore .reserved row ∧
    isoDay row.usageDate ≠ row.usageDate
  have hshifted : r ∈ shifted.toFinset := by simp [shifted, hr, hstuck, hdate]
  obtain ⟨q, hq, hmax⟩ := shifted.toFinset.exists_max_image (fun row => row.usageDate.text)
    ⟨r, hshifted⟩
  simp only [shifted, mem_toFinset, mem_filter, decide_eq_true_eq] at hq hmax
  refine ⟨q, hq.1, hq.2.1, countP_eq_zero.mpr fun _ hread => ?_⟩
  obtain ⟨row, hrow, rfl⟩ := mem_map.mp hread
  obtain ⟨-, old, hold, hstuck, -, hsame⟩ := mem_refundedRows hrow
  rw [decide_eq_true_eq]
  intro hbuck
  have hread : isoDay old.usageDate = q.usageDate :=
    hsame ▸ congrArg QuotaBucket.usageDate hbuck
  by_cases hkept : isoDay old.usageDate = old.usageDate
  · exact hq.2.2 (by rw [← hread, hkept, hkept])
  · -- the row would be of a later date
    have hlater := hmax old ⟨hold, hstuck, hkept⟩
    have hearlier := hback old.usageDate
    rw [hread] at hearlier
    have hdates := UsageDate.text_inj.mp (le_antisymm hlater hearlier)
    exact hkept (hread.trans hdates.symm)

/-- For every table of reservations and every cutoff: the bulk recovery leaves the tables that the
one-row paths leave, for all counters and in any order of the stuck rows, if and only if no stuck
reservation has an external id with a colon and the process reads their dates as they are.  The UTC
day of a midnight is the same or an earlier one, in every time zone. -/
theorem recoverAll_eq_settleAll_iff (isoDay : UsageDate → UsageDate)
    (hback : ∀ date, (isoDay date).text ≤ date.text) (platform : Platform) (stuckBefore : ℤ)
    (rows : List ChatIdempotency) (hkeys : UniqueOn key rows) :
    (∀ r ∈ rows, isStuck platform stuckBefore .reserved r = true →
        ':' ∉ r.externalUserId.toList ∧ isoDay r.usageDate = r.usageDate) ↔
      ∀ (usage : List ChatDailyUsage) (order : List ChatIdempotency),
        order.Perm (stuckRows platform stuckBefore rows) →
        (recoverAllStuckReserved greatestZero isoDay platform stuckBefore ⟨usage, rows⟩).1 =
          order.foldl (settleRow platform) ⟨usage, rows⟩ := by
  constructor
  · intro hplain _ _ horder
    rw [recoverAll_eq hplain, settleAll_eq hkeys horder]
  · intro hagree
    -- a counter of 1 for the bucket of a stuck row, which the one-row path lowers
    have hlowered : ∀ r ∈ rows, isStuck platform stuckBefore .reserved r = true →
        (recoverAllStuckReserved greatestZero isoDay platform stuckBefore
          ⟨[firstCharge r.bucket], rows⟩).1.usage ≠
            [firstCharge r.bucket] := by
      intro r hr hstuck hkept
      have hsame := congrArg MeteringDb.usage
        (hagree [firstCharge r.bucket] _ (List.Perm.refl _))
      have hcount : bucketCount ((stuckRows platform stuckBefore rows).filter fun row =>
          row.status = .reserved) r.bucket ≠ 0 := by
        have hstat := (isStuck_eq_true hstuck).2
        refine Nat.pos_iff_ne_zero.mp (countP_pos_iff.mpr ⟨r, ?_, by simp⟩)
        simp [stuckRows, hr, hstuck, hstat]
      rw [hkept, settleAll_eq hkeys (List.Perm.refl _)] at hsame
      simp only [progress, lowerAll, map_cons, map_nil, firstCharge_bucket] at hsame
      rw [lowered, if_neg hcount] at hsame
      have hzero : (1 : ℤ) = max (1 - _) 0 := congrArg ChatDailyUsage.freeFormCount
        (List.cons.inj hsame).1
      omega
    have hcolon : ∀ r ∈ rows, isStuck platform stuckBefore .reserved r = true →
        ':' ∉ r.externalUserId.toList := by
      intro r hr hstuck hcolon
      have hbulk : ∀ batches : List (List ChatIdempotency),
          batches.foldl (decrementPage greatestZero platform)
            [firstCharge r.bucket] = [firstCharge r.bucket] := by
        intro batches
        induction batches with
        | nil => rfl
        | cons _ _ ih => rw [foldl_cons, decrementPage_of_colon hcolon, ih]
      exact hlowered r hr hstuck (hbulk _)
    intro r hr hstuck
    refine ⟨hcolon r hr hstuck, Classical.byContradiction fun hdate => ?_⟩
    obtain ⟨q, hq, hqstuck, hmissed⟩ := exists_missed_bucket hback hr hstuck hdate
    refine hlowered q hq hqstuck ?_
    rw [recoverAll_usage hcolon, lowerAll, map_singleton, firstCharge_bucket, hmissed]
    rfl

def reservedFor (externalUserId idempotencyKey : String) : ChatIdempotency :=
  ⟨.messenger, idempotencyKey, externalUserId, none, MeteringSample.date, .reserved, 0⟩

def counter (externalUserId : String) (count : ℤ) : ChatDailyUsage :=
  ⟨.messenger, externalUserId, none, MeteringSample.date, count⟩

/-- Two stuck reservations of one user, settled at once or one after the other. -/
theorem recoverAll_eq_settleAll_iff_two :
    (recoverAllStuckReserved greatestZero id .messenger 10
        ⟨[counter "u1" 1], [reservedFor "u1" "m1", reservedFor "u1" "m2"]⟩).1 =
      [reservedFor "u1" "m2", reservedFor "u1" "m1"].foldl (settleRow .messenger)
        ⟨[counter "u1" 1], [reservedFor "u1" "m1", reservedFor "u1" "m2"]⟩ :=
  (recoverAll_eq_settleAll_iff id (fun _ => le_refl _) .messenger 10
    [reservedFor "u1" "m1", reservedFor "u1" "m2"] (by unfold UniqueOn; decide)).mp
    (by decide) _ _ (by decide)

/-- The reservation of `a:b` is refunded to the counter of `a`. -/
theorem refunded_to_other_id :
    (recoverAllStuckReserved greatestZero id .messenger 10
        ⟨[counter "a" 1, counter "a:b" 1], [reservedFor "a:b" "m1"]⟩).1.usage =
      [counter "a" 0, counter "a:b" 1] ∧
    (settleRow .messenger ⟨[counter "a" 1, counter "a:b" 1], [reservedFor "a:b" "m1"]⟩
        (reservedFor "a:b" "m1")).usage = [counter "a" 1, counter "a:b" 0] := by
  decide +kernel

end ChatRateLimitRepository

end WispaceBot
