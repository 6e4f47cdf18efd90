import WispaceBot.ChatMetering.Ledger
import WispaceBot.Foundation.SlidingWindow

/-!
# What the transactions do to the quotas

Only a reservation raises a counter or adds a row.  The other transactions lower counters of the
rows they refund (`LoweredOn`), and retire rows (`Retires`), whatever the external ids look like.
-/

namespace WispaceBot

open List Bool Table Tally Pages ChatRateLimitRepository SlidingWindow

/-! ## Counters that are lowered -/

/-- A counter after it was lowered, which only happens in the buckets of `P`. -/
def Lowers (P : QuotaBucket → Prop) (old new : ChatDailyUsage) : Prop :=
  ∃ count, new = withCount old count ∧
    (0 ≤ old.freeFormCount → 0 ≤ count ∧ count ≤ old.freeFormCount) ∧
    (count ≠ old.freeFormCount → P old.bucket)

/-- The counters are the same ones, and only those of the buckets of `P` are lowered. -/
def LoweredOn (P : QuotaBucket → Prop) (usage next : List ChatDailyUsage) : Prop :=
  List.Forall₂ (Lowers P) usage next

/-- A row has the platform and the owner of the bucket, its external id unless that has a colon, and
its date where the transaction keeps dates. -/
def Touches (dates : Prop) (row : ChatIdempotency) (bucket : QuotaBucket) : Prop :=
  row.platform = bucket.platform ∧ (dates → row.usageDate = bucket.usageDate) ∧
    row.userId = bucket.userId ∧
    (':' ∉ row.externalUserId.toList → row.externalUserId = bucket.externalUserId)

lemma touches_bucket (dates : Prop) (row : ChatIdempotency) : Touches dates row row.bucket :=
  ⟨rfl, fun _ => rfl, rfl, fun _ => rfl⟩

lemma Lowers.refl (P : QuotaBucket → Prop) (u : ChatDailyUsage) : Lowers P u u :=
  ⟨u.freeFormCount, rfl, fun h => ⟨h, Int.le_refl _⟩, fun h => absurd rfl h⟩

variable {P : QuotaBucket → Prop}

lemma Lowers.trans {u v w : ChatDailyUsage} (huv : Lowers P u v) (hvw : Lowers P v w) :
    Lowers P u w := by
  obtain ⟨first, rfl, hfirst, hfirstP⟩ := huv
  obtain ⟨second, rfl, hsnd, hsecondP⟩ := hvw
  refine ⟨second, rfl, fun h => ?_, fun hne => ?_⟩
  · have h₁ := hfirst h
    have h₂ := hsnd h₁.1
    rw [withCount_freeFormCount] at h₂
    omega
  · by_cases hchg : first = u.freeFormCount
    · exact hsecondP (by rwa [withCount_freeFormCount, hchg])
    · exact hfirstP hchg

lemma Lowers.clamped {u : ChatDailyUsage} (n : ℕ) (hP : P u.bucket) :
    Lowers P u (withCount u (greatestZero (u.freeFormCount - n))) := by
  refine ⟨_, rfl, fun h => ?_, fun _ => hP⟩
  unfold greatestZero
  omega

namespace LoweredOn

variable {P : QuotaBucket → Prop} {usage next : List ChatDailyUsage}

lemma refl (P : QuotaBucket → Prop) (usage : List ChatDailyUsage) : LoweredOn P usage usage :=
  List.forall₂_same.mpr fun u _ => Lowers.refl P u

lemma of_map {f : ChatDailyUsage → ChatDailyUsage} (h : ∀ u ∈ usage, Lowers P u (f u)) :
    LoweredOn P usage (usage.map f) :=
  List.forall₂_map_right_iff.mpr (List.forall₂_same.mpr h)

lemma trans {last : List ChatDailyUsage} (h : LoweredOn P usage next)
    (hnext : LoweredOn P next last) : LoweredOn P usage last := by
  induction h generalizing last with
  | nil => exact hnext
  | cons huv _ ih =>
    cases hnext with
    | cons hvw hrest => exact .cons (huv.trans hvw) (ih hrest)

lemma mono {Q : QuotaBucket → Prop} (hPQ : ∀ bucket, P bucket → Q bucket)
    (h : LoweredOn P usage next) : LoweredOn Q usage next := by
  refine List.Forall₂.imp (fun u v huv => ?_) h
  obtain ⟨count, rfl, hcount, hP⟩ := huv
  exact ⟨count, rfl, hcount, fun hne => hPQ _ (hP hne)⟩

lemma exists_of_mem (h : LoweredOn P usage next) {v : ChatDailyUsage} (hv : v ∈ next) :
    ∃ u ∈ usage, Lowers P u v := by
  induction h with
  | nil => cases hv
  | @cons u w usage next huw _ ih =>
    rcases mem_cons.mp hv with rfl | hrest
    · exact ⟨u, mem_cons_self, huw⟩
    · obtain ⟨old, hold, hlowers⟩ := ih hrest
      exact ⟨old, mem_cons_of_mem u hold, hlowers⟩

lemma map_bucket_eq (h : LoweredOn P usage next) :
    next.map ChatDailyUsage.bucket = usage.map ChatDailyUsage.bucket := by
  induction h with
  | nil => rfl
  | cons huv _ ih =>
    obtain ⟨_, rfl, -, -⟩ := huv
    rw [map_cons, map_cons, ih, withCount_bucket]

lemma of_usageOf_ne (h : LoweredOn P usage next) {bucket : QuotaBucket}
    (hne : usageOf next bucket ≠ usageOf usage bucket) : P bucket := by
  induction h with
  | nil => exact absurd rfl hne
  | @cons u v usage next huv _ ih =>
    obtain ⟨_, rfl, -, hP⟩ := huv
    by_cases hbuck : u.bucket = bucket
    · rw [← hbuck]
      refine hP fun hsame => hne ?_
      simp [usageOf, hbuck, hsame]
    · refine ih fun hsame => hne ?_
      simpa [usageOf, hbuck] using hsame

end LoweredOn

lemma loweredOn_releaseUsage (bucket : QuotaBucket) (usage : List ChatDailyUsage) :
    LoweredOn (· = bucket) usage (releaseUsage greatestZero bucket usage) := by
  refine LoweredOn.of_map fun u _ => ?_
  by_cases hbuck : u.bucket = bucket
  · simpa [hbuck, withCount] using Lowers.clamped (P := (· = bucket)) (u := u) 1 hbuck
  · simpa [hbuck] using Lowers.refl (· = bucket) u

/-! ## The bulk recovery, with any external ids -/

variable {platform : Platform} {row : ChatDailyUsage} {r : ChatIdempotency} {key : String}

lemma touches_of_matchesAnonymous (hkey : anonymousKey r = some key)
    (hplat : r.platform = platform) (hmatch : matchesAnonymous platform row key = true) :
    Touches True r row.bucket := by
  obtain ⟨huser, hparts⟩ := anonymousKey_eq_some hkey
  have hfields := hmatch
  simp only [matchesAnonymous, hparts, getElem?_cons_zero, sliceDate_text,
    decide_eq_true_eq, UsageDate.text_inj] at hfields
  obtain ⟨hrowPlatform, hdate, -, hnone⟩ := hfields
  refine ⟨hplat.trans hrowPlatform.symm, fun _ => hdate.symm, huser.trans hnone.symm, ?_⟩
  intro hcolon
  have hbuck := (matchesAnonymous_iff hkey hcolon hplat).mp hmatch
  exact congrArg QuotaBucket.externalUserId hbuck

lemma touches_of_matchesLearner (hkey : learnerKey r = some key)
    (hplat : r.platform = platform) (hmatch : matchesLearner platform row key = true) :
    Touches True r row.bucket := by
  obtain ⟨uid, huser, hparts⟩ := learnerKey_eq_some hkey
  have hnum : (toString uid).toNat? = some uid := Nat.toNat?_repr uid
  have hfields := hmatch
  simp only [matchesLearner, hparts, getElem?_cons_zero, getElem?_cons_succ,
    Option.bind_some, hnum, sliceDate_text, decide_eq_true_eq, UsageDate.text_inj] at hfields
  obtain ⟨hrowPlatform, -, howner, hdate, -⟩ := hfields
  refine ⟨hplat.trans hrowPlatform.symm, fun _ => hdate.symm, huser.trans howner.symm, ?_⟩
  intro hcolon
  have hbuck := (matchesLearner_iff hkey hcolon hplat).mp hmatch
  exact congrArg QuotaBucket.externalUserId hbuck

variable {page : List ChatIdempotency}

lemma loweredOn_decrementMatching {keyOf : ChatIdempotency → Option String}
    {isMatch : ChatDailyUsage → String → Bool}
    (htouch : ∀ r ∈ page, ∀ key row, keyOf r = some key → isMatch row key = true →
      Touches True r row.bucket) (usage : List ChatDailyUsage) :
    LoweredOn (fun bucket => ∃ r ∈ page, Touches True r bucket) usage
      (decrementMatching greatestZero isMatch (tally (page.filterMap keyOf)) usage) := by
  refine LoweredOn.of_map fun u _ => ?_
  cases hfind : (tally (page.filterMap keyOf)).find? fun entry => isMatch u entry.1 with
  | none => exact Lowers.refl _ u
  | some entry =>
    have hentry := mem_tally.mp (mem_of_find?_eq_some hfind)
    obtain ⟨r, hr, hkey⟩ := mem_filterMap.mp hentry.1
    have hmatch := find?_some hfind
    exact Lowers.clamped entry.2 ⟨r, hr, htouch r hr entry.1 u hkey hmatch⟩

lemma loweredOn_decrementPage (hplat : ∀ r ∈ page, r.platform = platform)
    (usage : List ChatDailyUsage) :
    LoweredOn (fun bucket => ∃ r ∈ page, Touches True r bucket) usage
      (decrementPage greatestZero platform usage page) := by
  refine LoweredOn.trans (loweredOn_decrementMatching (fun r hr key row hkey hmatch => ?_) usage)
    (loweredOn_decrementMatching (fun r hr key row hkey hmatch => ?_) _)
  · exact touches_of_matchesAnonymous hkey (hplat r hr) hmatch
  · exact touches_of_matchesLearner hkey (hplat r hr) hmatch

lemma loweredOn_pages {batches : List (List ChatIdempotency)}
    (hplat : ∀ r ∈ batches.flatten, r.platform = platform) (usage : List ChatDailyUsage) :
    LoweredOn (fun bucket => ∃ r ∈ batches.flatten, Touches True r bucket) usage
      (batches.foldl (decrementPage greatestZero platform) usage) := by
  induction batches generalizing usage with
  | nil => exact LoweredOn.refl _ usage
  | cons page _ ih =>
    simp only [flatten_cons, mem_append] at hplat ⊢
    have hpage := loweredOn_decrementPage (fun r hr => hplat r (.inl hr)) usage
    have hrest := ih (fun r hr => hplat r (.inr hr))
      (decrementPage greatestZero platform usage page)
    refine LoweredOn.trans (hpage.mono ?_) (hrest.mono ?_)
    · rintro bucket ⟨r, hr, htouches⟩
      exact ⟨r, .inl hr, htouches⟩
    · rintro _ ⟨r, hr, htouches⟩
      exact ⟨r, .inr hr, htouches⟩

/-! ## Rows that are retired -/

def Retires (new old : ChatIdempotency) : Prop :=
  ∃ status, new = setStatus status old ∧ (status.isCharged = true → old.status.isCharged = true)

instance : IsTrans ChatIdempotency Retires where
  trans := by
    rintro _ _ _ ⟨second, rfl, hsecond⟩ ⟨_, rfl, hfirst⟩
    exact ⟨second, rfl, fun h => hfirst (hsecond h)⟩

lemma Retires.refl (row : ChatIdempotency) : Retires row row := ⟨row.status, rfl, id⟩

def RetiredFrom (next rows : List ChatIdempotency) : Prop :=
  List.SublistForall₂ Retires next rows

namespace RetiredFrom

variable {rows next : List ChatIdempotency}

lemma refl (rows : List ChatIdempotency) : RetiredFrom rows rows :=
  List.sublistForall₂_iff.mpr
    ⟨rows, List.forall₂_same.mpr fun r _ => Retires.refl r, List.Sublist.refl rows⟩

lemma trans {last : List ChatIdempotency} (hlast : RetiredFrom last next)
    (h : RetiredFrom next rows) : RetiredFrom last rows :=
  IsTrans.trans (r := List.SublistForall₂ Retires) last next rows hlast h

lemma updateWhere {p : ChatIdempotency → Bool} {status : ChatIdempotencyStatus}
    (h : ∀ r ∈ rows, p r = true → status.isCharged = true → r.status.isCharged = true) :
    RetiredFrom (Table.updateWhere p (setStatus status) rows) rows := by
  refine List.sublistForall₂_iff.mpr ⟨rows, ?_, List.Sublist.refl rows⟩
  refine List.forall₂_map_left_iff.mpr (List.forall₂_same.mpr fun r hr => ?_)
  cases hp : p r with
  | true => exact ⟨status, by simp, h r hr hp⟩
  | false => simpa using Retires.refl r

lemma deleteWhere (p : ChatIdempotency → Bool) (rows : List ChatIdempotency) :
    RetiredFrom (Table.deleteWhere p rows) rows :=
  List.sublistForall₂_iff.mpr ⟨_, List.forall₂_same.mpr fun r _ => Retires.refl r, filter_sublist⟩

lemma hasKey_eq_false {key : Platform × String} (h : RetiredFrom next rows)
    (hkey : hasKey rows key = false) : hasKey next key = false := by
  rw [WispaceBot.hasKey_eq_false] at hkey ⊢
  intro _ hr
  induction h with
  | nil => cases hr
  | @cons new old _ _ hretires _ ih =>
    obtain ⟨_, rfl, -⟩ := hretires
    rcases mem_cons.mp hr with rfl | hrest
    · exact hkey old mem_cons_self
    · exact ih (fun q hq => hkey q (mem_cons_of_mem _ hq)) hrest
  | cons_right _ ih => exact ih (fun q hq => hkey q (mem_cons_of_mem _ hq)) hr

end RetiredFrom

/-! ## Transactions other than reservations -/

namespace MeteringOp

def isReserve : MeteringOp → Bool
  | .reserve _ _ _ => true
  | _ => false

lemma apply_settles (op : MeteringOp) (hop : op.isReserve = false) (db : MeteringDb) :
    LoweredOn (fun bucket => ∃ r ∈ op.refundedRows db, Touches op.KeepsDates r bucket) db.usage
      (op.apply db).usage ∧ RetiredFrom (op.apply db).idempotency db.idempotency := by
  have href : ∀ (p : ChatIdempotency → Bool) (rows : List ChatIdempotency),
      RetiredFrom (updateWhere p (setStatus .refunded) rows) rows :=
    fun p rows => .updateWhere fun r _ _ h => by cases h
  cases op with
  | reserve => cases hop
  | refund platform key =>
    rw [apply, applyWith]
    rcases refundReservedSlot_cases platform key db with
      ⟨hrows, hres⟩ | ⟨row, hmem, hsel, hrows, hres⟩
    · rw [hres]
      exact ⟨.refl _ _, .refl _⟩
    · rw [hres, hrows]
      refine ⟨(loweredOn_releaseUsage row.bucket db.usage).mono ?_, href _ _⟩
      rintro bucket rfl
      exact ⟨_, mem_singleton_self _, touches_bucket _ (setStatus .refunded row)⟩
  | deliver =>
    refine ⟨.refl _ _, .updateWhere fun r _ hsel _ => ?_⟩
    have hstat : r.status = .reserved := by simpa using (selects_eq_true.mp hsel).2
    rw [hstat]
    rfl
  | complete =>
    refine ⟨.refl _ _, .updateWhere fun r _ hsel _ => ?_⟩
    have hstat : r.status = .reserved ∨ r.status = .delivered := by
      simpa using (selects_eq_true.mp hsel).2
    rcases hstat with hstat | hstat <;> rw [hstat] <;> rfl
  | recoverForRetry platform key stuck =>
    rw [apply, applyWith]
    rcases recoverIdempotencyForRetry_cases platform key stuck db with
      ⟨-, hres⟩ | ⟨-, -, -, -, -, hres⟩ | ⟨row, hmem, hsel, hrows, hres⟩
    · rw [hres]
      exact ⟨.refl _ _, .refl _⟩
    · rw [hres]
      exact ⟨.refl _ _, .deleteWhere _ _⟩
    · rw [hres, hrows]
      refine ⟨(loweredOn_releaseUsage row.bucket db.usage).mono ?_,
        RetiredFrom.trans (.deleteWhere _ _) (href _ _)⟩
      rintro _ rfl
      exact ⟨row, mem_singleton_self row, touches_bucket _ row⟩
  | recoverAll platform stuck isoDay =>
    have hpages := flatten_pages (by decide : 0 < pageSize)
      (((recoverAll platform stuck isoDay).refundedRows db).map (readRow isoDay))
    have hplat : ∀ r ∈ (pages pageSize (((recoverAll platform stuck isoDay).refundedRows db).map
        (readRow isoDay))).flatten, r.platform = platform := by
      intro r hr
      rw [hpages] at hr
      obtain ⟨_, hrow, rfl⟩ := mem_map.mp hr
      obtain ⟨_, -, hstuck, rfl⟩ := mem_updateReturning.mp hrow
      exact (isStuck_eq_true hstuck).1
    have hlow := loweredOn_pages hplat db.usage
    rw [hpages] at hlow
    refine ⟨hlow.mono ?_, ?_⟩
    · rintro bucket ⟨_, hr, hplatform, hdate, howner⟩
      obtain ⟨row, hrow, rfl⟩ := mem_map.mp hr
      exact ⟨row, hrow, hplatform, fun hdates => (hdates _).symm.trans (hdate trivial), howner⟩
    refine RetiredFrom.trans (href _ _) (.updateWhere fun r _ hstuck _ => ?_)
    rw [(isStuck_eq_true hstuck).2]
    rfl

end MeteringOp

/-! ## Daily limits -/

lemma learnerUsage_cons (u : ChatDailyUsage) (usage : List ChatDailyUsage) (date : UsageDate)
    (uid : ℕ) :
    learnerUsage (u :: usage) date uid =
      (if u.usageDate = date ∧ u.userId = some uid then u.freeFormCount else 0) +
        learnerUsage usage date uid := by
  by_cases hscope : u.usageDate = date ∧ u.userId = some uid <;>
    simp [learnerUsage, hscope]

lemma learnerUsage_append (first second : List ChatDailyUsage) (date : UsageDate) (uid : ℕ) :
    learnerUsage (first ++ second) date uid =
      learnerUsage first date uid + learnerUsage second date uid := by
  simp [learnerUsage, filter_append]

lemma learnerUsage_le_of_loweredOn {usage next : List ChatDailyUsage} (h : LoweredOn P usage next)
    (hnonneg : ∀ u ∈ usage, 0 ≤ u.freeFormCount) (date : UsageDate) (uid : ℕ) :
    learnerUsage next date uid ≤ learnerUsage usage date uid := by
  induction h with
  | nil => exact Int.le_refl _
  | @cons u v usage next huv _ ih =>
    obtain ⟨count, rfl, hcount, -⟩ := huv
    have hu := hcount (hnonneg u mem_cons_self)
    have hrest := ih fun w hw => hnonneg w (mem_cons_of_mem u hw)
    have hkept : (withCount u count).usageDate = u.usageDate ∧
        (withCount u count).userId = u.userId := ⟨rfl, rfl⟩
    rw [learnerUsage_cons, learnerUsage_cons, hkept.1, hkept.2, withCount_freeFormCount]
    split
    · omega
    · omega

variable {usage : List ChatDailyUsage} {bucket : QuotaBucket}

lemma learnerUsage_raise {q : ChatDailyUsage} (huniq : UniqueOn ChatDailyUsage.bucket usage)
    (hq : q ∈ usage) (hbuck : q.bucket = bucket) (date : UsageDate) (uid : ℕ) :
    learnerUsage (updateWhere (fun u => u.bucket = bucket)
        (fun u => withCount u (u.freeFormCount + 1)) usage) date uid =
      learnerUsage usage date uid +
        if bucket.usageDate = date ∧ bucket.userId = some uid then 1 else 0 := by
  induction usage with
  | nil => cases hq
  | cons u rest ih =>
    unfold UniqueOn at huniq
    rw [map_cons, nodup_cons] at huniq
    by_cases hu : u.bucket = bucket
    · -- no other counter is of the bucket
      have hrest : updateWhere (fun u => u.bucket = bucket)
          (fun u => withCount u (u.freeFormCount + 1)) rest = rest := by
        refine updateWhere_of_forall_not fun w hw => decide_eq_false fun hw' => huniq.1 ?_
        rw [hu, ← hw']
        exact mem_map_of_mem hw
      have hcons : updateWhere (fun u => u.bucket = bucket)
          (fun u => withCount u (u.freeFormCount + 1)) (u :: rest) =
            withCount u (u.freeFormCount + 1) :: rest := by
        rw [updateWhere, map_cons, ← updateWhere, hrest]
        simp [hu]
      have hfields : bucket.usageDate = u.usageDate ∧ bucket.userId = u.userId := by
        rw [← hu]
        exact ⟨rfl, rfl⟩
      have hkept : (withCount u (u.freeFormCount + 1)).usageDate = u.usageDate ∧
          (withCount u (u.freeFormCount + 1)).userId = u.userId := ⟨rfl, rfl⟩
      rw [hcons, learnerUsage_cons, learnerUsage_cons, hkept.1, hkept.2, hfields.1, hfields.2,
        withCount_freeFormCount]
      split <;> omega
    · have hqrest : q ∈ rest := by
        rcases mem_cons.mp hq with rfl | hrest
        · exact absurd hbuck hu
        · exact hrest
      have hcons : updateWhere (fun u => u.bucket = bucket)
          (fun u => withCount u (u.freeFormCount + 1)) (u :: rest) =
            u :: updateWhere (fun u => u.bucket = bucket)
              (fun u => withCount u (u.freeFormCount + 1)) rest := by
        simp [updateWhere, hu]
      rw [hcons, learnerUsage_cons, learnerUsage_cons, ih huniq.2 hqrest]
      omega

lemma learnerUsage_upsertUsage {guard : ChatDailyUsage → Bool}
    (huniq : UniqueOn ChatDailyUsage.bucket usage)
    (hpaid : (upsertUsage bucket guard usage).2 = true) (date : UsageDate) (uid : ℕ) :
    learnerUsage (upsertUsage bucket guard usage).1 date uid = learnerUsage usage date uid +
        if bucket.usageDate = date ∧ bucket.userId = some uid then 1 else 0 := by
  rcases upsertUsage_cases huniq hpaid with ⟨-, hres⟩ | ⟨_, hq, hbuck, -, hres⟩
  · rw [hres, learnerUsage_append]
    by_cases hscope : bucket.usageDate = date ∧ bucket.userId = some uid <;>
      simp [learnerUsage, firstCharge, hscope]
  · rw [hres]
    exact learnerUsage_raise huniq hq hbuck date uid

/-- There is one counter per bucket and none is negative. -/
structure SoundCounters (usage : List ChatDailyUsage) : Prop where
  buckets : UniqueOn ChatDailyUsage.bucket usage
  nonneg : ∀ u ∈ usage, 0 ≤ u.freeFormCount

namespace SoundCounters

variable {usage : List ChatDailyUsage}

lemma empty : SoundCounters [] := ⟨nodup_nil, by simp⟩

lemma usageOf_nonneg (h : SoundCounters usage) (bucket : QuotaBucket) :
    0 ≤ usageOf usage bucket := by
  unfold usageOf
  cases hfind : usage.find? fun row => row.bucket = bucket with
  | none => exact Int.le_refl _
  | some u => exact h.nonneg u (mem_of_find?_eq_some hfind)

lemma lowered (h : SoundCounters usage) {P : QuotaBucket → Prop} {next : List ChatDailyUsage}
    (hlow : LoweredOn P usage next) : SoundCounters next := by
  refine ⟨?_, ?_⟩
  · rw [UniqueOn, hlow.map_bucket_eq]
    exact h.buckets
  · intro _ hv
    obtain ⟨u, hu, _, rfl, hcount, -⟩ := hlow.exists_of_mem hv
    exact (hcount (h.nonneg u hu)).1

lemma charge (h : SoundCounters usage) {bucket : QuotaBucket} {guard : ChatDailyUsage → Bool}
    (hpaid : (upsertUsage bucket guard usage).2 = true) :
    SoundCounters (upsertUsage bucket guard usage).1 := by
  refine ⟨h.buckets.insertOnConflict (fun _ _ => rfl) fun hnew => hnew, fun u hu => ?_⟩
  rcases (mem_upsertUsage h.buckets hpaid).mp hu with ⟨hold, -⟩ | rfl
  · exact h.nonneg u hold
  · have hread := h.usageOf_nonneg bucket
    rw [withCount_freeFormCount]
    omega

end SoundCounters

/-- The daily limit holds for every learner and every anonymous channel. -/
structure WithinLimit (limit : ℤ) (usage : List ChatDailyUsage) : Prop where
  learner : ∀ date userId, learnerUsage usage date userId ≤ limit
  anonymous : ∀ u ∈ usage, u.userId = none → u.freeFormCount ≤ limit

namespace WithinLimit

variable {limit : ℤ} {usage : List ChatDailyUsage}

lemma empty (hlimit : 1 ≤ limit) : WithinLimit limit [] where
  learner := fun date uid => by
    have hzero : learnerUsage [] date uid = 0 := rfl
    omega
  anonymous := by simp

lemma lowered (h : WithinLimit limit usage) (hsound : SoundCounters usage)
    {P : QuotaBucket → Prop} {next : List ChatDailyUsage} (hlow : LoweredOn P usage next) :
    WithinLimit limit next := by
  refine ⟨fun date uid => ?_, fun v hv hnone => ?_⟩
  · exact Int.le_trans (learnerUsage_le_of_loweredOn hlow hsound.nonneg date uid)
      (h.learner date uid)
  · obtain ⟨u, hu, _, rfl, hcount, -⟩ := hlow.exists_of_mem hv
    exact Int.le_trans (hcount (hsound.nonneg u hu)).2 (h.anonymous u hu hnone)

lemma charge (h : WithinLimit limit usage) (hsound : SoundCounters usage) (hlimit : 1 ≤ limit)
    {bucket : QuotaBucket} {guard : ChatDailyUsage → Bool}
    (hpaid : (upsertUsage bucket guard usage).2 = true)
    (hlearn : ∀ uid, bucket.userId = some uid → learnerUsage usage bucket.usageDate uid < limit)
    (hanon : bucket.userId = none → ∀ u, guard u = true → u.freeFormCount < limit) :
    WithinLimit limit (upsertUsage bucket guard usage).1 := by
  refine ⟨fun date uid => ?_, fun u hu hnone => ?_⟩
  · rw [learnerUsage_upsertUsage hsound.buckets hpaid]
    have hpre := h.learner date uid
    split
    next hscope =>
      have hcheck := hlearn uid hscope.2
      rw [hscope.1] at hcheck
      omega
    · omega
  · rcases (mem_upsertUsage hsound.buckets hpaid).mp hu with ⟨hold, -⟩ | rfl
    · exact h.anonymous u hold hnone
    · rw [withCount_freeFormCount]
      rcases upsertUsage_cases hsound.buckets hpaid with
        ⟨hnew, -⟩ | ⟨q, hq, hbuck, hguard, -⟩
      · rw [usageOf_eq_zero hnew]
        omega
      · rw [usageOf_eq_of_mem hsound.buckets hq hbuck]
        have hbelow := hanon hnone q hguard
        omega

end WithinLimit

/-! ## Burst windows -/

variable {input : ReserveFreeFormSlotInput}

lemma burstExceeded_eq_none {rows : List ChatIdempotency} :
    burstExceeded platform input rows = none ↔ ∀ limit since, input.burst = some (limit, since) →
      (burstCount platform input.externalUserId since input.burstCountsRefunded rows : ℤ) ≤
        limit := by
  unfold burstExceeded
  cases hburst : input.burst with
  | none => simp
  | some burst =>
    obtain ⟨limit, since⟩ := burst
    simp only [Option.some.injEq, Prod.mk.injEq]
    constructor
    · intro hcheck _ _ hsame
      rw [← hsame.1, ← hsame.2]
      split at hcheck
      · cases hcheck
      · omega
    · intro hle
      rw [if_neg]
      have hcount := hle limit since ⟨rfl, rfl⟩
      omega

variable {rows next : List ChatIdempotency}

lemma burstExceeded_mono
    (hcount : ∀ since, burstCount platform input.externalUserId since input.burstCountsRefunded
      next ≤ burstCount platform input.externalUserId since input.burstCountsRefunded rows)
    (hcheck : burstExceeded platform input rows = none) :
    burstExceeded platform input next = none := by
  rw [burstExceeded_eq_none] at hcheck ⊢
  intro limit since hburst
  have hpre := hcheck limit since hburst
  have hfewer := hcount since
  omega

lemma burstCount_append (ext : String) (since : ℤ) (burstCountsRefunded : Bool)
    (first second : List ChatIdempotency) :
    burstCount platform ext since burstCountsRefunded (first ++ second) =
      burstCount platform ext since burstCountsRefunded first +
        burstCount platform ext since burstCountsRefunded second :=
  countP_append

lemma burstCount_le_of_retiredFrom (hretired : RetiredFrom next rows) (ext : String)
    (since : ℤ) (burstCountsRefunded : Bool) :
    burstCount platform ext since burstCountsRefunded next ≤
      burstCount platform ext since burstCountsRefunded rows := by
  refine countP_le_of_sublistForall₂ ?_ hretired
  rintro _ _ ⟨_, rfl, hstat⟩ hnew
  simp only [countsForBurst, and_eq_true, or_eq_true] at hnew ⊢
  exact ⟨hnew.1, hnew.2.imp_left hstat⟩

/-- The row is a charged message of this user. -/
def isBurst (platform : Platform) (externalUserId : String) (row : ChatIdempotency) : Bool :=
  decide (row.platform = platform ∧ row.externalUserId = externalUserId) && row.status.isCharged

def BurstBounded (limit : Platform → ℕ) (width : ℤ) (rows : List ChatIdempotency) : Prop :=
  ∀ platform externalUserId,
    Bounded ChatIdempotency.reservedAt (isBurst platform externalUserId) (limit platform) width rows

namespace BurstBounded

variable {limit : Platform → ℕ} {width : ℤ} {rows : List ChatIdempotency}

lemma empty : BurstBounded limit width [] := fun _ _ => Bounded.nil

lemma retired (h : BurstBounded limit width rows) {next : List ChatIdempotency}
    (hretired : RetiredFrom next rows) : BurstBounded limit width next := by
  intro platform ext
  refine Bounded.of_sublistForall₂ ?_ ?_ hretired (h platform ext)
  · rintro _ old ⟨status, rfl, -⟩
    rfl
  · rintro _ _ ⟨_, rfl, hstat⟩ hlive
    unfold isBurst at hlive ⊢
    rw [and_eq_true] at hlive ⊢
    exact ⟨hlive.1, hstat hlive.2⟩

lemma reserve (h : BurstBounded limit width rows) {t₀ since : ℤ} {input : ReserveFreeFormSlotInput}
    (hburst : input.burst = some ((limit platform : ℤ), since)) (hsince : since + width ≤ t₀)
    (hcheck : burstExceeded platform input (rows ++ [reservation platform t₀ input]) = none) :
    BurstBounded limit width (rows ++ [reservation platform t₀ input]) := by
  have hcount : burstCount platform input.externalUserId since input.burstCountsRefunded
      (rows ++ [reservation platform t₀ input]) ≤ limit platform := by
    have hle := burstExceeded_eq_none.mp hcheck (limit platform) since hburst
    omega
  intro other ext
  by_cases huser : platform = other ∧ input.externalUserId = ext
  · obtain ⟨rfl, rfl⟩ := huser
    refine (h platform input.externalUserId).append hsince (Nat.le_trans ?_ hcount)
    refine countP_mono_left fun r _ hr => ?_
    simp only [isBurst, countsForBurst, and_eq_true, or_eq_true, decide_eq_true_eq] at hr ⊢
    exact ⟨⟨hr.1.1.1, hr.1.1.2, hr.2⟩, .inl hr.1.2⟩
  · refine (h other ext).append_of_not_live ?_
    unfold isBurst reservation
    simp [huser]

end BurstBounded

end WispaceBot
