import WispaceBot.ChatMetering.Repository

/-!
# Releasing refunded reservations

The bulk recovery groups the refunded rows of a page under composed keys, splits the keys again and
lowers the counter that matches the parts.  Where no external id contains a colon, a page lowers
every counter by the number of its rows in that bucket, and the single-row paths release one row.
With counters that cover the rows the clamp plays no part: every statement is `release`.
-/

namespace WispaceBot

open List Option Function

namespace ChatRateLimitRepository

open Table Tally Pages

def bucketCount (rows : List ChatIdempotency) (bucket : QuotaBucket) : ℕ :=
  rows.countP fun row => row.bucket = bucket

lemma bucketCount_append (first second : List ChatIdempotency) (bucket : QuotaBucket) :
    bucketCount (first ++ second) bucket = bucketCount first bucket + bucketCount second bucket :=
  countP_append

def withCount (row : ChatDailyUsage) (count : ℤ) : ChatDailyUsage :=
  { row with freeFormCount := count }

section

variable (row : ChatDailyUsage)
include row

@[simp] lemma withCount_bucket (count : ℤ) :
    (withCount row count).bucket = row.bucket := rfl

@[simp] lemma withCount_freeFormCount (count : ℤ) :
    (withCount row count).freeFormCount = count := rfl

@[simp] lemma withCount_self :
    withCount row row.freeFormCount = row := rfl

end

section

variable (rows : List ChatIdempotency) (usage : List ChatDailyUsage)

def release : List ChatDailyUsage :=
  usage.map fun row => withCount row (row.freeFormCount - bucketCount rows row.bucket)

def Releasable : Prop :=
  ∀ row ∈ usage, (bucketCount rows row.bucket : ℤ) ≤ row.freeFormCount

end

lemma release_append (first second : List ChatIdempotency) (usage : List ChatDailyUsage) :
    release (first ++ second) usage = release second (release first usage) := by
  unfold release
  rw [List.map_map]
  refine map_congr_left fun row _ => ?_
  simp only [comp, withCount_bucket, withCount_freeFormCount, bucketCount_append, Nat.cast_add,
    sub_sub]
  rfl

variable {first second : List ChatIdempotency} {usage : List ChatDailyUsage}

lemma Releasable.release (h : Releasable (first ++ second) usage) :
    Releasable second (ChatRateLimitRepository.release first usage) := by
  intro _ hrow
  obtain ⟨old, hold, rfl⟩ := mem_map.mp hrow
  have hcover := h old hold
  rw [bucketCount_append, Nat.cast_add] at hcover
  rw [withCount_bucket, withCount_freeFormCount]
  omega

lemma Releasable.left (h : Releasable (first ++ second) usage) : Releasable first usage := by
  intro row hrow
  have hcover := h row hrow
  rw [bucketCount_append, Nat.cast_add] at hcover
  omega

lemma map_readRow {isoDay : UsageDate → UsageDate} (hdates : KeepsDates isoDay)
    (rows : List ChatIdempotency) : rows.map (readRow isoDay) = rows := by
  have hrow : readRow isoDay = id := by
    funext row
    rw [readRow, hdates]
    rfl
  rw [hrow, List.map_id]

/-! ## Composed keys -/

lemma splitKey_cons {part : String} (h : ':' ∉ part.toList) (rest : String) :
    splitKey (part ++ ":" ++ rest) = part :: splitKey rest := by
  have hlist : (part ++ ":" ++ rest).toList = part.toList ++ ':' :: rest.toList := by
    simp [String.toList_append]
  rw [splitKey, hlist, splitOn_append_cons_self, splitOn_eq_singleton h]
  simp [splitKey]

lemma splitKey_of_not_mem {part : String} (h : ':' ∉ part.toList) : splitKey part = [part] := by
  rw [splitKey, splitOn_eq_singleton h]
  simp

lemma colon_not_mem_toString (n : ℕ) : ':' ∉ (toString n).toList := by
  intro h
  have hdigs : ':' ∈ Nat.toDigits 10 n := by simpa [toString, Nat.repr] using h
  have hdigit := Nat.isDigit_of_mem_toDigits (by decide) (by decide) hdigs
  exact absurd hdigit (by decide)

lemma sliceDate_text (date : UsageDate) : sliceDate (some date.text) = date.text := by
  rw [sliceDate, getD_some, take_of_length_le date.length_eq.le, String.ofList_toList]

lemma UsageDate.text_inj {first second : UsageDate} :
    first.text = second.text ↔ first = second := by
  cases first
  cases second
  simp

variable {p : Platform} {row : ChatDailyUsage} {r : ChatIdempotency} {key : String}

lemma anonymousKey_eq_some (h : anonymousKey r = some key) :
    r.userId = none ∧ splitKey key = r.usageDate.text :: splitKey r.externalUserId := by
  unfold anonymousKey at h
  cases huser : r.userId with
  | some => simp [huser] at h
  | none =>
    simp only [huser, Option.some.injEq] at h
    rw [← h, splitKey_cons r.usageDate.no_colon]
    exact ⟨rfl, rfl⟩

lemma learnerKey_eq_some (h : learnerKey r = some key) :
    ∃ uid, r.userId = some uid ∧
      splitKey key = r.usageDate.text :: toString uid :: splitKey r.externalUserId := by
  unfold learnerKey at h
  cases huser : r.userId with
  | none => simp [huser] at h
  | some uid =>
    simp only [huser, Option.some.injEq] at h
    have hassoc : r.usageDate.text ++ ":" ++ toString uid ++ ":" ++ r.externalUserId =
        r.usageDate.text ++ ":" ++ (toString uid ++ ":" ++ r.externalUserId) := by
      simp only [String.append_assoc]
    refine ⟨uid, rfl, ?_⟩
    rw [← h, hassoc, splitKey_cons r.usageDate.no_colon,
      splitKey_cons (colon_not_mem_toString uid)]

lemma matchesAnonymous_iff (hkey : anonymousKey r = some key)
    (hcolon : ':' ∉ r.externalUserId.toList) (hplat : r.platform = p) :
    matchesAnonymous p row key = true ↔ r.bucket = row.bucket := by
  obtain ⟨huser, hparts⟩ := anonymousKey_eq_some hkey
  rw [splitKey_of_not_mem hcolon] at hparts
  simp only [matchesAnonymous, hparts, getElem?_cons_zero, getElem?_cons_succ,
    sliceDate_text, decide_eq_true_eq, Option.some.injEq, UsageDate.text_inj,
    ChatIdempotency.bucket, ChatDailyUsage.bucket, QuotaBucket.mk.injEq, huser, hplat]
  constructor
  · rintro ⟨h₁, h₂, h₃, h₄⟩
    exact ⟨h₁.symm, h₃.symm, h₂.symm, h₄.symm⟩
  · rintro ⟨h₁, h₃, h₂, h₄⟩
    exact ⟨h₁.symm, h₂.symm, h₃.symm, h₄.symm⟩

lemma matchesLearner_iff (hkey : learnerKey r = some key)
    (hcolon : ':' ∉ r.externalUserId.toList) (hplat : r.platform = p) :
    matchesLearner p row key = true ↔ r.bucket = row.bucket := by
  obtain ⟨uid, huser, hparts⟩ := learnerKey_eq_some hkey
  rw [splitKey_of_not_mem hcolon] at hparts
  have hnum : (toString uid).toNat? = some uid := Nat.toNat?_repr uid
  simp only [matchesLearner, hparts, getElem?_cons_zero, getElem?_cons_succ,
    bind_some, hnum, sliceDate_text, decide_eq_true_eq, Option.some.injEq,
    UsageDate.text_inj, ChatIdempotency.bucket, ChatDailyUsage.bucket, QuotaBucket.mk.injEq,
    huser, hplat]
  constructor
  · rintro ⟨h₁, -, h₂, h₃, h₄⟩
    exact ⟨h₁.symm, h₄.symm, h₃.symm, h₂.symm⟩
  · rintro ⟨h₁, h₄, h₃, h₂⟩
    exact ⟨h₁.symm, by simp [← h₂], h₂.symm, h₃.symm, h₄.symm⟩

variable {first second : ChatIdempotency}

lemma anonymousKey_congr (h : first.bucket = second.bucket) :
    anonymousKey first = anonymousKey second := by
  simp only [ChatIdempotency.bucket, QuotaBucket.mk.injEq] at h
  simp only [anonymousKey, h]

lemma learnerKey_congr (h : first.bucket = second.bucket) :
    learnerKey first = learnerKey second := by
  simp only [ChatIdempotency.bucket, QuotaBucket.mk.injEq] at h
  simp only [learnerKey, h]

/-! ## One page -/

/-- What the clamp makes of a counter from which `n` rows are released. -/
def lowered (clamp : ℤ → ℤ) (n : ℕ) (count : ℤ) : ℤ :=
  if n = 0 then count else clamp (count - n)

lemma lowered_eq {clamp : ℤ → ℤ} (hclamp : ∀ x, 0 ≤ x → clamp x = x) {n : ℕ} {count : ℤ}
    (h : (n : ℤ) ≤ count) : lowered clamp n count = count - n := by
  unfold lowered
  split
  next hzero =>
    simp [hzero]
  · exact hclamp _ (by omega)

section Page

variable {keyOf : ChatIdempotency → Option String} {isMatch : ChatDailyUsage → String → Bool}
  {page : List ChatIdempotency}

section

variable
  (hmatch : ∀ r ∈ page, ∀ key, keyOf r = some key →
    (isMatch row key = true ↔ r.bucket = row.bucket))
include hmatch

lemma find?_tally_page_eq_none (hnone : ∀ r ∈ page, r.bucket = row.bucket → keyOf r = none) :
    (tally (page.filterMap keyOf)).find? (fun entry => isMatch row entry.1) = none := by
  apply find?_tally_eq_none
  intro key hkey
  obtain ⟨r, hr, hrkey⟩ := mem_filterMap.mp hkey
  rw [Bool.eq_false_iff]
  intro htrue
  have hbuck := (hmatch r hr key hrkey).mp htrue
  rw [hnone r hr hbuck] at hrkey
  cases hrkey

lemma find?_tally_page
    (hcongr : ∀ {first second : ChatIdempotency}, first.bucket = second.bucket →
      keyOf first = keyOf second) (hr : r ∈ page) (hbuck : r.bucket = row.bucket)
    (hkey : keyOf r = some key) :
    (tally (page.filterMap keyOf)).find? (fun entry => isMatch row entry.1) =
      some (key, bucketCount page row.bucket) := by
  have hfound : isMatch row key = true := (hmatch r hr key hkey).mpr hbuck
  have hsame : ∀ q ∈ page, keyOf q = some key ↔ q.bucket = row.bucket := by
    intro q hq
    constructor
    · intro hqkey
      exact (hmatch q hq key hqkey).mp hfound
    · intro hqbucket
      rw [hcongr (hqbucket.trans hbuck.symm), hkey]
  have hcount : (page.filterMap keyOf).count key = bucketCount page row.bucket := by
    rw [List.count, countP_filterMap, bucketCount]
    refine countP_congr fun q hq => ?_
    cases hqkey : keyOf q with
    | none =>
      have hne : ¬q.bucket = row.bucket := by
        rw [← hsame q hq, hqkey]
        simp
      simp [hne]
    | some =>
      have hiff := hsame q hq
      rw [hqkey, Option.some.injEq] at hiff
      simpa using hiff
  rw [← hcount]
  refine find?_tally (mem_filterMap.mpr ⟨r, hr, hkey⟩) hfound ?_
  intro other hother htrue
  obtain ⟨q, hq, hqkey⟩ := mem_filterMap.mp hother
  have hqbucket := (hmatch q hq other hqkey).mp htrue
  have heq := hcongr (hqbucket.trans hbuck.symm)
  rw [hqkey, hkey] at heq
  exact Option.some.inj heq

end

variable (keyOf isMatch) in
/-- A statement of the page lowers the counters it owns by the number of rows in the bucket. -/
theorem decrementMatching_page (clamp : ℤ → ℤ) {owned : ChatDailyUsage → Prop} [DecidablePred owned]
    (hmatch : ∀ row : ChatDailyUsage, ∀ r ∈ page, ∀ key, keyOf r = some key →
      (isMatch row key = true ↔ r.bucket = row.bucket))
    (hcongr : ∀ {first second : ChatIdempotency}, first.bucket = second.bucket →
      keyOf first = keyOf second)
    (howned : ∀ (row : ChatDailyUsage) (r : ChatIdempotency), r.bucket = row.bucket →
      ((keyOf r).isSome = true ↔ owned row)) (usage : List ChatDailyUsage) :
    decrementMatching clamp isMatch (tally (page.filterMap keyOf)) usage =
      usage.map fun row => if owned row then
        withCount row (lowered clamp (bucketCount page row.bucket) row.freeFormCount) else row := by
  refine map_congr_left fun row _ => ?_
  by_cases hin : ∃ r ∈ page, r.bucket = row.bucket ∧ owned row
  · obtain ⟨r, hr, hbuck, hrow⟩ := hin
    obtain ⟨_, hkey⟩ := isSome_iff_exists.mp ((howned row r hbuck).mpr hrow)
    have hpos : bucketCount page row.bucket ≠ 0 := by
      have hcount : 0 < bucketCount page row.bucket :=
        countP_pos_iff.mpr ⟨r, hr, by simpa using hbuck⟩
      omega
    rw [find?_tally_page (hmatch row) hcongr hr hbuck hkey, if_pos hrow, lowered, if_neg hpos]
    rfl
  · have hnone : ∀ r ∈ page, r.bucket = row.bucket → keyOf r = none := by
      intro r hr hbuck
      rw [← not_isSome_iff_eq_none, howned row r hbuck]
      exact fun hrow => hin ⟨r, hr, hbuck, hrow⟩
    rw [find?_tally_page_eq_none (hmatch row) hnone]
    by_cases hrow : owned row
    · have hzero : bucketCount page row.bucket = 0 := by
        refine countP_eq_zero.mpr fun r hr => ?_
        simpa using fun hbuck => hin ⟨r, hr, hbuck, hrow⟩
      rw [if_pos hrow, hzero, lowered, if_pos rfl, withCount_self]
    · rw [if_neg hrow]

end Page

lemma decrementPage_eq (clamp : ℤ → ℤ) {page : List ChatIdempotency}
    (hplat : ∀ r ∈ page, r.platform = p)
    (hcolon : ∀ r ∈ page, ':' ∉ r.externalUserId.toList) (usage : List ChatDailyUsage) :
    decrementPage clamp p usage page = usage.map fun row => withCount row
        (lowered clamp (bucketCount page row.bucket) row.freeFormCount) := by
  have hanon : ∀ (row : ChatDailyUsage) (r : ChatIdempotency), r.bucket = row.bucket →
      ((anonymousKey r).isSome = true ↔ row.userId = none) := by
    intro row r hbuck
    have huser : r.userId = row.userId := congrArg QuotaBucket.userId hbuck
    rw [anonymousKey, huser]
    cases row.userId <;> simp
  have hlearn : ∀ (row : ChatDailyUsage) (r : ChatIdempotency), r.bucket = row.bucket →
      ((learnerKey r).isSome = true ↔ row.userId ≠ none) := by
    intro row r hbuck
    have huser : r.userId = row.userId := congrArg QuotaBucket.userId hbuck
    rw [learnerKey, huser]
    cases row.userId <;> simp
  have hfirst := decrementMatching_page anonymousKey (matchesAnonymous p) clamp
    (fun _ r hr _ hkey => matchesAnonymous_iff hkey (hcolon r hr) (hplat r hr))
    anonymousKey_congr hanon
  have hsnd := decrementMatching_page learnerKey (matchesLearner p) clamp
    (fun _ r hr _ hkey => matchesLearner_iff hkey (hcolon r hr) (hplat r hr))
    learnerKey_congr hlearn
  simp only [decrementPage, hfirst, hsnd, List.map_map]
  refine map_congr_left fun row _ => ?_
  by_cases huser : row.userId = none
  · have hkept : ∀ count, (withCount row count).userId = none := fun _ => huser
    simp [comp, huser, hkept]
  · simp [comp, huser]

/-! ## Releasing without the clamp -/

section Unclamped

variable {clamp : ℤ → ℤ} (hclamp : ∀ x, 0 ≤ x → clamp x = x)

include hclamp

variable {usage : List ChatDailyUsage}

lemma decrementPage_eq_release {page : List ChatIdempotency} (hplat : ∀ r ∈ page, r.platform = p)
    (hcolon : ∀ r ∈ page, ':' ∉ r.externalUserId.toList) (hcover : Releasable page usage) :
    decrementPage clamp p usage page = release page usage := by
  rw [decrementPage_eq clamp hplat hcolon]
  refine map_congr_left fun row hrow => ?_
  rw [lowered_eq hclamp (hcover row hrow)]

lemma foldl_decrementPage {batches : List (List ChatIdempotency)}
    (hplat : ∀ r ∈ batches.flatten, r.platform = p)
    (hcolon : ∀ r ∈ batches.flatten, ':' ∉ r.externalUserId.toList)
    (hcover : Releasable batches.flatten usage) :
    batches.foldl (decrementPage clamp p) usage = release batches.flatten usage := by
  -- the counters that are left after a page still cover the pages to come
  induction batches generalizing usage with
  | nil =>
    have hnothing : ∀ row : ChatDailyUsage, bucketCount [] row.bucket = 0 := fun _ => rfl
    simp [release, hnothing]
  | cons _ _ ih =>
    simp only [flatten_cons, mem_append] at hplat hcolon hcover ⊢
    rw [foldl_cons, release_append, decrementPage_eq_release hclamp
      (fun r hr => hplat r (.inl hr)) (fun r hr => hcolon r (.inl hr)) hcover.left]
    exact ih (fun r hr => hplat r (.inr hr)) (fun r hr => hcolon r (.inr hr)) hcover.release

lemma releaseUsage_eq_release (hcover : Releasable [r] usage) :
    releaseUsage clamp r.bucket usage = release [r] usage := by
  refine map_congr_left fun row hrow => ?_
  have hone := hcover row hrow
  by_cases hbuck : row.bucket = r.bucket
  · have hcount : bucketCount [r] row.bucket = 1 := by simp [bucketCount, hbuck]
    rw [hcount, Nat.cast_one] at hone ⊢
    simp only [hbuck, decide_true, if_true]
    rw [hclamp _ (by omega)]
    rfl
  · have hcount : bucketCount [r] row.bucket = 0 := by simp [bucketCount, Ne.symm hbuck]
    rw [hcount]
    simp [hbuck]

end Unclamped

end ChatRateLimitRepository

end WispaceBot
