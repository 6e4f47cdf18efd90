import WispaceBot.Foundation.InsertionMap
import WispaceBot.Foundation.Paging
import WispaceBot.StudyReminder.Sync

/-!
# The scan of the Messenger mappings

`iterateMappingPages` asks for one page after the other; a page that names no continuation ends the
walk.  The reader names one if its page is full, but unusable links and duplicates were dropped
after the `LIMIT`, so the links behind may be skipped (`links_skipped`).  `sync_visits_every_link`
says exactly when none are.
-/

namespace WispaceBot

open List Option Paging InsertionMap

/-! ## The table -/

/-- `status` of a mapping. -/
inductive MappingStatus
  | active
  | inactive
  deriving DecidableEq

structure UserPlatformMappingEntity where
  id : ℕ
  userId : Option ℤ
  platform : Platform
  externalUserId : Option String
  notificationMessagesToken : String
  status : MappingStatus
  linkState : Option PlatformLinkState
  mappingGeneration : ℤ

/-- A row of `user_notification_preferences`. -/
structure UserNotificationPreference where
  userId : ℤ
  reminderEnabled : Bool

/-- `user_platform_mappings` in the order of its primary key, which is a serial number. -/
structure MappingTable where
  rows : List UserPlatformMappingEntity
  sorted : rows.Pairwise fun row row' => row.id < row'.id
  positive : ∀ row ∈ rows, 0 < row.id

structure UserMessengerMapping where
  id : ℕ
  userId : Option ℤ
  psid : Option String
  notificationMessagesToken : String
  mappingGeneration : ℤ
  deriving DecidableEq

deriving instance DecidableEq for UserLink

namespace UserPlatformMappingEntity

def isUsableLink (entity : UserPlatformMappingEntity) : Bool :=
  entity.linkState.all (· = .active)

def mapEntity (entity : UserPlatformMappingEntity) : UserMessengerMapping where
  id := entity.id
  userId := entity.userId
  psid := entity.externalUserId
  notificationMessagesToken := entity.notificationMessagesToken
  mappingGeneration := entity.mappingGeneration

section

variable (prefs : List UserNotificationPreference) (entity : UserPlatformMappingEntity)

/-- The learner has not opted out: `COALESCE(pref.reminder_enabled, true)`. -/
def optedIn : Bool :=
  ((prefs.find? fun pref => some pref.userId = entity.userId).map (·.reminderEnabled)).getD true

/-- The conditions of `findActiveMappingsPage` but the one on the identifier. -/
def selected : Bool :=
  entity.optedIn prefs && entity.status = .active && entity.platform = .messenger &&
    entity.externalUserId.isSome

end

end UserPlatformMappingEntity

namespace UserMessengerMapping

section

variable (mapping : UserMessengerMapping)

/-- A `psid` that is set and not empty. -/
def hasPsid : Bool :=
  mapping.psid.any (· ≠ "")

def isPoc : Bool :=
  mapping.notificationMessagesToken.startsWith "poc:psid:"

/-- The key of a mapping without a `psid`. -/
def placeholder : String :=
  "mapping-" ++ toString mapping.id

end

/-- One round of the loop of `dedupeMappingsByPsid`. -/
def dedupeStep (byPsid : List (String × UserMessengerMapping)) (mapping : UserMessengerMapping) :
    List (String × UserMessengerMapping) :=
  match mapping.psid.filter (· ≠ "") with
  | none => set mapping.placeholder mapping byPsid
  | some psid =>
    match byPsid.lookup psid with
    | none => set psid mapping byPsid
    | some existing =>
      if existing.isPoc && !mapping.isPoc then set psid mapping byPsid else byPsid

def dedupeMappingsByPsid (mappings : List UserMessengerMapping) : List UserMessengerMapping :=
  values (mappings.foldl dedupeStep [])

def toLink (mapping : UserMessengerMapping) : UserLink where
  externalUserId := mapping.psid.getD ""
  userId := mapping.userId
  mappingGeneration := some mapping.mappingGeneration

end UserMessengerMapping

open UserPlatformMappingEntity UserMessengerMapping

def usableMappings (rows : List UserPlatformMappingEntity) : List UserMessengerMapping :=
  dedupeMappingsByPsid ((rows.filter isUsableLink).map mapEntity)

def findActiveMappingsPage (table : MappingTable) (prefs : List UserNotificationPreference)
    (afterId limit : ℕ) : List UserMessengerMapping :=
  usableMappings ((table.rows.filter fun row => row.selected prefs && afterId < row.id).take limit)

/-! ## Pages -/

structure MappingPage (Item Cursor : Type) where
  items : List Item
  nextId : Option Cursor

/-- `iterateMappingPages`, with a bound on the number of pages; `onPage` says whether to stop. -/
def iterateMappingPages {Item Cursor σ : Type}
    (fetch : Option Cursor → ℕ → MappingPage Item Cursor) (limit : ℕ)
    (onPage : σ → List Item → σ × Bool) : ℕ → σ → Option Cursor → Option σ
  | 0, _, _ => none
  | fuel + 1, s, cursor =>
    let page := fetch cursor limit
    if page.items.isEmpty then some s
    else
      let (t, stop) := onPage s page.items
      if stop then some t
      else
        match page.nextId with
        | none => some t
        | some nextId => iterateMappingPages fetch limit onPage fuel t (some nextId)

def messengerMappingReader (table : MappingTable) (prefs : List UserNotificationPreference)
    (afterId : Option ℕ) (limit : ℕ) : MappingPage UserLink ℕ :=
  let list := findActiveMappingsPage table prefs (afterId.getD 0) limit
  { items := (list.filter hasPsid).map toLink
    nextId := if 0 < list.length && list.length = limit then list.getLast?.map (·.id) else none }

/-- `runBatched`: the items for which it calls its function, in their order. -/
def runBatched {α : Type} (items : List α) (concurrency : ℕ) : List α :=
  (List.range ((items.length + concurrency - 1) / concurrency)).flatMap (page concurrency items)

def defaultSyncConcurrency : ℕ := 5

/-- The scan of `syncUpcomingSessions`: the links that are handed to `syncOneMapping`. -/
def syncUpcomingSessions (table : MappingTable) (prefs : List UserNotificationPreference)
    (limit fuel : ℕ) : Option (List UserLink) :=
  iterateMappingPages (messengerMappingReader table prefs) limit
    (fun handed items => (handed ++ runBatched items defaultSyncConcurrency, false)) fuel [] none

/-! ## What a page keeps -/

section

variable (byPsid : List (String × UserMessengerMapping)) (mapping : UserMessengerMapping)
include byPsid mapping

lemma dedupeStep_cases :
    (∃ key, dedupeStep byPsid mapping = byPsid ++ [(key, mapping)]) ∨
      (dedupeStep byPsid mapping).length = byPsid.length := by
  have hset : ∀ key, (∃ key', set key mapping byPsid = byPsid ++ [(key', mapping)]) ∨
      (set key mapping byPsid).length = byPsid.length := by
    intro key
    cases hlookup : byPsid.lookup key with
    | none => exact .inl ⟨key, set_of_lookup_eq_none hlookup⟩
    | some => exact .inr (length_set_of_lookup hlookup)
  unfold dedupeStep
  split
  · exact hset _
  · split
    · exact hset _
    · split
      · exact hset _
      · exact .inr rfl

lemma dedupeStep_subperm :
    (values (dedupeStep byPsid mapping)).Subperm (values byPsid ++ [mapping]) := by
  unfold dedupeStep
  split
  · exact values_set_subperm _ _ _
  · split
    · exact values_set_subperm _ _ _
    · split
      · exact values_set_subperm _ _ _
      · exact (sublist_append_left _ _).subperm

end

section

variable (mappings : List UserMessengerMapping) (byPsid : List (String × UserMessengerMapping))
include mappings byPsid

lemma foldl_dedupeStep_subperm :
    (values (mappings.foldl dedupeStep byPsid)).Subperm (values byPsid ++ mappings) := by
  induction mappings generalizing byPsid with
  | nil => simpa using List.Subperm.refl _
  | cons mapping mappings ih =>
    have hstep : (values (dedupeStep byPsid mapping) ++ mappings).Subperm
        ((values byPsid ++ [mapping]) ++ mappings) :=
      (subperm_append_right mappings).mpr (dedupeStep_subperm byPsid mapping)
    rw [append_assoc, singleton_append] at hstep
    exact (ih _).trans hstep

lemma foldl_dedupeStep_eq :
    (mappings.foldl dedupeStep byPsid).length ≤ byPsid.length + mappings.length ∧
      ((mappings.foldl dedupeStep byPsid).length = byPsid.length + mappings.length →
        values (mappings.foldl dedupeStep byPsid) = values byPsid ++ mappings) := by
  induction mappings generalizing byPsid with
  | nil => simp
  | cons mapping _ ih =>
    obtain ⟨_, heq⟩ := ih (dedupeStep byPsid mapping)
    rw [foldl_cons, length_cons]
    rcases dedupeStep_cases byPsid mapping with ⟨_, hadded⟩ | _
    · have hlen : (dedupeStep byPsid mapping).length = byPsid.length + 1 := by simp [hadded]
      refine ⟨by omega, fun hall => ?_⟩
      rw [heq (by omega), hadded]
      simp [values]
    · exact ⟨by omega, fun hall => by omega⟩

end

lemma usableMappings_subperm (rows : List UserPlatformMappingEntity) :
    (usableMappings rows).Subperm ((rows.filter isUsableLink).map mapEntity) :=
  foldl_dedupeStep_subperm _ []

variable {rows : List UserPlatformMappingEntity}

lemma usableMappings_of_length (h : rows.length ≤ (usableMappings rows).length) :
    usableMappings rows = rows.map mapEntity := by
  have hfilter : (rows.filter isUsableLink).length ≤ rows.length := length_filter_le _ _
  obtain ⟨hle, heq⟩ := foldl_dedupeStep_eq ((rows.filter isUsableLink).map mapEntity) []
  have hkept : (((rows.filter isUsableLink).map mapEntity).foldl dedupeStep []).length =
      (usableMappings rows).length := (length_map _).symm
  rw [hkept, length_nil, Nat.zero_add, length_map] at hle
  have hall : rows.filter isUsableLink = rows := by
    refine filter_sublist.eq_of_length ?_
    omega
  have hvalues := heq (by rw [hkept, length_nil, Nat.zero_add, length_map]; omega)
  calc usableMappings rows = (rows.filter isUsableLink).map mapEntity := hvalues
    _ = rows.map mapEntity := by rw [hall]

lemma runBatched_eq {α : Type} (items : List α) {concurrency : ℕ} (h : 0 < concurrency) :
    runBatched items concurrency = items := by
  have hlen : items.length ≤ (items.length + concurrency - 1) / concurrency * concurrency := by
    have := Nat.lt_div_mul_add (a := items.length + concurrency - 1) h
    omega
  rw [runBatched, flatMap_page_range, take_of_length_le hlen]

/-! ## The scan -/

def MappingTable.selectedRows (table : MappingTable) (prefs : List UserNotificationPreference) :
    List UserPlatformMappingEntity :=
  table.rows.filter fun row => row.selected prefs

def UserPlatformMappingEntity.usable? (row : UserPlatformMappingEntity) :
    Option UserMessengerMapping :=
  if row.isUsableLink && row.mapEntity.hasPsid then some row.mapEntity else none

def wantedLinks (table : MappingTable) (prefs : List UserNotificationPreference) : List UserLink :=
  ((table.selectedRows prefs).filterMap usable?).map toLink

def handedOn (rows : List UserPlatformMappingEntity) : List UserMessengerMapping :=
  (usableMappings rows).filter hasPsid

def looksFull (limit : ℕ) (rows : List UserPlatformMappingEntity) : Bool :=
  (usableMappings rows).length = limit

lemma handedOn_subperm (rows : List UserPlatformMappingEntity) :
    (handedOn rows).Subperm (rows.filterMap usable?) := by
  have hwanted : rows.filterMap usable? =
      ((rows.filter isUsableLink).map mapEntity).filter hasPsid := by
    induction rows with
    | nil => rfl
    | cons row _ ih =>
      cases husable : row.isUsableLink <;> cases hpsid : row.mapEntity.hasPsid <;>
        simp [usable?, husable, hpsid, ih]
  rw [hwanted]
  exact (usableMappings_subperm rows).filter _

variable {limit : ℕ}

section

variable (table : MappingTable) (prefs : List UserNotificationPreference) (hlimit : 0 < limit)
  (fuel : ℕ)
include table prefs hlimit fuel

lemma iterateMappingPages_eq (handed : List UserLink) (cursor : Option ℕ) :
    iterateMappingPages (messengerMappingReader table prefs) limit
        (fun handed items => (handed ++ items, false)) fuel handed cursor =
      (scan limit handedOn (looksFull limit) fuel
        ((table.selectedRows prefs).filter fun row => decide (cursor.getD 0 < row.id))).map
          fun taken => handed ++ taken.map toLink := by
  induction fuel generalizing handed cursor with
  | zero => rfl
  | succ _ ih =>
    set rest := (table.selectedRows prefs).filter fun row => decide (cursor.getD 0 < row.id)
      with hrest
    have hlist : findActiveMappingsPage table prefs (cursor.getD 0) limit =
        usableMappings (rest.take limit) := by
      rw [findActiveMappingsPage, hrest, MappingTable.selectedRows, List.filter_filter]
      simp only [Bool.and_comm]
    rw [iterateMappingPages, scan]
    simp only [messengerMappingReader, hlist, Bool.false_eq_true, if_false]
    by_cases hempty : handedOn (rest.take limit) = []
    · have hitems : ((usableMappings (rest.take limit)).filter hasPsid).map toLink = [] := by
        rw [show (usableMappings (rest.take limit)).filter hasPsid = [] from hempty, map_nil]
      rw [if_pos hempty, hitems]
      simp
    · have hitems : (((usableMappings (rest.take limit)).filter hasPsid).map toLink).isEmpty =
          false := by
        simpa [isEmpty_eq_false_iff, handedOn] using hempty
      rw [if_neg hempty, hitems]
      cases hfull : looksFull limit (rest.take limit) with
      | false =>
        have hnext : ¬ (usableMappings (rest.take limit)).length = limit := of_decide_eq_false hfull
        simp [hnext, handedOn]
      | true =>
        -- the cursor is the last row of the page, which has lost nothing
        have hlen : (usableMappings (rest.take limit)).length = limit := of_decide_eq_true hfull
        have hkept : usableMappings (rest.take limit) = (rest.take limit).map mapEntity :=
          usableMappings_of_length (by rw [hlen]; exact length_take_le _ _)
        have hne : rest.take limit ≠ [] := by
          intro hnil
          rw [hkept, hnil] at hlen
          exact absurd hlen.symm hlimit.ne'
        obtain ⟨last, hlast⟩ : ∃ last, (rest.take limit).getLast? = some last :=
          ⟨_, getLast?_eq_some_getLast hne⟩
        have hnext : (usableMappings (rest.take limit)).getLast?.map (·.id) = some last.id := by
          rw [hkept, getLast?_map, hlast]
          rfl
        have hlater : cursor.getD 0 < last.id := by
          have hmem := mem_of_mem_take (mem_of_getLast? hlast)
          exact of_decide_eq_true (mem_filter.mp hmem).2
        have hsort : rest.Pairwise fun row row' => row.id < row'.id :=
          (table.sorted.filter _).filter _
        have hdrop : ((table.selectedRows prefs).filter fun row =>
            decide ((some last.id).getD 0 < row.id)) = rest.drop limit := by
          rw [← filter_after_page hsort hlast, hrest, List.filter_filter]
          refine filter_congr fun row _ => ?_
          by_cases hrow : last.id < row.id
          · simp [hrow, hlater.trans hrow]
          · simp [hrow]
        simp only [hlen, hlimit, decide_true, Bool.and_self, if_true, hnext,
          Bool.false_eq_true, if_false, ih, hdrop, Option.map_map]
        congr 1
        funext taken
        simp [handedOn]

lemma syncUpcomingSessions_eq :
    syncUpcomingSessions table prefs limit fuel =
      (scan limit handedOn (looksFull limit) fuel (table.selectedRows prefs)).map
        fun taken => taken.map toLink := by
  have hall : ((table.selectedRows prefs).filter fun row =>
      decide ((none : Option ℕ).getD 0 < row.id)) = table.selectedRows prefs := by
    rw [filter_eq_self]
    exact fun row hrow => decide_eq_true (table.positive row (mem_of_mem_filter hrow))
  have hbatch : 0 < defaultSyncConcurrency := by decide
  simp only [syncUpcomingSessions, runBatched_eq _ hbatch,
    iterateMappingPages_eq table prefs hlimit fuel [] none, hall, nil_append]

end

/-! ## Which links are visited -/

def PassesOn (limit : ℕ) (rows : List UserPlatformMappingEntity) : Prop :=
  (usableMappings rows).length = limit ∧ ∃ mapping ∈ usableMappings rows, mapping.hasPsid = true

/-- Every page with a usable row is reached, and hands that row on. -/
def Reached (table : MappingTable) (prefs : List UserNotificationPreference) (limit : ℕ) : Prop :=
  ∀ k, ∀ row ∈ page limit (table.selectedRows prefs) k, row.usable?.isSome = true →
    (∀ j < k, PassesOn limit (page limit (table.selectedRows prefs) j)) ∧
      row.mapEntity ∈ usableMappings (page limit (table.selectedRows prefs) k)

lemma usable?_eq_some {row : UserPlatformMappingEntity} {mapping : UserMessengerMapping}
    (h : row.usable? = some mapping) :
    row.isUsableLink = true ∧ mapping.hasPsid = true ∧ mapping = row.mapEntity := by
  obtain ⟨husable, hmap⟩ := ite_none_right_eq_some.mp h
  obtain ⟨⟩ := hmap
  obtain ⟨hlink, hpsid⟩ := Bool.and_eq_true_iff.mp husable
  exact ⟨hlink, hpsid, rfl⟩

lemma passesOn_iff : PassesOn limit rows ↔ handedOn rows ≠ [] ∧ looksFull limit rows = true := by
  rw [PassesOn, handedOn, looksFull, decide_eq_true_eq, and_comm, Ne, filter_eq_nil_iff]
  simp

section Table

variable (table : MappingTable) (prefs : List UserNotificationPreference)

lemma selectedRows_sorted : (table.selectedRows prefs).Pairwise fun row row' => row.id < row'.id :=
  table.sorted.filter _

lemma selectedRows_ext {row row' : UserPlatformMappingEntity}
    (hrow : row ∈ table.selectedRows prefs) (hrow' : row' ∈ table.selectedRows prefs)
    (hid : row.id = row'.id) : row = row' := by
  have huniq : Table.UniqueOn UserPlatformMappingEntity.id (table.selectedRows prefs) :=
    pairwise_map.mpr ((selectedRows_sorted table prefs).imp Nat.ne_of_lt)
  exact huniq.eq_of_key_eq hrow hrow' hid

lemma nodup_usable : ((table.selectedRows prefs).filterMap usable?).Nodup := by
  refine (selectedRows_sorted table prefs).filterMap _ fun row row' hlt mapping hmap mapping'
    hmap' hsame => ?_
  rw [(usable?_eq_some hmap).2.2, (usable?_eq_some hmap').2.2] at hsame
  exact hlt.ne (congrArg UserMessengerMapping.id hsame)

lemma selectedRows_page_unique {limit j k : ℕ} {row : UserPlatformMappingEntity}
    (hj : row ∈ page limit (table.selectedRows prefs) j)
    (hk : row ∈ page limit (table.selectedRows prefs) k) : j = k :=
  page_unique ((selectedRows_sorted table prefs).imp fun hlt heq => hlt.ne (congrArg _ heq)) hj hk

lemma forall_mem_taken_iff {limit fuel : ℕ} (hlimit : 0 < limit) {taken : List UserMessengerMapping}
    (htaken : scan limit handedOn (looksFull limit) fuel (table.selectedRows prefs) = some taken) :
    (∀ mapping ∈ (table.selectedRows prefs).filterMap usable?, mapping ∈ taken) ↔
      Reached table prefs limit := by
  constructor
  · intro hall k row hrow husable
    obtain ⟨mapping, hmap⟩ := isSome_iff_exists.mp husable
    obtain ⟨-, -, rfl⟩ := usable?_eq_some hmap
    have htake := hall _ (mem_filterMap.mpr ⟨row, mem_of_mem_page hrow, hmap⟩)
    obtain ⟨_, hpre, hhanded⟩ := (mem_scan htaken).mp htake
    have hkept := (mem_filter.mp hhanded).1
    -- the page that has handed the link on is the page of the row
    obtain ⟨_, hrow', hsame⟩ :=
      mem_map.mp ((usableMappings_subperm _).subset hkept)
    have hpage' := mem_of_mem_filter hrow'
    obtain rfl := selectedRows_ext table prefs (mem_of_mem_page hpage') (mem_of_mem_page hrow)
      (congrArg UserMessengerMapping.id hsame)
    obtain rfl := selectedRows_page_unique table prefs hpage' hrow
    exact ⟨fun j hj => passesOn_iff.mpr (hpre j hj), hkept⟩
  · intro hreach _ hmap
    obtain ⟨row, hrow, husable⟩ := mem_filterMap.mp hmap
    obtain ⟨k, hpage⟩ := exists_mem_page hlimit hrow
    obtain ⟨hpre, hkept⟩ := hreach k row hpage (isSome_iff_exists.mpr ⟨_, husable⟩)
    obtain ⟨-, hpsid, rfl⟩ := usable?_eq_some husable
    exact (mem_scan htaken).mpr
      ⟨k, fun j hj => passesOn_iff.mp (hpre j hj), mem_filter.mpr ⟨hkept, hpsid⟩⟩

end Table

/-- The scan ends, and it hands on every wanted link exactly if each is reached. -/
theorem sync_visits_every_link (table : MappingTable) (prefs : List UserNotificationPreference)
    {limit : ℕ} (hlimit : 0 < limit) :
    ∃ handed, (∀ fuel > table.rows.length,
        syncUpcomingSessions table prefs limit fuel = some handed) ∧
      (handed.Perm (wantedLinks table prefs) ↔ Reached table prefs limit) := by
  have hlen : (table.selectedRows prefs).length < table.rows.length + 1 :=
    Nat.lt_succ_of_le (length_filter_le _ _)
  obtain ⟨taken, htaken⟩ : ∃ taken, scan limit handedOn (looksFull limit) (table.rows.length + 1)
      (table.selectedRows prefs) = some taken := scan_eq_some hlimit rfl hlen
  refine ⟨taken.map toLink, fun fuel hfuel => ?_, ?_⟩
  · rw [syncUpcomingSessions_eq table prefs hlimit, scan_mono hfuel htaken, map_some]
  · rw [wantedLinks, scan_map_perm_iff handedOn_subperm (nodup_usable table prefs) toLink htaken,
      forall_mem_taken_iff table prefs hlimit htaken]

def mappingRow (id : ℕ) (psid : String) (linkState : PlatformLinkState) :
    UserPlatformMappingEntity :=
  ⟨id, some id, .messenger, some psid, psid, .active, some linkState, 1⟩

def usableFirst : MappingTable where
  rows := [mappingRow 1 "a" .active, mappingRow 2 "b" .active, mappingRow 3 "c" .active,
    mappingRow 4 "d" .temporarilyUnknown]
  sorted := by decide
  positive := by decide

/-- Two pages are handed on, one after the other. -/
theorem sync_visits_every_link_usableFirst :
    syncUpcomingSessions usableFirst [] 2 5 = some (wantedLinks usableFirst []) ∧
      Reached usableFirst [] 2 := by
  obtain ⟨handed, hhanded, hiff⟩ := sync_visits_every_link usableFirst [] (Nat.succ_pos 1)
  have hsync : syncUpcomingSessions usableFirst [] 2 5 = some (wantedLinks usableFirst []) := by
    decide +kernel
  have heq : handed = wantedLinks usableFirst [] :=
    Option.some.inj ((hhanded 5 (by decide)).symm.trans hsync)
  exact ⟨hsync, hiff.mp (heq ▸ List.Perm.refl _)⟩

def unusableSecond : MappingTable where
  rows := [mappingRow 1 "a" .active, mappingRow 2 "b" .temporarilyUnknown, mappingRow 3 "c" .active]
  sorted := by decide
  positive := by decide

/-- A page with an unusable row looks like the last one, and the link after it is skipped. -/
theorem links_skipped :
    (∀ fuel > 3, syncUpcomingSessions unusableSecond [] 2 fuel = some [⟨"a", some 1, some 1⟩]) ∧
      wantedLinks unusableSecond [] = [⟨"a", some 1, some 1⟩, ⟨"c", some 3, some 1⟩] := by
  refine ⟨fun fuel hfuel => ?_, by decide +kernel⟩
  obtain ⟨fuel, rfl⟩ : ∃ n, fuel = n + 1 := ⟨fuel - 1, by omega⟩
  rfl

end WispaceBot
