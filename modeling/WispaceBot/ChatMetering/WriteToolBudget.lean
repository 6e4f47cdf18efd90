import Mathlib
import WispaceBot.Foundation.Run
import WispaceBot.Foundation.Table

/-!
# The daily ledger of the write tools

`WriteToolBudgetCore` counts the calls of each write tool per learner and day.  A refund lowers the
count of today, whatever the day of the unit it gives back, and also for an account on the whitelist
that was let through without a unit.  The ledger is right after every call exactly when every refund
returns its unit (`accurate_iff_returnsItsUnit`).
-/

namespace WispaceBot

open Transition Table

/-- A row of `chat_tool_daily_usage`, among those of the platform. -/
structure ChatToolDailyUsage where
  externalUserId : String
  userId : ℤ
  (usageDate toolName : String)
  count : ℤ

abbrev ToolDay := ℤ × String × String

/-- The unique index of the table. -/
def ChatToolDailyUsage.key (row : ChatToolDailyUsage) : ToolDay :=
  (row.userId, row.usageDate, row.toolName)

namespace WriteToolBudgetRepository

def getDailyCount (rows : List ChatToolDailyUsage) (key : ToolDay) : ℤ :=
  ((lookup ChatToolDailyUsage.key key rows).map (·.count)).getD 0

/-- The count is the one `RETURNING` gives or the one that is read after a denial. -/
def tryConsumeDaily (externalUserId : String) (userId : ℤ) (usageDate toolName : String)
    (dailyCap : ℤ) (rows : List ChatToolDailyUsage) : List ChatToolDailyUsage × Bool × ℤ :=
  let (rows, ok) := insertOnConflict ChatToolDailyUsage.key
    (fun row => decide (row.count < dailyCap))
    (fun row => { row with count := row.count + 1, externalUserId })
    ⟨externalUserId, userId, usageDate, toolName, 1⟩ rows
  (rows, ok, getDailyCount rows (userId, usageDate, toolName))

def refundDaily (key : ToolDay) (rows : List ChatToolDailyUsage) : List ChatToolDailyUsage :=
  updateWhere (fun row => decide (row.key = key))
    (fun row => { row with count := max (row.count - 1) 0 }) rows

end WriteToolBudgetRepository

structure WriteToolBudgetSettings where
  enabled : Bool
  /-- `todayInTimezone(timezone)`, as a function of the instant. -/
  today : ℤ → String
  dailyCaps : String → Option ℤ
  whitelist : String → Bool

namespace WriteToolBudgetCore

variable (settings : WriteToolBudgetSettings)

def capFor (externalUserId toolName : String) : Option ℤ :=
  if !settings.enabled then none
  else if settings.whitelist externalUserId then none
  else settings.dailyCaps toolName

def consumeDaily (now : ℤ) (externalUserId : String) (userId : ℤ) (toolName : String)
    (rows : List ChatToolDailyUsage) : List ChatToolDailyUsage × Bool :=
  match capFor settings externalUserId toolName with
  | none => (rows, true)
  | some cap =>
    let result := WriteToolBudgetRepository.tryConsumeDaily externalUserId userId
      (settings.today now) toolName cap rows
    (result.1, result.2.1)

def refundDaily (now userId : ℤ) (toolName : String) (rows : List ChatToolDailyUsage) :
    List ChatToolDailyUsage :=
  if !settings.enabled then rows
  else if settings.dailyCaps toolName = none then rows
  else WriteToolBudgetRepository.refundDaily (userId, settings.today now, toolName) rows

end WriteToolBudgetCore

/-! ## Runs -/

/-- A successful call of `consumeDaily`. -/
structure ConsumedUnit where
  userId : ℤ
  toolName : String
  /-- The day whose count was raised, `none` where no cap applied. -/
  charged : Option String
  refunded : Bool

/-- The unit was charged under the key and has not been given back. -/
def ConsumedUnit.openAt (key : ToolDay) (u : ConsumedUnit) : Bool :=
  !u.refunded && decide (u.userId = key.1 ∧ u.charged = some key.2.1 ∧ u.toolName = key.2.2)

/-- The rows, and every unit that was consumed. -/
structure WriteToolLedger where
  now : ℤ
  rows : List ChatToolDailyUsage
  units : List ConsumedUnit

/-- A unit is consumed, or one that was consumed is refunded. -/
inductive WriteToolEvent
  | consume (now : ℤ) (externalUserId : String) (userId : ℤ) (toolName : String)
  | refund (now : ℤ) (unit : ℕ)

namespace WriteToolLedger

open WriteToolBudgetCore WriteToolBudgetRepository

def empty (now : ℤ) : WriteToolLedger := ⟨now, [], []⟩

def step (settings : WriteToolBudgetSettings) (s : WriteToolLedger) :
    WriteToolEvent → Option WriteToolLedger
  | .consume now externalUserId userId toolName =>
    if now < s.now then none
    else
      let (rows, ok) := consumeDaily settings now externalUserId userId toolName s.rows
      let charged := (capFor settings externalUserId toolName).map fun _ => settings.today now
      some ⟨now, rows, if ok then s.units ++ [⟨userId, toolName, charged, false⟩] else s.units⟩
  | .refund now i =>
    match s.units[i]? with
    | none => none
    | some u =>
      if now < s.now ∨ u.refunded = true then none
      else some ⟨now, refundDaily settings now u.userId u.toolName s.rows,
        s.units.set i { u with refunded := true }⟩

def outstanding (s : WriteToolLedger) (key : ToolDay) : ℕ := s.units.countP (·.openAt key)

/-- Every stored count is the number of the units that raised it and were not given back. -/
def Accurate (s : WriteToolLedger) : Prop :=
  ∀ key, getDailyCount s.rows key = s.outstanding key

/-- Where nothing was charged, the refund is switched off as well or finds nothing to lower. -/
def ReturnsItsUnit (settings : WriteToolBudgetSettings) (s : WriteToolLedger) :
    WriteToolEvent → Prop
  | .consume .. => True
  | .refund now i =>
    match s.units[i]? with
    | none => True
    | some u =>
      now < s.now ∨ u.refunded = true ∨
        match u.charged with
        | some day => settings.today now = day
        | none => settings.enabled = false ∨ settings.dailyCaps u.toolName = none ∨
            getDailyCount s.rows (u.userId, settings.today now, u.toolName) = 0

instance (settings : WriteToolBudgetSettings) (s : WriteToolLedger) (e : WriteToolEvent) :
    Decidable (ReturnsItsUnit settings s e) := by
  unfold ReturnsItsUnit
  repeat' split
  all_goals infer_instance

/-! ## What the statements do to the counts -/

variable {settings : WriteToolBudgetSettings} {rows : List ChatToolDailyUsage}

lemma getDailyCount_refundDaily (key k : ToolDay) :
    getDailyCount (WriteToolBudgetRepository.refundDaily key rows) k =
      if k = key then max (getDailyCount rows k - 1) 0 else getDailyCount rows k := by
  rw [getDailyCount, WriteToolBudgetRepository.refundDaily, lookup_updateWhere, getDailyCount]
  · cases hfind : lookup ChatToolDailyUsage.key k rows with
    | none =>
      have hclamp : max (0 - 1 : ℤ) 0 = 0 := by decide
      simp only [Option.map_none, Option.getD_none, hclamp, ite_self]
    | some row =>
      have hkey : row.key = k := key_of_lookup hfind
      by_cases hk : k = key <;> simp [hkey, hk]
  · exact fun _ => rfl

lemma getDailyCount_tryConsumeDaily (huniq : UniqueOn ChatToolDailyUsage.key rows)
    (ext : String) (uid : ℤ) (usageDate toolName : String) (cap : ℤ) (k : ToolDay) :
    let result := tryConsumeDaily ext uid usageDate toolName cap rows
    getDailyCount result.1 k = getDailyCount rows k +
      if result.2.1 = true ∧ k = (uid, usageDate, toolName) then 1 else 0 := by
  simp only [tryConsumeDaily, getDailyCount]
  rw [lookup_insertOnConflict]
  · simp only [huniq.insertOnConflict_snd]
    by_cases hk : k = (uid, usageDate, toolName)
    · subst hk
      cases hfind : lookup ChatToolDailyUsage.key (uid, usageDate, toolName) rows with
      | none => simp [ChatToolDailyUsage.key, hfind]
      | some row => by_cases hcap : row.count < cap <;> simp [ChatToolDailyUsage.key, hfind, hcap]
    · simp [ChatToolDailyUsage.key, hk]
  · exact fun _ => rfl

/-! ## Steps -/

/-- What holds in every state reached. -/
structure Sound (settings : WriteToolBudgetSettings) (s : WriteToolLedger) : Prop where
  unique : UniqueOn ChatToolDailyUsage.key s.rows
  charged : ∀ u ∈ s.units, u.charged ≠ none →
    settings.enabled = true ∧ settings.dailyCaps u.toolName ≠ none

variable {s t : WriteToolLedger} {e : WriteToolEvent} {externalUserId toolName : String}

lemma capFor_eq_some {cap : ℤ} (h : capFor settings externalUserId toolName = some cap) :
    settings.enabled = true ∧ settings.dailyCaps toolName ≠ none := by
  unfold capFor at h
  cases henabled : settings.enabled <;> cases hlist : settings.whitelist externalUserId <;>
    simp_all

/-- A consume without a cap leaves the rows alone; with a cap it is `tryConsumeDaily`. -/
theorem step_consume {now uid : ℤ}
    (h : step settings s (.consume now externalUserId uid toolName) = some t) :
    (t.rows = s.rows ∧ t.units = s.units ++ [⟨uid, toolName, none, false⟩]) ∨
      ∃ cap, capFor settings externalUserId toolName = some cap ∧
        let result := tryConsumeDaily externalUserId uid (settings.today now) toolName cap s.rows
        t.rows = result.1 ∧ t.units = if result.2.1 then
          s.units ++ [⟨uid, toolName, some (settings.today now), false⟩] else s.units := by
  simp only [step, consumeDaily] at h
  split at h
  · cases h
  · cases hcap : capFor settings externalUserId toolName with
    | none =>
      simp only [hcap, Option.some.injEq] at h
      subst h
      exact .inl ⟨rfl, rfl⟩
    | some cap =>
      simp only [hcap, Option.some.injEq] at h
      subst h
      exact .inr ⟨cap, rfl, rfl, rfl⟩

variable {now : ℤ}

lemma step_refund {i : ℕ} (h : step settings s (.refund now i) = some t) :
    ∃ u, s.units[i]? = some u ∧ ¬now < s.now ∧ u.refunded = false ∧
      t = ⟨now, WriteToolBudgetCore.refundDaily settings now u.userId u.toolName s.rows,
        s.units.set i { u with refunded := true }⟩ := by
  simp only [step] at h
  cases hu : s.units[i]? with
  | none => simp [hu] at h
  | some u =>
    simp only [hu] at h
    split at h
    · cases h
    next hnot =>
      simp only [not_or, Bool.not_eq_true] at hnot
      exact ⟨u, rfl, hnot.1, hnot.2, (Option.some.inj h).symm⟩

lemma Sound.step (h : Sound settings s) (hstep : step settings s e = some t) :
    Sound settings t := by
  cases e with
  | consume =>
    rcases step_consume hstep with ⟨hrows, hunits⟩ | ⟨_, hcap, hrows, hunits⟩
    · refine ⟨hrows ▸ h.unique, fun u hu hpaid => ?_⟩
      rcases List.mem_append.mp (hunits ▸ hu) with hold | hnew
      · exact h.charged u hold hpaid
      · rw [List.mem_singleton.mp hnew] at hpaid
        exact absurd rfl hpaid
    · refine ⟨?_, fun u hu hpaid => ?_⟩
      · rw [hrows]
        exact h.unique.insertOnConflict (fun _ _ => rfl) id
      · rw [hunits] at hu
        split at hu
        · rcases List.mem_append.mp hu with hold | hnew
          · exact h.charged u hold hpaid
          · rw [List.mem_singleton.mp hnew]
            exact capFor_eq_some hcap
        · exact h.charged u hu hpaid
  | refund =>
    obtain ⟨u, hu, -, -, rfl⟩ := step_refund hstep
    refine ⟨?_, fun v hv hpaid => ?_⟩
    · simp only [WriteToolBudgetCore.refundDaily]
      split_ifs
      · exact h.unique
      · exact h.unique
      · exact h.unique.updateWhere fun _ => rfl
    · rcases List.mem_or_eq_of_mem_set hv with hold | rfl
      · exact h.charged v hold hpaid
      · exact h.charged u (List.mem_of_getElem? hu) hpaid

lemma accurate_consume (h : Sound settings s) (hs : s.Accurate) {now uid : ℤ}
    (hstep : step settings s (.consume now externalUserId uid toolName) = some t) : t.Accurate := by
  rintro ⟨user, day, tool⟩
  rcases step_consume hstep with ⟨hrows, hunits⟩ | ⟨cap, -, hrows, hunits⟩
  · rw [hrows, hs, outstanding, outstanding, hunits, List.countP_append]
    simp [ConsumedUnit.openAt]
  · rw [hrows, getDailyCount_tryConsumeDaily h.unique, hs, outstanding, outstanding, hunits]
    have hsame : (user, day, tool) = (uid, settings.today now, toolName) ↔
        uid = user ∧ settings.today now = day ∧ toolName = tool := by
      rw [eq_comm, Prod.mk.injEq, Prod.mk.injEq]
    cases (tryConsumeDaily externalUserId uid (settings.today now) toolName cap s.rows).2.1 with
    | false => simp
    | true =>
      by_cases hkey : uid = user ∧ settings.today now = day ∧ toolName = tool <;>
        simp [ConsumedUnit.openAt, hsame, hkey]

/-- The refund of a unit closes it, and lowers what it finds under the key of today. -/
theorem refund_spec (hs : s.Accurate) {i : ℕ} (hstep : step settings s (.refund now i) = some t) :
    ∃ u, s.units[i]? = some u ∧ ¬now < s.now ∧ u.refunded = false ∧ ∀ key,
      t.outstanding key + (u.openAt key).toNat = s.outstanding key ∧
        getDailyCount t.rows key = if settings.enabled = true ∧
            settings.dailyCaps u.toolName ≠ none ∧ key = (u.userId, settings.today now, u.toolName)
          then max (s.outstanding key - 1 : ℤ) 0 else s.outstanding key := by
  obtain ⟨u, hu, hnow, hopen, rfl⟩ := step_refund hstep
  refine ⟨u, hu, hnow, hopen, fun key => ?_⟩
  obtain ⟨hlt, hget⟩ := List.getElem?_eq_some_iff.mp hu
  refine ⟨?_, ?_⟩
  · have hclosed : ({ u with refunded := true } : ConsumedUnit).openAt key = false := rfl
    have hpos : u.openAt key = true → 0 < s.outstanding key := fun hkey =>
      List.countP_pos_iff.mpr ⟨u, List.mem_of_getElem? hu, hkey⟩
    simp only [outstanding, List.countP_set hlt, hget, hclosed] at hpos ⊢
    cases hkey : u.openAt key with
    | false => simp
    | true =>
      have := hpos hkey
      simp
      omega
  · rw [← hs]
    simp only [WriteToolBudgetCore.refundDaily]
    split_ifs <;> simp_all [getDailyCount_refundDaily]

lemma accurate_refund_iff (h : Sound settings s) (hs : s.Accurate) {i : ℕ}
    (hstep : step settings s (.refund now i) = some t) :
    ReturnsItsUnit settings s (.refund now i) ↔ t.Accurate := by
  obtain ⟨u, hu, hnow, hopen, hspec⟩ := refund_spec hs hstep
  have hbilled := h.charged u (List.mem_of_getElem? hu)
  simp only [ReturnsItsUnit, hu, hnow, hopen, false_or, Bool.false_eq_true]
  cases hpaid : u.charged with
  | none =>
    have hnone : ∀ key, u.openAt key = false := fun key => by simp [ConsumedUnit.openAt, hpaid]
    simp only [hs (u.userId, settings.today now, u.toolName)]
    constructor
    · intro hnothing key
      obtain ⟨hout, hcount⟩ := hspec key
      simp only [hnone, Bool.toNat_false, Nat.add_zero] at hout
      rw [hcount, hout]
      split_ifs with hkey
      · obtain ⟨henabled, hcap, rfl⟩ := hkey
        rcases hnothing with hoff | hoff | hzero
        · simp [hoff] at henabled
        · exact absurd hoff hcap
        · rw [hzero]
          decide
      · rfl
    · intro hacc
      by_contra hlow
      simp only [not_or, Bool.not_eq_false] at hlow
      obtain ⟨hout, hcount⟩ := hspec (u.userId, settings.today now, u.toolName)
      simp only [hnone, Bool.toNat_false, Nat.add_zero] at hout
      rw [hacc, hout, if_pos ⟨hlow.1, hlow.2.1, rfl⟩] at hcount
      omega
  | some day =>
    have hkey : u.openAt (u.userId, day, u.toolName) = true := by
      simp [ConsumedUnit.openAt, hopen, hpaid]
    constructor
    · rintro rfl key
      obtain ⟨hout, hcount⟩ := hspec key
      rw [hcount]
      split_ifs with hsame
      · rw [hsame.2.2, hkey, Bool.toNat_true] at hout
        rw [hsame.2.2]
        omega
      · have hother : u.openAt key = false := by
          rw [Bool.eq_false_iff]
          intro _
          simp_all [ConsumedUnit.openAt]
        rw [hother, Bool.toNat_false, Nat.add_zero] at hout
        rw [hout]
    · intro hacc
      by_contra hday
      -- the count of the charged day stays, and the unit is gone
      obtain ⟨hout, hcount⟩ := hspec (u.userId, day, u.toolName)
      have hother : (u.userId, day, u.toolName) ≠ (u.userId, settings.today now, u.toolName) := by
        simpa using Ne.symm hday
      rw [hacc, if_neg fun hsame => hother hsame.2.2] at hcount
      rw [hkey, Bool.toNat_true] at hout
      omega

lemma sound_empty (now : ℤ) : Sound settings (empty now) := ⟨List.nodup_nil, by simp [empty]⟩

/-- The counts are right after every call if and only if every refund returns its unit. -/
theorem accurate_iff_returnsItsUnit (settings : WriteToolBudgetSettings) (start : ℤ)
    (events : List WriteToolEvent) :
    Along (step settings) (ReturnsItsUnit settings) (empty start) events ↔
      ∀ pre t, pre <+: events → run (step settings) (empty start) pre = some t → t.Accurate := by
  have hsound : ∀ pre t, run (step settings) (empty start) pre = some t → Sound settings t :=
    fun pre t hrun => run_induction (I := Sound settings) (fun _ _ _ hs _ => hs.step)
      (sound_empty start) (along_true _ pre) hrun
  have hexact : ∀ s e, Sound settings s ∧ s.Accurate → (ReturnsItsUnit settings s e ↔
      ∀ t, step settings s e = some t → Sound settings t ∧ t.Accurate) := by
    rintro s e ⟨hs, hacc⟩
    cases e with
    | consume =>
      exact iff_of_true trivial fun t ht => ⟨hs.step ht, accurate_consume hs hacc ht⟩
    | refund now i =>
      constructor
      · exact fun hunit t ht => ⟨hs.step ht, (accurate_refund_iff hs hacc ht).mp hunit⟩
      · intro hnext
        cases hstep : step settings s (.refund now i) with
        | some t => exact (accurate_refund_iff hs hacc hstep).mpr (hnext t hstep).2
        | none =>
          simp only [step] at hstep
          simp only [ReturnsItsUnit]
          split
          · trivial
          next _ _ =>
            by_contra hnot
            simp_all
  rw [along_iff_forall_reached hexact ⟨sound_empty start, fun _ => rfl⟩]
  constructor
  · exact fun h pre t hpre hrun => (h pre t hpre hrun).2
  · exact fun h pre t hpre hrun => ⟨hsound pre t hrun, h pre t hpre hrun⟩

/-- Midnight is at 100. -/
def twoDays : WriteToolBudgetSettings where
  enabled := true
  today now := if now < 100 then "2026-01-05" else "2026-01-06"
  dailyCaps _ := some 8
  whitelist externalUserId := externalUserId == "tester"

/-- A unit is refunded after midnight, and the call of a whitelisted account is refunded. -/
theorem refund_hits_other_unit :
    (∃ t, run (step twoDays) (empty 0) [.consume 0 "u" 7 "precreate_next_exercise",
        .consume 100 "u" 7 "precreate_next_exercise", .refund 101 0] = some t ∧
      getDailyCount t.rows (7, "2026-01-06", "precreate_next_exercise") = 0 ∧
      t.outstanding (7, "2026-01-06", "precreate_next_exercise") = 1 ∧
      getDailyCount t.rows (7, "2026-01-05", "precreate_next_exercise") = 1 ∧
      t.outstanding (7, "2026-01-05", "precreate_next_exercise") = 0) ∧
    ∃ t, run (step twoDays) (empty 0) [.consume 0 "u" 7 "precreate_next_exercise",
        .consume 1 "tester" 7 "precreate_next_exercise", .refund 2 1] = some t ∧
      getDailyCount t.rows (7, "2026-01-05", "precreate_next_exercise") = 0 ∧
      t.outstanding (7, "2026-01-05", "precreate_next_exercise") = 1 :=
  ⟨⟨_, rfl, by decide +kernel, by decide +kernel, by decide +kernel, by decide +kernel⟩,
    _, rfl, by decide +kernel, by decide +kernel⟩

end WriteToolLedger

end WispaceBot
