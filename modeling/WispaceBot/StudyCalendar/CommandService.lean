import WispaceBot.Reschedule.Service
import WispaceBot.StudyCalendar.Slot

/-!
# Moving a study session

`rescheduleSession` creates a record at the new slot and then deletes the old one.  A record that
already stands at the new slot is taken for the replacement.  The service is generic in the calendar
it talks to, over any state; the first calendar below succeeds, fails, or fails after it took
effect.
-/

namespace WispaceBot

open List Triple

/-! ## The calendar port -/

structure UserCalendarRecord where
  (id userId : ℤ)
  eventDate : String
  (time createdAt : Option String)

/-- The errors of the calendar client, as far as somebody looks at them. -/
inductive CalendarError
  /-- `WispaceApiError` with its status code. -/
  | status (code : ℕ)
  /-- A `TypeError` of `fetch`: the network. -/
  | network
  /-- An `AbortError` or a `TimeoutError`. -/
  | aborted
  | other

/-- What `rescheduleSession` throws. -/
inductive RescheduleFailure
  /-- `NotFoundException('Calendar entry not found')`. -/
  | notFound
  | scope (reason : RescheduleScopeFailureReason)
  | slot (message : String)
  /-- The `BadRequestException` of `assertFutureSlot`. -/
  | tooSoon
  | calendar (error : CalendarError)

/-- `StudyCalendarPort`, the three calls of the reschedule flow for one external user. -/
structure StudyCalendarPort (σ : Type) where
  listCalendars : EStateM RescheduleFailure σ (List UserCalendarRecord)
  createCalendar : ResolvedStudyCalendarSlot → ℤ → EStateM RescheduleFailure σ UserCalendarRecord
  deleteCalendar : ℤ → EStateM RescheduleFailure σ Unit

/-! ## The service -/

/-- `PlatformStudyCalendarCommandOptions` and the `RescheduleConfigPort`. -/
structure CommandServiceConfig where
  host : Host
  enforceLeadTime : Bool
  minLeadMinutes : ℤ

/-- The parameters of `rescheduleSession`. -/
structure RescheduleParams where
  (userId calendarId : ℤ)
  schedulingMode : RescheduleSchedulingMode
  (newLocalDate newTime : Option String)

structure RescheduleClock where
  /-- In `resolveRescheduleSlot`. -/
  resolvedAt : ℤ
  /-- In `assertFutureSlot`. -/
  checkedAt : ℤ
  /-- In `formatScheduledTimeLabel`. -/
  labelledAt : ℤ

structure RescheduleStudySessionResult where
  cancelledCalendarId : ℤ
  created : UserCalendarRecord
  schedulingMode : RescheduleSchedulingMode
  scheduledTimeLabel : String

def assertRescheduleRecordOwnership (record : UserCalendarRecord) (expectedUserId : ℤ) :
    Except RescheduleFailure Unit :=
  match getRescheduleScopeFailureReason (some record.userId) expectedUserId with
  | some reason => .error (.scope reason)
  | none => .ok ()

def slotResult {α : Type} (r : Except String α) : Except RescheduleFailure α :=
  r.mapError .slot

section

variable (config : CommandServiceConfig) (clock : RescheduleClock)

/-- `resolveRescheduleSlot` on the source record. -/
def resolveTarget (params : RescheduleParams) (source : UserCalendarRecord) :
    Except String ResolvedStudyCalendarSlot :=
  resolveRescheduleSlot config.host clock.resolvedAt params.schedulingMode source.eventDate
    source.time params.newLocalDate params.newTime

/-- `assertFutureSlot`.  An invalid date is no number of minutes away, and passes. -/
def assertFutureSlot (target : ResolvedStudyCalendarSlot) : Except RescheduleFailure Unit := do
  match ← slotResult (resolveScheduledAtFromEventDate config.host target.eventDate target.time) with
  | none => return
  | some scheduledAt =>
    if scheduledAt - clock.checkedAt ≤ config.minLeadMinutes * 60000 then throw .tooSoon

/-- Between listing the records and creating the replacement: find the source, resolve the slot. -/
def checkRequest (params : RescheduleParams) (records : List UserCalendarRecord) :
    Except RescheduleFailure (UserCalendarRecord × ResolvedStudyCalendarSlot) := do
  match records.find? (·.id = params.calendarId) with
  | none => throw .notFound
  | some source =>
    assertRescheduleRecordOwnership source params.userId
    let target ← slotResult (resolveTarget config clock params source)
    if config.enforceLeadTime then
      assertFutureSlot config clock target
    return (source, target)

end

def UserCalendarRecord.at (record : UserCalendarRecord) (slot : ResolvedStudyCalendarSlot) : Bool :=
  record.eventDate == slot.eventDate && record.time == some slot.time

/-- The look-up of `createTargetIdempotent`: the record that will do as the replacement. -/
def existingTarget (records : List UserCalendarRecord) (slot : ResolvedStudyCalendarSlot)
    (userId : ℤ) : Except RescheduleFailure (Option UserCalendarRecord) :=
  let matching := records.filter (·.at slot)
  if matching.any fun record =>
      getRescheduleScopeFailureReason (some record.userId) userId == some .scopeUnverified then
    .error (.scope .scopeUnverified)
  else .ok (matching.find? (·.userId = userId))

variable {record : UserCalendarRecord} {userId : ℤ}

lemma userId_of_owned (h : assertRescheduleRecordOwnership record userId = .ok ()) :
    record.userId = userId := by
  simp only [assertRescheduleRecordOwnership, getRescheduleScopeFailureReason] at h
  split at h
  · cases h
  next hreason =>
    split at hreason
    · cases hreason
    · split at hreason
      · assumption
      · cases hreason

lemma owned_of_userId_eq {other : UserCalendarRecord}
    (h : assertRescheduleRecordOwnership record userId = .ok ())
    (heq : other.userId = record.userId) :
    assertRescheduleRecordOwnership other userId = .ok () := by
  simp only [assertRescheduleRecordOwnership, heq] at h ⊢
  exact h

variable {records : List UserCalendarRecord}

lemma id_of_find {id : ℤ} (h : records.find? (·.id = id) = some record) : record.id = id := by
  simpa using find?_some h

lemma checkRequest_ok {cfg : CommandServiceConfig} {clock : RescheduleClock}
    {par : RescheduleParams} {source : UserCalendarRecord} {target : ResolvedStudyCalendarSlot}
    (h : checkRequest cfg clock par records = .ok (source, target)) :
    records.find? (·.id = par.calendarId) = some source ∧
      assertRescheduleRecordOwnership source par.userId = .ok () ∧
      resolveTarget cfg clock par source = .ok target := by
  simp only [checkRequest] at h
  cases hfind : records.find? (·.id = par.calendarId) with
  | none => simp only [hfind] at h; cases h
  | some found =>
    simp only [hfind] at h
    obtain ⟨_, howned, hrest⟩ := Except.bind_eq_ok h
    obtain ⟨slot, hslot, hlead⟩ := Except.bind_eq_ok hrest
    have hres : (found, slot) = (source, target) := by
      split at hlead
      · obtain ⟨_, -, hreturn⟩ := Except.bind_eq_ok hlead
        exact Except.ok.inj hreturn
      · exact Except.ok.inj hlead
    cases hres
    cases hresolved : resolveTarget cfg clock par source with
    | ok =>
      rw [hresolved] at hslot
      exact ⟨rfl, howned, congrArg Except.ok (Except.ok.inj hslot)⟩
    | error =>
      rw [hresolved] at hslot
      cases hslot

variable {slot : ResolvedStudyCalendarSlot}

lemma existingTarget_some {old : UserCalendarRecord}
    (h : existingTarget records slot userId = .ok (some old)) :
    old ∈ records ∧ old.at slot = true ∧ old.userId = userId := by
  simp only [existingTarget] at h
  split at h
  · cases h
  · have hfind : (records.filter (·.at slot)).find? (·.userId = userId) = some old :=
      Except.ok.inj h
    have hmem := mem_filter.mp (mem_of_find?_eq_some hfind)
    have huser := find?_some hfind
    exact ⟨hmem.1, hmem.2, of_decide_eq_true huser⟩

lemma existingTarget_none (h : existingTarget records slot userId = .ok none) :
    ∀ record ∈ records, record.at slot = true → record.userId ≠ userId := by
  simp only [existingTarget] at h
  split at h
  · cases h
  · have hfind : (records.filter (·.at slot)).find? (·.userId = userId) = none :=
      Except.ok.inj h
    intro record hmem hat huser
    have hnone := find?_eq_none.mp hfind record (mem_filter.mpr ⟨hmem, hat⟩)
    exact hnone (decide_eq_true huser)

section Service

variable {σ : Type} (port : StudyCalendarPort σ)

def createTargetIdempotent (records : List UserCalendarRecord) (slot : ResolvedStudyCalendarSlot)
    (userId : ℤ) : EStateM RescheduleFailure σ UserCalendarRecord := do
  match ← ofExcept (existingTarget records slot userId) with
  | some existing => return existing
  | none => port.createCalendar slot userId

/-- The loop of `deleteWithRetry` over its delays. -/
def deleteWithRetry (calendarId : ℤ) (lastError : RescheduleFailure) :
    List ℕ → EStateM RescheduleFailure σ Unit
  | [] => throw lastError
  | _ :: delays =>
    tryCatch (port.deleteCalendar calendarId) fun error => deleteWithRetry calendarId error delays

section

variable (config : CommandServiceConfig) (clock : RescheduleClock)

/-- `scheduledTimeLabel` of the result; an invalid date cannot be formatted. -/
def scheduledTimeLabel (target : ResolvedStudyCalendarSlot) : Except RescheduleFailure String := do
  match ← slotResult (resolveScheduledAtFromEventDate config.host target.eventDate target.time) with
  | none => throw (.slot "Invalid time value")
  | some scheduledAt => return config.host.formatScheduledTimeLabel scheduledAt clock.labelledAt

def rescheduleSession (params : RescheduleParams) :
    EStateM RescheduleFailure σ RescheduleStudySessionResult := do
  let records ← port.listCalendars
  let (_, target) ← ofExcept (checkRequest config clock params records)
  let created ← createTargetIdempotent port records target params.userId
  ofExcept (assertRescheduleRecordOwnership created params.userId)
  deleteWithRetry port params.calendarId (.calendar .other) [0, 300, 700]
  let label ← ofExcept (scheduledTimeLabel config clock target)
  return {
    cancelledCalendarId := params.calendarId
    created := created
    schedulingMode := params.schedulingMode
    scheduledTimeLabel := label }

end

lemma deleteWithRetry_keeps {C : σ → Prop} {calendarId : ℤ}
    (hdel : Triple C (port.deleteCalendar calendarId) (fun _ => C) (fun _ => C))
    (lastError : RescheduleFailure) (delays : List ℕ) :
    Triple C (deleteWithRetry port calendarId lastError delays) (fun _ => C) (fun _ => C) := by
  induction delays generalizing lastError with
  | nil => exact throw (E := fun _ => C) lastError
  | cons _ _ ih => exact tryCatch hdel fun error => ih error

lemma rescheduleSession_triple {cfg : CommandServiceConfig} {clock : RescheduleClock}
    {par : RescheduleParams} {P C R : σ → Prop} {L : List UserCalendarRecord → σ → Prop}
    (hlist : Triple P port.listCalendars L (fun _ => R)) (hlisted : ∀ records s, L records s → R s)
    (hcreate : ∀ records source target,
      checkRequest cfg clock par records = .ok (source, target) →
      Triple (L records) (createTargetIdempotent port records target par.userId)
        (fun created s => R s ∧
          (assertRescheduleRecordOwnership created par.userId = .ok () → C s)) (fun _ => R))
    (hdel : Triple C (port.deleteCalendar par.calendarId) (fun _ => C) (fun _ => C))
    (hkept : ∀ s, C s → R s) :
    Triple P (rescheduleSession port cfg clock par) (fun _ => R) (fun _ => R) := by
  have hlabel : ∀ created target, Triple C
      (do let label ← ofExcept (scheduledTimeLabel cfg clock target)
          return ({ cancelledCalendarId := par.calendarId, created := created,
                    schedulingMode := par.schedulingMode,
                    scheduledTimeLabel := label } : RescheduleStudySessionResult) :
        EStateM RescheduleFailure σ RescheduleStudySessionResult) (fun _ => R) (fun _ => R) := by
    intro created target
    refine bind (imp (ofExcept _) (fun s hs => hkept s hs)
      (fun _ s hs => hs.2) (fun _ s hs => hs)) fun label => ?_
    exact pure (Q := fun _ => R) _
  refine bind hlist fun records => ?_
  refine bind (imp (ofExcept (P := L records) _) (fun s hs => hs)
    (fun _ s hs => hs) (fun _ s hs => hlisted records s hs)) fun found => ?_
  obtain ⟨source, target⟩ := found
  refine of_fact fun hcheck => ?_
  refine bind (hcreate records source target hcheck) fun created => ?_
  refine bind (imp (ofExcept (P := fun s => R s ∧
      (assertRescheduleRecordOwnership created par.userId = .ok () → C s)) _)
    (fun s hs => hs) (fun _ s hs => hs.2.2 hs.1) (fun _ s hs => hs.1)) fun _ => ?_
  refine bind (imp (deleteWithRetry_keeps port hdel _ _) (fun s hs => hs)
    (fun _ s hs => hs) (fun _ s hs => hkept s hs)) fun _ => ?_
  exact hlabel created target

end Service

/-! ## A calendar whose calls succeed, fail, or fail after they took effect -/

/-- The records of a calendar.  Ids are handed out in order and never again. -/
structure Calendar where
  records : List UserCalendarRecord
  lastId : ℤ
  id_le : ∀ record ∈ records, record.id ≤ lastId

namespace Calendar

section

variable (calendar : Calendar) (userId : ℤ) (slot : ResolvedStudyCalendarSlot)

def newRecord :
    UserCalendarRecord where
  id := calendar.lastId + 1
  userId := userId
  eventDate := slot.eventDate
  time := some slot.time
  createdAt := none

def create : Calendar where
  records := calendar.records ++ [calendar.newRecord userId slot]
  lastId := calendar.lastId + 1
  id_le := by
    intro record hmem
    rcases mem_append.mp hmem with hold | hnew
    · have := calendar.id_le record hold
      omega
    · rw [mem_singleton.mp hnew]
      exact Int.le_refl _

end

def delete (calendar : Calendar) (id : ℤ) : Calendar where
  records := calendar.records.filter (·.id ≠ id)
  lastId := calendar.lastId
  id_le := fun record hmem => calendar.id_le record (mem_filter.mp hmem).1

lemma mem_delete {calendar : Calendar} {id : ℤ} {record : UserCalendarRecord} :
    record ∈ (calendar.delete id).records ↔ record ∈ calendar.records ∧ record.id ≠ id := by
  simp [delete]

end Calendar

/-- A write succeeds, fails, or takes effect without an answer. -/
inductive CallReply
  | succeeded
  | failed
  | lost

/-- How the calls of one `rescheduleSession` end. -/
structure CalendarReplies where
  (list create : CallReply)
  delete : ℕ → CallReply
  createdUserId : ℤ

/-- A calendar and the number of deletions asked of it. -/
structure CalendarSession where
  calendar : Calendar
  deletions : ℕ

/-- The result of a call that succeeds with a value and a new state, or fails. -/
def CallReply.result {σ α : Type} (reply : CallReply) (value : α) (before after : σ) :
    EStateM.Result RescheduleFailure σ α :=
  match reply with
  | .succeeded => .ok value after
  | .failed => .error (.calendar .network) before
  | .lost => .error (.calendar .network) after

def replyingCalendar (replies : CalendarReplies) : StudyCalendarPort CalendarSession where
  listCalendars := fun s => replies.list.result s.calendar.records s s
  createCalendar := fun slot _ => fun s =>
    replies.create.result (s.calendar.newRecord replies.createdUserId slot) s
      { s with calendar := s.calendar.create replies.createdUserId slot }
  deleteCalendar := fun id => fun s =>
    (replies.delete s.deletions).result () { s with deletions := s.deletions + 1 }
      { calendar := s.calendar.delete id, deletions := s.deletions + 1 }

/-- The calendar after one `rescheduleSession`. -/
def calendarAfter (config : CommandServiceConfig) (clock : RescheduleClock)
    (params : RescheduleParams) (replies : CalendarReplies) (calendar : Calendar) : Calendar :=
  (endState (rescheduleSession (replyingCalendar replies) config clock params)
    { calendar := calendar, deletions := 0 }).calendar

/-! ## The session is not lost -/

/-- The record would do as the learner's session at the slot once the source is deleted. -/
def Replaces (params : RescheduleParams) (slot : ResolvedStudyCalendarSlot)
    (record : UserCalendarRecord) : Prop :=
  record.id ≠ params.calendarId ∧ record.userId = params.userId ∧
    record.eventDate = slot.eventDate ∧ record.time = some slot.time

/-- A record that is to be reused and is not the source itself stands at the target slot. -/
def ReusesAnother (config : CommandServiceConfig) (clock : RescheduleClock)
    (params : RescheduleParams) (records : List UserCalendarRecord) : Prop :=
  ∀ source target existing, checkRequest config clock params records = .ok (source, target) →
    existingTarget records target params.userId = .ok (some existing) →
    ∃ record ∈ records, Replaces params target record

section NotLost

variable {config : CommandServiceConfig} {clock : RescheduleClock} {params : RescheduleParams}
  {replies : CalendarReplies} {calendar : Calendar} {source : UserCalendarRecord}

/-- A replacement of the source stands at the target slot. -/
def HasReplacement (config : CommandServiceConfig) (clock : RescheduleClock)
    (params : RescheduleParams) (source : UserCalendarRecord) (s : CalendarSession) : Prop :=
  source.userId = params.userId ∧ ∃ target, resolveTarget config clock params source = .ok target ∧
    ∃ record ∈ s.calendar.records, Replaces params target record

lemma deleteCalendar_keeps_replacement :
    Triple (HasReplacement config clock params source)
      ((replyingCalendar replies).deleteCalendar params.calendarId)
      (fun _ => HasReplacement config clock params source)
      (fun _ => HasReplacement config clock params source) := by
  constructor
  intro s hs
  obtain ⟨huser, target, htarget, record, hmem, hrepl⟩ := hs
  have hkept : record ∈ (s.calendar.delete params.calendarId).records :=
    Calendar.mem_delete.mpr ⟨hmem, hrepl.1⟩
  simp only [replyingCalendar, CallReply.result]
  cases replies.delete s.deletions with
  | succeeded | lost => exact ⟨huser, target, htarget, record, hkept, hrepl⟩
  | failed => exact ⟨huser, target, htarget, record, hmem, hrepl⟩

variable {target : ResolvedStudyCalendarSlot}

lemma createTargetIdempotent_spec
    (hfind : calendar.records.find? (·.id = params.calendarId) = some source)
    (hreuse : ReusesAnother config clock params calendar.records)
    (hcheck : checkRequest config clock params calendar.records = .ok (source, target)) :
    Triple (fun s => s.calendar = calendar)
      (createTargetIdempotent (replyingCalendar replies) calendar.records target params.userId)
      (fun created s => source ∈ s.calendar.records ∧
        (assertRescheduleRecordOwnership created params.userId = .ok () →
          HasReplacement config clock params source s))
      (fun _ s => source ∈ s.calendar.records) := by
  obtain ⟨-, howned, htarget⟩ := checkRequest_ok hcheck
  have huser := userId_of_owned howned
  have hmem : source ∈ calendar.records := mem_of_find?_eq_some hfind
  have hid : source.id = params.calendarId := id_of_find hfind
  refine bind (imp (ofExcept (P := fun s => s.calendar = calendar) _)
    (fun s hs => hs) (fun _ s hs => hs)
    (fun _ s (hs : s.calendar = calendar) => hs ▸ hmem)) fun found => ?_
  refine of_fact fun hex => ?_
  cases found with
  | some old =>
    obtain ⟨record, hrec, hrepl⟩ := hreuse source target old hcheck hex
    constructor
    intro s hs
    subst hs
    exact ⟨hmem, fun _ => ⟨huser, target, htarget, record, hrec, hrepl⟩⟩
  | none =>
    constructor
    intro s hs
    subst hs
    have hold : source ∈ (s.calendar.create replies.createdUserId target).records :=
      mem_append_left _ hmem
    simp only [replyingCalendar, CallReply.result]
    cases replies.create with
    | failed => exact hmem
    | lost => exact hold
    | succeeded =>
      refine ⟨hold, fun hver => ⟨huser, target, htarget, _,
        mem_append_right _ (mem_singleton.mpr rfl), ?_⟩⟩
      -- the new id is above all ids handed out, so it is not the id of the source
      have hle := s.calendar.id_le source hmem
      refine ⟨?_, userId_of_owned hver, rfl, rfl⟩
      simp only [Calendar.newRecord]
      omega

lemma source_or_replacement (replies : CalendarReplies)
    (hfind : calendar.records.find? (·.id = params.calendarId) = some source)
    (hreuse : ReusesAnother config clock params calendar.records) :
    Triple (fun s => s.calendar = calendar)
      (rescheduleSession (replyingCalendar replies) config clock params)
      (fun _ s => source ∈ s.calendar.records ∨ HasReplacement config clock params source s)
      (fun _ s => source ∈ s.calendar.records ∨ HasReplacement config clock params source s) := by
  have hmem : source ∈ calendar.records := mem_of_find?_eq_some hfind
  refine rescheduleSession_triple (C := HasReplacement config clock params source)
    (L := fun records s => records = calendar.records ∧ s.calendar = calendar)
    (replyingCalendar replies) ?_ ?_ ?_ deleteCalendar_keeps_replacement (fun s hs => .inr hs)
  · constructor
    intro s hs
    subst hs
    simp only [replyingCalendar, CallReply.result]
    cases replies.list with
    | succeeded => exact ⟨rfl, rfl⟩
    | failed => exact .inl hmem
    | lost => exact .inl hmem
  · rintro records s ⟨-, hs⟩
    exact .inl (hs ▸ hmem)
  · intro _ found _ hcheck
    refine of_fact fun hrecs => ?_
    subst hrecs
    have hsame : found = source := Option.some.inj ((checkRequest_ok hcheck).1.symm.trans hfind)
    subst hsame
    exact (createTargetIdempotent_spec hfind hreuse hcheck).imp (fun s hs => hs)
      (fun _ s hs => ⟨.inl hs.1, hs.2⟩) (fun _ s hs => .inl hs)

def allSucceed : CalendarReplies where
  list := .succeeded
  create := .succeeded
  delete := fun _ => .succeeded
  createdUserId := 1

lemma calendarAfter_of_reused {old : UserCalendarRecord}
    (hcheck : checkRequest config clock params calendar.records = .ok (source, target))
    (hex : existingTarget calendar.records target params.userId = .ok (some old)) :
    calendarAfter config clock params allSucceed calendar = calendar.delete params.calendarId := by
  obtain ⟨-, howned, -⟩ := checkRequest_ok hcheck
  have huser : old.userId = source.userId :=
    (existingTarget_some hex).2.2.trans (userId_of_owned howned).symm
  have hver := owned_of_userId_eq howned huser
  set start : CalendarSession := { calendar := calendar, deletions := 0 } with hstart
  have hcreated : createTargetIdempotent (replyingCalendar allSucceed) calendar.records target
      params.userId start = .ok old start := by
    change EStateM.bind _ _ _ = _
    simp only [EStateM.bind, ofExcept_apply_of_ok hex]
    rfl
  simp only [calendarAfter, rescheduleSession, ← hstart]
  have hlist : (replyingCalendar allSucceed).listCalendars start = .ok calendar.records start :=
    rfl
  have hdel : deleteWithRetry (replyingCalendar allSucceed) params.calendarId
      (.calendar .other) [0, 300, 700] start =
        .ok () { calendar := calendar.delete params.calendarId, deletions := 1 } :=
    rfl
  rw [endState_bind_of_ok hlist,
    endState_bind_of_ok (ofExcept_apply_of_ok hcheck start), endState_bind_of_ok hcreated,
    endState_bind_of_ok (ofExcept_apply_of_ok hver start),
    endState_bind_of_ok hdel]
  cases hlabel : scheduledTimeLabel config clock target with
  | ok => rfl
  | error => rfl

/-- The session that a request removes has a replacement of its user at the target slot, whatever
the calendar replies, exactly if a record that is reused is another one than the session. -/
theorem session_not_lost (config : CommandServiceConfig) (clock : RescheduleClock)
    (params : RescheduleParams) (calendar : Calendar) :
    (∀ replies source, calendar.records.find? (·.id = params.calendarId) = some source →
      source ∉ (calendarAfter config clock params replies calendar).records →
      ∃ target, resolveTarget config clock params source = .ok target ∧
        ∃ record ∈ (calendarAfter config clock params replies calendar).records,
          record.id ≠ source.id ∧ record.userId = source.userId ∧
            record.eventDate = target.eventDate ∧ record.time = some target.time) ↔
      ReusesAnother config clock params calendar.records := by
  constructor
  · intro hkept source target _ hcheck hex
    obtain ⟨hfind, howned, htarget⟩ := checkRequest_ok hcheck
    have hid : source.id = params.calendarId := id_of_find hfind
    have hafter := calendarAfter_of_reused hcheck hex
    have hgone : source ∉ (calendarAfter config clock params allSucceed calendar).records := by
      rw [hafter, Calendar.mem_delete]
      exact fun hmem => hmem.2 hid
    obtain ⟨slot, hslot, record, hmem, hother, huser, hdate, htime⟩ :=
      hkept allSucceed source hfind hgone
    have hsame : slot = target := Except.ok.inj (hslot.symm.trans htarget)
    subst hsame
    rw [hafter, Calendar.mem_delete] at hmem
    exact ⟨record, hmem.1, hmem.2, huser.trans (userId_of_owned howned), hdate, htime⟩
  · intro hreuse replies source hfind hgone
    have hid : source.id = params.calendarId := id_of_find hfind
    have hend := (source_or_replacement replies hfind hreuse).at_end
      (s := { calendar := calendar, deletions := 0 }) rfl
    rcases hend with hstays | ⟨huser, target, htarget, record, hmem, hrepl⟩
    · exact absurd hstays hgone
    · obtain ⟨hother, howner, hdate, htime⟩ := hrepl
      exact ⟨target, htarget, record, hmem, hid ▸ hother, howner.trans huser.symm, hdate, htime⟩

def vietnam : Host where
  timezone := "Asia/Ho_Chi_Minh"
  offsetMs := fun _ => 7 * 3600000
  parseDate := fun _ => none
  formatScheduledTimeLabel := fun _ _ => ""

/-- The service without the lead time check, as Zalo has it. -/
def zaloService : CommandServiceConfig where
  host := vietnam
  enforceLeadTime := false
  minLeadMinutes := 0

def onlySession : UserCalendarRecord where
  id := 5
  userId := 42
  eventDate := "2026-05-01"
  time := some "19:00"
  createdAt := none

def onlyCalendar : Calendar where
  records := [onlySession]
  lastId := 5
  id_le := by simp [onlySession]

def sameSlotRequest : RescheduleParams where
  userId := 42
  calendarId := 5
  schedulingMode := .explicit
  newLocalDate := some "2026-05-01"
  newTime := some "19:00"

/-- Moving a session to its own slot deletes it: the look-up for a replacement finds the source. -/
theorem session_lost_at_own_slot :
    onlyCalendar.records.find? (·.id = sameSlotRequest.calendarId) = some onlySession ∧
      resolveTarget zaloService ⟨0, 0, 0⟩ sameSlotRequest onlySession =
        .ok ⟨"2026-05-01", "19:00"⟩ ∧
      (calendarAfter zaloService ⟨0, 0, 0⟩ sameSlotRequest allSucceed onlyCalendar).records =
        [] := by
  refine ⟨?_, ?_, ?_⟩
  · rfl
  · rfl
  · rfl

end NotLost

end WispaceBot
