import Mathlib.Algebra.Order.Group.Int
import WispaceBot.Foundation.Triple
import WispaceBot.Reschedule.ConfirmationStore

/-!
# Local dates and reschedule slots

The functions that turn a reschedule request into the date and time of the new session, and a local
date and time into an instant, in milliseconds.  What the host knows is in `Host`: the offset of the
timezone, the dates it reads in other texts, and the Vietnamese label of an instant.
-/

namespace WispaceBot

/-- What the process takes from its host. -/
structure Host where
  timezone : String
  offsetMs : ℤ → ℤ
  /-- `new Date(text)`; `none` is the invalid date. -/
  parseDate : String → Option ℤ
  /-- `formatScheduledTimeLabel(scheduledAt, timezone, now)`. -/
  formatScheduledTimeLabel : ℤ → ℤ → String

/-! ## Dates -/

structure DateParts where
  (year month day : ℤ)
  deriving DecidableEq

/-- The number of days from the epoch to a day of the Gregorian calendar. -/
def daysFromCivil (year month day : ℤ) : ℤ :=
  let y := if month ≤ 2 then year - 1 else year
  let era := y / 400
  let yearOfEra := y - era * 400
  let dayOfYear := (153 * ((month + 9) % 12) + 2) / 5 + day - 1
  era * 146097 + (yearOfEra * 365 + yearOfEra / 4 - yearOfEra / 100 + dayOfYear) - 719468

/-- The day of the Gregorian calendar a number of days after the epoch. -/
def civilFromDays (days : ℤ) : DateParts :=
  let z := days + 719468
  let era := z / 146097
  let dayOfEra := z - era * 146097
  let yearOfEra := (dayOfEra - dayOfEra / 1460 + dayOfEra / 36524 - dayOfEra / 146096) / 365
  let dayOfYear := dayOfEra - (365 * yearOfEra + yearOfEra / 4 - yearOfEra / 100)
  let shifted := (5 * dayOfYear + 2) / 153
  let month := if shifted < 10 then shifted + 3 else shifted - 9
  { year := yearOfEra + era * 400 + if month ≤ 2 then 1 else 0
    month := month
    day := dayOfYear - (153 * shifted + 2) / 5 + 1 }

/-- Months and days beyond their range carry over; the years 0 to 99 stand for 1900 to 1999. -/
def dateUtc (year month day hour minute : ℤ) : ℤ :=
  let fullYear := if 0 ≤ year ∧ year ≤ 99 then 1900 + year else year
  let days := daysFromCivil (fullYear + (month - 1) / 12) ((month - 1) % 12 + 1) 1 + (day - 1)
  ((days * 24 + hour) * 60 + minute) * 60000

def utcDateParts (instant : ℤ) : DateParts :=
  civilFromDays (instant / 86400000)

/-- `getDatePartsInTimezone`.  The formatter shows the years before year 1 without their era. -/
def getDatePartsInTimezone (host : Host) (instant : ℤ) : DateParts :=
  let parts := utcDateParts (instant + host.offsetMs instant)
  { parts with year := if parts.year ≤ 0 then 1 - parts.year else parts.year }

/-- `String(value).padStart(2, '0')`. -/
def pad (value : ℤ) : String :=
  let text := toString value
  if text.length < 2 then "0" ++ text else text

def formatLocalDate (parts : DateParts) : String :=
  toString parts.year ++ "-" ++ pad parts.month ++ "-" ++ pad parts.day

def tomorrowInTimezone (host : Host) (now : ℤ) : String :=
  let today := getDatePartsInTimezone host now
  formatLocalDate (utcDateParts (dateUtc today.year today.month (today.day + 1) 0 0))

/-! ## The two patterns -/

/-- `Number` of a text of decimal digits. -/
def digitsValue (digits : List Char) : ℤ :=
  digits.foldl (fun n c => n * 10 + ((c.toNat : ℤ) - 48)) 0

/-- `LOCAL_DATE_PATTERN.exec(text)`, with the numbers of its three groups of digits. -/
def matchLocalDate (text : String) : Option DateParts :=
  match text.toList with
  | [a, b, c, d, '-', e, f, '-', g, h] =>
    if [a, b, c, d, e, f, g, h].all Char.isDigit then
      some ⟨digitsValue [a, b, c, d], digitsValue [e, f], digitsValue [g, h]⟩
    else none
  | _ => none

/-- `LOCAL_DATE_PATTERN.test(text)`. -/
def isLocalDate (text : String) : Bool :=
  (matchLocalDate text).isSome

lemma isTrimmed_of_isDigit {c : Char} (h : c.isDigit = true) : isTrimmed c = false := by
  simp only [Char.isDigit, Bool.and_eq_true, decide_eq_true_eq] at h
  have hlow : 48 ≤ c.toNat := h.1
  have hhigh : c.toNat ≤ 57 := h.2
  simp only [isTrimmed, List.contains_eq_mem, List.mem_cons, List.not_mem_nil, or_false,
    Bool.or_eq_false_iff, decide_eq_false_iff_not]
  omega

lemma trim_of_isLocalDate {text : String} (h : isLocalDate text = true) : trim text = text := by
  simp only [isLocalDate, matchLocalDate] at h
  split at h
  next _ _ _ _ _ _ _ _ hlist =>
    split at h
    next hdigs =>
      simp only [List.all_cons, List.all_nil, Bool.and_true, Bool.and_eq_true] at hdigs
      have hfirst := isTrimmed_of_isDigit hdigs.1
      have hlast := isTrimmed_of_isDigit hdigs.2.2.2.2.2.2.2
      have htrimmed : ((text.toList.dropWhile isTrimmed).reverse.dropWhile isTrimmed).reverse =
          text.toList := by
        simp [hlist, hfirst, hlast]
      rw [trim, htrimmed, String.ofList_toList]
    · cases h
  · cases h

/-- `[0-5]\d`, the minutes of `TIME_PATTERN`. -/
def isMinute (m n : Char) : Bool :=
  decide ('0' ≤ m ∧ m ≤ '5') && n.isDigit

/-- The normal form of a time that matches `TIME_PATTERN`, its hour padded to two digits. -/
def matchTime (text : String) : Option String :=
  match text.toList with
  | [h, ':', m, n] =>
    if h.isDigit && isMinute m n then some (String.ofList ['0', h, ':', m, n]) else none
  | [g, h, ':', m, n] =>
    if (((g == '0' || g == '1') && h.isDigit) || (g == '2' && decide ('0' ≤ h ∧ h ≤ '3'))) &&
        isMinute m n then
      some (String.ofList [g, h, ':', m, n])
    else none
  | _ => none

def normalizeStudyCalendarTime (time : String) : Except String String :=
  match matchTime (trim time) with
  | some normalized => .ok normalized
  | none => .error ("time must be HH:mm (received \"" ++ time ++ "\")")

/-! ## Instants of local times -/

/-- `parseLocalDatePartsFromEventDate`.  The formatter throws on an invalid date. -/
def parseLocalDatePartsFromEventDate (host : Host) (eventDate : String) : Except String DateParts :=
  match matchLocalDate (trim eventDate) with
  | some parts => .ok parts
  | none =>
    match host.parseDate (trim eventDate) with
    | some instant => .ok (getDatePartsInTimezone host instant)
    | none => .error "Invalid time value"

def offsetProbeHours : List ℤ := [-48, -24, 0, 24, 48]

/-- `matchesLocalDateTime`: the instant shows the wanted local date, hour and minute. -/
def matchesLocalDateTime (host : Host) (instant : ℤ) (parts : DateParts) (hour minute : ℤ) : Bool :=
  let shown := instant + host.offsetMs instant
  decide (getDatePartsInTimezone host instant = parts) &&
    decide (shown / 3600000 % 24 = hour) && decide (shown / 60000 % 60 = minute)

/-- Of the offsets probed, those whose instant shows the local time again, earliest instant first.
-/
def instantOfLocalTime (host : Host) (parts : DateParts) (hour minute : ℤ) : Option ℤ :=
  let localDateAsUtc := dateUtc parts.year parts.month parts.day hour minute
  let offsets := (offsetProbeHours.map fun hours =>
    host.offsetMs (localDateAsUtc + hours * 3600000)).dedup
  ((offsets.map (localDateAsUtc - ·)).filter fun instant =>
    matchesLocalDateTime host instant parts hour minute).min?

def formatUtcOffset (offsetMs : ℤ) : String :=
  if offsetMs = 0 then "Z"
  else
    let totalMinutes := (offsetMs.natAbs : ℤ) / 60000
    (if offsetMs < 0 then "-" else "+") ++ pad (totalMinutes / 60) ++ ":" ++ pad (totalMinutes % 60)

/-- The hour and the minute of a time in the form `HH:mm`. -/
def hourAndMinute (time : String) : Option (ℤ × ℤ) :=
  match time.toList with
  | [g, h, ':', m, n] => some (digitsValue [g, h], digitsValue [m, n])
  | _ => none

/-- Below year 1000 the instant is what the host's parser makes of a year that is not padded. -/
def resolveScheduledAtFromEventDate (host : Host) (eventDate time : String) :
    Except String (Option ℤ) := do
  let parts ← parseLocalDatePartsFromEventDate host eventDate
  match hourAndMinute time with
  | none => .error "Invalid time value"
  | some (hour, minute) =>
    match instantOfLocalTime host parts hour minute with
    | none =>
      .error ("Local time " ++ toString parts.year ++ "-" ++ toString parts.month ++ "-" ++
        toString parts.day ++ " " ++ toString hour ++ ":" ++ toString minute ++
        " does not exist in timezone " ++ host.timezone)
    | some instant =>
      if 1000 ≤ parts.year then .ok (some instant)
      else
        let offset := dateUtc parts.year parts.month parts.day hour minute - instant
        .ok (host.parseDate (formatLocalDate parts ++ "T" ++ pad hour ++ ":" ++ pad minute ++
          ":00" ++ formatUtcOffset offset))

/-! ## The new slot -/

/-- `ResolvedStudyCalendarSlot`, without the copy of the mode. -/
structure ResolvedStudyCalendarSlot where
  (eventDate time : String)
  deriving DecidableEq

def buildEventDateIso (localDate : String) : Except String String :=
  if isLocalDate localDate then .ok localDate
  else .error ("localDate must be YYYY-MM-DD (received \"" ++ localDate ++ "\")")

def getLocalDateFromEventDate (host : Host) (eventDate : String) : Except String String := do
  return formatLocalDate (← parseLocalDatePartsFromEventDate host eventDate)

/-- The largest time value of a `Date`. -/
def maxTimeValue : ℕ := 8640000000000000

/-- `addDaysToLocalDate`: the date shown at noon UTC of the day so many days later. -/
def addDaysToLocalDate (host : Host) (localDate : String) (days : ℤ) : Except String String :=
  match matchLocalDate localDate with
  | none => .error ("localDate must be YYYY-MM-DD (received \"" ++ localDate ++ "\")")
  | some parts =>
    let probe := dateUtc parts.year parts.month (parts.day + days) 12 0
    if probe.natAbs ≤ maxTimeValue then .ok (formatLocalDate (getDatePartsInTimezone host probe))
    else .error "Invalid time value"

/-- `resolveRescheduleSlot` in the mode `default_next_day_same_time`. -/
def nextDaySlot (host : Host) (sourceEventDate normalizedSourceTime : String) :
    Except String ResolvedStudyCalendarSlot := do
  let sourceLocalDate ← getLocalDateFromEventDate host sourceEventDate
  let localDate ← addDaysToLocalDate host sourceLocalDate 1
  let eventDate ← buildEventDateIso localDate
  return { eventDate := eventDate, time := normalizedSourceTime }

/-- The time of an explicit request, by default that of the source. -/
def explicitTime (normalizedSourceTime : String) (newTime : Option String) : Except String String :=
  if isBlank newTime then .ok normalizedSourceTime
  else normalizeStudyCalendarTime (trim (newTime.getD ""))

/-- `resolveRescheduleSlot` in the mode `explicit`. -/
def explicitSlot (host : Host) (now : ℤ) (normalizedSourceTime : String)
    (newLocalDate newTime : Option String) : Except String ResolvedStudyCalendarSlot :=
  if isBlank newLocalDate && isBlank newTime then
    .error "schedulingMode=explicit requires newLocalDate and/or newTime."
  else
    -- a blank date is not a missing one: only the latter means tomorrow
    let resolvedLocalDate := (newLocalDate.map trim).getD (tomorrowInTimezone host now)
    if isLocalDate resolvedLocalDate then do
      let resolvedTime ← explicitTime normalizedSourceTime newTime
      let eventDate ← buildEventDateIso resolvedLocalDate
      return { eventDate := eventDate, time := resolvedTime }
    else .error ("newLocalDate must be YYYY-MM-DD (received \"" ++ resolvedLocalDate ++ "\")")

def resolveRescheduleSlot (host : Host) (now : ℤ) (mode : RescheduleSchedulingMode)
    (sourceEventDate : String) (sourceTime newLocalDate newTime : Option String) :
    Except String ResolvedStudyCalendarSlot :=
  if isBlank sourceTime then .error "Buổi học hiện tại không có giờ (time) để dời lịch."
  else do
    let normalizedSourceTime ← normalizeStudyCalendarTime (trim (sourceTime.getD ""))
    match mode with
    | .defaultNextDaySameTime => nextDaySlot host sourceEventDate normalizedSourceTime
    | .explicit => explicitSlot host now normalizedSourceTime newLocalDate newTime

lemma isLocalDate_of_buildEventDateIso {text date : String}
    (h : buildEventDateIso text = .ok date) : isLocalDate date = true := by
  simp only [buildEventDateIso] at h
  split at h
  next hdate =>
    exact Except.ok.inj h ▸ hdate
  · cases h

lemma isLocalDate_of_resolveRescheduleSlot {host : Host} {now : ℤ}
    {mode : RescheduleSchedulingMode} {sourceEventDate : String}
    {sourceTime newLocalDate newTime : Option String} {slot : ResolvedStudyCalendarSlot}
    (h : resolveRescheduleSlot host now mode sourceEventDate sourceTime newLocalDate newTime =
      .ok slot) : isLocalDate slot.eventDate = true := by
  simp only [resolveRescheduleSlot] at h
  split at h
  · cases h
  · obtain ⟨_, -, hslot⟩ := Except.bind_eq_ok h
    cases mode with
    | defaultNextDaySameTime =>
      obtain ⟨_, -, hrest⟩ := Except.bind_eq_ok hslot
      obtain ⟨_, -, hbuild⟩ := Except.bind_eq_ok hrest
      obtain ⟨date, hdate, hreturn⟩ := Except.bind_eq_ok hbuild
      exact Except.ok.inj hreturn ▸ isLocalDate_of_buildEventDateIso hdate
    | explicit =>
      simp only [explicitSlot] at hslot
      split at hslot
      · cases hslot
      · split at hslot
        · obtain ⟨_, -, hbuild⟩ := Except.bind_eq_ok hslot
          obtain ⟨_, hdate, hreturn⟩ := Except.bind_eq_ok hbuild
          exact Except.ok.inj hreturn ▸ isLocalDate_of_buildEventDateIso hdate
        · cases hslot

end WispaceBot
