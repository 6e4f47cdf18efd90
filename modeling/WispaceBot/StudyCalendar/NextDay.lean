import Mathlib
import WispaceBot.StudyCalendar.CommandService

/-!
# The day after

`addDaysToLocalDate` reads noon UTC of the day wanted in the timezone.  The date is right if and
only if the offset is below twelve hours, and neither `Date.UTC` nor the formatter takes the year
for another one.  The default slot also goes through the pattern of a date, which wants four digits.
-/

namespace WispaceBot

open List

namespace DateParts

/-! ## The calendar -/

abbrev IsLeap (year : ℤ) : Prop :=
  year % 4 = 0 ∧ (year % 100 ≠ 0 ∨ year % 400 = 0)

def daysInMonth (year month : ℤ) : ℤ :=
  if month = 2 then if IsLeap year then 29 else 28
  else if month = 4 ∨ month = 6 ∨ month = 9 ∨ month = 11 then 30 else 31

/-- A date of the calendar. -/
structure Valid (d : DateParts) : Prop where
  month : 1 ≤ d.month ∧ d.month ≤ 12
  day : 1 ≤ d.day ∧ d.day ≤ daysInMonth d.year d.month

def next (d : DateParts) : DateParts :=
  if d.day < daysInMonth d.year d.month then { d with day := d.day + 1 }
  else if d.month < 12 then ⟨d.year, d.month + 1, 1⟩
  else ⟨d.year + 1, 1, 1⟩

/-- `e` is the date `n` days after `d`; where `n` is negative, `d` is the later one. -/
def DaysAfter (d : DateParts) (n : ℤ) (e : DateParts) : Prop :=
  e.Valid ∧ next^[n.toNat] d = next^[(-n).toNat] e

def number (d : DateParts) : ℤ :=
  daysFromCivil d.year d.month d.day

variable {d e : DateParts}

lemma daysInMonth_range (year month : ℤ) :
    1 ≤ daysInMonth year month ∧ daysInMonth year month ≤ 31 := by
  unfold daysInMonth
  split_ifs <;> omega

lemma year_next (d : DateParts) : d.year ≤ d.next.year ∧ d.next.year ≤ d.year + 1 := by
  unfold next
  split_ifs <;> simp

lemma Valid.next (h : d.Valid) : d.next.Valid := by
  have hmonth := h.month
  have hday := h.day
  have hfirst := fun year month => (daysInMonth_range year month).1
  unfold DateParts.next
  split
  · exact ⟨hmonth, by simp only; omega⟩
  · split
    · exact ⟨by simp only; omega, le_rfl, hfirst _ _⟩
    · exact ⟨by simp, le_rfl, hfirst _ _⟩

lemma number_next (h : d.Valid) : d.next.number = d.number + 1 := by
  obtain ⟨year, month, day⟩ := d
  obtain ⟨⟨hmin, hmax⟩, -, hday⟩ := h
  unfold DateParts.next
  split
  · simp only [number, daysFromCivil]
    omega
  next hlast =>
    simp only at hmin hmax hday hlast
    have hlen : day = daysInMonth year month := by omega
    subst hlen
    simp only [number, daysInMonth, daysFromCivil, IsLeap]
    interval_cases month <;> simp <;> omega

lemma number_lt {year year' month day : ℤ} (h : year < year') :
    number ⟨year, month, day⟩ < number ⟨year', month, day⟩ := by
  simp only [number, daysFromCivil]
  split_ifs <;> omega

/-- The year of the era, from the day of the era; the years begin in March. -/
lemma yearOfEra_eq {dayOfEra year day : ℤ} (hyear : 0 ≤ year ∧ year ≤ 399)
    (hday : 0 ≤ day ∧ day ≤ 365) (hleap : day = 365 → IsLeap (year + 1))
    (h : dayOfEra = 365 * year + year / 4 - year / 100 + day) :
    (dayOfEra - dayOfEra / 1460 + dayOfEra / 36524 - dayOfEra / 146096) / 365 = year := by
  have hcenturies : dayOfEra / 36524 = year / 100 ∨ dayOfEra = 146096 := by
    have hcent : (year + 1) / 100 = 0 ∨ (year + 1) / 100 = 1 ∨ (year + 1) / 100 = 2 ∨
        (year + 1) / 100 = 3 ∨ year = 399 := by
      omega
    omega
  have hleaps : dayOfEra / 1460 = year / 4 ∨ dayOfEra / 1460 = year / 4 + 1 := by omega
  have hlast : dayOfEra / 146096 = 0 ∨ dayOfEra = 146096 := by omega
  omega

lemma civilFromDays_number (h : d.Valid) : civilFromDays d.number = d := by
  obtain ⟨year, month, day⟩ := d
  obtain ⟨⟨hmin, hmax⟩, hpos, hday⟩ := h
  simp only at hmin hmax hpos hday
  set y := if month ≤ 2 then year - 1 else year with hy
  set doy := (153 * ((month + 9) % 12) + 2) / 5 + day - 1 with hdoy
  have hmonth : (5 * doy + 2) / 153 = (month + 9) % 12 ∧ 0 ≤ doy ∧ doy ≤ 365 ∧
      (doy = 365 → IsLeap (y % 400 + 1)) := by
    simp only [daysInMonth, IsLeap] at hday ⊢
    interval_cases month <;> simp at hday hy hdoy ⊢ <;> omega
  obtain ⟨hshift, hstart, hend, hleap⟩ := hmonth
  set doe := 365 * (y % 400) + y % 400 / 4 - y % 400 / 100 + doy with hdoe
  have hyear := yearOfEra_eq (by omega) ⟨hstart, hend⟩ hleap hdoe
  have hrange : 0 ≤ doe ∧ doe < 146097 := by omega
  have hnum : number ⟨year, month, day⟩ + 719468 = y / 400 * 146097 + doe := by
    have hmod : y - y / 400 * 400 = y % 400 := by omega
    simp only [number, daysFromCivil, ← hy, ← hdoy, hmod]
    omega
  have hera : (number ⟨year, month, day⟩ + 719468) / 146097 = y / 400 := by omega
  have hsub : number ⟨year, month, day⟩ + 719468 - y / 400 * 146097 = doe := by omega
  have hdays : doe - (365 * (y % 400) + y % 400 / 4 - y % 400 / 100) = doy := by omega
  have hback : (if (month + 9) % 12 < 10 then (month + 9) % 12 + 3 else (month + 9) % 12 - 9) =
      month := by
    split <;> omega
  simp only [civilFromDays, hera, hsub, hyear, hdays, hshift, hback, mk.injEq, true_and]
  split at hy <;> omega

lemma iterate_next (h : d.Valid) (k : ℕ) :
    (next^[k] d).Valid ∧ (next^[k] d).number = d.number + k := by
  induction k with
  | zero => exact ⟨h, by simp⟩
  | succ k ih =>
    rw [Function.iterate_succ_apply', number_next ih.1, ih.2]
    exact ⟨ih.1.next, by omega⟩

lemma valid_civilFromDays (days : ℤ) :
    (civilFromDays days).Valid ∧ (civilFromDays days).number = days := by
  -- from a day so many eras before the epoch that `days` comes after it
  set start : DateParts := ⟨1970 - 400 * days.natAbs, 1, 1⟩ with hstart
  have hvalid : start.Valid := ⟨by simp [hstart], by simp [hstart, daysInMonth]⟩
  have hnum : start.number = -146097 * days.natAbs := by
    simp only [hstart, number, daysFromCivil]
    omega
  obtain ⟨hend, hdays⟩ := iterate_next hvalid (days - start.number).toNat
  have hsame : (next^[(days - start.number).toNat] start).number = days := by omega
  have hdate := civilFromDays_number hend
  rw [hsame] at hdate
  rw [hdate]
  exact ⟨hend, hsame⟩

lemma eq_of_number (hd : d.Valid) (he : e.Valid) (h : d.number = e.number) : d = e := by
  rw [← civilFromDays_number hd, h, civilFromDays_number he]

lemma daysAfter_iff (h : d.Valid) {n : ℤ} : d.DaysAfter n e ↔ e = civilFromDays (d.number + n) := by
  obtain ⟨hthere, hnum⟩ := iterate_next h n.toNat
  constructor
  · rintro ⟨he, heq⟩
    have hback := (iterate_next he (-n).toNat).2
    rw [← heq] at hback
    have hsum : e.number = d.number + n := by omega
    rw [← hsum, civilFromDays_number he]
  · rintro rfl
    obtain ⟨he, hsum⟩ := valid_civilFromDays (d.number + n)
    obtain ⟨hback, hnum'⟩ := iterate_next he (-n).toNat
    exact ⟨he, eq_of_number hthere hback (by omega)⟩

lemma daysAfter_one (h : d.Valid) : d.DaysAfter 1 e ↔ e = d.next := by
  rw [daysAfter_iff h, ← number_next h, civilFromDays_number h.next]

/-- A date as the formatter shows it. -/
def withoutEra (d : DateParts) : DateParts :=
  { d with year := if d.year ≤ 0 then 1 - d.year else d.year }

end DateParts

open DateParts

/-! ## Texts of dates -/

lemma digitsValue_four {p q r s : Char} (h : ∀ c ∈ [p, q, r, s], c.isDigit = true) :
    digitsValue [p, q, r, s] = Nat.ofDigitChars 10 [p, q, r, s] 0 ∧
      digitsValue [p, q, r, s] ≤ 9999 := by
  have hdigit : ∀ c ∈ [p, q, r, s], 48 ≤ c.toNat ∧ c.toNat ≤ 57 := by
    intro c hc
    have hc' := h c hc
    simp only [Char.isDigit, Bool.and_eq_true, decide_eq_true_eq] at hc'
    exact hc'
  have hzero : '0'.toNat = 48 := rfl
  simp only [mem_cons, not_mem_nil, or_false, forall_eq_or_imp, forall_eq] at hdigit
  simp only [digitsValue, foldl_cons, foldl_nil, Nat.ofDigitChars_cons, Nat.ofDigitChars_nil]
  omega

/-- The text of a month or a day is two digits. -/
def IsPadded (value : ℤ) : Prop :=
  ∃ a b, (pad value).toList = [a, b] ∧ (a.isDigit = true ∧ b.isDigit = true) ∧
    digitsValue [a, b] = value

lemma isPadded {value : ℤ} (h : 1 ≤ value ∧ value ≤ 31) : IsPadded value := by
  have hall : (pad value).toList.length = 2 ∧ (pad value).toList.all Char.isDigit = true ∧
      digitsValue (pad value).toList = value := by
    obtain ⟨hmin, hmax⟩ := h
    interval_cases value <;> decide +kernel
  obtain ⟨a, b, hab⟩ := length_eq_two.mp hall.1
  exact ⟨a, b, hab, by simpa [hab] using hall.2.1, hab ▸ hall.2.2⟩

variable {d e : DateParts}

lemma DateParts.Valid.isPadded (h : d.Valid) : IsPadded d.month ∧ IsPadded d.day :=
  ⟨WispaceBot.isPadded ⟨h.month.1, h.month.2.trans (by simp)⟩,
    WispaceBot.isPadded ⟨h.day.1, h.day.2.trans (daysInMonth_range ..).2⟩⟩

lemma formatLocalDate_inj (hd : d.Valid) (he : e.Valid)
    (htext : formatLocalDate d.withoutEra = formatLocalDate e) : d.withoutEra = e := by
  obtain ⟨⟨a, b, hmonth, -, hab⟩, g, h, hday, -, hgh⟩ := hd.isPadded
  obtain ⟨⟨a', b', hmonth', -, hab'⟩, g', h', hday', -, hgh'⟩ := he.isPadded
  have hlist := congrArg String.toList htext
  simp only [formatLocalDate, withoutEra, String.toList_append, hmonth, hmonth', hday,
    hday'] at hlist
  obtain ⟨hlist, hd⟩ := append_inj' hlist rfl
  obtain ⟨hlist, -⟩ := append_inj' hlist rfl
  obtain ⟨hlist, hm⟩ := append_inj' hlist rfl
  obtain ⟨hyear, -⟩ := append_inj' hlist rfl
  have hy := Int.repr_inj.mp (String.toList_injective hyear)
  rw [hm, hab'] at hab
  rw [hd, hgh'] at hgh
  simp only [withoutEra, hy, ← hab, ← hgh]

lemma matchLocalDate_formatLocalDate (hd : d.Valid) (hyear : 0 ≤ d.year) :
    matchLocalDate (formatLocalDate d) =
      if 1000 ≤ d.year ∧ d.year ≤ 9999 then some d else none := by
  obtain ⟨year, month, day⟩ := d
  lift year to ℕ using hyear
  obtain ⟨⟨a, b, hmonth, hdigs, hab⟩, g, h, hday, hdigs', hgh⟩ := hd.isPadded
  simp only at hmonth hday hab hgh
  have hlist : (formatLocalDate ⟨year, month, day⟩).toList =
      Nat.toDigits 10 year ++ ['-', a, b, '-', g, h] := by
    simp [formatLocalDate, hmonth, hday, Int.toString_eq_repr, Int.repr_eq_if]
  have hnum : ∀ c ∈ Nat.toDigits 10 year, c.isDigit = true := fun c hc =>
    Nat.isDigit_of_mem_toDigits (by omega) (by omega) hc
  have hthree := Nat.length_toDigits_le_iff (b := 10) (n := year) (k := 3) (by omega) (by omega)
  have hfour := Nat.length_toDigits_le_iff (b := 10) (n := year) (k := 4) (by omega) (by omega)
  unfold matchLocalDate
  rw [hlist]
  by_cases hlen : (Nat.toDigits 10 year).length = 4
  · obtain ⟨p, q, r, s, hdigits⟩ := length_eq_four.mp hlen
    have hrange : 1000 ≤ (year : ℤ) ∧ (year : ℤ) ≤ 9999 := by omega
    have hval := Nat.ofDigitChars_ten_toDigits (n := year)
    rw [hdigits] at hnum hval ⊢
    have hyear := (digitsValue_four hnum).1
    rw [hval] at hyear
    simp only [mem_cons, not_mem_nil, or_false, forall_eq_or_imp, forall_eq] at hnum
    simp [hnum, hdigs, hdigs', hyear, hab, hgh, hrange]
  · rw [if_neg (by simp only; omega)]
    split
    next heq =>
      have hten := congrArg length heq
      simp at hten
      omega
    · rfl

variable {text : String}

lemma year_of_matchLocalDate (h : matchLocalDate text = some d) : 0 ≤ d.year ∧ d.year ≤ 9999 := by
  unfold matchLocalDate at h
  split at h
  next =>
    split at h
    next hdigs =>
      obtain ⟨⟩ := h
      obtain ⟨hvalue, hmax⟩ := digitsValue_four fun c hc =>
        all_eq_true.mp hdigs c (mem_append_left [_, _, _, _] hc)
      exact ⟨hvalue ▸ Int.natCast_nonneg _, hmax⟩
    · cases h
  · cases h

/-! ## The date that is shown -/

namespace DateParts

lemma withoutEra_eq_iff (h : e.number ≤ d.number) : d.withoutEra = e ↔ d = e ∧ 1 ≤ e.year := by
  by_cases hneg : d.year ≤ 0
  · have hlt : d.number < d.withoutEra.number := by
      simp only [withoutEra, if_pos hneg]
      exact number_lt (by omega)
    constructor
    · rintro rfl
      omega
    · rintro ⟨rfl, hpos⟩
      omega
  · have hsame : d.withoutEra = d := by simp [withoutEra, hneg]
    rw [hsame]
    exact ⟨fun heq => ⟨heq, by rw [← heq]; omega⟩, And.left⟩

/-- The instant that `addDaysToLocalDate` looks at. -/
def noonUtc (d : DateParts) (n : ℤ) : ℤ :=
  dateUtc d.year d.month (d.day + n) 12 0

lemma noonUtc_eq (h : d.Valid) (n : ℤ) : ∃ days, d.noonUtc n = (days + n) * 86400000 + 43200000 ∧
    d.number ≤ days ∧ (days = d.number ↔ 100 ≤ d.year ∨ d.year < 0) := by
  have hmonth := h.month
  have hdiv : (d.month - 1) / 12 = 0 := by omega
  have hmod : (d.month - 1) % 12 + 1 = d.month := by omega
  refine ⟨number { d with year := if 0 ≤ d.year ∧ d.year ≤ 99 then 1900 + d.year else d.year },
    ?_, ?_⟩
  · simp only [noonUtc, dateUtc, hdiv, hmod, add_zero, number, daysFromCivil]
    omega
  · split
    · have hlt : d.number < number { d with year := 1900 + d.year } := number_lt (by omega)
      omega
    · simp only [le_refl, true_and, true_iff]
      omega

end DateParts

/-- The offsets of timezones lie between -12 and +14 hours. -/
def Host.IsTimezone (host : Host) : Prop :=
  ∀ instant, -43200000 ≤ host.offsetMs instant ∧ host.offsetMs instant ≤ 50400000

/-- The date `n` days after `d` is shown: noon UTC is on it in the timezone, and it is a date of our
era that a `Date` can hold. -/
structure ShowsDay (host : Host) (d : DateParts) (n : ℤ) : Prop where
  offset : host.offsetMs (d.noonUtc n) < 43200000
  year : 100 ≤ d.year
  after : ∀ e, d.DaysAfter n e → 1 ≤ e.year
  inTime : (d.noonUtc n).natAbs ≤ maxTimeValue

section

variable {host : Host} (hhost : host.IsTimezone) (htext : matchLocalDate text = some d)
  (hd : d.Valid)
include hhost htext hd

lemma addDaysToLocalDate_iff (n : ℤ) :
    (∃ e, d.DaysAfter n e ∧ addDaysToLocalDate host text n = .ok (formatLocalDate e)) ↔
      ShowsDay host d n := by
  obtain ⟨days, hnoon, hle, hsame⟩ := noonUtc_eq hd n
  have hoff := hhost (d.noonUtc n)
  have hyear := (year_of_matchLocalDate htext).1
  set shown := (d.noonUtc n + host.offsetMs (d.noonUtc n)) / 86400000 with hshown
  obtain ⟨hvalid, hnum⟩ := valid_civilFromDays shown
  obtain ⟨hvalid', hnum'⟩ := valid_civilFromDays (d.number + n)
  have hparts : formatLocalDate (getDatePartsInTimezone host (d.noonUtc n)) =
        formatLocalDate (civilFromDays (d.number + n)) ↔
      civilFromDays shown = civilFromDays (d.number + n) ∧
        1 ≤ (civilFromDays (d.number + n)).year := by
    rw [← withoutEra_eq_iff (by omega)]
    exact ⟨formatLocalDate_inj hvalid hvalid', congrArg formatLocalDate⟩
  have hright : civilFromDays shown = civilFromDays (d.number + n) ↔
      host.offsetMs (d.noonUtc n) < 43200000 ∧ 100 ≤ d.year := by
    constructor
    · intro heq
      rw [heq] at hnum
      omega
    · intro h
      exact eq_of_number hvalid hvalid' (by omega)
  simp only [daysAfter_iff hd, exists_eq_left, addDaysToLocalDate, htext]
  change (if (d.noonUtc n).natAbs ≤ maxTimeValue then
    Except.ok (formatLocalDate (getDatePartsInTimezone host (d.noonUtc n))) else _) = _ ↔ _
  split
  next hin =>
    rw [Except.ok.injEq, hparts, hright]
    exact ⟨fun h => ⟨h.1.1, h.1.2, by simpa [daysAfter_iff hd] using h.2, hin⟩, fun h =>
      ⟨⟨h.offset, h.year⟩, h.after _ ((daysAfter_iff hd).mpr rfl)⟩⟩
  next hout =>
    constructor
    · rintro ⟨⟩
    · exact fun h => absurd h.inTime hout

omit hhost htext in
lemma showsDay_one (hyear : 1000 ≤ d.year ∧ d.year ≤ 9999) :
    ShowsDay host d 1 ↔ host.offsetMs (d.noonUtc 1) < 43200000 := by
  refine ⟨fun h => h.offset, fun h => ⟨h, by omega, fun e he => ?_, ?_⟩⟩
  · rw [(daysAfter_one hd).mp he]
    have hnext := d.year_next
    omega
  · obtain ⟨days, hnoon, -, hsame⟩ := noonUtc_eq hd 1
    rw [hnoon, hsame.mpr (.inl (by omega))]
    have hmonth := hd.month
    have hday := hd.day
    have hlast := (daysInMonth_range d.year d.month).2
    simp only [maxTimeValue, number, daysFromCivil]
    split_ifs <;> omega

lemma nextDaySlot_iff (time : String) :
    nextDaySlot host text time = .ok ⟨formatLocalDate d.next, time⟩ ↔
      host.offsetMs (d.noonUtc 1) < 43200000 ∧ 1000 ≤ d.year ∧ d.next.year ≤ 9999 := by
  obtain ⟨hmin, hmax⟩ := year_of_matchLocalDate htext
  have hstep := d.year_next
  have hlocal : getLocalDateFromEventDate host text = .ok (formatLocalDate d) := by
    have htrim := trim_of_isLocalDate (show isLocalDate text = true by simp [isLocalDate, htext])
    simp [getLocalDateFromEventDate, parseLocalDatePartsFromEventDate, htrim, htext]
  have hslot : nextDaySlot host text time = .ok ⟨formatLocalDate d.next, time⟩ ↔
      addDaysToLocalDate host (formatLocalDate d) 1 = .ok (formatLocalDate d.next) ∧
        isLocalDate (formatLocalDate d.next) = true := by
    simp only [nextDaySlot, hlocal, bind, Except.bind]
    cases addDaysToLocalDate host (formatLocalDate d) 1 with
    | error => simp
    | ok localDate =>
      cases hdate : isLocalDate localDate <;> simp [buildEventDateIso, hdate, pure, Except.pure] <;>
        (rintro rfl; simpa using hdate)
  have hmatch := matchLocalDate_formatLocalDate hd hmin
  have hnext := matchLocalDate_formatLocalDate hd.next (by omega)
  rw [hslot]
  by_cases hyear : 1000 ≤ d.year
  · rw [if_pos ⟨hyear, hmax⟩] at hmatch
    have hadd := addDaysToLocalDate_iff hhost hmatch hd 1
    simp only [daysAfter_one hd, exists_eq_left, showsDay_one hd ⟨hyear, hmax⟩] at hadd
    rw [hadd, isLocalDate, hnext]
    split_ifs <;> simp <;> omega
  · rw [if_neg (by omega)] at hmatch
    simp [addDaysToLocalDate, hmatch, hyear]

end

/-- The default slot is on the day after, at the same time, if and only if noon UTC of that day is
on it in the timezone and both years have four digits; days are added rightly if and only if the
date is shown. -/
theorem next_day_iff {host : Host} (hhost : host.IsTimezone) {text : String} {d : DateParts}
    (htext : matchLocalDate text = some d) (hd : d.Valid) :
    (∀ (now : ℤ) (time normalized : String) (newLocalDate newTime : Option String),
      normalizeStudyCalendarTime (trim time) = .ok normalized →
      (resolveRescheduleSlot host now .defaultNextDaySameTime text (some time) newLocalDate
          newTime = .ok ⟨formatLocalDate d.next, normalized⟩ ↔
        host.offsetMs (d.noonUtc 1) < 43200000 ∧ 1000 ≤ d.year ∧ d.next.year ≤ 9999)) ∧
    ∀ n, (∃ e, d.DaysAfter n e ∧ addDaysToLocalDate host text n = .ok (formatLocalDate e)) ↔
      ShowsDay host d n := by
  refine ⟨fun now time normalized newLocalDate newTime htime => ?_,
    addDaysToLocalDate_iff hhost htext hd⟩
  have hblank : isBlank (some time) = false := by
    by_contra hblank
    have hall : ∀ c ∈ time.toList, isTrimmed c = true := by simpa [isBlank] using hblank
    simp [normalizeStudyCalendarTime, matchTime, trim, dropWhile_eq_nil_iff.mpr hall] at htime
  rw [← nextDaySlot_iff hhost htext hd normalized]
  simp [resolveRescheduleSlot, hblank, htime, bind, Except.bind]

/-- The day after 28 February of a leap year. -/
theorem next_day_iff_leapDay :
    resolveRescheduleSlot vietnam 0 .defaultNextDaySameTime "2028-02-28" (some "9:30") none none =
      .ok ⟨formatLocalDate ⟨2028, 2, 29⟩, "09:30"⟩ :=
  ((next_day_iff (d := ⟨2028, 2, 28⟩) (fun _ => by simp [vietnam]) rfl
    ⟨by decide, by decide⟩).1 0 "9:30" "09:30" none none rfl).mpr (by decide)

def auckland : Host :=
  { vietnam with timezone := "Pacific/Auckland", offsetMs := fun _ => 13 * 3600000 }

/-- Thirteen hours ahead of UTC, noon UTC is on the next day, and the session moves by two days. -/
theorem moved_by_two_days :
    auckland.IsTimezone ∧ resolveRescheduleSlot auckland 0 .defaultNextDaySameTime "2026-03-02"
      (some "19:00") none none = .ok ⟨"2026-03-04", "19:00"⟩ :=
  ⟨fun _ => by simp [auckland], by decide +kernel⟩

end WispaceBot
