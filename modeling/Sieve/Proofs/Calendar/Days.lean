/-
This file proves that every day has a date, and that the days of a year are those from
its first of January to the next. The count goes by years that begin in March. A day of
an era is taken apart into its century, the four years of the century, the year of these
and the day of the year, and the formula that gives the year is checked on these parts:
what it takes away for leap days is one too much on some days, and never enough to change
the year.
-/

import Mathlib
import Sieve.Calendar.Clock

namespace Sieve.Calendar

/-! ### Years that begin in March -/

/-- The count of days from the first of March of the year 0 to the first of March of a year. -/
def daysBefore (year : Int) : Int :=
  365 * year + year / 4 - year / 100 + year / 400

/-- The count of days from the first of March to the first day of a month, March being 0. -/
def daysBeforeMonth (month : Int) : Int :=
  (153 * month + 2) / 5

theorem daysBefore_succ (year : Int) :
    daysBefore (year + 1) = daysBefore year + if isLeapYear (year + 1) then 366 else 365 := by
  unfold daysBefore isLeapYear
  split
  case isTrue leap =>
    simp only [Bool.and_eq_true, Bool.or_eq_true, beq_iff_eq, bne_iff_ne] at leap
    omega
  case isFalse common =>
    simp only [Bool.and_eq_true, Bool.or_eq_true, beq_iff_eq, bne_iff_ne] at common
    omega

theorem daysBefore_mono {earlier later : Int} (order : earlier ≤ later) :
    daysBefore earlier ≤ daysBefore later := by
  unfold daysBefore
  rcases order.eq_or_lt with rfl | before
  · exact le_rfl
  · omega

theorem daysBefore_succ_ge (year : Int) : daysBefore year + 365 ≤ daysBefore (year + 1) := by
  rw [daysBefore_succ]
  split <;> omega

/-! ### Days of an era -/

/-- A day of an era of four hundred years, taken apart. -/
structure EraDay (dayOfEra : Int) where
  /-- The century of the era. -/
  century : Int
  /-- The four years of the century. -/
  quad : Int
  /-- The year of the four. -/
  year : Int
  /-- The day of the year that begins in March. -/
  day : Int
  /-- The parts make up the day of the era. -/
  total : dayOfEra = 36524 * century + 1461 * quad + 365 * year + day
  /-- An era has four centuries. -/
  centuries : 0 ≤ century ∧ century ≤ 3
  /-- A century has twenty-five times four years. -/
  quads : 0 ≤ quad ∧ quad ≤ 24
  /-- They are four. -/
  years : 0 ≤ year ∧ year ≤ 3
  /-- A year has 365 days, or one more. -/
  days : 0 ≤ day ∧ day ≤ 365
  /-- The day more is in the last of four years, and in the last four years of the last century
  only. -/
  leap : day = 365 → year = 3 ∧ (quad = 24 → century = 3)

theorem exists_eraDay {dayOfEra : Int} (inside : 0 ≤ dayOfEra ∧ dayOfEra ≤ 146096) :
    Nonempty (EraDay dayOfEra) := by
  obtain ⟨century, centuryIs⟩ : ∃ century, century = dayOfEra / 36524 - dayOfEra / 146096 :=
    ⟨_, rfl⟩
  obtain ⟨dayOfCentury, dayOfCenturyIs⟩ : ∃ day, day = dayOfEra - 36524 * century := ⟨_, rfl⟩
  have centuries : 0 ≤ century ∧ century ≤ 3 ∧ 0 ≤ dayOfCentury ∧ dayOfCentury ≤ 36524 ∧
      (dayOfCentury = 36524 → century = 3) := by omega
  obtain ⟨quad, quadIs⟩ : ∃ quad, quad = dayOfCentury / 1461 := ⟨_, rfl⟩
  obtain ⟨dayOfQuad, dayOfQuadIs⟩ : ∃ day, day = dayOfCentury - 1461 * quad := ⟨_, rfl⟩
  have quads : 0 ≤ quad ∧ quad ≤ 24 ∧ 0 ≤ dayOfQuad ∧ dayOfQuad ≤ 1460 ∧
      (dayOfQuad = 1460 → quad = 24 → dayOfCentury = 36524) := by omega
  obtain ⟨year, yearIs⟩ : ∃ year, year = (dayOfQuad - dayOfQuad / 1460) / 365 := ⟨_, rfl⟩
  exact ⟨century, quad, year, dayOfQuad - 365 * year, by omega, by omega, by omega, by omega,
    by omega, by omega⟩

namespace EraDay

variable {dayOfEra : Int} (parts : EraDay dayOfEra)

/-- The year of the era in which a day lies. -/
def yearOfEra : Int :=
  100 * parts.century + 4 * parts.quad + parts.year

/-- The formula for the year of an era gives the year of the parts. -/
theorem yearOfEra_eq :
    (dayOfEra - dayOfEra / 1460 + dayOfEra / 36524 - dayOfEra / 146096) / 365 =
      parts.yearOfEra := by
  obtain ⟨century, quad, year, day, total, centuries, quads, years, days, leap⟩ := parts
  show _ = 100 * century + 4 * quad + year
  by_cases last : day = 365 ∧ quad = 24
  · obtain ⟨rfl, rfl⟩ := last
    obtain ⟨rfl, final⟩ := leap rfl
    obtain rfl := final rfl
    subst total
    rfl
  -- Before the last day of an era the centuries are those that the formula counts.
  have whole : dayOfEra / 36524 = century ∧ dayOfEra / 146096 = 0 := by omega
  have quarters : dayOfEra / 1460 =
      25 * century + quad + (24 * century + quad + 365 * year + day) / 1460 := by omega
  have excess : (24 * century + quad + 365 * year + day) / 1460 = 0 ∨
      (24 * century + quad + 365 * year + day) / 1460 = 1 ∧ year = 3 ∧ 100 < day := by omega
  omega

/-- The days of an era before the year of a day. -/
theorem daysBefore_yearOfEra (era : Int) :
    daysBefore (parts.yearOfEra + era * 400) = 146097 * era + (dayOfEra - parts.day) := by
  obtain ⟨century, quad, year, day, total, centuries, quads, years, _, _⟩ := parts
  show daysBefore (100 * century + 4 * quad + year + era * 400) = 146097 * era + (dayOfEra - day)
  rw [daysBefore]
  have fours : (100 * century + 4 * quad + year + era * 400) / 4 =
      100 * era + 25 * century + quad := by omega
  have hundreds : (100 * century + 4 * quad + year + era * 400) / 100 = 4 * era + century := by
    omega
  have eras : (100 * century + 4 * quad + year + era * 400) / 400 = era := by omega
  omega

/-- The formula for the day of the year gives the day of the parts. -/
theorem dayOfYear_eq :
    dayOfEra - (365 * parts.yearOfEra + parts.yearOfEra / 4 - parts.yearOfEra / 100) =
      parts.day := by
  have before := parts.daysBefore_yearOfEra 0
  rw [Int.zero_mul, Int.add_zero, daysBefore] at before
  have first : parts.yearOfEra / 400 = 0 := by
    have bounds := parts.centuries
    have fours := parts.quads
    have years := parts.years
    unfold yearOfEra
    omega
  omega

/-- A year that has a day more is one before a leap year. -/
theorem isLeapYear_of_day (era : Int) (last : parts.day = 365) :
    isLeapYear (parts.yearOfEra + era * 400 + 1) = true := by
  obtain ⟨fourth, final⟩ := parts.leap last
  have quads := parts.quads
  unfold isLeapYear yearOfEra
  rw [fourth]
  simp only [Bool.and_eq_true, Bool.or_eq_true, beq_iff_eq, bne_iff_ne]
  omega

end EraDay

/-- The month of a day of a year that begins in March. -/
theorem daysBeforeMonth_bounds {day : Int} (inside : 0 ≤ day ∧ day ≤ 365) :
    (0 ≤ (5 * day + 2) / 153 ∧ (5 * day + 2) / 153 ≤ 11) ∧
      daysBeforeMonth ((5 * day + 2) / 153) ≤ day ∧
        day < daysBeforeMonth ((5 * day + 2) / 153 + 1) := by
  unfold daysBeforeMonth
  omega

namespace Date

/-! ### Dates of days -/

/-- A date given by a year that begins in March, a month of this year, March being 0, and a day of
the month. January and February are in the next year. -/
def ofMarch (year month day : Int) : Date :=
  if month < 10 then ⟨year, (month + 3).toNat, day.toNat⟩
  else ⟨year + 1, (month - 9).toNat, day.toNat⟩

theorem toDays_ofMarch {year month day : Int} (months : 0 ≤ month ∧ month ≤ 11) (first : 1 ≤ day) :
    (ofMarch year month day).toDays =
      daysBefore year + daysBeforeMonth month + (day - 1) - 719468 := by
  have days : (day.toNat : Int) = day := by omega
  unfold ofMarch toDays daysBefore daysBeforeMonth
  by_cases early : month < 10
  · have late : ¬(month + 3).toNat ≤ 2 := by omega
    have numbered : ((month + 3).toNat : Int) - 3 = month := by omega
    simp only [if_pos early, if_neg late, numbered, days]
    omega
  · have late : (month - 9).toNat ≤ 2 := by omega
    have numbered : ((month - 9).toNat : Int) + 9 = month := by omega
    simp only [if_neg early, if_pos late, numbered, days, Int.add_sub_cancel]
    omega

/-- A day taken apart. -/
structure MarchDay (days : Int) where
  /-- The year that begins in March. -/
  year : Int
  /-- The month of the year, March being 0. -/
  month : Int
  /-- The day of the month. -/
  day : Int
  /-- The parts make up the day. -/
  total : days + 719468 = daysBefore year + daysBeforeMonth month + (day - 1)
  /-- The day is in the year. -/
  inYear : days + 719468 < daysBefore (year + 1)
  /-- A year has twelve months. -/
  months : 0 ≤ month ∧ month ≤ 11
  /-- The day is in the month. -/
  inMonth : 1 ≤ day ∧ daysBeforeMonth month + (day - 1) < daysBeforeMonth (month + 1)
  /-- The date of the day has these parts. -/
  date : ofDays days = ofMarch year month day

theorem exists_marchDay (days : Int) : Nonempty (MarchDay days) := by
  obtain ⟨era, eraIs⟩ : ∃ era, era = (days + 719468) / 146097 := ⟨_, rfl⟩
  obtain ⟨dayOfEra, dayOfEraIs⟩ : ∃ day, day = (days + 719468) % 146097 := ⟨_, rfl⟩
  have split : days + 719468 = 146097 * era + dayOfEra ∧ 0 ≤ dayOfEra ∧ dayOfEra ≤ 146096 := by
    omega
  obtain ⟨parts⟩ := exists_eraDay split.2
  have before := parts.daysBefore_yearOfEra era
  obtain ⟨month, monthIs⟩ : ∃ month, month = (5 * parts.day + 2) / 153 := ⟨_, rfl⟩
  obtain ⟨months, starts, ends⟩ := daysBeforeMonth_bounds parts.days
  rw [← monthIs] at months starts ends
  have inYear : days + 719468 < daysBefore (parts.yearOfEra + era * 400 + 1) := by
    rcases parts.days.2.eq_or_lt with last | common
    · rw [daysBefore_succ, if_pos (parts.isLeapYear_of_day era last)]
      omega
    · have longer := daysBefore_succ_ge (parts.yearOfEra + era * 400)
      omega
  refine ⟨⟨parts.yearOfEra + era * 400, month, parts.day - (153 * month + 2) / 5 + 1, ?_, inYear,
    months, ?_, ?_⟩⟩
  · unfold daysBeforeMonth
    omega
  · unfold daysBeforeMonth at starts ends ⊢
    omega
  · unfold ofDays ofMarch
    simp only [← eraIs, ← dayOfEraIs, parts.yearOfEra_eq, parts.dayOfYear_eq, ← monthIs]
    by_cases early : month < 10
    · rw [if_pos early, if_pos early, if_neg (by omega)]
    · rw [if_neg early, if_neg early, if_pos (by omega)]

/-- The date of a day is a date of this day. -/
theorem toDays_ofDays (days : Int) : (ofDays days).toDays = days := by
  obtain ⟨parts⟩ := exists_marchDay days
  rw [parts.date, toDays_ofMarch parts.months parts.inMonth.1, ← parts.total]
  omega

theorem isValid_ofMarch {year month day : Int} (months : 0 ≤ month ∧ month ≤ 11)
    (inMonth : 1 ≤ day ∧ daysBeforeMonth month + (day - 1) < daysBeforeMonth (month + 1))
    (inYear : daysBeforeMonth month + (day - 1) < if isLeapYear (year + 1) then 366 else 365) :
    (ofMarch year month day).isValid = true := by
  obtain ⟨first, last⟩ := months
  unfold daysBeforeMonth at inMonth inYear
  rw [isValid, decide_eq_true_eq]
  -- February is cut off by the end of the year, all other months by the next one.
  interval_cases month
  case «11» =>
    cases leap : isLeapYear (year + 1) with
    | false =>
      simp only [leap, Bool.false_eq_true, if_false] at inYear
      simp [ofMarch, monthLength, leap]
      omega
    | true =>
      simp only [leap, if_true] at inYear
      simp [ofMarch, monthLength, leap]
      omega
  all_goals
    simp only [ofMarch, monthLength]
    norm_num
    omega

/-- The date of a day is one that the calendar has. -/
theorem isValid_ofDays (days : Int) : (ofDays days).isValid = true := by
  obtain ⟨parts⟩ := exists_marchDay days
  have inYear := parts.inYear
  rw [parts.total, daysBefore_succ] at inYear
  rw [parts.date]
  exact isValid_ofMarch parts.months parts.inMonth (by omega)

/-! ### Days of years -/

/-- The first day of a year. -/
theorem toDays_first (year : Int) :
    (Date.mk year 1 1).toDays = daysBefore (year - 1) + 306 - 719468 := by
  unfold toDays daysBefore
  simp only
  omega

/-- The days from the first of January of a year on are those whose dates are in this year or a
later one. -/
theorem le_year_ofDays_iff (year days : Int) :
    year ≤ (ofDays days).year ↔ (Date.mk year 1 1).toDays ≤ days := by
  obtain ⟨parts⟩ := exists_marchDay days
  have total := parts.total
  have inYear := parts.inYear
  have months := parts.months
  have inMonth := parts.inMonth
  rw [toDays_first, parts.date, ofMarch]
  by_cases early : parts.month < 10
  · have before : daysBeforeMonth (parts.month + 1) ≤ 306 := by
      unfold daysBeforeMonth
      omega
    have longer := daysBefore_succ_ge (parts.year - 1)
    rw [Int.sub_add_cancel] at longer
    rw [if_pos early]
    show year ≤ parts.year ↔ _
    constructor
    · intro order
      have ordered := daysBefore_mono (show year - 1 ≤ parts.year - 1 by omega)
      have positive : 0 ≤ daysBeforeMonth parts.month := by
        unfold daysBeforeMonth
        omega
      omega
    · intro order
      by_contra later
      have ordered := daysBefore_mono (show parts.year ≤ year - 1 by omega)
      omega
  · have after : 306 ≤ daysBeforeMonth parts.month := by
      unfold daysBeforeMonth
      omega
    rw [if_neg early]
    show year ≤ parts.year + 1 ↔ _
    constructor
    · intro order
      have ordered := daysBefore_mono (show year - 1 ≤ parts.year by omega)
      omega
    · intro order
      by_contra later
      have ordered := daysBefore_mono (show parts.year + 1 ≤ year - 1 by omega)
      omega

end Date

/-! ### Wall clocks -/

namespace WallClock

/-- A wall clock can be written if it shows a year between the first and the last one. -/
theorem isInRange_iff (clock : WallClock) :
    clock.isInRange = true ↔ firstYear ≤ clock.date.year ∧ clock.date.year ≤ lastYear := by
  have after := Date.le_year_ofDays_iff firstYear (clock.second / secondsPerDay)
  have before := Date.le_year_ofDays_iff (lastYear + 1) (clock.second / secondsPerDay)
  rw [isInRange, decide_eq_true_eq, firstSecond, lastSecond, date, after]
  unfold secondsPerDay at *
  omega

/-- A date and a time of day are shown by the wall clock with their seconds and nanoseconds. -/
theorem ofFields?_eq_some {date : Date} {time : TimeOfDay} {clock : WallClock}
    (inRange : clock.isInRange = true) (valid : date.isValid = true)
    (fits : time.hour < 24 ∧ time.minute < 60 ∧ time.second ≤ 60 ∧
      time.nanosecond < nanosecondsPerSecond)
    (second : clock.second = date.toDays * secondsPerDay + time.hour * 3600 + time.minute * 60 +
      (min time.second 59 : Nat))
    (nanosecond : clock.nanosecond =
      if time.second = 60 then time.nanosecond + nanosecondsPerSecond else time.nanosecond) :
    ofFields? date time = some clock := by
  obtain ⟨seconds, nanoseconds⟩ := clock
  subst second nanosecond
  exact if_pos ⟨valid, fits.1, fits.2.1, fits.2.2.1, fits.2.2.2, inRange⟩

/-- What a wall clock shows is read as the wall clock. -/
theorem ofFields?_date_timeOfDay {clock : WallClock} (inRange : clock.isInRange = true)
    (fraction : clock.nanosecond < 2 * nanosecondsPerSecond)
    (leap : nanosecondsPerSecond ≤ clock.nanosecond → clock.second % 60 = 59) :
    ofFields? clock.date clock.timeOfDay = some clock := by
  have days : clock.date.toDays = clock.second / secondsPerDay := Date.toDays_ofDays _
  obtain ⟨ofDay, ofDayIs⟩ : ∃ ofDay, ofDay = (clock.second % secondsPerDay).toNat := ⟨_, rfl⟩
  have inDay : clock.second = clock.second / secondsPerDay * secondsPerDay + ofDay ∧
      ofDay < 86400 := by
    unfold secondsPerDay at ofDayIs ⊢
    omega
  have minutes : ofDay % 60 = 59 ↔ clock.second % 60 = 59 := by
    unfold secondsPerDay at inDay
    omega
  by_cases inLeap : nanosecondsPerSecond ≤ clock.nanosecond
  · have last : ofDay % 60 = 59 := minutes.mpr (leap inLeap)
    have shown : clock.timeOfDay =
        ⟨ofDay / 3600, ofDay / 60 % 60, 60, clock.nanosecond - nanosecondsPerSecond⟩ := by
      simp only [timeOfDay, ← ofDayIs, if_pos inLeap, last]
    rw [shown]
    refine ofFields?_eq_some inRange (Date.isValid_ofDays _) ?_ ?_ ?_
    · simp only
      omega
    · rw [days]
      simp only
      omega
    · rw [if_pos rfl]
      simp only
      omega
  · have shown : clock.timeOfDay =
        ⟨ofDay / 3600, ofDay / 60 % 60, ofDay % 60, clock.nanosecond⟩ := by
      simp only [timeOfDay, ← ofDayIs, if_neg inLeap]
    rw [shown]
    refine ofFields?_eq_some inRange (Date.isValid_ofDays _) ?_ ?_ ?_
    · simp only
      omega
    · rw [days]
      simp only
      omega
    · rw [if_neg (by simp only; omega)]

end WallClock

end Sieve.Calendar
