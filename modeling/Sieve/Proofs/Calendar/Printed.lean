/-
This file proves that printed points in time are read back. A printed field is a row of
digits, which its reader takes whole, and after each field stands a mark that the reader
stops at: so a date, a time of day and an offset are read as they were before whatever
comes next. A wall clock, an instant and a zoned time are then put together from what
they show, leap seconds and years beyond four digits included.
-/

import Sieve.Calendar.Printer
import Sieve.Proofs.Calendar.Days
import Sieve.Proofs.Calendar.Forms
import Sieve.Proofs.Text.Integers

namespace Sieve.Calendar

namespace Reader

/-! ### Printed fields -/

/-- What may come after a printed field: no digit and no point. -/
def EndsField (rest : List Char) : Prop :=
  ∀ character ∈ rest.head?, Text.isDigit character = false ∧ character ≠ '.'

theorem endsField_nil : EndsField [] :=
  fun _ inside => absurd inside (by simp)

theorem endsField_cons {character : Char} (other : Text.isDigit character = false)
    (notPoint : character ≠ '.') (rest : List Char) : EndsField (character :: rest) := by
  intro first inside
  obtain rfl := Option.some.inj inside
  exact ⟨other, notPoint⟩

theorem blanks_cons {character : Char} (visible : Text.isBlank character = false)
    (rest : List Char) : blanks (character :: rest) = some ((), character :: rest) := by
  rw [blanks_apply, Text.trimStart, List.dropWhile_cons_of_neg (by simp [visible])]

theorem isRow_paddedDigits {count value : Nat} (small : value < 10 ^ (count + 1)) :
    IsRow (count + 1) (Text.paddedDigits (count + 1) value) where
  length := Text.length_paddedDigits (Nat.succ_pos count) small
  all := fun _ member => Text.isDigit_of_mem_paddedDigits member

theorem number_paddedDigits {count value : Nat} (small : value < 10 ^ (count + 1))
    (rest : List Char) :
    number (count + 1) (Text.paddedDigits (count + 1) value ++ rest) = some (value, rest) := by
  rw [number_row (isRow_paddedDigits small), Text.digitsValue_paddedDigits]

theorem fixedNumber_paddedDigits {count value : Nat} (small : value < 10 ^ (count + 1))
    (rest : List Char) :
    fixedNumber (count + 1) (Text.paddedDigits (count + 1) value ++ rest) = some (value, rest) := by
  have row := isRow_paddedDigits small
  rw [fixedNumber, bind_apply, digitsUpTo_row row, Option.bind_some, if_pos row.length,
    Text.digitsValue_paddedDigits]
  rfl

/-- All digits are read up to what ends the field. -/
theorem allDigits_append {digits rest : List Char}
    (all : ∀ digit ∈ digits, Text.isDigit digit = true) (nonempty : digits ≠ [])
    (ends : EndsField rest) : allDigits (digits ++ rest) = some (digits, rest) := by
  obtain ⟨taken, dropped⟩ :=
    Text.isDigit_span_append all fun first inside => (ends first inside).1
  rw [allDigits, taken, dropped, if_neg (by simpa using nonempty)]

/-- A printed year is read as the year: with four digits if it needs no sign, and with all of
its digits after a sign. -/
theorem year_writeYear (written : Int) (rest : List Char) :
    year (writeYear written ++ '-' :: rest) = some (written, '-' :: rest) := by
  have ends : EndsField ('-' :: rest) := endsField_cons (by decide) (by decide) rest
  have digits : allDigits (Text.paddedDigits 4 written.natAbs ++ '-' :: rest) =
      some (Text.paddedDigits 4 written.natAbs, '-' :: rest) :=
    allDigits_append (fun _ member => Text.isDigit_of_mem_paddedDigits member)
      (Text.paddedDigits_ne_nil 4 _) ends
  unfold writeYear
  by_cases plain : 0 ≤ written ∧ written ≤ 9999
  · rw [if_pos plain, year_row (isRow_paddedDigits (show written.toNat < 10 ^ 4 by omega)),
      Text.digitsValue_paddedDigits, Int.toNat_of_nonneg plain.1]
  · rw [if_neg plain]
    by_cases negative : written < 0
    · rw [if_pos negative, List.cons_append, year, bind_apply, blanks_cons (by decide),
        Option.bind_some, bind_apply, get_apply, Option.bind_some]
      simp only [bind_apply, set_apply, Option.bind_some, digits, Text.digitsValue_paddedDigits]
      rw [pure_eq_some]
      exact ⟨by omega, rfl⟩
    · rw [if_neg negative, List.cons_append, year, bind_apply, blanks_cons (by decide),
        Option.bind_some, bind_apply, get_apply, Option.bind_some]
      simp only [bind_apply, set_apply, Option.bind_some, digits, Text.digitsValue_paddedDigits]
      rw [pure_eq_some]
      exact ⟨by omega, rfl⟩

/-- A fraction of some digits counts as many nanoseconds as its digits say. -/
theorem fraction_paddedDigits {width value : Nat} {rest : List Char} (positive : 0 < width)
    (short : width ≤ 9) (small : value < 10 ^ width) (ends : EndsField rest) :
    fraction ('.' :: Text.paddedDigits width value ++ rest) =
      some (value * 10 ^ (9 - width), rest) := by
  have length := Text.length_paddedDigits positive small
  have digits : allDigits (Text.paddedDigits width value ++ rest) =
      some (Text.paddedDigits width value, rest) :=
    allDigits_append (fun _ member => Text.isDigit_of_mem_paddedDigits member)
      (Text.paddedDigits_ne_nil width value) ends
  have counted : (Text.paddedDigits width value).take 9 = Text.paddedDigits width value :=
    List.take_of_length_le (by omega)
  rw [List.cons_append, fraction, bind_apply, get_apply, Option.bind_some]
  simp only [bind_apply, set_apply, Option.bind_some, digits, counted, length,
    Text.digitsValue_paddedDigits]
  rfl

/-- A printed fraction is read as the fraction. -/
theorem fraction_writeFraction {nanosecond : Nat} {rest : List Char}
    (small : nanosecond < nanosecondsPerSecond) (ends : EndsField rest) :
    fraction (writeFraction nanosecond ++ rest) = some (nanosecond, rest) := by
  unfold nanosecondsPerSecond at small
  unfold writeFraction
  split
  case isTrue none =>
    rw [List.nil_append, none]
    cases rest with
    | nil => rfl
    | cons first others =>
      have notPoint := (ends first rfl).2
      rw [fraction, bind_apply, get_apply, Option.bind_some]
      simp only [List.cons.injEq, notPoint, false_and, imp_false, not_false_eq_true, implies_true]
      rfl
  case isFalse =>
    split
    case isTrue whole =>
      rw [fraction_paddedDigits (by decide) (by decide) (by omega) ends]
      exact congrArg (fun value => some (value, rest)) (by omega)
    case isFalse =>
      split
      case isTrue whole =>
        rw [fraction_paddedDigits (by decide) (by decide) (by omega) ends]
        exact congrArg (fun value => some (value, rest)) (by omega)
      case isFalse =>
        rw [fraction_paddedDigits (by decide) (by decide) (by omega) ends]
        exact congrArg (fun value => some (value, rest)) (by omega)

/-! ### Printed dates and times of day -/

theorem mark_cons (expected : Char) (rest : List Char) :
    mark expected (expected :: rest) = some ((), rest) :=
  mark_eq_some.mpr rfl

/-- A printed date is read as the date. -/
theorem date_write {written : Date} (valid : written.isValid = true) (rest : List Char) :
    date blanks (written.write ++ rest) = some (written, rest) := by
  obtain ⟨year, month, day⟩ := written
  obtain ⟨_, months, _, days⟩ := of_decide_eq_true valid
  have small : month < 10 ^ 2 ∧ day < 10 ^ 2 := by
    have length : monthLength year month ≤ 31 := by
      unfold monthLength
      split
      · split <;> omega
      · split <;> omega
    simp only at months days
    omega
  have hyphen (after : List Char) := blanks_cons (show Text.isBlank '-' = false by decide) after
  simp only [Date.write, List.append_assoc, List.cons_append, date, bind_apply, year_writeYear,
    hyphen, mark_cons, number_paddedDigits small.1, number_paddedDigits small.2, Option.bind_some]
  rfl

/-- A printed time of day is read as the time of day. -/
theorem timeOfDay_write {written : WallClock.TimeOfDay} {rest : List Char}
    (fits : written.hour < 24 ∧ written.minute < 60 ∧ written.second ≤ 60 ∧
      written.nanosecond < nanosecondsPerSecond) (ends : EndsField rest) :
    timeOfDay blanks (written.write ++ rest) = some (written, rest) := by
  obtain ⟨hour, minute, second, nanosecond⟩ := written
  obtain ⟨hours, minutes, seconds, nanoseconds⟩ := fits
  simp only at hours minutes seconds nanoseconds
  have colon (after : List Char) := blanks_cons (show Text.isBlank ':' = false by decide) after
  simp only [WallClock.TimeOfDay.write, List.append_assoc, List.cons_append, timeOfDay, bind_apply,
    colon, mark_cons, number_paddedDigits (show hour < 10 ^ 2 by omega),
    number_paddedDigits (show minute < 10 ^ 2 by omega),
    number_paddedDigits (show second < 10 ^ 2 by omega), fraction_writeFraction nanoseconds ends,
    Option.bind_some]
  rfl

/-! ### Printed offsets -/

/-- No offset begins like what comes before it goes on, or with a blank. -/
theorem exists_writeOffset (offset : Int) :
    ∃ first rest, writeOffset offset = first :: rest ∧ Text.isBlank first = false ∧
      Text.isDigit first = false ∧ first ≠ '.' := by
  unfold writeOffset
  split
  · exact ⟨'Z', [], rfl, by decide, by decide, by decide⟩
  · split
    · exact ⟨'-', _, rfl, by decide, by decide, by decide⟩
    · exact ⟨'+', _, rfl, by decide, by decide, by decide⟩

/-- Colons and blanks end before a printed number. -/
theorem colonsAndBlanks_paddedDigits {count value : Nat} :
    colonsAndBlanks (':' :: Text.paddedDigits count value) =
      some ((), Text.paddedDigits count value) := by
  have stops : (Text.paddedDigits count value).dropWhile
      (fun found => found == ':' || Text.isBlank found) = Text.paddedDigits count value := by
    cases shown : Text.paddedDigits count value with
    | nil => rfl
    | cons first others =>
      have digit : Text.isDigit first = true :=
        Text.isDigit_of_mem_paddedDigits (shown ▸ List.mem_cons_self)
      have notColon : first ≠ ':' := by
        rintro rfl
        exact absurd digit (by decide)
      exact List.dropWhile_cons_of_neg (by simp [notColon, Text.isBlank_of_isDigit digit])
  show some ((), List.dropWhile _ _) = _
  rw [List.dropWhile_cons_of_pos (by decide), stops]

/-- A sign with hours and minutes is read as an offset in seconds. -/
theorem signedOffset_paddedDigits {sign : Char} {hours minutes : Nat}
    (signs : sign = '+' ∨ sign = '-') (small : hours < 24 ∧ minutes < 60) :
    signedOffset colonsAndBlanks
        (sign :: (Text.paddedDigits 2 hours ++ ':' :: Text.paddedDigits 2 minutes)) =
      some (if sign = '-' then -(hours * 3600 + minutes * 60 : Int)
        else hours * 3600 + minutes * 60, []) := by
  have signRead (rest : List Char) : offsetSign (sign :: rest) = some (sign == '-', rest) := by
    rcases signs with rfl | rfl <;> rfl
  have last : fixedNumber 2 (Text.paddedDigits 2 minutes) = some (minutes, []) := by
    have read := fixedNumber_paddedDigits (show minutes < 10 ^ 2 by omega) []
    rwa [List.append_nil] at read
  simp only [signedOffset, bind_apply, signRead,
    fixedNumber_paddedDigits (show hours < 10 ^ 2 by omega), colonsAndBlanks_paddedDigits, last,
    Option.bind_some]
  rw [if_pos ⟨small.2, small.1⟩, beq_eq_decide]
  simp only [decide_eq_true_eq]
  rfl

/-- A printed offset is read as the offset, if it is in whole minutes and less than a day. -/
theorem zone_writeOffset {written : Int} (minutes : 60 ∣ written)
    (small : written.natAbs < 86400) : zone (writeOffset written) = some (written, []) := by
  unfold writeOffset
  split
  case isTrue none =>
    rw [none]
    rfl
  case isFalse =>
    obtain ⟨sign, signIs⟩ : ∃ sign, sign = if written < 0 then '-' else '+' := ⟨_, rfl⟩
    have signs : sign = '+' ∨ sign = '-' := by
      rw [signIs]
      split
      · exact .inr rfl
      · exact .inl rfl
    have whole : (written.natAbs + 30) / 60 = written.natAbs / 60 := by omega
    have parts : written.natAbs / 60 / 60 < 24 ∧ written.natAbs / 60 % 60 < 60 := by omega
    have read := signedOffset_paddedDigits signs parts
    rw [whole, ← signIs, List.cons_append, zone, bind_apply, get_apply, Option.bind_some, if_neg,
      offset, bind_apply, get_apply, Option.bind_some]
    · have letters : ¬(sign = 'Z' ∨ sign = 'z') := by
        rcases signs with rfl | rfl <;> decide
      simp only [if_neg letters]
      rw [read]
      refine congrArg (fun seconds => some (seconds, [])) ?_
      have total : ((written.natAbs / 60 / 60 : Nat) * 3600 +
          (written.natAbs / 60 % 60 : Nat) * 60 : Int) = written.natAbs := by
        omega
      rw [total, signIs]
      by_cases negative : written < 0
      · rw [if_pos negative, if_pos rfl]
        omega
      · rw [if_neg negative, if_neg (by decide)]
        omega
    · rcases signs with rfl | rfl <;> simp [Text.lowerAscii]

end Reader

/-! ### Whole texts -/

namespace WallClock

/-- Fields that a wall clock shows are those of a date and a time of day. -/
theorem fits_of_ofFields? {date : Date} {time : TimeOfDay} {clock : WallClock}
    (shows : ofFields? date time = some clock) :
    date.isValid = true ∧ time.hour < 24 ∧ time.minute < 60 ∧ time.second ≤ 60 ∧
      time.nanosecond < nanosecondsPerSecond := by
  simp only [ofFields?, Option.ite_none_right_eq_some] at shows
  obtain ⟨⟨valid, hours, minutes, seconds, nanoseconds, _⟩, _⟩ := shows
  exact ⟨valid, hours, minutes, seconds, nanoseconds⟩

/-- A wall clock that can be written: its year is between the first and the last one, and it is
in a leap second only at the end of a minute. -/
structure Representable (clock : WallClock) : Prop where
  /-- The year can be written. -/
  year : firstYear ≤ clock.date.year ∧ clock.date.year ≤ lastYear
  /-- A second has no more than a billion nanoseconds, and a leap second as many again. -/
  fraction : clock.nanosecond < 2 * nanosecondsPerSecond
  /-- A leap second comes after the last second of a minute. -/
  leap : nanosecondsPerSecond ≤ clock.nanosecond → clock.second % 60 = 59

variable {clock : WallClock}

theorem Representable.ofFields? (representable : clock.Representable) :
    WallClock.ofFields? clock.date clock.timeOfDay = some clock :=
  ofFields?_date_timeOfDay (clock.isInRange_iff.mpr representable.year) representable.fraction
    representable.leap

/-- A printed wall clock is read as the wall clock. -/
theorem ofLiteral?_write (representable : clock.Representable) :
    ofLiteral? clock.write = some clock := by
  have shows := representable.ofFields?
  obtain ⟨valid, fits⟩ := fits_of_ofFields? shows
  have afterDate (rest : List Char) :=
    Reader.blanks_cons (show Text.isBlank 'T' = false by decide) rest
  have time := Reader.timeOfDay_write fits Reader.endsField_nil
  rw [List.append_nil] at time
  have done : Reader.blanks [] = some ((), []) := rfl
  rw [ofLiteral?, Reader.readAll?, write]
  simp only [Reader.clockLiteral, Reader.bind_apply, Reader.date_write valid, afterDate,
    Reader.mark_cons, time, done, Option.bind_some, Reader.lift_apply, shows, Option.map_some]

end WallClock

namespace ZonedTime

/-- A zoned time that can be written: so can the instant and what a clock in the zone shows, and
the offset is in whole minutes and less than a day. -/
structure Representable (time : ZonedTime) : Prop where
  /-- The instant can be written. -/
  instant : time.instant.utc.Representable
  /-- What a clock in the zone shows has a year that can be written. -/
  year : firstYear ≤ time.wallClock.date.year ∧ time.wallClock.date.year ≤ lastYear
  /-- The offset is in whole minutes. -/
  minutes : 60 ∣ time.offset
  /-- The offset is less than a day. -/
  small : time.offset.natAbs < 86400

variable {time : ZonedTime}

/-- What a clock in the zone shows can be written. -/
theorem Representable.wallClock (representable : time.Representable) :
    time.wallClock.Representable where
  year := representable.year
  fraction := representable.instant.fraction
  leap := by
    intro inLeap
    have last := representable.instant.leap inLeap
    have minutes := representable.minutes
    show (time.instant.utc.second + time.offset) % 60 = 59
    omega

/-- A printed zoned time is read as the zoned time. -/
theorem ofLiteral?_write (representable : time.Representable) :
    ofLiteral? time.write = some time := by
  have shows := representable.wallClock.ofFields?
  obtain ⟨valid, fits⟩ := WallClock.fits_of_ofFields? shows
  obtain ⟨first, rest, offsetIs, visible, other, notPoint⟩ :=
    Reader.exists_writeOffset time.offset
  have dateDone (rest : List Char) : Reader.divider ('T' :: rest) = some ((), rest) := rfl
  have timeRead : Reader.timeOfDay Reader.blanks
      (time.wallClock.timeOfDay.write ++ writeOffset time.offset) =
        some (time.wallClock.timeOfDay, writeOffset time.offset) := by
    rw [offsetIs]
    exact Reader.timeOfDay_write fits (Reader.endsField_cons other notPoint rest)
  have beforeZone : Reader.blanks (writeOffset time.offset) =
      some ((), writeOffset time.offset) := by
    rw [offsetIs]
    exact Reader.blanks_cons visible rest
  have zoneRead := Reader.zone_writeOffset representable.minutes representable.small
  have done : Reader.blanks [] = some ((), []) := rfl
  have back : ofLocal? time.wallClock time.offset = some time := by
    have same : time.wallClock.shift (-time.offset) = time.instant.utc := by
      unfold ZonedTime.wallClock WallClock.shift
      simp only [Int.add_neg_cancel_right]
    unfold ofLocal?
    simp only [same]
    exact if_pos (time.instant.utc.isInRange_iff.mpr representable.instant.year)
  rw [ofLiteral?, Reader.readAll?, write, WallClock.write]
  simp only [List.append_assoc, List.cons_append, Reader.zonedLiteral, Reader.bind_apply,
    Reader.date_write valid, dateDone, timeRead, beforeZone, zoneRead, done, Option.bind_some,
    Reader.lift_apply, shows, back, Option.map_some]

end ZonedTime

/-- A printed instant is read as the instant, with no offset. -/
theorem Instant.ofLiteral?_write {instant : Instant} (representable : instant.utc.Representable) :
    ZonedTime.ofLiteral? instant.write = some ⟨instant, 0⟩ := by
  have shown : (ZonedTime.mk instant 0).wallClock = instant.utc := by
    unfold ZonedTime.wallClock WallClock.shift
    simp only [Int.add_zero]
  have zoned : (ZonedTime.mk instant 0).Representable :=
    ⟨representable, shown.symm ▸ representable.year, Int.dvd_zero 60, by simp⟩
  have written : (ZonedTime.mk instant 0).write = instant.write := by
    rw [ZonedTime.write, shown]
    rfl
  rw [← written]
  exact ZonedTime.ofLiteral?_write zoned

end Sieve.Calendar
