/-
This file writes points in time: a year of at least four digits, signed outside
0 to 9999, then month, day, hour, minute and second, then a fraction of as few
of 3, 6 or 9 digits as are exact, or none. UTC is written `Z`, and any other
offset in hours and minutes, to the nearest minute.
-/

import Sieve.Calendar.Clock
import Sieve.Text.Basic

namespace Sieve.Calendar

/-- The text of a year. -/
def writeYear (year : Int) : List Char :=
  if 0 ≤ year ∧ year ≤ 9999 then Text.paddedDigits 4 year.toNat
  else (if year < 0 then '-' else '+') :: Text.paddedDigits 4 year.natAbs

/-- The text of a date. -/
def Date.write (date : Date) : List Char :=
  writeYear date.year ++ '-' :: Text.paddedDigits 2 date.month ++
    '-' :: Text.paddedDigits 2 date.day

/-- The text of a fraction of a second. -/
def writeFraction (nanosecond : Nat) : List Char :=
  if nanosecond = 0 then []
  else if nanosecond % 1000000 = 0 then '.' :: Text.paddedDigits 3 (nanosecond / 1000000)
  else if nanosecond % 1000 = 0 then '.' :: Text.paddedDigits 6 (nanosecond / 1000)
  else '.' :: Text.paddedDigits 9 nanosecond

/-- The text of a time of day. -/
def WallClock.TimeOfDay.write (time : WallClock.TimeOfDay) : List Char :=
  Text.paddedDigits 2 time.hour ++ ':' :: Text.paddedDigits 2 time.minute ++
    ':' :: Text.paddedDigits 2 time.second ++ writeFraction time.nanosecond

/-- The text of a wall clock. -/
def WallClock.write (clock : WallClock) : List Char :=
  clock.date.write ++ 'T' :: clock.timeOfDay.write

/-- The text of an instant. -/
def Instant.write (instant : Instant) : List Char :=
  instant.utc.write ++ ['Z']

/-- The text of an offset. Half a minute is rounded away from zero. -/
def writeOffset (offset : Int) : List Char :=
  if offset = 0 then ['Z']
  else
    let minutes := (offset.natAbs + 30) / 60
    (if offset < 0 then '-' else '+') :: Text.paddedDigits 2 (minutes / 60) ++
      ':' :: Text.paddedDigits 2 (minutes % 60)

/-- The text of a zoned time: what a clock in the zone shows, and the offset. -/
def ZonedTime.write (time : ZonedTime) : List Char :=
  time.wallClock.write ++ writeOffset time.offset

end Sieve.Calendar
