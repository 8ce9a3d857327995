/-
This file defines the three kinds of points in time. A wall clock shows a date
and a time of day and belongs to no zone; an instant is a point in time, kept as
the wall clock of UTC; a zoned time is an instant together with the offset of
the zone it was written in. A second may have a leap second after it, which is
counted as a second billion of nanoseconds of the same second.
-/

import Sieve.Calendar.Date

namespace Sieve.Calendar

/-- A date and a time of day without a zone. -/
structure WallClock where
  /-- Whole seconds after midnight of 1 January 1970, a day having 86400 of them. -/
  second : Int
  /-- Nanoseconds after the whole second; from a billion on they are in a leap second. -/
  nanosecond : Nat
  deriving DecidableEq

/-- A point in time. -/
structure Instant where
  /-- What a clock in UTC shows. -/
  utc : WallClock
  deriving DecidableEq

/-- A point in time written in a zone. -/
structure ZonedTime where
  /-- The point in time. -/
  instant : Instant
  /-- How many seconds the clocks of the zone are ahead of UTC. -/
  offset : Int
  deriving DecidableEq

/-- The count of nanoseconds in a second. -/
def nanosecondsPerSecond : Nat := 1000000000

/-- The count of seconds in a day. -/
def secondsPerDay : Int := 86400

namespace WallClock

/-- The order of wall clocks: a leap second lies after all of its second and before the next. -/
def compare (left right : WallClock) : Ordering :=
  (Ord.compare left.second right.second).then (Ord.compare left.nanosecond right.nanosecond)

/-- The first second that can be written. -/
def firstSecond : Int := (Date.mk firstYear 1 1).toDays * secondsPerDay

/-- The last second that can be written. -/
def lastSecond : Int := ((Date.mk (lastYear + 1) 1 1).toDays) * secondsPerDay - 1

/-- A wall clock in a year that can be written. -/
def isInRange (clock : WallClock) : Bool :=
  decide (firstSecond ≤ clock.second ∧ clock.second ≤ lastSecond)

/-- A wall clock put forward by a count of seconds. The fraction is kept, and so is a leap
second. -/
def shift (clock : WallClock) (seconds : Int) : WallClock :=
  { clock with second := clock.second + seconds }

/-- A time of day as it is written: a sixtieth second stands for a leap second. -/
structure TimeOfDay where
  /-- The hour, from 0 to 23. -/
  hour : Nat
  /-- The minute, from 0 to 59. -/
  minute : Nat
  /-- The second, from 0 to 60. -/
  second : Nat
  /-- The nanosecond, below a billion. -/
  nanosecond : Nat
  deriving DecidableEq

/-- The wall clock that shows a date and a time of day, if both exist and the year can be
written. -/
def ofFields? (date : Date) (time : TimeOfDay) : Option WallClock :=
  let clock : WallClock :=
    { second := date.toDays * secondsPerDay + time.hour * 3600 + time.minute * 60 +
        (min time.second 59 : Nat)
      nanosecond :=
        if time.second = 60 then time.nanosecond + nanosecondsPerSecond else time.nanosecond }
  if date.isValid ∧ time.hour < 24 ∧ time.minute < 60 ∧ time.second ≤ 60 ∧
      time.nanosecond < nanosecondsPerSecond ∧ clock.isInRange then some clock
  else none

/-- The date that a wall clock shows. -/
def date (clock : WallClock) : Date :=
  Date.ofDays (clock.second / secondsPerDay)

/-- The time of day that a wall clock shows. -/
def timeOfDay (clock : WallClock) : TimeOfDay :=
  let second := (clock.second % secondsPerDay).toNat
  let leap := nanosecondsPerSecond ≤ clock.nanosecond
  { hour := second / 3600
    minute := second / 60 % 60
    second := if leap then second % 60 + 1 else second % 60
    nanosecond := if leap then clock.nanosecond - nanosecondsPerSecond else clock.nanosecond }

end WallClock

namespace ZonedTime

/-- What a clock in the zone shows. -/
def wallClock (time : ZonedTime) : WallClock :=
  time.instant.utc.shift time.offset

/-- The zoned time at which a clock in a zone shows a given wall clock, if its instant can be
written. -/
def ofLocal? (clock : WallClock) (offset : Int) : Option ZonedTime :=
  let utc := clock.shift (-offset)
  if utc.isInRange then some ⟨⟨utc⟩, offset⟩ else none

end ZonedTime

end Sieve.Calendar
