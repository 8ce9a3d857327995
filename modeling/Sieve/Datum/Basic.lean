/-
This file defines the values that SQL works on, and their comparison: unknown if
a side is null or the two are of types that do not compare. Integers and double
precision numbers compare with each other.
-/

import Sieve.Calendar.Clock
import Sieve.Number.Double
import Sieve.Schema.ColumnType
import Sieve.Uuid

namespace Sieve

open Calendar

/-- A value that SQL works on. -/
inductive Datum where
  /-- No value. -/
  | null
  /-- A truth value. -/
  | bool (value : Bool)
  /-- An integer. -/
  | int (value : Int64)
  /-- A double precision number. -/
  | float (value : Double)
  /-- An identifier. -/
  | uuid (value : Uuid)
  /-- A wall clock. -/
  | timestamp (value : WallClock)
  /-- An instant. -/
  | timestampTz (value : Instant)
  /-- A text. -/
  | text (value : String)
  deriving DecidableEq

namespace Datum

/-- Whether a value is null. -/
def isNull : Datum → Bool
  | null => true
  | _ => false

/-- The order of two truth values, false being first. -/
def compareBool (left right : Bool) : Ordering :=
  Ord.compare left.toNat right.toNat

/-- The order of two values, if they compare. -/
def compare? : Datum → Datum → Option Ordering
  | bool left, bool right => some (compareBool left right)
  | int left, int right => some (Ord.compare left.toInt right.toInt)
  | int left, float right => (Double.ofInt left.toInt).compare? right
  | float left, int right => left.compare? (Double.ofInt right.toInt)
  | float left, float right => left.compare? right
  | uuid left, uuid right => some (left.compare right)
  | timestamp left, timestamp right => some (left.compare right)
  | timestampTz left, timestampTz right => some (left.utc.compare right.utc)
  | text left, text right => some (compareOfLessAndEq left right)
  | _, _ => none

end Datum

end Sieve
