/-
This file casts values from one SQL type to another. Null is kept by every cast,
a text is read by the rules of the type it is cast to, with the blanks around it
dropped, and any other cast is an error that names the value and the type.
-/

import Sieve.Calendar.Printer
import Sieve.Calendar.Reader
import Sieve.Datum.Basic
import Sieve.Number.Layout
import Sieve.Number.Reader
import Sieve.Text.Quoted

namespace Sieve

open Calendar

/-- A value that cannot be cast to a type. -/
structure CastError where
  /-- The value. -/
  value : Datum
  /-- The type. -/
  target : ColumnType
  deriving DecidableEq

/-- The text of a truth value. -/
def boolText (value : Bool) : String :=
  if value then "true" else "false"

/-- The text of an integer. -/
def intText (value : Int64) : String :=
  String.ofList (Text.writeInt value.toInt)

namespace Datum

/-- The truth value that a text writes: a word or its first letter, in any case. -/
def readBool? (text : List Char) : Option Bool :=
  let word := String.ofList (text.map Text.lowerAscii)
  if word = "true" ∨ word = "t" then some true
  else if word = "false" ∨ word = "f" then some false
  else none

/-- The value of a type that a text without blanks around it writes. -/
def read? (type : ColumnType) (text : List Char) : Option Datum :=
  match type with
  | .text => some (.text (String.ofList text))
  | .integer => (Text.readInt32? text).map fun value => int (Int64.ofInt value)
  | .bigint => (Text.readInt64? text).map int
  | .double => (Double.read? text).map float
  | .boolean => (readBool? text).map bool
  | .uuid => (Uuid.ofText? text).map uuid
  | .timestamp => (WallClock.ofText? text).map timestamp
  | .timestampTz => (Instant.ofText? text).map timestampTz

/-- An integer that has 32 bits. -/
def narrow? (value : Int64) : Option Datum :=
  if -2147483648 ≤ value.toInt ∧ value.toInt ≤ 2147483647 then some (int value) else none

/-- The value that a cast makes, if it makes one. The time zone of a session is UTC. -/
def cast? (value : Datum) (target : ColumnType) : Option Datum :=
  match target, value with
  | _, null => some null
  | .text, text content => some (text content)
  | .text, int content => some (text (intText content))
  | .text, float content => some (text (String.ofList (Layout.plain.write content)))
  | .text, bool content => some (text (boolText content))
  | .text, uuid content => some (text content.toText)
  | .integer, int content => narrow? content
  | .bigint, int content => some (int content)
  | .double, float content => some (float content)
  | .double, int content => some (float (Double.ofInt content.toInt))
  | .boolean, bool content => some (bool content)
  | .uuid, uuid content => some (uuid content)
  | .timestamp, timestamp content => some (timestamp content)
  | .timestamp, timestampTz content => some (timestamp content.utc)
  | .timestampTz, timestampTz content => some (timestampTz content)
  | .timestampTz, timestamp content => some (timestampTz ⟨content⟩)
  | type, text content => read? type (Text.trim content.toList)
  | _, _ => none

/-- The value cast to a type, or the error that it cannot be. -/
def cast (value : Datum) (target : ColumnType) : Except CastError Datum :=
  match value.cast? target with
  | some result => .ok result
  | none => .error ⟨value, target⟩

/-- The text that shows a value for inspection: its type and, in brackets, its content. -/
def inspect : Datum → String
  | null => "Null"
  | bool value => "Bool(" ++ boolText value ++ ")"
  | int value => "Int(" ++ intText value ++ ")"
  | float value => "Float(" ++ String.ofList (Layout.shown.write value) ++ ")"
  | uuid value => "Uuid(" ++ value.toText ++ ")"
  | timestamp value => "Timestamp(" ++ String.ofList value.write ++ ")"
  | timestampTz value => "TimestampTz(" ++ String.ofList value.write ++ ")"
  | text value => "Text(" ++ String.ofList (Text.quoted value.toList) ++ ")"

end Datum

/-- The message for a cast that cannot be made. -/
def CastError.message (error : CastError) : String :=
  "cannot cast " ++ error.value.inspect ++ " to " ++ error.target.name

end Sieve
