/-
This file defines the literals that a predicate compares fields with, and reads
and writes their JSON form: the name of the type beside the value.
-/

import Sieve.Calendar.Printer
import Sieve.Calendar.Reader
import Sieve.Json.Decode
import Sieve.Uuid

namespace Sieve

open Calendar

/-- A literal of a predicate. -/
inductive Literal where
  /-- No value. -/
  | null
  /-- A truth value. -/
  | bool (value : Bool)
  /-- An integer of 64 bits. -/
  | int (value : Int64)
  /-- A double precision number. -/
  | float (value : Double)
  /-- A text. -/
  | text (value : String)
  /-- An identifier. -/
  | uuid (value : Uuid)
  /-- A wall clock without a zone. -/
  | naive (value : WallClock)
  /-- An instant, written in UTC. -/
  | utc (value : Instant)
  /-- An instant, written with an offset. -/
  | offset (value : ZonedTime)
  deriving DecidableEq

namespace Literal

/-! ### What a literal says -/

/-- Whether a literal is no value. -/
def isNull : Literal → Bool
  | null => true
  | _ => false

/-- The name of the type of a literal in messages. -/
def typeName : Literal → String
  | null => "null"
  | bool _ => "bool"
  | int _ => "int"
  | float _ => "float"
  | text _ => "string"
  | uuid _ => "uuid"
  | naive _ => "datetime"
  | utc _ => "datetime_utc"
  | offset _ => "datetime_offset"

/-- Whether a literal is a point in time with a zone. -/
def isZoneAware : Literal → Bool
  | utc _ | offset _ => true
  | _ => false

/-- The instant that a point in time means; a wall clock is read in UTC. -/
def instant? : Literal → Option Instant
  | naive clock => some ⟨clock⟩
  | utc instant => some instant
  | offset time => some time.instant
  | _ => none

/-- The wall clock that a point in time is written with; its zone is dropped. -/
def wallClock? : Literal → Option WallClock
  | naive clock => some clock
  | utc instant => some instant.utc
  | offset time => some time.wallClock
  | _ => none

/-! ### The JSON form -/

/-- The type of a literal in its JSON form. -/
inductive Tag where
  /-- The type of `null`. -/
  | null
  /-- The type of truth values. -/
  | bool
  /-- The type of integers. -/
  | int
  /-- The type of double precision numbers. -/
  | float
  /-- The type of texts. -/
  | text
  /-- The type of identifiers. -/
  | uuid
  /-- The type of wall clocks. -/
  | naive
  /-- The type of instants in UTC. -/
  | utc
  /-- The type of instants with an offset. -/
  | offset
  deriving DecidableEq

/-- The names of the types. -/
def tagNames : List (String × Tag) :=
  [("null", .null), ("bool", .bool), ("int", .int), ("float", .float), ("string", .text),
   ("uuid", .uuid), ("date_time", .naive), ("date_time_utc", .utc),
   ("date_time_offset", .offset)]

/-- The literal of a type that a value writes. -/
def ofContent? (tag : Tag) (content : Json) : Option Literal :=
  match tag with
  | .null => if content.isNull then some null else none
  | .bool => content.asBool?.map bool
  | .int => content.asInt64?.map int
  | .float => content.asDouble?.map float
  | .text => content.asText?.map text
  | .uuid => (content.asText?.bind fun value => Uuid.ofText? value.toList).map uuid
  | .naive =>
    (content.asText?.bind fun value => WallClock.ofLiteral? value.toList).map naive
  | .utc =>
    (content.asText?.bind fun value => ZonedTime.ofLiteral? value.toList).map
      fun time => utc time.instant
  | .offset =>
    (content.asText?.bind fun value => ZonedTime.ofLiteral? value.toList).map offset

/-- The literal that a JSON value writes: an object with a `type` and a `value`, or an array of
the two. Only `null` may be without its value, and only in an object. -/
def ofJson? (manner : Json.Manner) : Json → Option Literal
  | .record members => do
    let fields := Json.Fields.named members
    let tag ← Json.choice? manner tagNames (← fields.required? 0 "type")
    match ← fields.optional? 1 "value" with
    | some content => ofContent? tag content
    | none => if tag = .null then some null else none
  | .list [tag, content] => do
    let tag ← Json.choiceByPlace? manner tagNames tag
    ofContent? tag content
  | _ => none

/-- The JSON form of the value of a literal. -/
def content : Literal → Json
  | null => .null
  | bool value => .bool value
  | int value => .integer value.toInt
  | float value => if value.isFinite then .float value else .null
  | text value => .text value
  | uuid value => .text value.toText
  | naive value => .text (String.ofList value.write)
  | utc value => .text (String.ofList value.write)
  | offset value => .text (String.ofList value.write)

/-- The name of the type of a literal in its JSON form. -/
def tagName : Literal → String
  | null => "null"
  | bool _ => "bool"
  | int _ => "int"
  | float _ => "float"
  | text _ => "string"
  | uuid _ => "uuid"
  | naive _ => "date_time"
  | utc _ => "date_time_utc"
  | offset _ => "date_time_offset"

/-- The JSON form of a literal. -/
def toJson (literal : Literal) : Json :=
  if literal.isNull then .record [("type", .text literal.tagName)]
  else .record [("type", .text literal.tagName), ("value", literal.content)]

end Literal

end Sieve
