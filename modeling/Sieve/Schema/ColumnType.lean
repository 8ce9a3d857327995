/-
This file names the SQL types that columns and bound parameters have, with the
spellings in which they are read and the one in which they are written.
-/

import Sieve.Text.Basic

namespace Sieve

/-- The SQL type of a column or of a bound parameter. -/
inductive ColumnType where
  /-- Text of any length. -/
  | text
  /-- Integers of 32 bits. -/
  | integer
  /-- Integers of 64 bits. -/
  | bigint
  /-- Double precision numbers. -/
  | double
  /-- Truth values. -/
  | boolean
  /-- Identifiers of 128 bits. -/
  | uuid
  /-- Wall clocks without a zone. -/
  | timestamp
  /-- Instants. -/
  | timestampTz
  deriving DecidableEq, Repr

namespace ColumnType

/-- All types, in the order in which they are listed. -/
def all : List ColumnType :=
  [text, integer, bigint, double, boolean, uuid, timestamp, timestampTz]

/-- The name of a type, as SQL text writes it. -/
def name : ColumnType → String
  | text => "text"
  | integer => "integer"
  | bigint => "bigint"
  | double => "double precision"
  | boolean => "boolean"
  | uuid => "uuid"
  | timestamp => "timestamp without time zone"
  | timestampTz => "timestamp with time zone"

/-- The spellings that a type is read from. -/
def spellings : ColumnType → List String
  | text => ["text", "varchar", "character varying"]
  | integer => ["integer", "int", "int4"]
  | bigint => ["bigint", "int8"]
  | double => ["double precision", "double", "float8"]
  | boolean => ["boolean", "bool"]
  | uuid => ["uuid"]
  | timestamp => ["timestamp", "timestamp without time zone"]
  | timestampTz => ["timestamptz", "timestamp with time zone"]

/-- The type that a text spells, in any case and with blanks around it. -/
def ofText? (spelling : String) : Option ColumnType :=
  let plain := String.ofList ((Text.trim spelling.toList).map Text.lowerAscii)
  all.find? fun type => type.spellings.contains plain

/-- The message for a text that spells no type. -/
def unknownMessage (spelling : String) : String :=
  "unknown sql type: " ++ spelling

/-- Whether the values of a type are numbers. -/
def isNumeric : ColumnType → Bool
  | integer | bigint | double => true
  | _ => false

/-- Whether values of two types compare without a conversion. -/
def comparesWith (left right : ColumnType) : Bool :=
  left == right || (left.isNumeric && right.isNumeric)

/-- The type a parameter is declared as when it is compared with values of a type. A parameter
for an `integer` column is declared `bigint`, so that every integer literal can be bound. -/
def parameterType : ColumnType → ColumnType
  | integer => bigint
  | other => other

end ColumnType

end Sieve
