/-
This file names the kinds of values that the fields of a document hold, and says
how each kind is kept in SQL: which operators it supports, which type its text
is cast to when it is read out of a document, which type two fields of the kind
are compared in, and which types of columns can keep it.
-/

import Sieve.Schema.ColumnType
import Sieve.Schema.Operator

namespace Sieve

/-- The kind of a field, whatever way its values are stored. -/
inductive Kind where
  /-- Texts. -/
  | string
  /-- Integers. -/
  | integer
  /-- Double precision numbers. -/
  | float
  /-- Truth values. -/
  | boolean
  /-- Identifiers of 128 bits. -/
  | uuid
  /-- Wall clocks without a zone. -/
  | naive
  /-- Instants that are always written in UTC. -/
  | utc
  /-- Instants that keep the offset they are written with. -/
  | offset
  deriving DecidableEq, Repr

namespace Kind

/-- All kinds, in the order in which they are listed. -/
def all : List Kind :=
  [string, integer, float, boolean, uuid, naive, utc, offset]

/-- The name of a kind. -/
def name : Kind → String
  | string => "string"
  | integer => "integer"
  | float => "float"
  | boolean => "boolean"
  | uuid => "uuid"
  | naive => "datetime_naive"
  | utc => "datetime_utc"
  | offset => "datetime_offset"

/-- The names of all kinds. -/
def names : List (String × Kind) :=
  all.map fun kind => (kind.name, kind)

/-- Whether the values of a kind are points in time. -/
def isTemporal : Kind → Bool
  | naive | utc | offset => true
  | _ => false

/-- Whether a kind supports a class of operators. Truth values and identifiers have no order
that a predicate can ask for, and only texts are searched. -/
def supports (kind : Kind) : OperatorClass → Bool
  | .equality | .nullness => true
  | .ordering => kind != boolean && kind != uuid
  | .substring => kind == string

/-- The type that a text read out of a document is cast to; texts are kept. An instant that is
always written in UTC can be read as a wall clock. -/
def jsonCast? : Kind → Option ColumnType
  | string => none
  | integer => some .bigint
  | float => some .double
  | boolean => some .boolean
  | uuid => some .uuid
  | naive | utc => some .timestamp
  | offset => some .timestampTz

/-- The type of a column for a kind where no other is asked for. -/
def defaultColumnType (kind : Kind) : ColumnType :=
  kind.jsonCast?.getD .text

/-- The type that fields of a kind are brought to when they are compared with other fields. -/
def comparisonType : Kind → ColumnType
  | utc | offset => .timestampTz
  | other => other.defaultColumnType

/-- Whether columns of a type can keep the values of a kind. -/
def canStoreIn : Kind → ColumnType → Bool
  | string, .text => true
  | integer, .integer | integer, .bigint | integer, .text => true
  | float, .double => true
  | boolean, .boolean | boolean, .text => true
  | uuid, .uuid | uuid, .text => true
  | naive, .timestamp => true
  | utc, .timestamp | utc, .timestampTz => true
  | offset, .timestampTz => true
  | _, _ => false

end Kind

/-- Whether columns of a type order the values of a kind as the kind does. Numbers kept as text
are ordered as texts. -/
def ColumnType.ordersLike (type : ColumnType) (kind : Kind) : Bool :=
  type != .text || kind == .string

end Sieve
