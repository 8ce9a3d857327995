/-
This file defines filters: predicates in which every field has been replaced by
the way it is read from a stored row, and every literal by a parameter of an SQL
type. A filter is what is written as SQL and what is evaluated on rows.
-/

import Sieve.Datum.Basic
import Sieve.Schema.Kind

namespace Sieve

/-- How a value is read from a stored row. -/
inductive Source where
  /-- The text at a path of the document; nothing or a JSON null there is null. -/
  | jsonText (segments : List String)
  /-- The value of a column. -/
  | column (name : String)
  /-- A value cast to a type. -/
  | cast (inner : Source) (type : ColumnType)
  /-- A wall clock read as an instant in UTC, or an instant as a wall clock. -/
  | atUtc (inner : Source)
  deriving DecidableEq

/-- A field and the way it is read. -/
structure Access where
  /-- The path of the field. -/
  path : String
  /-- The kind of the field. -/
  kind : Kind
  /-- How its values are read. -/
  source : Source
  /-- The type of the values that are read. -/
  type : ColumnType
  deriving DecidableEq

/-- A value bound to a statement, and the type it is declared as. -/
structure Parameter where
  /-- The value. -/
  value : Datum
  /-- The declared type. -/
  type : ColumnType
  deriving DecidableEq

/-- A predicate on stored rows. -/
inductive Filter where
  /-- All of some filters hold; without any it always holds. -/
  | all (parts : List Filter)
  /-- Any of some filters holds; without any it never holds. -/
  | any (parts : List Filter)
  /-- A filter does not hold. -/
  | not (part : Filter)
  /-- A field compares with a parameter in a given way. -/
  | compare (field : Access) (comparison : Comparison) (parameter : Parameter)
  /-- Two fields compare in a given way. -/
  | compareFields (left : Access) (comparison : Comparison) (right : Access)
  /-- A field is among parameters, or is not. -/
  | member (field : Access) (parameters : List Parameter) (negated : Bool)
  /-- A field lies between two parameters, both included. -/
  | between (field : Access) (low high : Parameter)
  /-- A field is null, or is not. -/
  | isNull (field : Access) (negated : Bool)
  /-- A field matches a pattern. -/
  | like (field : Access) (pattern : Parameter) (ignoresCase : Bool)
  deriving Inhabited

namespace Filter

/-- The filter that always holds. -/
def always : Filter := all []

/-- The filter that never holds. -/
def never : Filter := any []

/-- Whether a filter is the one that always holds. -/
def isAlways : Filter → Bool
  | all [] => true
  | _ => false

mutual

/-- The count of leaves of a filter. -/
def leafCount : Filter → Nat
  | all parts => leafCountOfAll parts
  | any parts => leafCountOfAll parts
  | not part => leafCount part
  | _ => 1

/-- The count of leaves of some filters. -/
def leafCountOfAll : List Filter → Nat
  | [] => 0
  | part :: rest => leafCount part + leafCountOfAll rest

end

mutual

/-- The parameters of a filter, from left to right. -/
def parameters : Filter → List Parameter
  | all parts => parametersOfAll parts
  | any parts => parametersOfAll parts
  | not part => parameters part
  | compare _ _ parameter => [parameter]
  | compareFields _ _ _ => []
  | member _ parameters _ => parameters
  | between _ low high => [low, high]
  | isNull _ _ => []
  | like _ pattern _ => [pattern]

/-- The parameters of some filters. -/
def parametersOfAll : List Filter → List Parameter
  | [] => []
  | part :: rest => parameters part ++ parametersOfAll rest

end

end Filter

end Sieve
