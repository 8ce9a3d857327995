/-
This file defines predicates: what a caller asks of the fields of a document,
without regard to how the fields are stored.
-/

import Sieve.Literal
import Sieve.Schema.Operator

namespace Sieve

/-- One side of a comparison. -/
inductive Operand where
  /-- The field at a path. -/
  | field (path : String)
  /-- A literal. -/
  | literal (value : Literal)
  deriving DecidableEq

/-- What is asked of a document. -/
inductive Predicate where
  /-- All of some predicates hold. -/
  | all (parts : List Predicate)
  /-- Any of some predicates holds. -/
  | any (parts : List Predicate)
  /-- A predicate does not hold. -/
  | not (part : Predicate)
  /-- Two operands compare in a given way. -/
  | compare (left : Operand) (comparison : Comparison) (right : Operand)
  /-- A field is among literals, or is not. -/
  | member (path : String) (values : List Literal) (negated : Bool)
  /-- A field lies between two literals, both included. -/
  | between (path : String) (low high : Literal)
  /-- A field is null, or is not. -/
  | isNull (path : String) (negated : Bool)
  /-- A field holds a text. -/
  | text (path : String) (textMatch : TextMatch) (value : String) (ignoresCase : Bool)
  deriving Inhabited

namespace Operand

/-- The path of an operand that is a field. -/
def paths : Operand → List String
  | field path => [path]
  | literal _ => []

end Operand

namespace Predicate

mutual

/-- The paths of all fields that a predicate mentions, from left to right. -/
def paths : Predicate → List String
  | all parts => pathsOfAll parts
  | any parts => pathsOfAll parts
  | not part => paths part
  | compare left _ right => left.paths ++ right.paths
  | member path _ _ => [path]
  | between path _ _ => [path]
  | isNull path _ => [path]
  | text path _ _ _ => [path]

/-- The paths of all fields that some predicates mention. -/
def pathsOfAll : List Predicate → List String
  | [] => []
  | part :: rest => paths part ++ pathsOfAll rest

end

/-! ### Short forms -/

/-- A field compared with a literal. -/
def ofField (path : String) (comparison : Comparison) (value : Literal) : Predicate :=
  compare (.field path) comparison (.literal value)

/-- A literal compared with a field. -/
def ofLiteral (value : Literal) (comparison : Comparison) (path : String) : Predicate :=
  compare (.literal value) comparison (.field path)

/-- A field compared with another field. -/
def ofFields (left : String) (comparison : Comparison) (right : String) : Predicate :=
  compare (.field left) comparison (.field right)

/-- A field that equals a literal. -/
def equal (path : String) (value : Literal) : Predicate :=
  ofField path .eq value

end Predicate

end Sieve
