/-
This file names the operators of a predicate and the classes they fall into. A
field supports a class of operators or does not, whatever the single operator.
-/

namespace Sieve

/-- An operator that compares two values. -/
inductive Comparison where
  /-- Equal. -/
  | eq
  /-- Not equal. -/
  | ne
  /-- Less. -/
  | lt
  /-- Less or equal. -/
  | le
  /-- Greater. -/
  | gt
  /-- Greater or equal. -/
  | ge
  deriving DecidableEq, Repr

/-- How a text is looked for in another one. -/
inductive TextMatch where
  /-- Anywhere. -/
  | contains
  /-- At the beginning. -/
  | startsWith
  /-- At the end. -/
  | endsWith
  deriving DecidableEq, Repr

/-- A class of operators that a field supports together. -/
inductive OperatorClass where
  /-- Being equal or not, and being among given values. -/
  | equality
  /-- Being less or greater, and lying between two values. -/
  | ordering
  /-- Holding a text. -/
  | substring
  /-- Being null or not. -/
  | nullness
  deriving DecidableEq, Repr

/-- What is asked of a single field. -/
inductive Operator where
  /-- A comparison. -/
  | compare (comparison : Comparison)
  /-- Being among given values. -/
  | member
  /-- Lying between two values. -/
  | between
  /-- Being null. -/
  | isNull
  /-- Holding a text. -/
  | text (textMatch : TextMatch)
  deriving DecidableEq, Repr

namespace Comparison

/-- All comparisons, in the order in which they are listed. -/
def all : List Comparison := [eq, ne, lt, le, gt, ge]

/-- The sign of a comparison in SQL. -/
def sign : Comparison → String
  | eq => "="
  | ne => "<>"
  | lt => "<"
  | le => "<="
  | gt => ">"
  | ge => ">="

/-- The signs of all comparisons. -/
def signs : List (String × Comparison) :=
  all.map fun comparison => (comparison.sign, comparison)

/-- The class of a comparison. -/
def operatorClass : Comparison → OperatorClass
  | eq | ne => .equality
  | _ => .ordering

/-- The comparison that says the same once its two sides have changed places. -/
def flip : Comparison → Comparison
  | lt => gt
  | le => ge
  | gt => lt
  | ge => le
  | other => other

/-- Whether a comparison holds of two values in a given order. -/
def holds : Comparison → Ordering → Bool
  | eq, order => order == .eq
  | ne, order => order != .eq
  | lt, order => order == .lt
  | le, order => order != .gt
  | gt, order => order == .gt
  | ge, order => order != .lt

end Comparison

namespace TextMatch

/-- All ways to look for a text, in the order in which they are listed. -/
def all : List TextMatch := [contains, startsWith, endsWith]

/-- The name of a way to look for a text. -/
def name : TextMatch → String
  | contains => "contains"
  | startsWith => "starts_with"
  | endsWith => "ends_with"

/-- The names of all ways to look for a text. -/
def names : List (String × TextMatch) :=
  all.map fun textMatch => (textMatch.name, textMatch)

end TextMatch

namespace OperatorClass

/-- All classes, in the order in which they are listed. -/
def all : List OperatorClass := [equality, ordering, substring, nullness]

/-- The name of a class. -/
def name : OperatorClass → String
  | equality => "Equality"
  | ordering => "Ordering"
  | substring => "Substring"
  | nullness => "Null"

end OperatorClass

namespace Operator

/-- The class of an operator. -/
def operatorClass : Operator → OperatorClass
  | compare comparison => comparison.operatorClass
  | member => .equality
  | between => .ordering
  | isNull => .nullness
  | text _ => .substring

/-- The name of an operator in messages. -/
def name : Operator → String
  | compare comparison => comparison.sign
  | member => "in"
  | between => "between"
  | isNull => "is null"
  | text textMatch => textMatch.name

end Operator

end Sieve
