/-
This file plans commands for predicates on documents of a type. Where nothing is
asked, with no predicate or with an empty conjunction, every document is meant,
unless the options refuse that.
-/

import Sieve.Filter.Compile
import Sieve.Sql.Statement

namespace Sieve

/-- A catalog, and the options for its commands. -/
structure Planner where
  /-- The catalog. -/
  catalog : Catalog
  /-- The options. -/
  options : Sql.Options

namespace Planner

/-- What is asked, if anything is. -/
def asked? : Option Predicate → Option Predicate
  | some (.all []) => none
  | other => other

/-- The filter for what is asked of documents of a type. -/
def compile (planner : Planner) (typeName : String) (predicate? : Option Predicate) :
    Except Rejection Filter := do
  let _ ← planner.catalog.describe typeName
  match asked? predicate? with
  | some predicate => planner.catalog.compile typeName predicate
  | none => if planner.options.allowsEmpty then pure .always else .error .emptyPredicate

/-- The condition for what is asked of documents of a type. -/
def whereClause (planner : Planner) (typeName : String)
    (predicate? : Option Predicate) : Except Rejection Sql.Command := do
  let filter ← planner.compile typeName predicate?
  pure (filter.whereClause planner.options)

/-- The statement that reads the documents of a type of which what is asked holds. -/
def select (planner : Planner) (typeName : String) (predicate? : Option Predicate) :
    Except Rejection Sql.Command := do
  let documentType ← planner.catalog.describe typeName
  let filter ← planner.compile typeName predicate?
  pure (filter.select planner.options documentType.table)

/-- The statement that counts the documents of a type of which what is asked holds. -/
def count (planner : Planner) (typeName : String) (predicate? : Option Predicate) :
    Except Rejection Sql.Command := do
  let documentType ← planner.catalog.describe typeName
  let filter ← planner.compile typeName predicate?
  pure (filter.count planner.options documentType.table)

/-- The warnings about the literals of what is asked of documents of a type. -/
def warnings (planner : Planner) (typeName : String) (predicate? : Option Predicate) :
    List Warning :=
  match asked? predicate? with
  | some predicate => planner.catalog.warnings typeName predicate
  | none => []

end Planner

end Sieve
