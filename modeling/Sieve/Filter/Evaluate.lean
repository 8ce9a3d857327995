/-
This file evaluates filters on stored rows as SQL does: a truth may be unknown,
a value that is missing or null makes a comparison unknown, and a text that
cannot be cast ends the evaluation with an error. All parts of a filter are
evaluated, from left to right, before they are put together.
-/

import Sieve.Datum.Cast
import Sieve.Filter.Basic
import Sieve.Json.Pointer
import Sieve.Json.Printer
import Sieve.Pattern

namespace Sieve

/-! ### Truth -/

/-- A truth value of SQL; `none` is unknown. -/
abbrev Truth := Option Bool

namespace Truth

/-- The opposite of a truth; of unknown it is unknown. -/
def negation (truth : Truth) : Truth :=
  truth.map Bool.not

/-- False if any truth is, else unknown if any is, else true. -/
def conjunction (truths : List Truth) : Truth :=
  if truths.contains (some false) then some false
  else if truths.contains none then none
  else some true

/-- True if any truth is, else unknown if any is, else false. -/
def disjunction (truths : List Truth) : Truth :=
  if truths.contains (some true) then some true
  else if truths.contains none then none
  else some false

end Truth

/-- The truth of a comparison of two values. -/
def Comparison.truth (comparison : Comparison) (left right : Datum) : Truth :=
  (left.compare? right).map comparison.holds

/-! ### Rows -/

/-- A stored row: a document, and the values of its columns by name. -/
structure Row where
  /-- The document. -/
  body : Json
  /-- The columns. -/
  columns : List (String × Datum)

/-- The value of a column; a column that is not there is null. -/
def Row.column (row : Row) (name : String) : Datum :=
  ((row.columns.find? fun column => column.1 == name).map (·.2)).getD .null

/-- The text of a JSON value: a text is taken as it is, and null has none. -/
def Json.extracted : Json → Datum
  | .null => .null
  | .text value => .text value
  | other => .text other.toText

/-- A wall clock as an instant in UTC, or an instant as a wall clock. -/
def Datum.atUtc : Datum → Except CastError Datum
  | .timestamp clock => .ok (.timestampTz ⟨clock⟩)
  | .timestampTz instant => .ok (.timestamp instant.utc)
  | .null => .ok .null
  | other => .error ⟨other, .timestampTz⟩

/-- The value that is read from a row. -/
def Source.evaluate (row : Row) : Source → Except CastError Datum
  | jsonText segments =>
    match row.body.lookup? (Json.pointerOf segments) with
    | some found => .ok found.extracted
    | none => .ok .null
  | column name => .ok (row.column name)
  | cast inner type => do
    let value ← inner.evaluate row
    value.cast type
  | atUtc inner => do
    let value ← inner.evaluate row
    value.atUtc

/-! ### Filters -/

/-- Whether a value matches a pattern; only texts match. -/
def Datum.like (value pattern : Datum) (ignoresCase : Bool) : Truth :=
  match value, pattern with
  | .text value, .text pattern =>
    some (Pattern.isMatch ignoresCase pattern.toList value.toList)
  | _, _ => none

namespace Filter

/-- The truth of a value being among parameters. -/
def memberTruth (value : Datum) (parameters : List Parameter) : Truth :=
  Truth.disjunction (parameters.map fun parameter => Comparison.eq.truth value parameter.value)

/-- The truth of a value lying between two parameters. -/
def betweenTruth (value : Datum) (low high : Parameter) : Truth :=
  Truth.conjunction
    [Comparison.ge.truth value low.value, Comparison.le.truth value high.value]

mutual

/-- The truth of a filter on a row. -/
def evaluate (row : Row) : Filter → Except CastError Truth
  | all parts => do
    let truths ← evaluateAll row parts
    pure (Truth.conjunction truths)
  | any parts => do
    let truths ← evaluateAll row parts
    pure (Truth.disjunction truths)
  | not part => do
    let truth ← evaluate row part
    pure truth.negation
  | compare field comparison parameter => do
    let value ← field.source.evaluate row
    pure (comparison.truth value parameter.value)
  | compareFields left comparison right => do
    let leftValue ← left.source.evaluate row
    let rightValue ← right.source.evaluate row
    pure (comparison.truth leftValue rightValue)
  | member field parameters negated => do
    let value ← field.source.evaluate row
    let truth := memberTruth value parameters
    pure (if negated then truth.negation else truth)
  | between field low high => do
    let value ← field.source.evaluate row
    pure (betweenTruth value low high)
  | isNull field negated => do
    let value ← field.source.evaluate row
    pure (some (value.isNull != negated))
  | like field pattern ignoresCase => do
    let value ← field.source.evaluate row
    pure (value.like pattern.value ignoresCase)

/-- The truths of filters on a row, in order. -/
def evaluateAll (row : Row) : List Filter → Except CastError (List Truth)
  | [] => pure []
  | part :: rest => do
    let truth ← evaluate row part
    let truths ← evaluateAll row rest
    pure (truth :: truths)

end

end Filter

end Sieve
