/-
This file reads predicates from JSON and writes them. A predicate is an object
with the name of an operation and the fields of that operation, or an array that
begins with the operation and goes on with the fields in order. The operation of
the outermost predicate is read in the strict manner, and everything inside it
in the lenient one.
-/

import Sieve.Json.Decode
import Sieve.Predicate.Basic

namespace Sieve

/-! ### Heights -/

namespace Json

mutual

/-- How deep arrays and objects stand in a value. -/
def height : Json → Nat
  | .list items => heightOfItems items + 1
  | .record members => heightOfMembers members + 1
  | _ => 0

/-- How deep arrays and objects stand in the items of an array. -/
def heightOfItems : List Json → Nat
  | [] => 0
  | item :: rest => max (height item) (heightOfItems rest)

/-- How deep arrays and objects stand in the members of an object. -/
def heightOfMembers : List (String × Json) → Nat
  | [] => 0
  | (_, value) :: rest => max (height value) (heightOfMembers rest)

end

end Json

/-! ### Operands -/

namespace Operand

/-- The operand that a JSON object with a single member describes. -/
def ofJson? : Json → Option Operand
  | .record [(key, value)] =>
    if key = "field" then value.asText?.map field
    else if key = "literal" then (Literal.ofJson? .lenient value).map literal
    else none
  | _ => none

/-- The JSON form of an operand. -/
def toJson : Operand → Json
  | field path => .record [("field", .text path)]
  | literal value => .record [("literal", value.toJson)]

end Operand

/-! ### Predicates -/

namespace Predicate

/-- An operation of a predicate. -/
inductive Operation where
  /-- All of some predicates hold. -/
  | all
  /-- Any of some predicates holds. -/
  | any
  /-- A predicate does not hold. -/
  | not
  /-- Two operands compare. -/
  | compare
  /-- A field is among literals. -/
  | member
  /-- A field lies between literals. -/
  | between
  /-- A field is null. -/
  | isNull
  /-- A field holds a text. -/
  | text
  deriving DecidableEq

/-- The names of the operations, in the order in which they are listed. -/
def operationNames : List (String × Operation) :=
  [("and", .all), ("or", .any), ("not", .not), ("compare", .compare), ("in", .member),
   ("between", .between), ("is_null", .isNull), ("text", .text)]

/-- The operation that a JSON value names, and the fields that go with it. -/
def operationOf? (manner : Json.Manner) : Json → Option (Operation × Json.Fields)
  | .record members => do
    let fields := Json.Fields.named members
    let operation ← Json.choiceByPlace? manner operationNames (← fields.required? 0 "op")
    some (operation, fields)
  | .list (operation :: items) => do
    let operation ← Json.choiceByPlace? manner operationNames operation
    some (operation, .listed items)
  | _ => none

/-- The count of fields that an operation has. -/
def Operation.fieldCount : Operation → Nat
  | all | any | not => 1
  | isNull => 2
  | compare | member | between => 3
  | text => 4

/-- The predicate that a JSON value of a bounded height describes. -/
def ofJsonWithin? : (height : Nat) → Json.Manner → Json → Option Predicate
  | 0, _, _ => none
  | height + 1, manner, value => do
    let (operation, fields) ← operationOf? manner value
    if !fields.fits operation.fieldCount then none
    else
      match operation with
      | .all => do
        let items ← (← fields.required? 0 "args").asList?
        let parts ← items.mapM (ofJsonWithin? height .lenient)
        some (.all parts)
      | .any => do
        let items ← (← fields.required? 0 "args").asList?
        let parts ← items.mapM (ofJsonWithin? height .lenient)
        some (.any parts)
      | .not => do
        let part ← ofJsonWithin? height .lenient (← fields.required? 0 "arg")
        some (.not part)
      | .compare => do
        let left ← Operand.ofJson? (← fields.required? 0 "left")
        let comparison ← Json.choice? .lenient Comparison.signs (← fields.required? 1 "cmp")
        let right ← Operand.ofJson? (← fields.required? 2 "right")
        some (.compare left comparison right)
      | .member => do
        let path ← (← fields.required? 0 "field").asText?
        let items ← (← fields.required? 1 "values").asList?
        let values ← items.mapM (Literal.ofJson? .lenient)
        let negated ← fields.flag? 2 "negated"
        some (.member path values negated)
      | .between => do
        let path ← (← fields.required? 0 "field").asText?
        let low ← Literal.ofJson? .lenient (← fields.required? 1 "low")
        let high ← Literal.ofJson? .lenient (← fields.required? 2 "high")
        some (.between path low high)
      | .isNull => do
        let path ← (← fields.required? 0 "field").asText?
        let negated ← fields.flag? 1 "negated"
        some (.isNull path negated)
      | .text => do
        let path ← (← fields.required? 0 "field").asText?
        let textMatch ← Json.choice? .lenient TextMatch.names (← fields.required? 1 "text_op")
        let value ← (← fields.required? 2 "value").asText?
        let ignoresCase ← fields.flag? 3 "case_insensitive"
        some (.text path textMatch value ignoresCase)

/-- The predicate that a JSON value describes. -/
def ofJson? (value : Json) : Option Predicate :=
  ofJsonWithin? value.height .strict value

mutual

/-- The JSON form of a predicate, with every field written out. -/
def toJson : Predicate → Json
  | all parts => .record [("op", .text "and"), ("args", .list (toJsonAll parts))]
  | any parts => .record [("op", .text "or"), ("args", .list (toJsonAll parts))]
  | not part => .record [("op", .text "not"), ("arg", toJson part)]
  | compare left comparison right =>
    .record
      [("op", .text "compare"), ("left", left.toJson), ("cmp", .text comparison.sign),
       ("right", right.toJson)]
  | member path values negated =>
    .record
      [("op", .text "in"), ("field", .text path),
       ("values", .list (values.map Literal.toJson)), ("negated", .bool negated)]
  | between path low high =>
    .record
      [("op", .text "between"), ("field", .text path), ("low", low.toJson),
       ("high", high.toJson)]
  | isNull path negated =>
    .record [("op", .text "is_null"), ("field", .text path), ("negated", .bool negated)]
  | text path textMatch value ignoresCase =>
    .record
      [("op", .text "text"), ("field", .text path), ("text_op", .text textMatch.name),
       ("value", .text value), ("case_insensitive", .bool ignoresCase)]

/-- The JSON forms of predicates. -/
def toJsonAll : List Predicate → List Json
  | [] => []
  | part :: rest => toJson part :: toJsonAll rest

end

end Predicate

end Sieve
