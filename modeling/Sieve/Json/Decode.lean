/-
This file holds what is shared by all that is made from JSON values: taking a
scalar out of a value, finding the members of an object by key, and choosing
among names. A key that is looked for must not be repeated, and a key that is
not looked for is passed over. A group of fields may be given by name or, in a
fixed order, by position.
-/

import Sieve.Json.Value

namespace Sieve.Json

/-! ### Scalars -/

/-- The text that a value is. -/
def asText? : Json → Option String
  | .text value => some value
  | _ => none

/-- The truth value that a value is. -/
def asBool? : Json → Option Bool
  | .bool value => some value
  | _ => none

/-- The integer of 64 bits that a value is. -/
def asInt64? : Json → Option Int64
  | .integer value =>
    if Int64.minValue.toInt ≤ value ∧ value ≤ Int64.maxValue.toInt then some (Int64.ofInt value)
    else none
  | _ => none

/-- The double precision number that a number is rounded to. -/
def asDouble? : Json → Option Double
  | .integer value => some (Double.ofInt value)
  | .float value => some value
  | _ => none

/-- The items that a value consists of. -/
def asList? : Json → Option (List Json)
  | .list items => some items
  | _ => none

/-! ### Fields -/

/-- A group of fields. -/
inductive Fields where
  /-- The fields are the members of an object. -/
  | named (members : List (String × Json))
  /-- The fields are items in a fixed order. -/
  | listed (items : List Json)

namespace Fields

/-- The fields that a value consists of. -/
def ofJson? : Json → Option Fields
  | .record members => some (.named members)
  | .list items => some (.listed items)
  | _ => none

/-- The field with a key or at a position, which may be missing but not repeated. -/
def optional? (fields : Fields) (position : Nat) (key : String) : Option (Option Json) :=
  match fields with
  | .named members =>
    match members.filter fun entry => entry.1 == key with
    | [] => some none
    | [entry] => some (some entry.2)
    | _ => none
  | .listed items => some items[position]?

/-- The field with a key or at a position, which must be there once. -/
def required? (fields : Fields) (position : Nat) (key : String) : Option Json :=
  (fields.optional? position key).join

/-- Whether there are no more items than fields; an object may have other members. -/
def fits (fields : Fields) (count : Nat) : Bool :=
  match fields with
  | .named _ => true
  | .listed items => decide (items.length ≤ count)

/-- A truth value that is false if it is not given. -/
def flag? (fields : Fields) (position : Nat) (key : String) : Option Bool :=
  match fields.optional? position key with
  | some none => some false
  | some (some value) => value.asBool?
  | none => none

end Fields

/-! ### Choices -/

/-- Which spellings of a choice are read. -/
inductive Manner where
  /-- A choice is spelled by its name. -/
  | strict
  /-- A choice may be spelled by its place among the choices, and what is left empty beside its
  name may be an empty object. -/
  | lenient
  deriving DecidableEq

/-- What a name is chosen for among named choices. -/
def choiceOf? {Choice : Type} (choices : List (String × Choice)) (name : String) :
    Option Choice :=
  (choices.find? fun choice => choice.1 == name).map (·.2)

/-- What a value chooses among named choices: it is a name, or an object whose single member
has the name for its key and nothing for its value. -/
def choice? {Choice : Type} (manner : Manner) (choices : List (String × Choice)) :
    Json → Option Choice
  | .text name => choiceOf? choices name
  | .record [(name, .null)] => choiceOf? choices name
  | .record [(name, .record [])] =>
    if manner = .lenient then choiceOf? choices name else none
  | _ => none

/-- What a value chooses among named choices: it is a name or, in the lenient manner, a place in
the list. -/
def choiceByPlace? {Choice : Type} (manner : Manner) (choices : List (String × Choice)) :
    Json → Option Choice
  | .text name => choiceOf? choices name
  | .integer place =>
    if manner = .lenient ∧ 0 ≤ place then (choices[place.toNat]?).map (·.2) else none
  | _ => none

end Sieve.Json
