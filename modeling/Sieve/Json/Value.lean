/-
This file defines JSON values. An object is a list of members in the order in
which they were written, so that a repeated key is visible; the canonical form
of a value has the members of every object sorted by key, each key once with the
last value it was given. Documents are kept in canonical form.
-/

import Sieve.Number.Double

namespace Sieve

/-- A JSON value. -/
inductive Json where
  /-- The value `null`. -/
  | null
  /-- A truth value. -/
  | bool (value : Bool)
  /-- A number written without fraction and exponent that fits a word of 64 bits, with or
  without sign. -/
  | integer (value : Int)
  /-- Any other number. -/
  | float (value : Double)
  /-- A text. -/
  | text (value : String)
  /-- An array. -/
  | list (items : List Json)
  /-- An object, given by its members. -/
  | record (members : List (String × Json))
  deriving Inhabited

namespace Json

/-- Whether a value is `null`. -/
def isNull : Json → Bool
  | null => true
  | _ => false

/-! ### Members -/

/-- The members sorted by key, one of them set to a value: replaced if it is there and put in
its place if not. -/
def setMember (key : String) (value : Json) : List (String × Json) → List (String × Json)
  | [] => [(key, value)]
  | (other, present) :: rest =>
    if key = other then (key, value) :: rest
    else if key < other then (key, value) :: (other, present) :: rest
    else (other, present) :: setMember key value rest

/-- The members, the value of the first one with a key replaced by another. -/
def replaceMember (key : String) (value : Json) : List (String × Json) → List (String × Json)
  | [] => []
  | (other, present) :: rest =>
    if key = other then (other, value) :: rest
    else (other, present) :: replaceMember key value rest

/-- The value of the first member with a key. -/
def member? (key : String) (members : List (String × Json)) : Option Json :=
  (members.find? fun entry => entry.1 == key).map (·.2)

/-! ### The canonical form -/

mutual

/-- A value with the members of all its objects sorted, each key once with its last value. -/
def canonical : Json → Json
  | .list items => .list (canonicalItems items)
  | .record members => .record (canonicalMembers [] members)
  | value => value

/-- The canonical forms of the items of an array. -/
def canonicalItems : List Json → List Json
  | [] => []
  | item :: rest => canonical item :: canonicalItems rest

/-- Sorted members into which further members are set one after another. -/
def canonicalMembers (sorted : List (String × Json)) :
    List (String × Json) → List (String × Json)
  | [] => sorted
  | (key, value) :: rest => canonicalMembers (setMember key (canonical value) sorted) rest

end

end Json

end Sieve
