/-
This file finds a value inside a JSON value, either by walking down one segment
at a time or by a pointer, which writes all segments into one text. In a pointer
each segment follows a slash, and the slash and the tilde of a segment are
escaped, so that a pointer leads exactly where its segments lead.
-/

import Sieve.Json.Value
import Sieve.Text.Basic

namespace Sieve.Json

/-! ### One segment at a time -/

/-- The position in an array that a segment names: digits, with no zero in front of others. -/
def position? (segment : String) : Option Nat :=
  match segment.toList with
  | [] => none
  | first :: rest =>
    if (first :: rest).all Text.isDigit && (first != '0' || rest.isEmpty) then
      some (Text.digitsValue 0 (first :: rest))
    else none

/-- The value one segment below a value: a member of an object or an item of an array. -/
def child? (segment : String) : Json → Option Json
  | .record members => member? segment members
  | .list items => (position? segment).bind fun position => items[position]?
  | _ => none

/-- The value that segments lead to, one after another. -/
def walk? (segments : List String) (value : Json) : Option Json :=
  segments.foldlM (fun current segment => current.child? segment) value

/-! ### Pointers -/

/-- The written form of one character of a segment. -/
def escapedInPointer (character : Char) : List Char :=
  if character = '~' then ['~', '0']
  else if character = '/' then ['~', '1']
  else [character]

/-- The pointer that leads along segments. -/
def pointerOf (segments : List String) : String :=
  String.ofList (segments.flatMap fun segment => '/' :: segment.toList.flatMap escapedInPointer)

/-- The segment that a piece of a pointer writes. -/
def segmentOf (piece : List Char) : String :=
  String.ofList (Text.contracted '~' '0' '~' (Text.contracted '~' '1' '/' piece))

/-- The value that a pointer leads to. The empty pointer leads to the value itself, and any
other one must begin with a slash. -/
def lookup? (pointer : String) (value : Json) : Option Json :=
  match Text.pieces '/' pointer.toList with
  | [] :: pieces => value.walk? (pieces.map segmentOf)
  | _ => none

end Sieve.Json
