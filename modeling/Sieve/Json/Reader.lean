/-
This file says what drafts mean, and so which values JSON texts hold. A draft
means a value if no number in it is too great, the halves of every pair of code
units come together, and arrays and objects stand in each other at most 127
deep. Where only some members of an object are asked for, only those have to
mean anything.
-/

import Sieve.Json.Draft

namespace Sieve.Json

/-! ### Texts -/

/-- A code unit that is the first half of a pair. -/
def isHighHalf (number : Nat) : Bool :=
  0xd800 ≤ number && number < 0xdc00

/-- A code unit that is the second half of a pair. -/
def isLowHalf (number : Nat) : Bool :=
  0xdc00 ≤ number && number < 0xe000

/-- The character that a pair of halves stands for. -/
def joinHalves (high low : Nat) : Char :=
  Char.ofNat (0x10000 + (high - 0xd800) * 0x400 + (low - 0xdc00))

/-- The text that marks write. A half of a pair stands for nothing without the other half. -/
def charactersOf? : List Mark → Option (List Char)
  | [] => some []
  | .character value :: rest => (charactersOf? rest).map (value :: ·)
  | .codeUnit high :: .codeUnit low :: rest =>
    if isHighHalf high then
      if isLowHalf low then (charactersOf? rest).map (joinHalves high low :: ·) else none
    else if isLowHalf high then none
    else (charactersOf? (.codeUnit low :: rest)).map (Char.ofNat high :: ·)
  | .codeUnit number :: rest =>
    if isHighHalf number || isLowHalf number then none
    else (charactersOf? rest).map (Char.ofNat number :: ·)

/-- The text that marks write. -/
def textOf? (marks : List Mark) : Option String :=
  (charactersOf? marks).map String.ofList

/-! ### Values -/

namespace Draft

mutual

/-- The value that a draft means, if arrays and objects stand in each other no deeper than
allowed. -/
def value? (depth : Nat) : Draft → Option Json
  | null => some .null
  | bool value => some (.bool value)
  | number numeral => numeral.value?
  | text marks => (textOf? marks).map .text
  | list items =>
    match depth with
    | 0 => none
    | depth + 1 => (itemValues? depth items).map .list
  | record members =>
    match depth with
    | 0 => none
    | depth + 1 => (memberValues? depth members).map .record

/-- The values that the items of an array mean. -/
def itemValues? (depth : Nat) : List Draft → Option (List Json)
  | [] => some []
  | item :: rest => do
    let value ← value? depth item
    let values ← itemValues? depth rest
    some (value :: values)

/-- The members that the members of an object mean. -/
def memberValues? (depth : Nat) : List (List Mark × Draft) → Option (List (String × Json))
  | [] => some []
  | (key, member) :: rest => do
    let key ← textOf? key
    let value ← value? depth member
    let values ← memberValues? depth rest
    some ((key, value) :: values)

end

/-- The members with some keys that the members of an object mean. All keys must be texts, but
the values of other members are passed over. -/
def chosenMembers? (depth : Nat) (keys : List String) :
    List (List Mark × Draft) → Option (List (String × Json))
  | [] => some []
  | (key, member) :: rest => do
    let key ← textOf? key
    if keys.contains key then
      let value ← member.value? depth
      let values ← chosenMembers? depth keys rest
      some ((key, value) :: values)
    else chosenMembers? depth keys rest

/-- The value that a draft means if only members with some keys are asked for. -/
def chosen? (depth : Nat) (keys : List String) : Draft → Option Json
  | record members =>
    match depth with
    | 0 => none
    | depth + 1 => (chosenMembers? depth keys members).map .record
  | other => other.value? depth

end Draft

/-- How deep arrays and objects may stand in each other. -/
def greatestDepth : Nat := 127

/-- The value that a JSON text holds. -/
def ofText? (text : List Char) : Option Json :=
  (Draft.ofText? text).bind (Draft.value? greatestDepth)

/-- The value that a JSON text holds. -/
def ofString? (text : String) : Option Json :=
  ofText? text.toList

/-- The list of values that a JSON text holds if only members with some keys are asked for in
its items. -/
def chosenItems? (keys : List String) (text : String) : Option (List Json) :=
  match Draft.ofText? text.toList with
  | some (.list items) => items.mapM (Draft.chosen? (greatestDepth - 1) keys)
  | _ => none

end Sieve.Json
