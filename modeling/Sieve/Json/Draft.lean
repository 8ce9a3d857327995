/-
This file takes JSON texts apart. A draft is what a text is by its form alone:
every bracket has its partner and every number and text is well written, but
nobody has asked yet whether a number is too great, whether the halves of a pair
of code units come together, or how deep the brackets stand in each other. The
members of an object come in the order in which they are written, repeated keys
included.
-/

import Sieve.Json.Number

namespace Sieve.Json

/-! ### Drafts -/

/-- A part of a text as it is written. -/
inductive Mark where
  /-- A character, written as it is or by a short escape. -/
  | character (value : Char)
  /-- A code unit of 16 bits, given by its number. -/
  | codeUnit (number : Nat)

/-- A JSON text that has been taken apart by its form. -/
inductive Draft where
  /-- The name `null`. -/
  | null
  /-- The name of a truth value. -/
  | bool (value : Bool)
  /-- A number. -/
  | number (numeral : Numeral)
  /-- A text. -/
  | text (marks : List Mark)
  /-- An array. -/
  | list (items : List Draft)
  /-- An object, given by its members. -/
  | record (members : List (List Mark × Draft))
  deriving Inhabited

/-! ### Blanks and names -/

/-- One of the four blanks that may stand between the parts of a JSON text. -/
def isSpace (character : Char) : Bool :=
  character == ' ' || character == '\n' || character == '\t' || character == '\r'

/-- A text without the blanks it begins with. -/
def skipSpace (text : List Char) : List Char :=
  text.dropWhile isSpace

/-- Reads a given name. -/
def readName? : (name text : List Char) → Option (List Char)
  | [], rest => some rest
  | expected :: name, character :: rest =>
    if character = expected then readName? name rest else none
  | _ :: _, [] => none

/-! ### Texts -/

/-- The character that a short escape stands for. -/
def shortEscape? (letter : Char) : Option Char :=
  match letter with
  | '"' => some '"'
  | '\\' => some '\\'
  | '/' => some '/'
  | 'b' => some '\x08'
  | 'f' => some '\x0c'
  | 'n' => some '\n'
  | 'r' => some '\r'
  | 't' => some '\t'
  | _ => none

/-- The number that four hexadecimal digits write. -/
def codeUnit? (first second third fourth : Char) : Option Nat := do
  let first ← Text.hexValue? first
  let second ← Text.hexValue? second
  let third ← Text.hexValue? third
  let fourth ← Text.hexValue? fourth
  some (((first * 16 + second) * 16 + third) * 16 + fourth)

/-- A text with a mark put before what was read. -/
def consMark (mark : Mark) (read : Option (List Mark × List Char)) :
    Option (List Mark × List Char) :=
  read.map fun (following, rest) => (mark :: following, rest)

/-- Reads a text up to its closing quote. Controls must be escaped. -/
def readMarks? : List Char → Option (List Mark × List Char)
  | [] => none
  | '"' :: rest => some ([], rest)
  | '\\' :: 'u' :: first :: second :: third :: fourth :: rest =>
    match codeUnit? first second third fourth with
    | none => none
    | some number => consMark (.codeUnit number) (readMarks? rest)
  | '\\' :: letter :: rest =>
    match shortEscape? letter with
    | none => none
    | some character => consMark (.character character) (readMarks? rest)
  | character :: rest =>
    if character.toNat < 0x20 ∨ character = '\\' then none
    else consMark (.character character) (readMarks? rest)

/-! ### Values -/

/-- What may come after an item: another one, or the end. -/
inductive Continuation where
  /-- Another item comes. -/
  | more (rest : List Char)
  /-- The array or object ends. -/
  | done (rest : List Char)

/-- Reads a comma or a closing bracket after an item. -/
def readContinuation? (closing : Char) (text : List Char) : Option Continuation :=
  match skipSpace text with
  | character :: rest =>
    if character = ',' then some (.more rest)
    else if character = closing then some (.done rest)
    else none
  | [] => none

/-- Reads the key of a member and the colon after it. -/
def readKey? (text : List Char) : Option (List Mark × List Char) :=
  match skipSpace text with
  | '"' :: rest => do
    let (key, rest) ← readMarks? rest
    match skipSpace rest with
    | ':' :: rest => some (key, rest)
    | _ => none
  | _ => none

mutual

/-- Reads a draft. The fuel bounds the count of parts. -/
def readDraft? : (fuel : Nat) → List Char → Option (Draft × List Char)
  | 0, _ => none
  | fuel + 1, input =>
    match skipSpace input with
    | [] => none
    | '"' :: rest => (readMarks? rest).map fun (marks, rest) => (.text marks, rest)
    | '[' :: rest =>
      match skipSpace rest with
      | ']' :: rest => some (.list [], rest)
      | rest => (readItems? fuel rest).map fun (items, rest) => (.list items, rest)
    | '\x7b' :: rest =>
      match skipSpace rest with
      | '\x7d' :: rest => some (.record [], rest)
      | rest => (readMembers? fuel rest).map fun (members, rest) => (.record members, rest)
    | 'n' :: rest => (readName? ['u', 'l', 'l'] rest).map fun rest => (.null, rest)
    | 't' :: rest => (readName? ['r', 'u', 'e'] rest).map fun rest => (.bool true, rest)
    | 'f' :: rest => (readName? ['a', 'l', 's', 'e'] rest).map fun rest => (.bool false, rest)
    | rest => (readNumeral? rest).map fun (numeral, rest) => (.number numeral, rest)

/-- Reads the items of an array, at least one, and its closing bracket. -/
def readItems? : (fuel : Nat) → List Char → Option (List Draft × List Char)
  | 0, _ => none
  | fuel + 1, input =>
    match readDraft? fuel input with
    | none => none
    | some (item, rest) =>
      match readContinuation? ']' rest with
      | none => none
      | some (.done rest) => some ([item], rest)
      | some (.more rest) =>
        (readItems? fuel rest).map fun (items, rest) => (item :: items, rest)

/-- Reads the members of an object, at least one, and its closing brace. -/
def readMembers? : (fuel : Nat) → List Char → Option (List (List Mark × Draft) × List Char)
  | 0, _ => none
  | fuel + 1, input =>
    match readKey? input with
    | none => none
    | some (key, rest) =>
      match readDraft? fuel rest with
      | none => none
      | some (value, rest) =>
        match readContinuation? '\x7d' rest with
        | none => none
        | some (.done rest) => some ([(key, value)], rest)
        | some (.more rest) =>
          (readMembers? fuel rest).map fun (members, rest) => ((key, value) :: members, rest)

end

/-- The draft that a text is, if it is one and nothing comes after it. -/
def Draft.ofText? (text : List Char) : Option Draft :=
  match readDraft? (2 * text.length + 2) text with
  | some (draft, rest) => if (skipSpace rest).isEmpty then some draft else none
  | none => none

end Sieve.Json
