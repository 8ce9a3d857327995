/-
This file reads points in time. Four forms are read: the literal form of a wall
clock, which allows blanks around its parts; the literal form of a zoned time,
nearly as free; the strict form of a zoned time in stored text; and the two
forms of a wall clock in stored text, with a `T` or with blanks between date and
time. The forms share their parts and differ in where blanks may stand.
-/

import Sieve.Calendar.Clock
import Sieve.Text.Basic

namespace Sieve.Calendar

/-- A reader takes its part from the front of a text and leaves the rest. -/
abbrev Reader := StateT (List Char) Option

namespace Reader

/-! ### Parts -/

/-- Reads any run of blanks, also an empty one. -/
def blanks : Reader Unit :=
  modify Text.trimStart

/-- Reads nothing, where blanks are not allowed. -/
def nothing : Reader Unit :=
  pure ()

/-- Reads one character that passes a test. -/
def character (test : Char → Bool) : Reader Char := fun text =>
  match text with
  | first :: rest => if test first then some (first, rest) else none
  | [] => none

/-- Reads one given character. -/
def mark (expected : Char) : Reader Unit := do
  let _ ← character (· == expected)

/-- Reads all digits that come, but not more than a given count. -/
def digitsUpTo : (most : Nat) → Reader (List Char)
  | 0 => pure []
  | most + 1 => fun text =>
    match text with
    | first :: rest =>
      if Text.isDigit first then do
        let (others, rest) ← digitsUpTo most rest
        some (first :: others, rest)
      else some ([], text)
    | [] => some ([], text)

/-- Reads blanks and then a number of at least one and at most a given count of digits. -/
def number (most : Nat) : Reader Nat := do
  blanks
  let digits ← digitsUpTo most
  if digits.isEmpty then failure else pure (Text.digitsValue 0 digits)

/-- Reads a number of exactly a given count of digits. -/
def fixedNumber (count : Nat) : Reader Nat := do
  let digits ← digitsUpTo count
  if digits.length = count then pure (Text.digitsValue 0 digits) else failure

/-- Reads all digits that come, at least one. -/
def allDigits : Reader (List Char) := fun text =>
  let digits := text.takeWhile Text.isDigit
  if digits.isEmpty then none else some (digits, text.dropWhile Text.isDigit)

/-- Reads blanks and then a year: any count of digits after a sign, else at most four. -/
def year : Reader Int := do
  blanks
  let text ← get
  match text with
  | '-' :: rest => do
    set rest
    let digits ← allDigits
    pure (-(Text.digitsValue 0 digits : Int))
  | '+' :: rest => do
    set rest
    let digits ← allDigits
    pure (Text.digitsValue 0 digits)
  | _ => do
    let value ← number 4
    pure value

/-- Reads a fraction of a second, if a point comes: at least one digit, of which the first nine
count. The result is in nanoseconds. -/
def fraction : Reader Nat := do
  let text ← get
  match text with
  | '.' :: rest => do
    set rest
    let digits ← allDigits
    let counted := digits.take 9
    pure (Text.digitsValue 0 counted * Nat.pow 10 (9 - counted.length))
  | _ => pure 0

/-- Reads a date of free width, with `gap` before each hyphen. -/
def date (gap : Reader Unit) : Reader Date := do
  let year ← year
  gap
  mark '-'
  let month ← number 2
  gap
  mark '-'
  let day ← number 2
  pure ⟨year, month, day⟩

/-- Reads a time of day of free width, with `gap` before each colon. -/
def timeOfDay (gap : Reader Unit) : Reader WallClock.TimeOfDay := do
  let hour ← number 2
  gap
  mark ':'
  let minute ← number 2
  gap
  mark ':'
  let second ← number 2
  let nanosecond ← fraction
  pure ⟨hour, minute, second, nanosecond⟩

/-- Reads one of the characters that part a date from a time of day. -/
def divider : Reader Unit := do
  let _ ← character fun found => found == 'T' || found == 't' || found == ' '

/-- Reads the sign of an offset: whether it is a minus, which may also be the true minus
sign. -/
def offsetSign : Reader Bool := do
  let sign ← character fun found => found == '+' || found == '-' || found == '\u2212'
  pure (sign != '+')

/-- Reads a run of colons and blanks, also an empty one. -/
def colonsAndBlanks : Reader Unit :=
  modify (·.dropWhile fun found => found == ':' || Text.isBlank found)

/-- Reads an offset in hours and minutes, with `gap` between them: the result is in seconds
and less than a day. -/
def signedOffset (gap : Reader Unit) : Reader Int := do
  let negative ← offsetSign
  let hours ← fixedNumber 2
  gap
  let minutes ← fixedNumber 2
  if minutes < 60 ∧ hours < 24 then
    let seconds : Int := hours * 3600 + minutes * 60
    pure (if negative then -seconds else seconds)
  else failure

/-- Reads the letter for UTC, or an offset in hours and minutes. -/
def offset (gap : Reader Unit) : Reader Int := do
  let text ← get
  match text with
  | first :: rest =>
    if first = 'Z' ∨ first = 'z' then do
      set rest
      pure 0
    else signedOffset gap
  | [] => failure

/-- Reads the name of UTC in any case, or an offset of free width. -/
def zone : Reader Int := do
  let text ← get
  if (text.take 3).map Text.lowerAscii = ['u', 't', 'c'] then do
    set (text.drop 3)
    pure 0
  else offset colonsAndBlanks

/-! ### Whole texts -/

/-- What a reader makes of a whole text, if nothing is left over. -/
def readAll? {Part : Type} (reader : Reader Part) (text : List Char) : Option Part :=
  match reader text with
  | some (part, []) => some part
  | _ => none

/-- Reads the literal form of a wall clock. -/
def clockLiteral : Reader WallClock := do
  let date ← date blanks
  blanks
  mark 'T'
  let time ← timeOfDay blanks
  blanks
  WallClock.ofFields? date time

/-- Reads the literal form of a zoned time. -/
def zonedLiteral : Reader ZonedTime := do
  let date ← date blanks
  divider
  let time ← timeOfDay blanks
  blanks
  let seconds ← zone
  blanks
  let clock ← WallClock.ofFields? date time
  ZonedTime.ofLocal? clock seconds

/-- Reads the strict form of a zoned time, in which every part has its full width and no blanks
stand. -/
def zonedText : Reader ZonedTime := do
  let year ← fixedNumber 4
  mark '-'
  let month ← fixedNumber 2
  mark '-'
  let day ← fixedNumber 2
  divider
  let hour ← fixedNumber 2
  mark ':'
  let minute ← fixedNumber 2
  mark ':'
  let second ← fixedNumber 2
  let nanosecond ← fraction
  let seconds ← offset (mark ':')
  let clock ← WallClock.ofFields? ⟨year, month, day⟩ ⟨hour, minute, second, nanosecond⟩
  ZonedTime.ofLocal? clock seconds

/-- Reads a wall clock in stored text, with `between` standing between date and time. -/
def clockText (between : Reader Unit) : Reader WallClock := do
  let date ← date nothing
  between
  let time ← timeOfDay nothing
  WallClock.ofFields? date time

end Reader

/-! ### The forms -/

/-- The wall clock that a literal writes. -/
def WallClock.ofLiteral? (text : List Char) : Option WallClock :=
  Reader.clockLiteral.readAll? text

/-- The zoned time that a literal writes. -/
def ZonedTime.ofLiteral? (text : List Char) : Option ZonedTime :=
  Reader.zonedLiteral.readAll? text

/-- The zoned time that a stored text writes. -/
def ZonedTime.ofText? (text : List Char) : Option ZonedTime :=
  Reader.zonedText.readAll? text

/-- The wall clock that a stored text writes without a zone: with a `T` between date and time,
or with blanks or nothing there. -/
def WallClock.ofPlainText? (text : List Char) : Option WallClock :=
  ((Reader.clockText (Reader.mark 'T')).readAll? text).or
    ((Reader.clockText Reader.blanks).readAll? text)

/-- The wall clock of a stored text; a zone in the text is passed over. -/
def WallClock.ofText? (text : List Char) : Option WallClock :=
  (WallClock.ofPlainText? text).or ((ZonedTime.ofText? text).map ZonedTime.wallClock)

/-- The instant of a stored text; a text without a zone is read in UTC. -/
def Instant.ofText? (text : List Char) : Option Instant :=
  ((ZonedTime.ofText? text).map ZonedTime.instant).or
    ((WallClock.ofPlainText? text).map Instant.mk)

end Sieve.Calendar
