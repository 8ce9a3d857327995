/-
This file takes the readers of points in time apart: what each of them has read where it
succeeds, and what it makes of a row of digits. The strict form of a zoned time fixes
every character up to its zone. A text of this form begins with a digit and ends in an
offset, so no blanks stand around it.
-/

import Sieve.Calendar.Reader
import Sieve.Proofs.Text.Basic

namespace Sieve.Calendar

namespace Reader

/-! ### Readers one after another -/

theorem bind_apply {Part Result : Type} (reader : Reader Part) (next : Part → Reader Result)
    (text : List Char) :
    (reader >>= next) text = (reader text).bind fun found => next found.1 found.2 := rfl

theorem bind_eq_some {Part Result : Type} {reader : Reader Part} {next : Part → Reader Result}
    {text rest : List Char} {result : Result} :
    (reader >>= next) text = some (result, rest) ↔
      ∃ part middle,
        reader text = some (part, middle) ∧ next part middle = some (result, rest) := by
  rw [bind_apply, Option.bind_eq_some_iff]
  constructor
  · rintro ⟨⟨part, middle⟩, first, second⟩
    exact ⟨part, middle, first, second⟩
  · rintro ⟨part, middle, first, second⟩
    exact ⟨(part, middle), first, second⟩

theorem pure_eq_some {Part : Type} {part result : Part} {text rest : List Char} :
    (pure part : Reader Part) text = some (result, rest) ↔ part = result ∧ text = rest := by
  rw [show (pure part : Reader Part) text = some (part, text) from rfl, Option.some.injEq,
    Prod.mk.injEq]

theorem get_apply (text : List Char) : (get : Reader (List Char)) text = some (text, text) := rfl

theorem set_apply (after text : List Char) :
    (set after : Reader PUnit) text = some (.unit, after) := rfl

/-- What is computed from the parts of a text takes nothing from the text. -/
theorem lift_apply {Part : Type} (computed : Option Part) (text : List Char) :
    (liftM computed : Reader Part) text = computed.map fun part => (part, text) := by
  cases computed <;> rfl

theorem character_eq_some {test : Char → Bool} {text rest : List Char} {found : Char} :
    character test text = some (found, rest) ↔ text = found :: rest ∧ test found = true := by
  cases text with
  | nil => simp [character]
  | cons first others =>
    by_cases passes : test first = true
    · simp only [character, passes, if_true, Option.some.injEq, Prod.mk.injEq, List.cons.injEq]
      constructor
      · rintro ⟨rfl, rfl⟩
        exact ⟨⟨rfl, rfl⟩, passes⟩
      · rintro ⟨⟨rfl, rfl⟩, _⟩
        exact ⟨rfl, rfl⟩
    · simp only [character, passes, Bool.false_eq_true, if_false, reduceCtorEq, false_iff]
      rintro ⟨same, holds⟩
      rw [List.cons.injEq] at same
      exact passes (same.1 ▸ holds)

theorem mark_eq_some {expected : Char} {text rest : List Char} :
    mark expected text = some ((), rest) ↔ text = expected :: rest := by
  rw [mark, bind_eq_some]
  constructor
  · rintro ⟨found, middle, read, done⟩
    obtain ⟨shape, same⟩ := character_eq_some.mp read
    obtain ⟨_, rfl⟩ := pure_eq_some.mp done
    rw [shape, beq_iff_eq.mp same]
  · rintro rfl
    exact ⟨expected, rest, character_eq_some.mpr ⟨rfl, beq_self_eq_true _⟩, rfl⟩

/-! ### Rows of digits -/

/-- A row of exactly `count` digits. -/
structure IsRow (count : Nat) (digits : List Char) : Prop where
  /-- There are as many as asked for. -/
  length : digits.length = count
  /-- All are digits. -/
  all : ∀ digit ∈ digits, Text.isDigit digit = true

theorem digitsUpTo_sound {most : Nat} {text digits rest : List Char}
    (read : digitsUpTo most text = some (digits, rest)) :
    text = digits ++ rest ∧ ∀ digit ∈ digits, Text.isDigit digit = true := by
  induction most generalizing text digits rest with
  | zero =>
    obtain ⟨rfl, rfl⟩ := pure_eq_some.mp read
    exact ⟨rfl, fun _ member => absurd member List.not_mem_nil⟩
  | succ most inductionHypothesis =>
    cases text with
    | nil =>
      simp only [digitsUpTo, Option.some.injEq, Prod.mk.injEq] at read
      obtain ⟨rfl, rfl⟩ := read
      exact ⟨rfl, fun _ member => absurd member List.not_mem_nil⟩
    | cons first others =>
      by_cases digit : Text.isDigit first = true
      · simp only [digitsUpTo, digit, if_true, Option.bind_eq_bind, Option.bind_eq_some_iff]
          at read
        obtain ⟨⟨more, after⟩, below, same⟩ := read
        simp only [Option.some.injEq, Prod.mk.injEq] at same
        obtain ⟨rfl, rfl⟩ := same
        obtain ⟨rfl, allDigits⟩ := inductionHypothesis below
        exact ⟨rfl, List.forall_mem_cons.mpr ⟨digit, allDigits⟩⟩
      · simp only [digitsUpTo, digit, Bool.false_eq_true, if_false, Option.some.injEq,
          Prod.mk.injEq] at read
        obtain ⟨rfl, rfl⟩ := read
        exact ⟨rfl, fun _ member => absurd member List.not_mem_nil⟩

theorem digitsUpTo_row {most : Nat} {digits : List Char} (row : IsRow most digits)
    (rest : List Char) : digitsUpTo most (digits ++ rest) = some (digits, rest) := by
  induction most generalizing digits with
  | zero =>
    rw [List.length_eq_zero_iff.mp row.length]
    rfl
  | succ most inductionHypothesis =>
    cases digits with
    | nil => exact absurd row.length (by simp)
    | cons first others =>
      obtain ⟨digit, allDigits⟩ := List.forall_mem_cons.mp row.all
      have below : digitsUpTo most (others ++ rest) = some (others, rest) :=
        inductionHypothesis ⟨Nat.succ.inj row.length, allDigits⟩
      simp only [List.cons_append, digitsUpTo, digit, if_true, below, Option.bind_eq_bind,
        Option.bind_some]

theorem fixedNumber_sound {count value : Nat} {text rest : List Char}
    (read : fixedNumber count text = some (value, rest)) :
    ∃ digits, IsRow count digits ∧ text = digits ++ rest ∧ value = Text.digitsValue 0 digits := by
  rw [fixedNumber, bind_eq_some] at read
  obtain ⟨digits, middle, digitsRead, done⟩ := read
  obtain ⟨shape, allDigits⟩ := digitsUpTo_sound digitsRead
  split at done
  · rename_i length
    obtain ⟨same, rfl⟩ := pure_eq_some.mp done
    exact ⟨digits, ⟨length, allDigits⟩, shape, same.symm⟩
  · exact absurd done (by simp [failure, StateT.failure])

/-- Blanks end before a row of digits. -/
theorem trimStart_row {count : Nat} {digits : List Char} (row : IsRow (count + 1) digits)
    (rest : List Char) : Text.trimStart (digits ++ rest) = digits ++ rest := by
  cases digits with
  | nil => exact absurd row.length (by simp)
  | cons first others =>
    have visible : Text.isBlank first = false :=
      Text.isBlank_of_isDigit (row.all first List.mem_cons_self)
    exact List.dropWhile_cons_of_neg (by simp [visible])

theorem blanks_apply (text : List Char) : blanks text = some ((), Text.trimStart text) := rfl

theorem number_row {count : Nat} {digits : List Char} (row : IsRow (count + 1) digits)
    (rest : List Char) :
    number (count + 1) (digits ++ rest) = some (Text.digitsValue 0 digits, rest) := by
  have present : digits.isEmpty = false := by
    cases digits with
    | nil => exact absurd row.length (by simp)
    | cons => rfl
  have start : blanks (digits ++ rest) = some ((), digits ++ rest) := by
    rw [blanks_apply, trimStart_row row]
  rw [number, bind_apply, start, Option.bind_some, bind_apply, digitsUpTo_row row,
    Option.bind_some, if_neg (by simp [present])]
  rfl

/-- A year of four digits has no sign. -/
theorem year_row {digits : List Char} (row : IsRow 4 digits) (rest : List Char) :
    year (digits ++ rest) = some ((Text.digitsValue 0 digits : Int), rest) := by
  have start : blanks (digits ++ rest) = some ((), digits ++ rest) := by
    rw [blanks_apply, trimStart_row row]
  have read := number_row row rest
  cases digits with
  | nil => exact absurd row.length (by simp)
  | cons first others =>
    have digit : Text.isDigit first = true := row.all first List.mem_cons_self
    have notMinus : first ≠ '-' := by
      rintro rfl
      exact absurd digit (by decide)
    have notPlus : first ≠ '+' := by
      rintro rfl
      exact absurd digit (by decide)
    rw [year, bind_apply, start, Option.bind_some, bind_apply, get_apply, Option.bind_some]
    simp only [List.cons_append] at read ⊢
    -- Neither sign is the first character, so the match comes to its last branch.
    simp only [List.cons.injEq, notMinus, notPlus, false_and, imp_false, not_false_eq_true,
      implies_true]
    rw [bind_apply, read]
    rfl

/-! ### Numbers of free width -/

/-- A character of a number, of its fraction or of the blanks before it. -/
def IsNumeric (character : Char) : Prop :=
  Text.isDigit character = true ∨ Text.isBlank character = true ∨ character = '.'

theorem allDigits_sound {text digits rest : List Char}
    (read : allDigits text = some (digits, rest)) :
    text = digits ++ rest ∧ ∀ digit ∈ digits, Text.isDigit digit = true := by
  simp only [allDigits] at read
  split at read
  · exact absurd read (by simp)
  · simp only [Option.some.injEq, Prod.mk.injEq] at read
    obtain ⟨rfl, rfl⟩ := read
    exact ⟨List.takeWhile_append_dropWhile.symm, fun _ member => List.mem_takeWhile_imp member⟩

theorem blanks_sound {text rest : List Char} (read : blanks text = some ((), rest)) :
    ∃ taken, text = taken ++ rest ∧ ∀ character ∈ taken, IsNumeric character := by
  obtain rfl : Text.trimStart text = rest := (Prod.mk.inj (Option.some.inj read)).2
  exact ⟨_, List.takeWhile_append_dropWhile.symm, fun _ member =>
    .inr (.inl (List.mem_takeWhile_imp member))⟩

theorem number_sound {most value : Nat} {text rest : List Char}
    (read : number most text = some (value, rest)) :
    ∃ taken, text = taken ++ rest ∧ ∀ character ∈ taken, IsNumeric character := by
  simp only [number, bind_eq_some] at read
  obtain ⟨_, _, blanksRead, digits, middle, digitsRead, done⟩ := read
  obtain ⟨before, rfl, beforeNumeric⟩ := blanks_sound blanksRead
  obtain ⟨rfl, allDigits⟩ := digitsUpTo_sound digitsRead
  have same : middle = rest := by
    split at done
    · exact absurd done (by simp [failure, StateT.failure])
    · exact (pure_eq_some.mp done).2
  refine ⟨before ++ digits, by rw [same, List.append_assoc], fun character member => ?_⟩
  rcases List.mem_append.mp member with blank | digit
  · exact beforeNumeric character blank
  · exact .inl (allDigits character digit)

theorem fraction_sound {text rest : List Char} {nanosecond : Nat}
    (read : fraction text = some (nanosecond, rest)) :
    ∃ taken, text = taken ++ rest ∧ ∀ character ∈ taken, IsNumeric character := by
  simp only [fraction, bind_eq_some, get_apply, Option.some.injEq, Prod.mk.injEq] at read
  obtain ⟨_, _, ⟨rfl, rfl⟩, read⟩ := read
  split at read
  · simp only [bind_eq_some, set_apply, Option.some.injEq, Prod.mk.injEq] at read
    obtain ⟨_, _, ⟨_, rfl⟩, digits, _, digitsRead, done⟩ := read
    obtain ⟨_, rfl⟩ := pure_eq_some.mp done
    obtain ⟨rfl, allDigits⟩ := allDigits_sound digitsRead
    exact ⟨'.' :: digits, rfl, List.forall_mem_cons.mpr
      ⟨.inr (.inr rfl), fun digit member => .inl (allDigits digit member)⟩⟩
  · obtain ⟨_, rfl⟩ := pure_eq_some.mp read
    exact ⟨[], rfl, fun _ none => absurd none List.not_mem_nil⟩

/-! ### Offsets -/

/-- The texts that write an offset: the letter of UTC, or a sign with hours and minutes of two
digits each, less than a day. -/
inductive WritesOffset : List Char → Int → Prop
  /-- The letter of UTC. -/
  | utc {letter : Char} (zulu : letter = 'Z' ∨ letter = 'z') : WritesOffset [letter] 0
  /-- A sign, which may also be the true minus sign, with hours and minutes. -/
  | signed {sign : Char} {hours minutes : List Char}
      (signs : sign = '+' ∨ sign = '-' ∨ sign = '\u2212') (hoursRow : IsRow 2 hours)
      (minutesRow : IsRow 2 minutes) (hoursFit : Text.digitsValue 0 hours < 24)
      (minutesFit : Text.digitsValue 0 minutes < 60) :
      WritesOffset (sign :: (hours ++ ':' :: minutes))
        (if sign = '+' then (Text.digitsValue 0 hours * 3600 + Text.digitsValue 0 minutes * 60 : Int)
          else -(Text.digitsValue 0 hours * 3600 + Text.digitsValue 0 minutes * 60))

theorem signedOffset_sound {text rest : List Char} {seconds : Int}
    (read : signedOffset (mark ':') text = some (seconds, rest)) :
    ∃ written, text = written ++ rest ∧ WritesOffset written seconds := by
  simp only [signedOffset, offsetSign, bind_eq_some] at read
  obtain ⟨_, _, ⟨sign, _, signFound, signDone⟩, _, _, hoursRead, _, _, colonRead, _, _,
    minutesRead, done⟩ := read
  obtain ⟨rfl, signs⟩ := character_eq_some.mp signFound
  obtain ⟨rfl, rfl⟩ := pure_eq_some.mp signDone
  obtain ⟨hours, hoursRow, rfl, rfl⟩ := fixedNumber_sound hoursRead
  obtain rfl := mark_eq_some.mp colonRead
  obtain ⟨minutes, minutesRow, rfl, rfl⟩ := fixedNumber_sound minutesRead
  split at done
  case isFalse => exact absurd done (by simp [failure, StateT.failure])
  case isTrue small =>
    obtain ⟨rfl, rfl⟩ := pure_eq_some.mp done
    refine ⟨sign :: (hours ++ ':' :: minutes), by simp, ?_⟩
    have marks : sign = '+' ∨ sign = '-' ∨ sign = '\u2212' := by simpa [or_assoc] using signs
    have value := WritesOffset.signed marks hoursRow minutesRow small.2 small.1
    by_cases plus : sign = '+'
    · simpa [plus] using value
    · simpa [plus] using value

/-- What is read as an offset writes it. -/
theorem offset_sound {text rest : List Char} {seconds : Int}
    (read : offset (mark ':') text = some (seconds, rest)) :
    ∃ written, text = written ++ rest ∧ WritesOffset written seconds := by
  simp only [offset, bind_eq_some, get_apply, Option.some.injEq, Prod.mk.injEq] at read
  obtain ⟨_, _, ⟨rfl, rfl⟩, read⟩ := read
  split at read
  · split at read
    · rename_i letter
      simp only [bind_eq_some, set_apply, Option.some.injEq, Prod.mk.injEq] at read
      obtain ⟨_, _, ⟨_, rfl⟩, done⟩ := read
      obtain ⟨rfl, rfl⟩ := pure_eq_some.mp done
      exact ⟨_, rfl, .utc letter⟩
    · exact signedOffset_sound read
  · exact absurd read (by simp [failure, StateT.failure])

/-- An offset ends in a character that is no blank. -/
theorem WritesOffset.ends {written : List Char} {seconds : Int}
    (writes : WritesOffset written seconds) :
    ∃ front last, written = front ++ [last] ∧ Text.isBlank last = false := by
  cases writes with
  | @utc letter zulu =>
    refine ⟨[], letter, rfl, ?_⟩
    rcases zulu with rfl | rfl <;> decide
  | @signed sign hours minutes _ _ minutesRow =>
    obtain ⟨tens, ones, rfl⟩ := List.length_eq_two.mp minutesRow.length
    exact ⟨sign :: (hours ++ [':', tens]), ones, by simp,
      Text.isBlank_of_isDigit (minutesRow.all ones (by simp))⟩

/-! ### The strict form -/

/-- The texts that have the strict form of a zoned time with an offset, before a rest: fields of
full width with their marks, a fraction, and the offset. -/
inductive StrictForm (seconds : Int) (rest : List Char) : List Char → Prop
  | fields {year month day hour minute second tail after : List Char} {between : Char}
      {nanosecond : Nat} (yearRow : IsRow 4 year) (monthRow : IsRow 2 month)
      (dayRow : IsRow 2 day) (parted : between = 'T' ∨ between = 't' ∨ between = ' ')
      (hourRow : IsRow 2 hour) (minuteRow : IsRow 2 minute) (secondRow : IsRow 2 second)
      (fractionRead : fraction tail = some (nanosecond, after))
      (offsetRead : offset (mark ':') after = some (seconds, rest)) :
      StrictForm seconds rest (year ++ '-' :: (month ++ '-' :: (day ++ between ::
        (hour ++ ':' :: (minute ++ ':' :: (second ++ tail))))))

/-- What the strict reader reads has the strict form. -/
theorem zonedText_sound {text rest : List Char} {time : ZonedTime}
    (read : zonedText text = some (time, rest)) : StrictForm time.offset rest text := by
  simp only [zonedText, bind_eq_some] at read
  obtain ⟨_, _, yearRead, _, _, firstHyphen, _, _, monthRead, _, _, secondHyphen, _, _, dayRead,
    _, _, divided, _, _, hourRead, _, _, firstColon, _, _, minuteRead, _, _, secondColon, _, _,
    secondRead, _, _, fractionRead, _, _, offsetRead, _, _, clockRead, zonedRead⟩ := read
  obtain ⟨year, yearRow, rfl, _⟩ := fixedNumber_sound yearRead
  obtain rfl := mark_eq_some.mp firstHyphen
  obtain ⟨month, monthRow, rfl, _⟩ := fixedNumber_sound monthRead
  obtain rfl := mark_eq_some.mp secondHyphen
  obtain ⟨day, dayRow, rfl, _⟩ := fixedNumber_sound dayRead
  simp only [divider, bind_eq_some] at divided
  obtain ⟨between, _, betweenRead, betweenDone⟩ := divided
  obtain ⟨rfl, parted⟩ := character_eq_some.mp betweenRead
  obtain ⟨_, rfl⟩ := pure_eq_some.mp betweenDone
  obtain ⟨hour, hourRow, rfl, _⟩ := fixedNumber_sound hourRead
  obtain rfl := mark_eq_some.mp firstColon
  obtain ⟨minute, minuteRow, rfl, _⟩ := fixedNumber_sound minuteRead
  obtain rfl := mark_eq_some.mp secondColon
  obtain ⟨second, secondRow, rfl, _⟩ := fixedNumber_sound secondRead
  rw [lift_apply, Option.map_eq_some_iff] at clockRead zonedRead
  obtain ⟨_, _, clockSame⟩ := clockRead
  obtain ⟨_, zoned, zonedSame⟩ := zonedRead
  obtain ⟨_, rfl⟩ := Prod.mk.inj clockSame
  obtain ⟨rfl, rfl⟩ := Prod.mk.inj zonedSame
  simp only [ZonedTime.ofLocal?, Option.ite_none_right_eq_some, Option.some.injEq] at zoned
  obtain ⟨_, rfl⟩ := zoned
  refine .fields yearRow monthRow dayRow ?_ hourRow minuteRow secondRow fractionRead offsetRead
  simpa [or_assoc] using parted

/-- A text of the strict form begins with a digit. -/
theorem StrictForm.begins {text rest : List Char} {seconds : Int}
    (form : StrictForm seconds rest text) :
    ∃ first others, text = first :: others ∧ Text.isDigit first = true := by
  cases form with
  | @fields year _ _ _ _ _ _ _ _ _ yearRow =>
    cases year with
    | nil => exact absurd yearRow.length (by simp)
    | cons first others => exact ⟨first, _, rfl, yearRow.all first List.mem_cons_self⟩

/-- A text of the strict form ends, before its rest, in its offset. -/
theorem StrictForm.ends {text rest : List Char} {seconds : Int}
    (form : StrictForm seconds rest text) :
    ∃ front written, text = front ++ written ++ rest ∧ WritesOffset written seconds := by
  cases form with
  | @fields year month day hour minute second _ _ between _ _ _ _ _ _ _ _ fractionRead
      offsetRead =>
    obtain ⟨taken, rfl, _⟩ := fraction_sound fractionRead
    obtain ⟨written, rfl, writes⟩ := offset_sound offsetRead
    refine ⟨year ++ '-' :: (month ++ '-' :: (day ++ between ::
      (hour ++ ':' :: (minute ++ ':' :: (second ++ taken))))), written, ?_, writes⟩
    simp only [List.append_assoc, List.cons_append]

end Reader

/-! ### Stored texts -/

theorem ZonedTime.strictForm_of_ofText? {text : List Char} {time : ZonedTime}
    (zoned : ZonedTime.ofText? text = some time) : Reader.StrictForm time.offset [] text := by
  rw [ZonedTime.ofText?, Reader.readAll?] at zoned
  split at zoned
  · rename_i found read
    obtain rfl := Option.some.inj zoned
    exact Reader.zonedText_sound read
  · exact absurd zoned (by simp)

/-- A text that is read as a zoned time has no blanks around it. -/
theorem ZonedTime.trim_of_ofText? {text : List Char} {time : ZonedTime}
    (zoned : ZonedTime.ofText? text = some time) : Text.trim text = text := by
  have form := ZonedTime.strictForm_of_ofText? zoned
  obtain ⟨first, others, startsWith, digit⟩ := form.begins
  obtain ⟨front, written, endsWith, writes⟩ := form.ends
  obtain ⟨inner, last, rfl, lastVisible⟩ := writes.ends
  refine Text.trim_eq_self (fun found member => ?_) fun found member => ?_
  · rw [startsWith, List.head?_cons, Option.mem_some_iff] at member
    exact member ▸ Text.isBlank_of_isDigit digit
  · rw [endsWith, List.append_nil, ← List.append_assoc, List.getLast?_concat,
      Option.mem_some_iff] at member
    exact member ▸ lastVisible

end Sieve.Calendar
