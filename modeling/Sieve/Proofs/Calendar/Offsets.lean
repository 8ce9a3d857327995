/-
This file proves that the two readers of stored times agree. A text with an offset ends in
it, and a text that is read without one ends in a time of day, which no offset can be: its
last colon has another colon before it, with nothing between the two but a number. So no
text has both forms, and the order in which the readers try the forms never matters. What
they read is one point in time, but for the offset that the text carries.
-/

import Sieve.Proofs.Calendar.Forms
import Sieve.Proofs.Datum.Typed

namespace Sieve

namespace Calendar

/-! ### Texts with an offset -/

/-- Whether a text ends in an offset. -/
def CarriesOffset (text : List Char) (seconds : Int) : Prop :=
  ∃ front written, text = front ++ written ∧ Reader.WritesOffset written seconds

theorem ZonedTime.carriesOffset {text : List Char} {time : ZonedTime}
    (zoned : ZonedTime.ofText? text = some time) : CarriesOffset text time.offset := by
  obtain ⟨front, written, shape, writes⟩ := (strictForm_of_ofText? zoned).ends
  exact ⟨front, written, by rw [shape, List.append_nil], writes⟩

namespace Reader

theorem IsRow.isNumeric {count : Nat} {digits : List Char} (row : IsRow count digits) :
    ∀ character ∈ digits, IsNumeric character :=
  fun character member => .inl (row.all character member)

theorem not_isNumeric_colon : ¬IsNumeric ':' := by
  unfold IsNumeric
  decide

theorem not_isNumeric_of_sign {sign : Char}
    (signs : sign = '+' ∨ sign = '-' ∨ sign = '\u2212') : ¬IsNumeric sign := by
  unfold IsNumeric
  rcases signs with rfl | rfl | rfl <;> decide

theorem not_isNumeric_of_zulu {letter : Char} (zulu : letter = 'Z' ∨ letter = 'z') :
    ¬IsNumeric letter := by
  unfold IsNumeric
  rcases zulu with rfl | rfl <;> decide

/-- Where the last mark of a text is a colon, an offset at its end has a sign. -/
theorem WritesOffset.signed_of_colon {front written left rest : List Char} {seconds : Int}
    (writes : WritesOffset written seconds) (numeric : ∀ character ∈ rest, IsNumeric character)
    (same : front ++ written = left ++ ':' :: rest) :
    ∃ sign hours, (sign = '+' ∨ sign = '-' ∨ sign = '\u2212') ∧ IsRow 2 hours ∧
      left = front ++ sign :: hours ∧
      seconds = if sign = '+'
        then (Text.digitsValue 0 hours * 3600 + Text.digitsValue 0 rest * 60 : Int)
        else -(Text.digitsValue 0 hours * 3600 + Text.digitsValue 0 rest * 60) := by
  cases writes with
  | utc zulu =>
    obtain ⟨_, rfl, _⟩ := Text.append_cons_last_inj (fun _ none => absurd none List.not_mem_nil)
      numeric (not_isNumeric_of_zulu zulu) not_isNumeric_colon same
    exact absurd zulu (by decide)
  | @signed sign hours minutes signs hoursRow minutesRow =>
    have shape : (front ++ sign :: hours) ++ ':' :: minutes = left ++ ':' :: rest := by
      rw [← same, List.append_assoc, List.cons_append]
    obtain ⟨rfl, _, rfl⟩ := Text.append_cons_last_inj minutesRow.isNumeric numeric
      not_isNumeric_colon not_isNumeric_colon shape
    exact ⟨sign, hours, signs, hoursRow, rfl, rfl⟩

end Reader

/-- Where the last mark of a text is no colon, an offset at its end is that of UTC. -/
theorem CarriesOffset.eq_zero {text : List Char} {seconds : Int}
    (carries : CarriesOffset text seconds)
    (apart : ∀ left rest, (∀ character ∈ rest, Reader.IsNumeric character) →
      text ≠ left ++ ':' :: rest) : seconds = 0 := by
  obtain ⟨front, _, rfl, writes⟩ := carries
  cases writes with
  | utc => rfl
  | @signed sign hours minutes _ _ minutesRow =>
    exact absurd (by simp) (apart (front ++ sign :: hours) minutes minutesRow.isNumeric)

/-- A text carries one offset. -/
theorem CarriesOffset.unique {text : List Char} {seconds other : Int}
    (first : CarriesOffset text seconds) (second : CarriesOffset text other) :
    seconds = other := by
  by_cases colon : ∃ left rest, (∀ character ∈ rest, Reader.IsNumeric character) ∧
      text = left ++ ':' :: rest
  · obtain ⟨left, rest, numeric, shape⟩ := colon
    obtain ⟨_, _, firstShape, firstWrites⟩ := first
    obtain ⟨_, _, secondShape, secondWrites⟩ := second
    obtain ⟨sign, hours, signs, hoursRow, rfl, value⟩ :=
      firstWrites.signed_of_colon numeric (firstShape.symm.trans shape)
    obtain ⟨_, _, otherSigns, otherRow, same, otherValue⟩ :=
      secondWrites.signed_of_colon numeric (secondShape.symm.trans shape)
    obtain ⟨_, rfl, rfl⟩ :=
      Text.append_cons_last_inj hoursRow.isNumeric otherRow.isNumeric
        (Reader.not_isNumeric_of_sign signs) (Reader.not_isNumeric_of_sign otherSigns) same
    rw [value, otherValue]
  · have apart (left rest : List Char) (numeric : ∀ character ∈ rest, Reader.IsNumeric character) :
        text ≠ left ++ ':' :: rest := fun shape => colon ⟨left, rest, numeric, shape⟩
    rw [first.eq_zero apart, second.eq_zero apart]

/-! ### Texts without an offset -/

namespace Reader

theorem nothing_eq_some {text rest : List Char} :
    nothing text = some ((), rest) ↔ text = rest := by
  rw [nothing, pure_eq_some]
  exact and_iff_right rfl

/-- A year leaves the end of its text. -/
theorem year_sound {text rest : List Char} {value : Int}
    (read : year text = some (value, rest)) : rest <:+ text := by
  simp only [year, bind_eq_some, get_apply, Option.some.injEq, Prod.mk.injEq] at read
  obtain ⟨_, _, blanksRead, _, _, ⟨rfl, rfl⟩, read⟩ := read
  obtain ⟨taken, rfl, _⟩ := blanks_sound blanksRead
  refine List.IsSuffix.trans ?_ (List.suffix_append taken _)
  split at read
  case h_3 =>
    simp only [bind_eq_some] at read
    obtain ⟨_, _, numberRead, done⟩ := read
    obtain ⟨_, rfl⟩ := pure_eq_some.mp done
    obtain ⟨digits, rfl, _⟩ := number_sound numberRead
    exact List.suffix_append digits _
  all_goals
    simp only [bind_eq_some, set_apply, Option.some.injEq, Prod.mk.injEq] at read
    obtain ⟨_, _, ⟨_, rfl⟩, digits, _, digitsRead, done⟩ := read
    obtain ⟨_, rfl⟩ := pure_eq_some.mp done
    obtain ⟨rfl, _⟩ := allDigits_sound digitsRead
    exact List.suffix_append (_ :: digits) _

/-- A date leaves the end of its text. -/
theorem date_sound {text rest : List Char} {found : Date}
    (read : date nothing text = some (found, rest)) : rest <:+ text := by
  simp only [date, bind_eq_some] at read
  obtain ⟨_, _, yearRead, _, _, firstGap, _, _, firstHyphen, _, _, monthRead, _, _, secondGap,
    _, _, secondHyphen, _, _, dayRead, done⟩ := read
  obtain ⟨_, rfl⟩ := pure_eq_some.mp done
  refine List.IsSuffix.trans ?_ (year_sound yearRead)
  obtain rfl := nothing_eq_some.mp firstGap
  obtain rfl := mark_eq_some.mp firstHyphen
  obtain ⟨month, rfl, _⟩ := number_sound monthRead
  obtain rfl := nothing_eq_some.mp secondGap
  obtain rfl := mark_eq_some.mp secondHyphen
  obtain ⟨day, rfl, _⟩ := number_sound dayRead
  exact ⟨'-' :: (month ++ '-' :: day), by simp⟩

/-- A time of day takes two colons from its text, with a number between them and one after. -/
theorem timeOfDay_sound {text rest : List Char} {time : WallClock.TimeOfDay}
    (read : timeOfDay nothing text = some (time, rest)) :
    ∃ hour minute second, text = hour ++ ':' :: (minute ++ ':' :: (second ++ rest)) ∧
      (∀ character ∈ minute, IsNumeric character) ∧ ∀ character ∈ second, IsNumeric character := by
  simp only [timeOfDay, bind_eq_some] at read
  obtain ⟨_, _, hourRead, _, _, firstGap, _, _, firstColon, _, _, minuteRead, _, _, secondGap,
    _, _, secondColon, _, _, secondRead, _, _, fractionRead, done⟩ := read
  obtain ⟨_, rfl⟩ := pure_eq_some.mp done
  obtain ⟨hour, rfl, _⟩ := number_sound hourRead
  obtain rfl := nothing_eq_some.mp firstGap
  obtain rfl := mark_eq_some.mp firstColon
  obtain ⟨minute, rfl, minuteNumeric⟩ := number_sound minuteRead
  obtain rfl := nothing_eq_some.mp secondGap
  obtain rfl := mark_eq_some.mp secondColon
  obtain ⟨second, rfl, secondNumeric⟩ := number_sound secondRead
  obtain ⟨taken, rfl, fractionNumeric⟩ := fraction_sound fractionRead
  refine ⟨hour, minute, second ++ taken, by simp only [List.append_assoc], minuteNumeric,
    fun character member => ?_⟩
  rcases List.mem_append.mp member with whole | part
  · exact secondNumeric character whole
  · exact fractionNumeric character part

/-- A wall clock without a zone is read from a text that ends in a time of day. -/
theorem clockText_sound {between : Reader Unit} (usual : between = mark 'T' ∨ between = blanks)
    {text rest : List Char} {clock : WallClock}
    (read : clockText between text = some (clock, rest)) :
    ∃ front minute second, text = front ++ ':' :: (minute ++ ':' :: (second ++ rest)) ∧
      (∀ character ∈ minute, IsNumeric character) ∧ ∀ character ∈ second, IsNumeric character := by
  simp only [clockText, bind_eq_some] at read
  obtain ⟨_, _, dateRead, _, middle, betweenRead, _, _, timeRead, clockRead⟩ := read
  rw [lift_apply, Option.map_eq_some_iff] at clockRead
  obtain ⟨_, _, same⟩ := clockRead
  obtain ⟨_, rfl⟩ := Prod.mk.inj same
  have leaves : middle <:+ text := by
    refine List.IsSuffix.trans ?_ (date_sound dateRead)
    rcases usual with rfl | rfl
    · obtain rfl := mark_eq_some.mp betweenRead
      exact List.suffix_cons 'T' middle
    · obtain ⟨taken, rfl, _⟩ := blanks_sound betweenRead
      exact List.suffix_append taken middle
  obtain ⟨front, rfl⟩ := leaves
  obtain ⟨hour, minute, second, rfl, numeric⟩ := timeOfDay_sound timeRead
  exact ⟨front ++ hour, minute, second, by simp only [List.append_assoc], numeric⟩

end Reader

/-- What is read as a wall clock without a zone carries no offset. -/
theorem WallClock.not_carriesOffset {text : List Char} {clock : WallClock}
    (plain : WallClock.ofPlainText? text = some clock) (seconds : Int) :
    ¬CarriesOffset text seconds := by
  have form {between : Reader Unit} (usual : between = Reader.mark 'T' ∨ between = Reader.blanks)
      (read : (Reader.clockText between).readAll? text = some clock) :
      ¬CarriesOffset text seconds := by
    rintro ⟨written, zone, shape, writes⟩
    rw [Reader.readAll?] at read
    split at read
    case h_2 => exact absurd read (by simp)
    case h_1 clockRead =>
      obtain ⟨front, minute, second, times, minuteNumeric, secondNumeric⟩ :=
        Reader.clockText_sound usual clockRead
      rw [List.append_nil] at times
      -- The mark before the last colon is the colon of the hour and not the sign of an offset.
      have whole : written ++ zone = (front ++ ':' :: minute) ++ ':' :: second := by
        rw [← shape, times, List.append_assoc, List.cons_append]
      obtain ⟨sign, hours, signs, hoursRow, same, _⟩ := writes.signed_of_colon secondNumeric whole
      obtain ⟨_, rfl, _⟩ := Text.append_cons_last_inj minuteNumeric hoursRow.isNumeric
        Reader.not_isNumeric_colon (Reader.not_isNumeric_of_sign signs) same
      exact absurd signs (by decide)
  rw [ofPlainText?, Option.or_eq_some_iff] at plain
  rcases plain with capital | ⟨_, blanks⟩
  · exact form (.inl rfl) capital
  · exact form (.inr rfl) blanks

/-! ### Both readers -/

section

variable {text : List Char} {time : ZonedTime}

/-- No text has both forms. -/
theorem WallClock.ofPlainText?_of_zoned (zoned : ZonedTime.ofText? text = some time) :
    WallClock.ofPlainText? text = none :=
  Option.eq_none_iff_forall_ne_some.mpr fun _ plain =>
    not_carriesOffset plain time.offset (ZonedTime.carriesOffset zoned)

theorem WallClock.ofText?_of_zoned (zoned : ZonedTime.ofText? text = some time) :
    WallClock.ofText? text = some time.wallClock := by
  rw [ofText?, ofPlainText?_of_zoned zoned, Option.none_or, zoned, Option.map_some]

theorem Instant.ofText?_of_zoned (zoned : ZonedTime.ofText? text = some time) :
    Instant.ofText? text = some time.instant := by
  rw [ofText?, zoned, Option.map_some, Option.some_or]

theorem WallClock.ofText?_of_not_zoned (other : ZonedTime.ofText? text = none) :
    WallClock.ofText? text = WallClock.ofPlainText? text := by
  rw [ofText?, other, Option.map_none, Option.or_none]

theorem Instant.ofText?_of_not_zoned (other : ZonedTime.ofText? text = none) :
    Instant.ofText? text = (WallClock.ofPlainText? text).map Instant.mk := by
  rw [ofText?, other, Option.map_none, Option.none_or]

end

/-- A stored text is read as the same point in time by both readers unless it is written with
an offset other than zero. -/
theorem WallClock.ofText?_eq_iff (text : List Char) :
    WallClock.ofText? text = (Instant.ofText? text).map Instant.utc ↔
      ∀ time, ZonedTime.ofText? text = some time → time.offset = 0 := by
  cases zoned : ZonedTime.ofText? text with
  | none =>
    rw [ofText?_of_not_zoned zoned, Instant.ofText?_of_not_zoned zoned, Option.map_map]
    simp only [reduceCtorEq, false_imp_iff, implies_true, iff_true]
    exact (Option.map_id_apply).symm
  | some time =>
    rw [ofText?_of_zoned zoned, Instant.ofText?_of_zoned zoned, ZonedTime.wallClock, shift]
    simp only [Option.map_some, Option.some.injEq, forall_eq']
    constructor
    · intro same
      have seconds := congrArg second same
      simp only at seconds
      omega
    · intro zero
      rw [zero, Int.add_zero]

/-- The instant of a stored text is the wall clock that the text shows, put back by the offset
that it carries. -/
theorem Instant.ofText?_eq_some_iff {text : List Char} {instant : Instant} :
    Instant.ofText? text = some instant ↔
      ∃ clock, WallClock.ofText? text = some clock ∧
        (((∀ offset, ¬CarriesOffset text offset) ∧ instant = ⟨clock⟩) ∨
          ∃ offset, CarriesOffset text offset ∧ instant = ⟨clock.shift (-offset)⟩) := by
  cases zoned : ZonedTime.ofText? text with
  | none =>
    rw [WallClock.ofText?_of_not_zoned zoned, ofText?_of_not_zoned zoned, Option.map_eq_some_iff]
    constructor
    · rintro ⟨clock, plain, rfl⟩
      exact ⟨clock, plain, .inl ⟨WallClock.not_carriesOffset plain, rfl⟩⟩
    · rintro ⟨clock, plain, ⟨_, same⟩ | ⟨offset, carries, _⟩⟩
      · exact ⟨clock, plain, same.symm⟩
      · exact absurd carries (WallClock.not_carriesOffset plain offset)
  | some time =>
    have carries := ZonedTime.carriesOffset zoned
    have back : time.wallClock.shift (-time.offset) = time.instant.utc := by
      rw [ZonedTime.wallClock, WallClock.shift, WallClock.shift, Int.add_neg_cancel_right]
    rw [WallClock.ofText?_of_zoned zoned, ofText?_of_zoned zoned, Option.some.injEq]
    constructor
    · rintro rfl
      exact ⟨_, rfl, .inr ⟨_, carries, by rw [back]⟩⟩
    · rintro ⟨_, shown, ⟨without, _⟩ | ⟨offset, other, rfl⟩⟩
      · exact absurd carries (without time.offset)
      · rw [← Option.some.inj shown, ← carries.unique other, back]

end Calendar

/-! ### Texts that are cast -/

namespace Datum

open Calendar

variable {content : String}

theorem cast_text_timestamp_eq_ok {clock : WallClock} :
    (text content).cast .timestamp = .ok (timestamp clock) ↔
      WallClock.ofText? (Text.trim content.toList) = some clock := by
  rw [cast_eq_ok, show (text content).cast? .timestamp =
    (WallClock.ofText? (Text.trim content.toList)).map timestamp from rfl]
  simp

theorem cast_text_timestampTz_eq_ok {instant : Instant} :
    (text content).cast .timestampTz = .ok (timestampTz instant) ↔
      Instant.ofText? (Text.trim content.toList) = some instant := by
  rw [cast_eq_ok, show (text content).cast? .timestampTz =
    (Instant.ofText? (Text.trim content.toList)).map timestampTz from rfl]
  simp

/-- The two casts of a text to a point in time agree. They succeed on the same texts. Where the
text carries no offset, the instant is the wall clock in UTC, and where it carries one, the
instant is the wall clock put back by it, with the fraction or leap second kept. No text is read
both with and without an offset, so either reader reads the same with the forms in the other
order. -/
theorem cast_text_times_agree (content : String) :
    ((∃ clock, (text content).cast .timestamp = .ok (timestamp clock)) ↔
        ∃ instant, (text content).cast .timestampTz = .ok (timestampTz instant)) ∧
      (∀ clock instant, (text content).cast .timestamp = .ok (timestamp clock) →
        (text content).cast .timestampTz = .ok (timestampTz instant) →
          ((∀ offset, ¬CarriesOffset (Text.trim content.toList) offset) → instant.utc = clock) ∧
            ∀ offset, CarriesOffset (Text.trim content.toList) offset →
              instant.utc.second = clock.second - offset ∧
                instant.utc.nanosecond = clock.nanosecond) ∧
      ∀ shown, (WallClock.ofPlainText? shown = none ∨ ZonedTime.ofText? shown = none) ∧
        WallClock.ofText? shown =
          ((ZonedTime.ofText? shown).map ZonedTime.wallClock).or (WallClock.ofPlainText? shown) ∧
        Instant.ofText? shown =
          ((WallClock.ofPlainText? shown).map Instant.mk).or
            ((ZonedTime.ofText? shown).map ZonedTime.instant) := by
  simp only [cast_text_timestamp_eq_ok, cast_text_timestampTz_eq_ok]
  refine ⟨⟨?_, ?_⟩, fun clock instant shows reads => ?_, fun shown => ?_⟩
  · rintro ⟨clock, shows⟩
    by_cases carries : ∃ offset, CarriesOffset (Text.trim content.toList) offset
    · obtain ⟨offset, carries⟩ := carries
      exact ⟨_, Instant.ofText?_eq_some_iff.mpr ⟨clock, shows, .inr ⟨offset, carries, rfl⟩⟩⟩
    · exact ⟨_, Instant.ofText?_eq_some_iff.mpr ⟨clock, shows, .inl ⟨not_exists.mp carries, rfl⟩⟩⟩
  · rintro ⟨instant, reads⟩
    obtain ⟨clock, shows, _⟩ := Instant.ofText?_eq_some_iff.mp reads
    exact ⟨clock, shows⟩
  · obtain ⟨other, otherShows, cases⟩ := Instant.ofText?_eq_some_iff.mp reads
    obtain rfl := Option.some.inj (shows.symm.trans otherShows)
    rcases cases with ⟨without, rfl⟩ | ⟨offset, carries, rfl⟩
    · exact ⟨fun _ => rfl, fun offset carries => absurd carries (without offset)⟩
    · refine ⟨fun without => absurd carries (without offset), fun found foundCarries => ?_⟩
      rw [foundCarries.unique carries]
      exact ⟨Int.sub_eq_add_neg.symm, rfl⟩
  · cases zoned : ZonedTime.ofText? shown with
    | none =>
      rw [WallClock.ofText?_of_not_zoned zoned, Instant.ofText?_of_not_zoned zoned]
      simp
    | some time =>
      rw [WallClock.ofText?_of_zoned zoned, Instant.ofText?_of_zoned zoned,
        WallClock.ofPlainText?_of_zoned zoned]
      simp

end Datum

end Sieve
