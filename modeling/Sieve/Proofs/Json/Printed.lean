/-
This file proves that the printed form of a JSON value that is no text is never read
as a zoned time. A zoned time is written with colons and begins with a digit. Numbers
and words are printed without colons, and arrays and objects begin with a bracket.
-/

import Sieve.Json.Printer
import Sieve.Proofs.Calendar.Forms
import Sieve.Proofs.Text.Integers

namespace Sieve

open Calendar

/-! ### Numbers -/

theorem Text.colon_not_mem_digitsOf (number : Nat) : ':' ∉ Text.digitsOf number :=
  fun member => absurd (Text.isDigit_of_mem_digitsOf member) (by decide)

theorem Text.colon_not_mem_writeInt (integer : Int) : ':' ∉ Text.writeInt integer := by
  rw [Text.writeInt]
  split <;> simp [Text.colon_not_mem_digitsOf]

namespace Layout

theorem colon_not_mem_positional (layout : Layout) {digits : List Char} (absent : ':' ∉ digits)
    (power : Int) : ':' ∉ layout.positional digits power := by
  rw [positional]
  split
  · simp [absent, List.mem_replicate]
  · dsimp only
    split
    · split <;> simp [absent, List.mem_replicate]
    · rw [List.mem_append, List.mem_cons]
      rintro (taken | point | dropped)
      · exact absent (List.mem_of_mem_take taken)
      · exact absurd point (by decide)
      · exact absent (List.mem_of_mem_drop dropped)

theorem colon_not_mem_scientific (layout : Layout) {digits : List Char} (absent : ':' ∉ digits)
    (power : Int) : ':' ∉ layout.scientific digits power := by
  have ending : ':' ∉ 'e' ::
      (if power < 0 then ['-'] else if layout.signsExponent then ['+'] else []) ++
        Text.digitsOf power.natAbs := by
    rw [List.mem_append, List.mem_cons]
    rintro ((letter | sign) | exponent)
    · exact absurd letter (by decide)
    · split at sign
      · exact absurd sign (by decide)
      · split at sign <;> exact absurd sign (by decide)
    · exact Text.colon_not_mem_digitsOf _ exponent
  have behind (mantissa : List Char) (plain : ':' ∉ mantissa) :
      ':' ∉ mantissa ++ 'e' ::
        (if power < 0 then ['-'] else if layout.signsExponent then ['+'] else []) ++
          Text.digitsOf power.natAbs := by
    rw [List.append_assoc, List.mem_append, not_or]
    exact ⟨plain, ending⟩
  cases digits with
  | nil => exact behind [] absent
  | cons first rest =>
    cases rest with
    | nil => exact behind [first] absent
    | cons second rest =>
      refine behind (first :: '.' :: second :: rest) ?_
      rw [List.mem_cons, not_or] at absent ⊢
      rw [List.mem_cons, not_or]
      exact ⟨absent.1, by decide, absent.2⟩

theorem colon_not_mem_write (layout : Layout) (number : Double) : ':' ∉ layout.write number := by
  rw [write]
  split
  · decide
  · dsimp only
    rw [List.mem_append]
    rintro (sign | magnitude)
    · split at sign <;> exact absurd sign (by decide)
    · split at magnitude
      · exact absurd magnitude (by decide)
      · split at magnitude
        · exact colon_not_mem_positional layout (by decide) 0 magnitude
        · rw [ofDecimal] at magnitude
          split at magnitude
          · exact colon_not_mem_positional layout (Text.colon_not_mem_digitsOf _) _ magnitude
          · exact colon_not_mem_scientific layout (Text.colon_not_mem_digitsOf _) _ magnitude

end Layout

/-! ### Zoned times -/

namespace Calendar

theorem Reader.StrictForm.colon_mem {seconds : Int} {rest text : List Char}
    (form : StrictForm seconds rest text) : ':' ∈ text := by
  cases form
  simp

theorem ZonedTime.colon_mem_of_ofText? {text : List Char} {time : ZonedTime}
    (zoned : ZonedTime.ofText? text = some time) : ':' ∈ text :=
  (ZonedTime.strictForm_of_ofText? zoned).colon_mem

/-- A zoned time begins with a digit. -/
theorem ZonedTime.isDigit_of_ofText? {first : Char} {rest : List Char} {time : ZonedTime}
    (zoned : ZonedTime.ofText? (first :: rest) = some time) : Text.isDigit first = true := by
  obtain ⟨digit, others, same, isDigit⟩ := (ZonedTime.strictForm_of_ofText? zoned).begins
  rwa [(List.cons.inj same).1]

end Calendar

/-! ### Values that are no texts -/

theorem Text.mem_of_mem_trim {character : Char} {text : List Char}
    (member : character ∈ Text.trim text) : character ∈ text := by
  rw [Text.trim, Text.trimEnd, List.mem_reverse] at member
  have kept := (List.dropWhile_sublist _).mem member
  exact (List.dropWhile_sublist _).mem (List.mem_reverse.mp kept)

namespace Json

/-- Nothing but a text is printed as a zoned time. -/
theorem ofText?_trim_toText {value : Json} (other : ∀ content, value ≠ .text content) :
    ZonedTime.ofText? (Text.trim value.toText.toList) = none := by
  rw [toText, String.toList_ofList]
  have plain (printed : List Char) (absent : ':' ∉ printed) :
      ZonedTime.ofText? (Text.trim printed) = none := by
    refine Option.eq_none_iff_forall_ne_some.mpr fun time zoned => ?_
    exact absent (Text.mem_of_mem_trim (ZonedTime.colon_mem_of_ofText? zoned))
  have bracketed (first last : Char) (inner : List Char) (opens : Text.isBlank first = false)
      (closes : Text.isBlank last = false) (apart : Text.isDigit first = false) :
      ZonedTime.ofText? (Text.trim (first :: inner ++ [last])) = none := by
    have whole : Text.trim (first :: inner ++ [last]) = first :: inner ++ [last] := by
      refine Text.trim_eq_self (fun found member => ?_) fun found member => ?_
      · exact Option.some.inj member ▸ opens
      · rw [List.getLast?_concat] at member
        exact Option.some.inj member ▸ closes
    rw [whole]
    refine Option.eq_none_iff_forall_ne_some.mpr fun time zoned => ?_
    exact Bool.false_ne_true (apart.symm.trans (ZonedTime.isDigit_of_ofText? zoned))
  cases value with
  | null => exact plain _ (by decide)
  | bool truth => cases truth <;> exact plain _ (by decide)
  | integer number => exact plain _ (Text.colon_not_mem_writeInt number)
  | float number =>
    refine plain _ ?_
    show ':' ∉ if number.isFinite then Layout.json.write number else ['n', 'u', 'l', 'l']
    split
    · exact Layout.colon_not_mem_write _ _
    · decide
  | text content => exact absurd rfl (other content)
  | list items => exact bracketed '[' ']' _ (by decide) (by decide) (by decide)
  | record members => exact bracketed '\x7b' '\x7d' _ (by decide) (by decide) (by decide)

end Json

end Sieve
