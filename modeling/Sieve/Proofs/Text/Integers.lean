/-
This file proves that the text of an integer is read back as the integer. The
digits of a natural number are digits only and have its value, so neither the
sign nor the trimming of blanks can touch them, and what is read lies within the
bounds of the word that the integer was taken from.
-/

import Sieve.Number.Reader
import Sieve.Proofs.Text.Basic

namespace Sieve.Text

/-! ### Digits of a natural number -/

theorem digitsValue_eq (start : Nat) (digits : List Char) :
    digitsValue start digits = Nat.ofDigitChars 10 digits start := by
  rw [digitsValue, Nat.ofDigitChars_eq_foldl]
  refine congrArg (List.foldl · start digits) (funext fun total => funext fun digit => ?_)
  rw [digitValue, Nat.mul_comm]

/-- The digits of a number have its value. -/
theorem digitsValue_digitsOf (number : Nat) : digitsValue 0 (digitsOf number) = number := by
  rw [digitsValue_eq, digitsOf, Nat.ofDigitChars_ten_toDigits]

theorem isDigit_of_mem_digitsOf {number : Nat} {character : Char}
    (member : character ∈ digitsOf number) : isDigit character = true :=
  Nat.isDigit_of_mem_toDigits (by decide) (by decide) member

theorem digitsOf_ne_nil (number : Nat) : digitsOf number ≠ [] :=
  Nat.toDigits_ne_nil

/-- The digits of a number do not begin with a zero, unless it is zero. -/
theorem head?_digitsOf_ne {number : Nat} (positive : 0 < number) :
    (digitsOf number).head? ≠ some '0' := by
  induction number using Nat.strongRecOn with
  | ind number inductionHypothesis =>
    unfold digitsOf at inductionHypothesis ⊢
    by_cases small : number < 10
    · rw [Nat.toDigits_of_lt_base small]
      interval_cases number <;> decide
    · rw [Nat.toDigits_of_base_le (by decide) (by omega),
        List.head?_append_of_ne_nil _ Nat.toDigits_ne_nil]
      exact inductionHypothesis (number / 10) (by omega) (by omega)

theorem digitsValue_cons (start : Nat) (digit : Char) (digits : List Char) :
    digitsValue start (digit :: digits) = digitsValue (start * 10 + digitValue digit) digits := by
  rw [digitsValue, List.foldl_cons, digitsValue]

theorem le_digitsValue (start : Nat) (digits : List Char) : start ≤ digitsValue start digits := by
  induction digits generalizing start with
  | nil => exact le_rfl
  | cons digit digits inductionHypothesis =>
    have below := inductionHypothesis (start * 10 + digitValue digit)
    rw [digitsValue_cons]
    omega

/-- A digit is the only digit of its value. -/
theorem digitsOf_digitValue {character : Char} (digit : isDigit character = true) :
    digitsOf (digitValue character) = [character] := by
  obtain ⟨place, small⟩ := toNat_of_isDigit digit
  rw [digitsOf, Nat.toDigits_of_lt_base small]
  refine congrArg (· :: []) (Char.toNat_inj.mp ?_)
  rw [Nat.toNat_digitChar_of_lt_ten small, place]

/-- Digits that are read after those of a positive number are written after them. -/
theorem digitsOf_append {start : Nat} (positive : 0 < start) {digits : List Char}
    (all : ∀ digit ∈ digits, isDigit digit = true) :
    digitsOf start ++ digits = digitsOf (digitsValue start digits) := by
  induction digits generalizing start with
  | nil => exact List.append_nil _
  | cons digit rest inductionHypothesis =>
    have isDigit := all digit List.mem_cons_self
    have next : digitsOf start ++ [digit] = digitsOf (start * 10 + digitValue digit) := by
      rw [← digitsOf_digitValue isDigit, Nat.mul_comm]
      exact Nat.toDigits_append_toDigits (by decide) positive (toNat_of_isDigit isDigit).2
    rw [digitsValue_cons, ← inductionHypothesis (by omega) fun other inside =>
      all other (List.mem_cons_of_mem _ inside), ← next, List.append_assoc, List.singleton_append]

/-- Digits with no zero in front of others are the digits of the number that they write. -/
theorem digitsOf_digitsValue {first : Char} {rest : List Char}
    (all : ∀ digit ∈ first :: rest, isDigit digit = true) (leading : first ≠ '0' ∨ rest = []) :
    digitsOf (digitsValue 0 (first :: rest)) = first :: rest := by
  have isDigit := all first List.mem_cons_self
  rw [digitsValue_cons, Nat.zero_mul, Nat.zero_add]
  rcases leading with other | rfl
  · have positive : 0 < digitValue first := by
      have different : first.toNat ≠ 48 := fun same => other (Char.toNat_inj.mp same)
      have place := (toNat_of_isDigit isDigit).1
      omega
    rw [← digitsOf_append positive fun digit inside => all digit (List.mem_cons_of_mem _ inside),
      digitsOf_digitValue isDigit, List.singleton_append]
  · exact digitsOf_digitValue isDigit

/-- Digits are taken as far as they go, up to something that is no digit. -/
theorem isDigit_span_append {digits rest : List Char}
    (all : ∀ digit ∈ digits, isDigit digit = true)
    (ends : ∀ first ∈ rest.head?, isDigit first = false) :
    (digits ++ rest).takeWhile isDigit = digits ∧ (digits ++ rest).dropWhile isDigit = rest := by
  rw [List.takeWhile_append_of_pos all, List.dropWhile_append_of_pos all]
  cases rest with
  | nil => exact ⟨List.append_nil _, rfl⟩
  | cons first others =>
    have other : ¬isDigit first = true := by simp [ends first rfl]
    rw [List.takeWhile_cons_of_neg other, List.dropWhile_cons_of_neg other]
    exact ⟨List.append_nil _, rfl⟩

/-! ### Digits of a width -/

theorem isDigit_of_mem_paddedDigits {width number : Nat} {character : Char}
    (member : character ∈ paddedDigits width number) : isDigit character = true := by
  rcases List.mem_append.mp member with zero | digit
  · rw [List.eq_of_mem_replicate zero]
    rfl
  · exact isDigit_of_mem_digitsOf digit

/-- Zeros in front of the digits of a number do not change its value. -/
theorem digitsValue_paddedDigits (width number : Nat) :
    digitsValue 0 (paddedDigits width number) = number := by
  rw [paddedDigits, digitsValue_eq, Nat.ofDigitChars_append, Nat.ofDigitChars_replicate_zero,
    Nat.mul_zero, ← digitsValue_eq, digitsValue_digitsOf]

theorem paddedDigits_ne_nil (width number : Nat) : paddedDigits width number ≠ [] :=
  List.append_ne_nil_of_right_ne_nil _ (digitsOf_ne_nil number)

/-- A number with no more digits than a width is written in this width. -/
theorem length_paddedDigits {width number : Nat} (positive : 0 < width)
    (small : number < 10 ^ width) : (paddedDigits width number).length = width := by
  have short : (digitsOf number).length ≤ width :=
    (Nat.length_toDigits_le_iff (by decide) positive).mpr small
  rw [paddedDigits, List.length_append, List.length_replicate, Nat.sub_add_cancel short]

/-! ### Integers -/

/-- A text that begins with a digit has no sign. -/
theorem splitSign_of_isDigit {text : List Char}
    (first : ∀ found ∈ text.head?, isDigit found = true) : splitSign text = (false, text) := by
  cases text with
  | nil => rfl
  | cons head tail =>
    have digit : isDigit head = true := first head rfl
    unfold splitSign
    split
    · rename_i same
      simp only [List.cons.injEq] at same
      rw [same.1] at digit
      exact absurd digit (by decide)
    · rename_i same
      simp only [List.cons.injEq] at same
      rw [same.1] at digit
      exact absurd digit (by decide)
    · rfl

/-- The text of an integer is read as the integer. -/
theorem readInt?_writeInt (integer : Int) : readInt? (writeInt integer) = some integer := by
  have digits : (digitsOf integer.natAbs).all isDigit = true :=
    List.all_eq_true.mpr fun _ member => isDigit_of_mem_digitsOf member
  have nonempty : (digitsOf integer.natAbs).isEmpty = false :=
    List.isEmpty_eq_false_iff.mpr (digitsOf_ne_nil _)
  have value : digitsValue 0 (digitsOf integer.natAbs) = integer.natAbs :=
    digitsValue_digitsOf _
  by_cases negative : integer < 0
  · rw [writeInt, if_pos negative]
    simp only [readInt?, splitSign, digits, nonempty, value]
    simp only [Bool.not_true, Bool.or_self, Bool.false_eq_true, if_false, if_true,
      Option.some.injEq]
    omega
  · have plain : splitSign (digitsOf integer.natAbs) = (false, digitsOf integer.natAbs) :=
      splitSign_of_isDigit fun found member =>
        isDigit_of_mem_digitsOf (List.mem_of_mem_head? member)
    rw [writeInt, if_neg negative]
    simp only [readInt?, plain, digits, nonempty, value]
    simp only [Bool.not_true, Bool.or_self, Bool.false_eq_true, if_false, Option.some.injEq]
    omega

/-- No character of the text of an integer is a blank. -/
theorem isBlank_of_mem_writeInt {integer : Int} {character : Char}
    (member : character ∈ writeInt integer) : isBlank character = false := by
  unfold writeInt at member
  split at member
  · rcases List.mem_cons.mp member with rfl | digit
    · decide
    · exact isBlank_of_isDigit (isDigit_of_mem_digitsOf digit)
  · exact isBlank_of_isDigit (isDigit_of_mem_digitsOf member)

theorem trim_writeInt (integer : Int) : trim (writeInt integer) = writeInt integer :=
  trim_eq_self (fun _ member => isBlank_of_mem_writeInt (List.mem_of_mem_head? member))
    fun _ member => isBlank_of_mem_writeInt (List.mem_of_mem_getLast? member)

/-- The text of a sixty-four bit integer is read as the integer. -/
theorem readInt64?_writeInt (integer : Int64) :
    readInt64? (writeInt integer.toInt) = some integer := by
  have bounds : Int64.minValue.toInt ≤ integer.toInt ∧ integer.toInt ≤ Int64.maxValue.toInt :=
    ⟨integer.minValue_le_toInt, integer.toInt_le⟩
  rw [readInt64?, readIntBetween?, readInt?_writeInt, Option.filter_some,
    if_pos (decide_eq_true bounds), Option.map_some, Int64.ofInt_toInt]

/-- The text of an integer of thirty-two bits is read as the integer. -/
theorem readInt32?_writeInt {integer : Int}
    (narrow : -2147483648 ≤ integer ∧ integer ≤ 2147483647) :
    readInt32? (writeInt integer) = some integer := by
  rw [readInt32?, readIntBetween?, readInt?_writeInt, Option.filter_some,
    if_pos (decide_eq_true narrow)]

/-- What is read as an integer of thirty-two bits is read as the same one of sixty-four. -/
theorem readInt64?_of_readInt32? {text : List Char} {integer : Int}
    (read : readInt32? text = some integer) :
    readInt64? text = some (Int64.ofInt integer) := by
  obtain ⟨found, bounds⟩ := Option.filter_eq_some_iff.mp read
  have narrow : -2147483648 ≤ integer ∧ integer ≤ 2147483647 := of_decide_eq_true bounds
  have wide : Int64.minValue.toInt ≤ integer ∧ integer ≤ Int64.maxValue.toInt := by
    simp only [Int64.toInt_minValue, Int64.toInt_maxValue]
    omega
  rw [readInt64?, readIntBetween?, found, Option.filter_some, if_pos (decide_eq_true wide),
    Option.map_some]

/-- What is read as an integer of thirty-two bits has no more than thirty-two. -/
theorem toInt_of_readInt32? {text : List Char} {integer : Int}
    (read : readInt32? text = some integer) :
    -2147483648 ≤ (Int64.ofInt integer).toInt ∧ (Int64.ofInt integer).toInt ≤ 2147483647 := by
  have narrow : -2147483648 ≤ integer ∧ integer ≤ 2147483647 :=
    of_decide_eq_true (Option.filter_eq_some_iff.mp read).2
  have same : (Int64.ofInt integer).toInt = integer :=
    Int64.toInt_ofInt_of_le (by omega) (by omega)
  rw [same]
  exact narrow

end Sieve.Text
