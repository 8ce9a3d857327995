/-
This file proves that the text of an identifier is read back as the identifier.
The digits of its groups are hexadecimal digits, thirty-two of them, and no hyphen
or blank is among them, so the groups come apart where they were joined. Two
identifiers therefore never share a text.
-/

import Sieve.Proofs.Text.Basic
import Sieve.Uuid

namespace Sieve.Uuid

/-! ### Hexadecimal digits -/

/-- Each hexadecimal digit is read as its own value and is neither a hyphen nor a blank. -/
theorem digitChar_hex {digit : Nat} (small : digit < 16) :
    Text.hexValue? (Nat.digitChar digit) = some digit ∧ Nat.digitChar digit ≠ '-' ∧
      Text.isBlank (Nat.digitChar digit) = false := by
  have all : ∀ place : Fin 16, Text.hexValue? (Nat.digitChar place) = some place.val ∧
      Nat.digitChar place ≠ '-' ∧ Text.isBlank (Nat.digitChar place) = false := by decide
  exact all ⟨digit, small⟩

theorem length_paddedHex (width number : Nat) : (Text.paddedHex width number).length = width := by
  induction width generalizing number with
  | zero => rfl
  | succ width inductionHypothesis =>
    rw [Text.paddedHex, List.length_append, inductionHypothesis, List.length_singleton]

theorem mem_paddedHex {width number : Nat} {character : Char}
    (member : character ∈ Text.paddedHex width number) :
    character ≠ '-' ∧ Text.isBlank character = false := by
  induction width generalizing number with
  | zero => exact absurd member List.not_mem_nil
  | succ width inductionHypothesis =>
    rcases List.mem_append.mp member with higher | lowest
    · exact inductionHypothesis higher
    · rw [List.mem_singleton.mp lowest]
      exact (digitChar_hex (Nat.mod_lt _ (by decide))).2

/-- The digits of a number that has no more of them than asked for are read as the number. -/
theorem hexNumber?_paddedHex {width number : Nat} (small : number < 16 ^ width) :
    hexNumber? (Text.paddedHex width number) = some number := by
  induction width generalizing number with
  | zero =>
    rw [Nat.lt_one_iff.mp small]
    rfl
  | succ width inductionHypothesis =>
    have higher : hexNumber? (Text.paddedHex width (number / 16)) = some (number / 16) :=
      inductionHypothesis (Nat.div_lt_of_lt_mul (by rw [Nat.pow_succ] at small; omega))
    have lowest : Text.hexValue? (Nat.digitChar (number % 16)) = some (number % 16) :=
      (digitChar_hex (Nat.mod_lt _ (by decide))).1
    unfold hexNumber? at higher
    rw [Text.paddedHex, hexNumber?, List.foldlM_append, higher]
    simp only [Option.bind_eq_bind, Option.bind_some, List.foldlM_cons, List.foldlM_nil, lowest,
      Option.map_some, Option.pure_def, Option.some.injEq]
    omega

/-! ### Groups -/

/-- The five groups of an identifier. -/
def groups (identifier : Uuid) : List (List Char) :=
  let digits := Text.paddedHex 32 identifier.bits.toNat
  [digits.take 8, (digits.drop 8).take 4, (digits.drop 12).take 4, (digits.drop 16).take 4,
    digits.drop 20]

/-- Groups without a hyphen come apart where hyphens join them. -/
theorem pieces_joined {first second third fourth fifth : List Char}
    (absent : ∀ group ∈ [first, second, third, fourth, fifth], '-' ∉ group) :
    Text.pieces '-'
        (first ++ '-' :: second ++ '-' :: third ++ '-' :: fourth ++ '-' :: fifth) =
      [first, second, third, fourth, fifth] := by
  simp only [List.forall_mem_cons] at absent
  obtain ⟨inFirst, inSecond, inThird, inFourth, inFifth, _⟩ := absent
  simp only [List.append_assoc, List.cons_append]
  rw [Text.pieces_append_cons inFirst, Text.pieces_append_cons inSecond,
    Text.pieces_append_cons inThird, Text.pieces_append_cons inFourth,
    Text.pieces_of_not_mem inFifth]

theorem pieces_write (identifier : Uuid) :
    Text.pieces '-' identifier.write = identifier.groups := by
  have absent : '-' ∉ Text.paddedHex 32 identifier.bits.toNat :=
    fun hyphen => (mem_paddedHex hyphen).1 rfl
  unfold write groups
  -- The digits stay a variable: unfolding thirty-two of them would take the unifier for ever.
  generalize Text.paddedHex 32 identifier.bits.toNat = digits at absent
  refine pieces_joined fun group member hyphen => absent ?_
  simp only [List.mem_cons, List.not_mem_nil, or_false] at member
  rcases member with rfl | rfl | rfl | rfl | rfl
  · exact List.mem_of_mem_take hyphen
  · exact List.mem_of_mem_drop (List.mem_of_mem_take hyphen)
  · exact List.mem_of_mem_drop (List.mem_of_mem_take hyphen)
  · exact List.mem_of_mem_drop (List.mem_of_mem_take hyphen)
  · exact List.mem_of_mem_drop hyphen

theorem flatten_groups (identifier : Uuid) :
    identifier.groups.flatten = Text.paddedHex 32 identifier.bits.toNat := by
  have join (digits : List Char) (start width : Nat) :
      (digits.drop start).take width ++ digits.drop (start + width) = digits.drop start := by
    rw [← List.drop_drop, List.take_append_drop]
  simp only [groups, List.flatten_cons, List.flatten_nil, List.append_nil]
  rw [join _ 16 4, join _ 12 4, join _ 8 4, List.take_append_drop]

theorem length_groups (identifier : Uuid) :
    identifier.groups.map List.length = [8, 4, 4, 4, 12] := by
  simp only [groups, List.map_cons, List.map_nil, List.length_take, List.length_drop,
    length_paddedHex]
  decide

/-! ### Whole texts -/

theorem length_write (identifier : Uuid) : identifier.write.length = 36 := by
  simp only [write, List.length_append, List.length_cons, List.length_take, List.length_drop,
    length_paddedHex]
  decide

/-- The text of an identifier is read as the identifier. -/
theorem ofText?_write (identifier : Uuid) : ofText? identifier.write = some identifier := by
  have small : identifier.bits.toNat < 16 ^ 32 := identifier.bits.isLt
  rw [ofText?, length_write, if_neg (by decide), if_neg (by decide), if_neg (by decide),
    ofGroups?]
  simp only [pieces_write, length_groups, if_true, flatten_groups]
  rw [ofDigits?, if_pos (length_paddedHex _ _), hexNumber?_paddedHex small, Option.map_some,
    BitVec.ofNat_toNat, BitVec.setWidth_eq]

/-- No character of the text of an identifier is a blank. -/
theorem isBlank_of_mem_write {identifier : Uuid} {character : Char}
    (member : character ∈ identifier.write) : Text.isBlank character = false := by
  have inDigits {found : Char} (digit : found ∈ Text.paddedHex 32 identifier.bits.toNat) :
      Text.isBlank found = false := (mem_paddedHex digit).2
  simp only [write, List.mem_append, List.mem_cons] at member
  rcases member with (((first | rfl | second) | rfl | third) | rfl | fourth) | rfl | fifth
  · exact inDigits (List.mem_of_mem_take first)
  · decide
  · exact inDigits (List.mem_of_mem_drop (List.mem_of_mem_take second))
  · decide
  · exact inDigits (List.mem_of_mem_drop (List.mem_of_mem_take third))
  · decide
  · exact inDigits (List.mem_of_mem_drop (List.mem_of_mem_take fourth))
  · decide
  · exact inDigits (List.mem_of_mem_drop fifth)

theorem trim_write (identifier : Uuid) : Text.trim identifier.write = identifier.write :=
  Text.trim_eq_self (fun _ member => isBlank_of_mem_write (List.mem_of_mem_head? member))
    fun _ member => isBlank_of_mem_write (List.mem_of_mem_getLast? member)

end Sieve.Uuid
