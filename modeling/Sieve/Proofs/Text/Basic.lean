/-
This file proves what later proofs need of blanks and pieces. A digit is no blank,
trimming keeps a text whose ends are no blanks, and a text without a separator in
it is one piece, so pieces that are joined by a separator come apart again.
-/

import Mathlib
import Sieve.Text.Basic

namespace Sieve.Text

/-! ### Digits and blanks -/

/-- The ten digits stand in a row, from zero upwards. -/
theorem toNat_of_isDigit {character : Char} (digit : isDigit character = true) :
    character.toNat = 48 + digitValue character ∧ digitValue character < 10 := by
  simp only [isDigit, Bool.and_eq_true, decide_eq_true_eq, Char.le_def, UInt32.le_iff_toNat_le]
    at digit
  have lower : 48 ≤ character.toNat := digit.1
  have upper : character.toNat ≤ 57 := digit.2
  have value : digitValue character = character.toNat - 48 := rfl
  omega

/-- No digit is a blank. -/
theorem isBlank_of_isDigit {character : Char} (digit : isDigit character = true) :
    isBlank character = false := by
  obtain ⟨place, small⟩ := toNat_of_isDigit digit
  simp only [isBlank, inRanges, blankRanges, List.any_cons, List.any_nil, Bool.or_false,
    Bool.or_eq_false_iff, Bool.and_eq_false_imp, decide_eq_true_eq, decide_eq_false_iff_not, not_le]
  omega

/-- Trimming keeps a text that neither begins nor ends with a blank. -/
theorem trim_eq_self {text : List Char} (first : ∀ found ∈ text.head?, isBlank found = false)
    (last : ∀ found ∈ text.getLast?, isBlank found = false) : trim text = text := by
  have start : trimStart text = text := by
    cases text with
    | nil => rfl
    | cons head tail => exact List.dropWhile_cons_of_neg (by simp [first head rfl])
  rw [trim, start, trimEnd]
  rcases List.eq_nil_or_concat text with rfl | ⟨front, final, rfl⟩
  · rfl
  · have visible : isBlank final = false := last final (by simp)
    simp [visible]

/-! ### Pieces -/

theorem pieces_ne_nil (separator : Char) (text : List Char) : pieces separator text ≠ [] := by
  cases text with
  | nil => exact List.cons_ne_nil _ _
  | cons first rest =>
    rw [pieces]
    split
    · exact List.cons_ne_nil _ _
    · split <;> exact List.cons_ne_nil _ _

/-- A text without the separator is one piece. -/
theorem pieces_of_not_mem {separator : Char} {text : List Char} (absent : separator ∉ text) :
    pieces separator text = [text] := by
  induction text with
  | nil => rfl
  | cons first rest inductionHypothesis =>
    have different : first ≠ separator := fun same => absent (same ▸ List.mem_cons_self)
    have whole : pieces separator rest = [rest] :=
      inductionHypothesis fun member => absent (List.mem_cons_of_mem _ member)
    rw [pieces, if_neg different, whole]

/-- The first separator ends the first piece. -/
theorem pieces_append_cons {separator : Char} {piece : List Char} (absent : separator ∉ piece)
    (rest : List Char) :
    pieces separator (piece ++ separator :: rest) = piece :: pieces separator rest := by
  induction piece with
  | nil => rw [List.nil_append, pieces, if_pos rfl]
  | cons first others inductionHypothesis =>
    have different : first ≠ separator := fun same => absent (same ▸ List.mem_cons_self)
    have below : pieces separator (others ++ separator :: rest) =
        others :: pieces separator rest :=
      inductionHypothesis fun member => absent (List.mem_cons_of_mem _ member)
    rw [List.cons_append, pieces, if_neg different, below]

/-! ### Rows cut at an item -/

section

variable {Item : Type} {Holds : Item → Prop} {left right leftRest rightRest : List Item}
  {leftItem rightItem : Item}

/-- A row is cut in one way at the first item of which something does not hold. -/
theorem append_cons_first_inj (leftHolds : ∀ item ∈ left, Holds item)
    (rightHolds : ∀ item ∈ right, Holds item) (leftFails : ¬Holds leftItem)
    (rightFails : ¬Holds rightItem)
    (same : left ++ leftItem :: leftRest = right ++ rightItem :: rightRest) :
    left = right ∧ leftItem = rightItem ∧ leftRest = rightRest := by
  induction left generalizing right with
  | nil =>
    cases right with
    | nil => exact ⟨rfl, List.cons.inj same⟩
    | cons first others =>
      obtain ⟨rfl, _⟩ := List.cons.inj same
      exact absurd (rightHolds leftItem List.mem_cons_self) leftFails
  | cons first others inductionHypothesis =>
    cases right with
    | nil =>
      obtain ⟨rfl, _⟩ := List.cons.inj same
      exact absurd (leftHolds first List.mem_cons_self) rightFails
    | cons head tail =>
      obtain ⟨rfl, below⟩ := List.cons.inj same
      obtain ⟨rfl, rest⟩ := inductionHypothesis (List.forall_mem_cons.mp leftHolds).2
        (List.forall_mem_cons.mp rightHolds).2 below
      exact ⟨rfl, rest⟩

/-- A row is cut in one way at the last item of which something does not hold. -/
theorem append_cons_last_inj (leftHolds : ∀ item ∈ leftRest, Holds item)
    (rightHolds : ∀ item ∈ rightRest, Holds item) (leftFails : ¬Holds leftItem)
    (rightFails : ¬Holds rightItem)
    (same : left ++ leftItem :: leftRest = right ++ rightItem :: rightRest) :
    left = right ∧ leftItem = rightItem ∧ leftRest = rightRest := by
  have backwards : leftRest.reverse ++ leftItem :: left.reverse =
      rightRest.reverse ++ rightItem :: right.reverse := by
    have reversed := congrArg List.reverse same
    simpa only [List.reverse_append, List.reverse_cons, List.append_assoc, List.singleton_append]
      using reversed
  obtain ⟨rest, item, front⟩ := append_cons_first_inj
    (fun item member => leftHolds item (List.mem_reverse.mp member))
    (fun item member => rightHolds item (List.mem_reverse.mp member)) leftFails rightFails backwards
  exact ⟨List.reverse_injective front, item, List.reverse_injective rest⟩

end

/-- Two texts are one if they have one piece before the first separator and one rest after it. -/
theorem append_cons_inj {separator : Char} {left right leftRest rightRest : List Char}
    (leftAbsent : separator ∉ left) (rightAbsent : separator ∉ right)
    (same : left ++ separator :: leftRest = right ++ separator :: rightRest) :
    left = right ∧ leftRest = rightRest := by
  obtain ⟨front, _, rest⟩ := append_cons_first_inj
    (fun _ member => ne_of_mem_of_not_mem member leftAbsent)
    (fun _ member => ne_of_mem_of_not_mem member rightAbsent) (not_not_intro rfl)
    (not_not_intro rfl) same
  exact ⟨front, rest⟩

end Sieve.Text
