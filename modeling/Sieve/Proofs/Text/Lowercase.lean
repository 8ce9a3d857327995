/-
This file takes lowercasing apart. A character becomes what it becomes on its own, except
that a capital sigma looks at the nearest letters around it, and no letter becomes a
character that comes before the lowercase letters of ASCII.
-/

import Mathlib
import Sieve.Text.Lowercase

namespace Sieve.Text

/-! ### Neighbours -/

theorem meetsLetter_cons (character : Char) (rest : List Char) :
    meetsLetter (character :: rest) =
      if isCaseIgnorable character then meetsLetter rest else isCased character := by
  unfold meetsLetter
  rw [List.dropWhile_cons]
  by_cases ignorable : isCaseIgnorable character = true
  · rw [if_pos ignorable, if_pos ignorable]
  · rw [if_neg ignorable, if_neg ignorable]

/-- What a character becomes between two texts, the one before it given backwards. -/
def lowered (before after : List Char) (character : Char) : List Char :=
  if character = 'Σ' then [lowerSigma before after]
  else if character = 'İ' then ['i', '\u0307']
  else [lowerLetter character]

theorem lowercaseAfter_cons (before : List Char) (character : Char) (rest : List Char) :
    lowercaseAfter before (character :: rest) =
      lowered before rest character ++ lowercaseAfter (character :: before) rest := rfl

/-- What a character becomes depends on the texts around it by the letters that they meet it
with. -/
theorem lowered_congr {before otherBefore after otherAfter : List Char}
    (sameBefore : meetsLetter before = meetsLetter otherBefore)
    (sameAfter : meetsLetter after = meetsLetter otherAfter) (character : Char) :
    lowered before after character = lowered otherBefore otherAfter character := by
  rw [lowered, lowered, lowerSigma, lowerSigma, sameBefore, sameAfter]

/-! ### Single characters -/

/-- No capital has a lowercase that comes before the lowercase letters of ASCII. -/
theorem le_shift_of_mem_capitalRuns :
    ∀ run ∈ capitalRuns, ('a'.toNat : Int) ≤ run.first + run.shift := by
  decide +kernel

theorem lowerLetter_cases (character : Char) :
    lowerLetter character = character ∨
      ∃ code : Nat, 'a'.toNat ≤ code ∧ lowerLetter character = Char.ofNat code := by
  simp only [lowerLetter]
  split
  case h_1 run found =>
    have low := le_shift_of_mem_capitalRuns run (List.mem_of_find?_eq_some found)
    have inside := List.find?_some found
    simp only [Bool.and_eq_true, decide_eq_true_eq] at inside
    exact .inr ⟨_, by omega, rfl⟩
  case h_2 => exact .inl rfl

/-- A character with no lowercase that comes before the lowercase letters of ASCII is not the
lowercase of another one. -/
theorem eq_of_lowerLetter_eq {character other : Char} (positive : 0 < other.toNat)
    (low : other.toNat < 'a'.toNat) (same : lowerLetter character = other) : character = other := by
  rcases lowerLetter_cases character with kept | ⟨code, high, lowered⟩
  · exact kept.symm.trans same
  · have codes := congrArg Char.toNat (lowered.symm.trans same)
    rw [Char.toNat_ofNat] at codes
    split at codes <;> omega

end Sieve.Text
