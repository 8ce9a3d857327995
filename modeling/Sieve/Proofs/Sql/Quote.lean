/-
This file proves that what is written between quote marks is read back. A reader
takes a doubled mark as one character and stops at the first mark that stands
alone, so a quoted name or text ends where it was meant to end, whatever it holds
and whatever comes after it, unless that begins with another mark.
-/

import Mathlib
import Sieve.Sql.Quote

namespace Sieve.Sql

/-! ### Reading back what is quoted -/

/-- The characters up to the first mark that is not doubled, and what comes after that mark. -/
def readQuoted (mark : Char) : List Char → List Char × List Char
  | [] => ([], [])
  | [last] => if last = mark then ([], []) else ([last], [])
  | first :: second :: rest =>
    if first ≠ mark then
      let (text, after) := readQuoted mark (second :: rest)
      (first :: text, after)
    else if second = mark then
      let (text, after) := readQuoted mark rest
      (mark :: text, after)
    else ([], second :: rest)

theorem readQuoted_cons {mark first : Char} (different : first ≠ mark) (rest : List Char) :
    readQuoted mark (first :: rest) =
      (first :: (readQuoted mark rest).1, (readQuoted mark rest).2) := by
  cases rest with
  | nil => exact if_neg different
  | cons second rest => exact if_pos different

theorem readQuoted_doubled {mark : Char} (text : List Char) {rest : List Char}
    (ends : rest.head? ≠ some mark) :
    readQuoted mark (Text.doubled mark text ++ mark :: rest) = (text, rest) := by
  induction text with
  | nil =>
    cases rest with
    | nil => exact if_pos rfl
    | cons second rest =>
      have alone : second ≠ mark := fun same => ends (congrArg some same)
      rw [Text.doubled, List.nil_append, readQuoted, if_neg (not_not.mpr rfl), if_neg alone]
  | cons first text inductionHypothesis =>
    rw [Text.doubled]
    split
    · rename_i same
      rw [List.cons_append, List.cons_append, readQuoted, if_neg (not_not.mpr rfl), if_pos rfl,
        inductionHypothesis, same]
    · rename_i different
      rw [List.cons_append, readQuoted_cons different, inductionHypothesis]

variable {leftRest rightRest : List Char}

theorem doubled_append_inj {mark : Char} {left right : List Char}
    (leftEnds : leftRest.head? ≠ some mark) (rightEnds : rightRest.head? ≠ some mark)
    (same : Text.doubled mark left ++ mark :: leftRest =
      Text.doubled mark right ++ mark :: rightRest) :
    left = right ∧ leftRest = rightRest := by
  have read := congrArg (readQuoted mark) same
  rwa [readQuoted_doubled _ leftEnds, readQuoted_doubled _ rightEnds, Prod.mk.injEq] at read

variable {left right : String}

/-- A quoted name is read in one way. -/
theorem quoteName_append_inj (leftEnds : leftRest.head? ≠ some '"')
    (rightEnds : rightRest.head? ≠ some '"')
    (same : (quoteName left).toList ++ leftRest = (quoteName right).toList ++ rightRest) :
    left = right ∧ leftRest = rightRest := by
  simp only [quoteName, String.toList_ofList, List.cons_append, List.append_assoc,
    List.nil_append, List.cons.injEq, true_and] at same
  obtain ⟨inside, after⟩ := doubled_append_inj leftEnds rightEnds same
  exact ⟨String.toList_inj.mp inside, after⟩

/-- A quoted text is read in one way. -/
theorem quoteText_append_inj (leftEnds : leftRest.head? ≠ some '\'')
    (rightEnds : rightRest.head? ≠ some '\'')
    (same : (quoteText left).toList ++ leftRest = (quoteText right).toList ++ rightRest) :
    left = right ∧ leftRest = rightRest := by
  simp only [quoteText, String.toList_ofList, List.cons_append, List.append_assoc,
    List.nil_append, List.cons.injEq, true_and] at same
  obtain ⟨inside, after⟩ := doubled_append_inj leftEnds rightEnds same
  exact ⟨String.toList_inj.mp inside, after⟩

/-! ### How a name begins -/

/-- A character with which a written name may begin. -/
def beginsName (character : Char) : Bool :=
  character == '"' || beginsPlainName character

theorem isDigit_of_beginsName {character : Char} (begins : beginsName character = true) :
    Text.isDigit character = false := by
  rcases Bool.or_eq_true_iff.mp begins with quote | letter
  · rw [beq_iff_eq.mp quote]
    rfl
  · rcases Bool.or_eq_true_iff.mp letter with small | lowLine
    · simp only [Bool.and_eq_true, decide_eq_true_eq, Char.le_def, UInt32.le_iff_toNat_le] at small
      have lower : 97 ≤ character.toNat := small.1
      refine Bool.and_eq_false_iff.mpr (.inr (decide_eq_false fun below => ?_))
      have upper : character.toNat ≤ 57 := below
      omega
    · rw [beq_iff_eq.mp lowLine]
      rfl

/-- A name that does not need quotes does not begin with a quote mark; any other is quoted. -/
theorem writeName_cases (name : String) :
    (∃ first rest, (writeName name).toList = first :: rest ∧ beginsPlainName first = true) ∨
      writeName name = quoteName name := by
  rw [writeName]
  split
  · rename_i plain
    cases letters : name.toList with
    | nil =>
      rw [letters] at plain
      exact absurd plain Bool.false_ne_true
    | cons first rest =>
      rw [letters, isPlainName, Bool.and_eq_true] at plain
      exact .inl ⟨first, rest, rfl, plain.1⟩
  · exact .inr rfl

theorem exists_begin_of_writeName (name : String) :
    ∃ first rest, (writeName name).toList = first :: rest ∧ beginsName first = true := by
  rcases writeName_cases name with ⟨first, rest, letters, plain⟩ | quoted
  · exact ⟨first, rest, letters, by rw [beginsName, plain, Bool.or_true]⟩
  · refine ⟨'"', Text.doubled '"' name.toList ++ ['"'], ?_, rfl⟩
    rw [quoted, quoteName, String.toList_ofList]
    rfl

/-- A written name that begins as a quoted one is the same name, quoted. -/
theorem writeName_append_inj (leftEnds : leftRest.head? ≠ some '"')
    (rightEnds : rightRest.head? ≠ some '"')
    (same : (writeName left).toList ++ leftRest = (quoteName right).toList ++ rightRest) :
    left = right ∧ leftRest = rightRest := by
  rcases writeName_cases left with ⟨first, rest, letters, plain⟩ | quoted
  · rw [letters, quoteName, String.toList_ofList] at same
    obtain rfl := (List.cons.inj same).1
    exact absurd plain (by decide)
  · exact quoteName_append_inj leftEnds rightEnds (quoted ▸ same)

end Sieve.Sql
