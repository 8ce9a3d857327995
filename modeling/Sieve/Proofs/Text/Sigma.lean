/-
This file says when a text becomes the same inside another text as it becomes on its own.
Only its capital sigmas look at what is around it, and they look past it only where nothing
but characters that are passed over lies between: a sigma at the beginning of a text may
come to stand after a letter, and one at its end may come to stand before one.
-/

import Sieve.Proofs.Text.Lowercase

namespace Sieve.Text

/-! ### Texts inside other texts -/

/-- What a text becomes between two others, the one before it given backwards. -/
def lowercaseBetween (before : List Char) : List Char → List Char → List Char
  | [], _ => []
  | character :: rest, after =>
    lowered before (rest ++ after) character ++ lowercaseBetween (character :: before) rest after

/-- The lowercase of a text is put together from what its parts become where they stand. -/
theorem lowercaseAfter_append (before text after : List Char) :
    lowercaseAfter before (text ++ after) =
      lowercaseBetween before text after ++ lowercaseAfter (text.reverse ++ before) after := by
  induction text generalizing before with
  | nil => rfl
  | cons character rest inductionHypothesis =>
    rw [List.cons_append, lowercaseAfter_cons, inductionHypothesis, lowercaseBetween,
      List.append_assoc, List.reverse_cons, List.append_assoc, List.singleton_append]

theorem lowercase_append_append (front text back : List Char) :
    lowercase (front ++ text ++ back) =
      lowercaseBetween [] front (text ++ back) ++
        (lowercaseBetween front.reverse text back ++
          lowercaseAfter (text.reverse ++ front.reverse) back) := by
  rw [lowercase, List.append_assoc, lowercaseAfter_append, lowercaseAfter_append, List.append_nil]

variable {before otherBefore after otherAfter : List Char} {character : Char}

/-- What a character becomes is as long everywhere. -/
theorem length_lowered :
    (lowered before after character).length = (lowered otherBefore otherAfter character).length := by
  unfold lowered
  split
  · rfl
  · split <;> rfl

/-- A character becomes the same in two places unless it is a sigma that does not. -/
theorem lowered_eq_iff :
    lowered before after character = lowered otherBefore otherAfter character ↔
      (character = 'Σ' → lowerSigma before after = lowerSigma otherBefore otherAfter) := by
  unfold lowered
  split
  case isTrue sigma => simp [sigma]
  case isFalse other => simp [other]

theorem length_lowercaseBetween (before text after : List Char) :
    (lowercaseBetween before text after).length = (lowercaseAfter otherBefore text).length := by
  induction text generalizing before otherBefore with
  | nil => rfl
  | cons character rest inductionHypothesis =>
    rw [lowercaseBetween, lowercaseAfter_cons, List.length_append, List.length_append,
      inductionHypothesis, length_lowered]

/-! ### Sigmas that keep their form -/

/-- Whether every capital sigma of a text becomes the same between two others as it does in the
text alone. -/
def KeepsSigmas (front text back : List Char) : Prop :=
  ∀ before after, text = before ++ 'Σ' :: after →
    lowerSigma (before.reverse ++ front.reverse) (after ++ back) = lowerSigma before.reverse after

/-- What holds wherever an item is in a row holds at its head and wherever it is behind it. -/
theorem forall_cut_cons_iff {Item : Type} {item first : Item} {rest : List Item}
    {Holds : List Item → List Item → Prop} :
    (∀ before after, first :: rest = before ++ item :: after → Holds before after) ↔
      (first = item → Holds [] rest) ∧
        ∀ before after, rest = before ++ item :: after → Holds (first :: before) after := by
  constructor
  · intro holds
    exact ⟨fun same => holds [] rest (by rw [same]; rfl),
      fun before after shape => holds (first :: before) after (by rw [shape]; rfl)⟩
  · rintro ⟨here, behind⟩ before after shape
    cases before with
    | nil =>
      obtain ⟨same, rfl⟩ := List.cons.inj shape
      exact here same
    | cons head before =>
      obtain ⟨rfl, below⟩ := List.cons.inj shape
      exact behind before after below

/-- A part of a text that stands between two others becomes what it becomes without them if its
sigmas do. -/
theorem lowercaseBetween_eq_iff (front done text back : List Char) :
    lowercaseBetween (done ++ front) text back = lowercaseAfter done text ↔
      ∀ before after, text = before ++ 'Σ' :: after →
        lowerSigma (before.reverse ++ (done ++ front)) (after ++ back) =
          lowerSigma (before.reverse ++ done) after := by
  induction text generalizing done with
  | nil => simp [lowercaseBetween, lowercaseAfter]
  | cons character rest inductionHypothesis =>
    rw [lowercaseBetween, lowercaseAfter_cons, forall_cut_cons_iff]
    have below := inductionHypothesis (character :: done)
    rw [List.cons_append] at below
    simp only [List.reverse_cons, List.append_assoc, List.singleton_append, List.reverse_nil,
      List.nil_append]
    rw [← below, ← lowered_eq_iff]
    constructor
    · exact fun same => List.append_inj same length_lowered
    · rintro ⟨head, tail⟩
      rw [head, tail]

/-- A text becomes its own lowercase between two others if its sigmas keep their forms there. -/
theorem lowercaseBetween_eq_lowercase_iff {front text back : List Char} :
    lowercaseBetween front.reverse text back = lowercase text ↔ KeepsSigmas front text back := by
  have parts := lowercaseBetween_eq_iff front.reverse [] text back
  simp only [List.nil_append, List.append_nil] at parts
  exact parts

/-! ### Texts that are passed over -/

/-- Whether a sigma that looks for letters passes over a whole text. -/
def IsPassedOver (text : List Char) : Prop :=
  ∀ character ∈ text, isCaseIgnorable character = true

variable {text : List Char}

theorem isPassedOver_reverse : IsPassedOver text.reverse ↔ IsPassedOver text := by
  simp only [IsPassedOver, List.mem_reverse]

theorem meetsLetter_append_of_isPassedOver (passed : IsPassedOver text) (rest : List Char) :
    meetsLetter (text ++ rest) = meetsLetter rest := by
  induction text with
  | nil => rfl
  | cons character text inductionHypothesis =>
    obtain ⟨ignorable, below⟩ := List.forall_mem_cons.mp passed
    rw [List.cons_append, meetsLetter_cons, if_pos ignorable, inductionHypothesis below]

theorem meetsLetter_of_isPassedOver (passed : IsPassedOver text) : meetsLetter text = false := by
  have whole := meetsLetter_append_of_isPassedOver passed []
  rwa [List.append_nil] at whole

/-- A sigma that comes to a stop in a text sees nothing behind it. -/
theorem meetsLetter_append_of_not_isPassedOver (stops : ¬IsPassedOver text) (rest : List Char) :
    meetsLetter (text ++ rest) = meetsLetter text := by
  induction text with
  | nil => exact absurd (List.forall_mem_nil _) stops
  | cons character text inductionHypothesis =>
    rw [List.cons_append, meetsLetter_cons, meetsLetter_cons]
    by_cases ignorable : isCaseIgnorable character = true
    · rw [if_pos ignorable, if_pos ignorable]
      exact inductionHypothesis fun passed =>
        stops (List.forall_mem_cons.mpr ⟨ignorable, passed⟩)
    · rw [if_neg ignorable, if_neg ignorable]

/-! ### Sigmas at the ends of a text -/

/-- Whether a text begins with a sigma that ends a word if a letter comes before the text. -/
def BeginsOpen (text : List Char) : Prop :=
  ∃ before after, text = before ++ 'Σ' :: after ∧ IsPassedOver before ∧ meetsLetter after = false

/-- Whether a text ends with a sigma that ends a word unless a letter comes after the text. -/
def EndsOpen (text : List Char) : Prop :=
  ∃ before after, text = before ++ 'Σ' :: after ∧ meetsLetter before.reverse = true ∧
    IsPassedOver after

/-- Sigmas keep their forms at the ends that are not open or have nothing beyond them. -/
theorem keepsSigmas_of_closed {front back : List Char} (first : front = [] ∨ ¬BeginsOpen text)
    (last : back = [] ∨ ¬EndsOpen text) : KeepsSigmas front text back := by
  intro before after shape
  rw [lowerSigma, lowerSigma]
  by_cases beginsHere : IsPassedOver before
  · have passed := isPassedOver_reverse.mpr beginsHere
    rw [meetsLetter_append_of_isPassedOver passed, meetsLetter_of_isPassedOver passed]
    rcases first with rfl | closed
    · rfl
    · have met : meetsLetter after = true := by
        refine Bool.eq_true_of_not_eq_false fun none => closed ?_
        exact ⟨before, after, shape, beginsHere, none⟩
      have stops : ¬IsPassedOver after := fun passed =>
        Bool.false_ne_true ((meetsLetter_of_isPassedOver passed).symm.trans met)
      rw [meetsLetter_append_of_not_isPassedOver stops, met, Bool.not_true, Bool.and_false,
        Bool.and_false]
  · rw [meetsLetter_append_of_not_isPassedOver (isPassedOver_reverse.not.mpr beginsHere)]
    by_cases endsHere : IsPassedOver after
    · rw [meetsLetter_append_of_isPassedOver endsHere, meetsLetter_of_isPassedOver endsHere]
      rcases last with rfl | closed
      · rfl
      · have none : meetsLetter before.reverse = false := by
          refine Bool.eq_false_of_not_eq_true fun met => closed ?_
          exact ⟨before, after, shape, met, endsHere⟩
        rw [none, Bool.false_and, Bool.false_and]
    · rw [meetsLetter_append_of_not_isPassedOver endsHere]

section

variable {letter : Char} (met : meetsLetter [letter] = true)

include met

theorem not_keepsSigmas_of_beginsOpen (opens : BeginsOpen text) :
    ¬KeepsSigmas [letter] text [] := by
  obtain ⟨before, after, shape, passed, none⟩ := opens
  intro keeps
  have same := keeps before after shape
  have behind := isPassedOver_reverse.mpr passed
  rw [lowerSigma, lowerSigma, List.reverse_singleton, List.append_nil,
    meetsLetter_append_of_isPassedOver behind, meetsLetter_of_isPassedOver behind, met, none]
    at same
  exact absurd same (by decide)

theorem not_keepsSigmas_of_endsOpen (opens : EndsOpen text) : ¬KeepsSigmas [] text [letter] := by
  obtain ⟨before, after, shape, behind, passed⟩ := opens
  intro keeps
  have same := keeps before after shape
  rw [lowerSigma, lowerSigma, List.reverse_nil, List.append_nil,
    meetsLetter_append_of_isPassedOver passed, meetsLetter_of_isPassedOver passed, met, behind]
    at same
  exact absurd same (by decide)

end

/-- A letter that stays as it is can be chosen to differ from a given character. -/
theorem exists_letter_ne (avoided : Option Char) :
    ∃ letter, meetsLetter [letter] = true ∧
      (∀ before after, lowered before after letter = [letter]) ∧ avoided ≠ some letter := by
  have kept (letter : Char) (other : letter ≠ 'Σ') (undotted : letter ≠ 'İ')
      (lower : lowerLetter letter = letter) (before after : List Char) :
      lowered before after letter = [letter] := by
    rw [lowered, if_neg other, if_neg undotted, lower]
  by_cases taken : avoided = some 'a'
  · refine ⟨'b', by decide +kernel, ?_, by rw [taken]; decide⟩
    exact kept 'b' (by decide) (by decide) (by decide +kernel)
  · refine ⟨'a', by decide +kernel, ?_, taken⟩
    exact kept 'a' (by decide) (by decide) (by decide +kernel)

end Sieve.Text
