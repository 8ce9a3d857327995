/-
This file proves that a pattern that looks for a text finds that text and nothing else.
In the pattern the characters that mean something are marked to stand for themselves, so
that its tokens are the characters of the text. Lowercasing keeps it so: what is marked
and the marks themselves have no case, no letter becomes one of them, and a word that the
text ends with ends at the percent sign as well. The lowercase of a pattern that looks for
a text is therefore the pattern that looks for the lowercase of the text.
-/

import Sieve.Proofs.Pattern.Matching
import Sieve.Proofs.Text.Lowercase

namespace Sieve

/-! ### Finding a text -/

/-- Whether a text is found in another one. -/
def TextMatch.Finds (textMatch : TextMatch) (sought text : List Char) : Prop :=
  match textMatch with
  | contains => sought <:+: text
  | startsWith => sought <+: text
  | endsWith => sought <:+ text

namespace Pattern

/-- Whether a character means something in a pattern. -/
def IsMeta (character : Char) : Prop :=
  character = '\\' ∨ character = '%' ∨ character = '_'

instance (character : Char) : Decidable (IsMeta character) :=
  inferInstanceAs (Decidable (_ ∨ _ ∨ _))

theorem literally_cons_of_isMeta {character : Char} (means : IsMeta character)
    (rest : List Char) : literally (character :: rest) = '\\' :: character :: literally rest :=
  if_pos means

theorem literally_cons_of_not_isMeta {character : Char} (plain : ¬IsMeta character)
    (rest : List Char) : literally (character :: rest) = character :: literally rest :=
  if_neg plain

theorem tokens_cons_of_not_isMeta {character : Char} (plain : ¬IsMeta character)
    (rest : List Char) : tokens (character :: rest) = .exactly character :: tokens rest := by
  have noMark : character ≠ '\\' := fun same => plain (.inl same)
  have noRun : character ≠ '%' := fun same => plain (.inr (.inl same))
  have noAny : character ≠ '_' := fun same => plain (.inr (.inr same))
  rw [tokens] <;> simp_all

/-- The tokens of a text whose characters stand for themselves are its characters. -/
theorem tokens_literally_append (text rest : List Char) :
    tokens (literally text ++ rest) = text.map .exactly ++ tokens rest := by
  induction text with
  | nil => rfl
  | cons character text inductionHypothesis =>
    rw [List.map_cons, List.cons_append, ← inductionHypothesis]
    by_cases means : IsMeta character
    · rw [literally_cons_of_isMeta means]
      rfl
    · rw [literally_cons_of_not_isMeta means]
      exact tokens_cons_of_not_isMeta means _

theorem fits_append_run {tokens : List Token} {text : List Char} :
    Fits (tokens ++ [.run]) text ↔ ∃ front, front <+: text ∧ Fits tokens front := by
  rw [fits_append]
  simp only [fits_singleton]
  constructor
  · rintro ⟨front, back, rfl, fits, _⟩
    exact ⟨front, List.prefix_append front back, fits⟩
  · rintro ⟨front, ⟨back, rfl⟩, fits⟩
    exact ⟨front, back, rfl, fits, trivial⟩

theorem fits_run_cons {tokens : List Token} {text : List Char} :
    Fits (.run :: tokens) text ↔ ∃ back, back <:+ text ∧ Fits tokens back := by
  rw [fits_cons]
  constructor
  · rintro ⟨front, back, rfl, _, fits⟩
    exact ⟨back, List.suffix_append front back, fits⟩
  · rintro ⟨back, ⟨front, rfl⟩, fits⟩
    exact ⟨front, back, rfl, trivial, fits⟩

/-- A pattern that looks for a text is fit by the texts in which it is found. -/
theorem fits_lookingFor (textMatch : TextMatch) (sought text : List Char) :
    Fits (tokens (lookingFor textMatch sought)) text ↔ textMatch.Finds sought text := by
  cases textMatch with
  | contains =>
    have shown : tokens (lookingFor .contains sought) = .run :: (sought.map .exactly ++ [.run]) :=
      congrArg (List.cons Token.run) (tokens_literally_append sought ['%'])
    rw [shown, fits_run_cons]
    simp only [fits_append_run, fits_map_exactly, exists_eq_right]
    constructor
    · rintro ⟨back, ends, begins⟩
      exact List.infix_iff_prefix_suffix.mpr ⟨back, begins, ends⟩
    · intro inside
      obtain ⟨back, begins, ends⟩ := List.infix_iff_prefix_suffix.mp inside
      exact ⟨back, ends, begins⟩
  | startsWith =>
    have shown : tokens (lookingFor .startsWith sought) = sought.map .exactly ++ [.run] :=
      tokens_literally_append sought ['%']
    rw [shown, fits_append_run]
    simp only [fits_map_exactly, exists_eq_right]
    exact .rfl
  | endsWith =>
    have shown : tokens (lookingFor .endsWith sought) = .run :: sought.map .exactly := by
      have literal := tokens_literally_append sought []
      rw [List.append_nil, tokens, List.append_nil] at literal
      exact congrArg (List.cons Token.run) literal
    rw [shown, fits_run_cons]
    simp only [fits_map_exactly, exists_eq_right]
    exact .rfl

/-! ### Lowercase patterns -/

section

variable {character : Char} (means : IsMeta character)

include means

/-- What has a meaning in a pattern is its own lowercase. -/
theorem lowered_of_isMeta (before after : List Char) :
    Text.lowered before after character = [character] := by
  rcases means with rfl | rfl | rfl <;> rfl

/-- What has a meaning in a pattern stands between words. -/
theorem meetsLetter_of_isMeta (rest : List Char) :
    Text.meetsLetter (character :: rest) = false := by
  have apart : Text.isCaseIgnorable character = false ∧ Text.isCased character = false := by
    rcases means with rfl | rfl | rfl <;> decide +kernel
  rw [Text.meetsLetter_cons, apart.1, apart.2]
  rfl

end

/-- Nothing becomes a character that has a meaning in a pattern. -/
theorem not_isMeta_of_mem_lowered {character : Char} (plain : ¬IsMeta character)
    (before after : List Char) :
    ∀ other ∈ Text.lowered before after character, ¬IsMeta other := by
  unfold Text.lowered Text.lowerSigma
  split
  · refine List.forall_mem_singleton.mpr ?_
    split <;> decide
  · split
    · exact List.forall_mem_cons.mpr ⟨by decide, List.forall_mem_singleton.mpr (by decide)⟩
    · refine List.forall_mem_singleton.mpr fun means => plain ?_
      rcases means with same | same | same
      · exact .inl (Text.eq_of_lowerLetter_eq (by decide) (by decide) same)
      · exact .inr (.inl (Text.eq_of_lowerLetter_eq (by decide) (by decide) same))
      · exact .inr (.inr (Text.eq_of_lowerLetter_eq (by decide) (by decide) same))

theorem literally_append_of_plain {front : List Char}
    (plain : ∀ character ∈ front, ¬IsMeta character) (rest : List Char) :
    literally (front ++ rest) = front ++ literally rest := by
  induction front with
  | nil => rfl
  | cons character front inductionHypothesis =>
    obtain ⟨here, below⟩ := List.forall_mem_cons.mp plain
    rw [List.cons_append, literally_cons_of_not_isMeta here, inductionHypothesis below,
      List.cons_append]

/-- Marking characters does not change which letter a text is met with. -/
theorem meetsLetter_literally_append {tail : List Char} (apart : Text.meetsLetter tail = false)
    (text : List Char) : Text.meetsLetter (literally text ++ tail) = Text.meetsLetter text := by
  induction text with
  | nil => exact apart
  | cons character text inductionHypothesis =>
    by_cases means : IsMeta character
    · rw [literally_cons_of_isMeta means, List.cons_append, meetsLetter_of_isMeta (.inl rfl),
        meetsLetter_of_isMeta means]
    · rw [literally_cons_of_not_isMeta means, List.cons_append, Text.meetsLetter_cons,
        Text.meetsLetter_cons, inductionHypothesis]

/-- The lowercase of a text whose characters stand for themselves is the lowercase text whose
characters do, wherever the text stands among letters that it is met with. -/
theorem lowercaseAfter_literally_append {before marked tail : List Char}
    (same : Text.meetsLetter marked = Text.meetsLetter before)
    (apart : Text.meetsLetter tail = false) (text : List Char) :
    Text.lowercaseAfter marked (literally text ++ tail) =
      literally (Text.lowercaseAfter before text) ++
        Text.lowercaseAfter ((literally text).reverse ++ marked) tail := by
  induction text generalizing before marked with
  | nil => rfl
  | cons character text inductionHypothesis =>
    rw [Text.lowercaseAfter_cons]
    by_cases means : IsMeta character
    · have met : Text.meetsLetter (character :: '\\' :: marked) =
          Text.meetsLetter (character :: before) := by
        rw [meetsLetter_of_isMeta means, meetsLetter_of_isMeta means]
      rw [lowered_of_isMeta means, List.singleton_append, literally_cons_of_isMeta means,
        literally_cons_of_isMeta means, List.cons_append, List.cons_append,
        Text.lowercaseAfter_cons, lowered_of_isMeta (.inl rfl), Text.lowercaseAfter_cons,
        lowered_of_isMeta means, inductionHypothesis met]
      simp
    · have met : Text.meetsLetter (character :: marked) =
          Text.meetsLetter (character :: before) := by
        rw [Text.meetsLetter_cons, Text.meetsLetter_cons, same]
      rw [literally_append_of_plain (not_isMeta_of_mem_lowered means before text),
        literally_cons_of_not_isMeta means, List.cons_append, Text.lowercaseAfter_cons,
        Text.lowered_congr same (meetsLetter_literally_append apart text),
        inductionHypothesis met]
      simp

/-- The lowercase of a pattern that looks for a text looks for the lowercase of the text. -/
theorem lowercase_lookingFor (textMatch : TextMatch) (sought : List Char) :
    Text.lowercase (lookingFor textMatch sought) =
      lookingFor textMatch (Text.lowercase sought) := by
  have run (rest : List Char) : Text.meetsLetter ('%' :: rest) = false :=
    meetsLetter_of_isMeta (.inr (.inl rfl)) rest
  have kept (before : List Char) : Text.lowercaseAfter before ['%'] = ['%'] := rfl
  have before : Text.meetsLetter ['%'] = Text.meetsLetter [] := (run []).trans rfl
  cases textMatch with
  | contains =>
    show '%' :: Text.lowercaseAfter ['%'] (literally sought ++ ['%']) = _
    rw [lowercaseAfter_literally_append before (run []) sought, kept]
    rfl
  | startsWith =>
    show Text.lowercaseAfter [] (literally sought ++ ['%']) = _
    rw [lowercaseAfter_literally_append rfl (run []) sought, kept]
    rfl
  | endsWith =>
    have whole : Text.lowercaseAfter ['%'] (literally sought ++ []) =
        literally (Text.lowercaseAfter [] sought) ++ Text.lowercaseAfter _ [] :=
      lowercaseAfter_literally_append before rfl sought
    rw [List.append_nil] at whole
    show '%' :: Text.lowercaseAfter ['%'] (literally sought) = _
    rw [whole, Text.lowercaseAfter, List.append_nil]
    rfl

/-- A pattern that looks for a text matches the texts in which it is found; where case is ignored,
the lowercase text is found in the lowercase of the other. -/
theorem isMatch_lookingFor (textMatch : TextMatch) (ignoresCase : Bool) (sought text : List Char) :
    isMatch ignoresCase (lookingFor textMatch sought) text = true ↔
      if ignoresCase then textMatch.Finds (Text.lowercase sought) (Text.lowercase text)
      else textMatch.Finds sought text := by
  cases ignoresCase with
  | false => exact (matchTokens_iff _ _).trans (fits_lookingFor textMatch sought text)
  | true =>
    show matchTokens (tokens (Text.lowercase (lookingFor textMatch sought))) _ = true ↔ _
    rw [lowercase_lookingFor, matchTokens_iff]
    exact fits_lookingFor textMatch _ _

end Pattern

end Sieve
