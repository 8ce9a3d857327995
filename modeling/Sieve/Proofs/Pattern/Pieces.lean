/-
This file proves that matching is cutting a text into pieces. What a pattern takes is
said of the pattern as it is written, sign by sign and with no matter which piece goes
how far: a percent sign takes any piece, an underscore one character, and every other
sign the character it stands for. The matcher, which never cuts a text, finds out
whether this can be done.
-/

import Sieve.Proofs.Pattern.Literal

namespace Sieve.Pattern

/-! ### What a pattern takes -/

/-- The rows of pieces that a pattern takes, one piece for each of its signs. -/
inductive TakesPieces : List Char → List (List Char) → Prop
  /-- At the end of a pattern no piece is left. -/
  | done : TakesPieces [] []
  /-- A percent sign takes any piece, also an empty one. -/
  | run {rest : List Char} {pieces : List (List Char)} (piece : List Char)
      (below : TakesPieces rest pieces) : TakesPieces ('%' :: rest) (piece :: pieces)
  /-- An underscore takes any one character. -/
  | any {rest : List Char} {pieces : List (List Char)} (character : Char)
      (below : TakesPieces rest pieces) : TakesPieces ('_' :: rest) ([character] :: pieces)
  /-- After a backslash a character takes itself, whatever it means elsewhere. -/
  | marked {rest : List Char} {pieces : List (List Char)} (character : Char)
      (below : TakesPieces rest pieces) :
      TakesPieces ('\\' :: character :: rest) ([character] :: pieces)
  /-- A backslash at the end takes itself. -/
  | lone : TakesPieces ['\\'] [['\\']]
  /-- Any other character takes itself. -/
  | plain {character : Char} {rest : List Char} {pieces : List (List Char)}
      (plain : ¬IsMeta character) (below : TakesPieces rest pieces) :
      TakesPieces (character :: rest) ([character] :: pieces)

/-- What the tokens of a pattern take is taken by the pattern. -/
theorem takesPieces_of_tokens {pattern : List Char} {pieces : List (List Char)}
    (taken : List.Forall₂ Token.Takes (tokens pattern) pieces) : TakesPieces pattern pieces := by
  fun_induction tokens pattern generalizing pieces with
  | case1 =>
    rw [List.forall₂_nil_left_iff.mp taken]
    exact .done
  | case2 =>
    obtain ⟨_, _, rfl, none, rfl⟩ := List.forall₂_cons_left_iff.mp taken
    rw [List.forall₂_nil_left_iff.mp none]
    exact .lone
  | case3 character rest inductionHypothesis =>
    obtain ⟨_, others, rfl, below, rfl⟩ := List.forall₂_cons_left_iff.mp taken
    exact .marked character (inductionHypothesis below)
  | case4 rest inductionHypothesis =>
    obtain ⟨piece, others, _, below, rfl⟩ := List.forall₂_cons_left_iff.mp taken
    exact .run piece (inductionHypothesis below)
  | case5 rest inductionHypothesis =>
    obtain ⟨_, others, ⟨character, rfl⟩, below, rfl⟩ := List.forall₂_cons_left_iff.mp taken
    exact .any character (inductionHypothesis below)
  | case6 character rest atEnd before noRun noAny inductionHypothesis =>
    obtain ⟨_, others, rfl, below, rfl⟩ := List.forall₂_cons_left_iff.mp taken
    refine .plain ?_ (inductionHypothesis below)
    rintro (mark | run | any)
    · cases rest with
      | nil => exact atEnd mark rfl
      | cons next rest => exact before next rest mark rfl
    · exact noRun run
    · exact noAny any

/-- What a pattern takes is taken by its tokens. -/
theorem TakesPieces.tokens {pattern : List Char} {pieces : List (List Char)}
    (taken : TakesPieces pattern pieces) :
    List.Forall₂ Token.Takes (Pattern.tokens pattern) pieces := by
  induction taken with
  | done => exact .nil
  | run piece _ inductionHypothesis => exact .cons trivial inductionHypothesis
  | any character _ inductionHypothesis => exact .cons ⟨character, rfl⟩ inductionHypothesis
  | marked character _ inductionHypothesis => exact .cons rfl inductionHypothesis
  | lone => exact .cons rfl .nil
  | plain plain _ inductionHypothesis =>
    rw [tokens_cons_of_not_isMeta plain]
    exact .cons rfl inductionHypothesis

/-- A pattern matches a text if the text can be cut into pieces that the pattern takes. Where case
is ignored, it is the lowercase text that is cut, and the lowercase pattern that takes the
pieces. -/
theorem isMatch_iff_exists_pieces (pattern text : List Char) :
    (isMatch false pattern text = true ↔
        ∃ pieces, TakesPieces pattern pieces ∧ pieces.flatten = text) ∧
      (isMatch true pattern text = true ↔
        ∃ pieces, TakesPieces (Text.lowercase pattern) pieces ∧
          pieces.flatten = Text.lowercase text) := by
  have cut (pattern text : List Char) :
      matchTokens (tokens pattern) text = true ↔
        ∃ pieces, TakesPieces pattern pieces ∧ pieces.flatten = text := by
    rw [matchTokens_iff]
    refine exists_congr fun pieces => and_congr_left fun _ => ?_
    exact ⟨takesPieces_of_tokens, TakesPieces.tokens⟩
  exact ⟨cut pattern text, cut (Text.lowercase pattern) (Text.lowercase text)⟩

end Sieve.Pattern
