/-
This file proves that the matcher decides when a text fits tokens: when it can be cut
into pieces, one for each token, that the tokens take. The marks that the matcher moves
on say which beginnings of the text fit the tokens so far. One token moves them on as it
should, and so a row of tokens does.
-/

import Mathlib
import Sieve.Pattern

namespace Sieve.Pattern

/-! ### Texts that fit tokens -/

/-- Whether a token takes a piece of a text. -/
def Token.Takes : Token → List Char → Prop
  | run, _ => True
  | any, piece => ∃ character, piece = [character]
  | exactly character, piece => piece = [character]

/-- Whether a text can be cut into pieces that tokens take, one after another. -/
def Fits (tokens : List Token) (text : List Char) : Prop :=
  ∃ pieces, List.Forall₂ Token.Takes tokens pieces ∧ pieces.flatten = text

variable {tokens rest : List Token} {token : Token} {text : List Char}

theorem fits_nil : Fits [] text ↔ text = [] := by
  constructor
  · rintro ⟨pieces, taken, rfl⟩
    rw [List.forall₂_nil_left_iff.mp taken]
    rfl
  · rintro rfl
    exact ⟨[], .nil, rfl⟩

theorem fits_cons :
    Fits (token :: tokens) text ↔
      ∃ front back, text = front ++ back ∧ token.Takes front ∧ Fits tokens back := by
  constructor
  · rintro ⟨pieces, taken, rfl⟩
    obtain ⟨front, others, here, below, rfl⟩ := List.forall₂_cons_left_iff.mp taken
    exact ⟨front, others.flatten, rfl, here, others, below, rfl⟩
  · rintro ⟨front, _, rfl, here, others, below, rfl⟩
    exact ⟨front :: others, .cons here below, rfl⟩

theorem fits_append :
    Fits (tokens ++ rest) text ↔
      ∃ front back, text = front ++ back ∧ Fits tokens front ∧ Fits rest back := by
  induction tokens generalizing text with
  | nil =>
    constructor
    · intro fits
      exact ⟨[], text, rfl, fits_nil.mpr rfl, fits⟩
    · rintro ⟨front, back, rfl, empty, fits⟩
      rw [fits_nil.mp empty]
      exact fits
  | cons token tokens inductionHypothesis =>
    rw [List.cons_append, fits_cons]
    simp only [fits_cons, inductionHypothesis]
    constructor
    · rintro ⟨piece, _, rfl, here, front, back, rfl, below, after⟩
      exact ⟨piece ++ front, back, (List.append_assoc ..).symm,
        ⟨piece, front, rfl, here, below⟩, after⟩
    · rintro ⟨_, back, rfl, ⟨piece, front, rfl, here, below⟩, after⟩
      exact ⟨piece, front ++ back, List.append_assoc .., here, front, back, rfl, below, after⟩

theorem fits_singleton : Fits [token] text ↔ token.Takes text := by
  rw [fits_cons]
  simp only [fits_nil]
  constructor
  · rintro ⟨front, _, rfl, here, rfl⟩
    rwa [List.append_nil]
  · intro here
    exact ⟨text, [], (List.append_nil text).symm, here, rfl⟩

/-- Tokens for single characters are fit by their characters and nothing else. -/
theorem fits_map_exactly {characters : List Char} :
    Fits (characters.map .exactly) text ↔ text = characters := by
  induction characters generalizing text with
  | nil => exact fits_nil
  | cons character characters inductionHypothesis =>
    rw [List.map_cons, fits_cons]
    simp only [inductionHypothesis]
    constructor
    · rintro ⟨_, _, rfl, rfl, rfl⟩
      rfl
    · rintro rfl
      exact ⟨[character], characters, rfl, rfl, rfl⟩

/-! ### Places of a text -/

/-- The beginning of a text up to a place fits one token more if the beginning up to an earlier
place fits the tokens and the token takes what lies between. -/
theorem fits_append_take (text : List Char) (place : Nat) :
    Fits (tokens ++ [token]) (text.take place) ↔
      ∃ earlier ≤ place, Fits tokens (text.take earlier) ∧
        token.Takes ((text.take place).drop earlier) := by
  rw [fits_append]
  simp only [fits_singleton]
  constructor
  · rintro ⟨front, back, split, fits, takes⟩
    have bound : front.length ≤ place := by
      have total := congrArg List.length split
      rw [List.length_append, List.length_take] at total
      omega
    have frontIs : text.take front.length = front := by
      have same := congrArg (List.take front.length) split
      rwa [List.take_take, Nat.min_eq_left bound, List.take_left] at same
    have backIs : (text.take place).drop front.length = back := by
      rw [split, List.drop_left]
    exact ⟨front.length, bound, frontIs.symm ▸ fits, backIs.symm ▸ takes⟩
  · rintro ⟨earlier, bound, fits, takes⟩
    refine ⟨text.take earlier, (text.take place).drop earlier, ?_, fits, takes⟩
    have same := List.take_append_drop earlier (text.take place)
    rw [List.take_take, Nat.min_eq_left bound] at same
    exact same.symm

/-- One character lies between two places if the second comes right after the first. -/
theorem drop_take_eq_singleton {earlier place : Nat} {character : Char}
    (inside : place ≤ text.length) :
    (text.take place).drop earlier = [character] ↔
      place = earlier + 1 ∧ text[earlier]? = some character := by
  constructor
  · intro single
    have total := congrArg List.length single
    rw [List.length_drop, List.length_take, List.length_singleton] at total
    have next : place = earlier + 1 := by omega
    refine ⟨next, ?_⟩
    have first := congrArg (fun piece => piece[0]?) single
    rw [List.getElem?_drop, List.getElem?_take_of_lt (by omega)] at first
    simpa using first
  · rintro ⟨rfl, found⟩
    rw [List.drop_take, Nat.add_sub_cancel_left, List.take_one, List.head?_drop, found]
    rfl

/-! ### Marks -/

/-- The marks of a text for tokens: the mark at a place says whether the text up to that place
fits them. -/
structure Marked (tokens : List Token) (text : List Char) (marks : List Bool) : Prop where
  /-- There is a mark for each place of the text, the end included. -/
  length : marks.length = text.length + 1
  /-- A mark is set where the text up to it fits. -/
  set_iff : ∀ place ≤ text.length, marks[place]? = some true ↔ Fits tokens (text.take place)

theorem marked_start (text : List Char) : Marked [] text (start text) where
  length := by rw [start, List.length_cons, List.length_map]
  set_iff := by
    intro place inside
    rw [fits_nil, List.take_eq_nil_iff]
    cases place with
    | zero => exact iff_of_true rfl (.inl rfl)
    | succ earlier =>
      have nonempty : text ≠ [] := List.ne_nil_of_length_pos (by omega)
      refine iff_of_false ?_ (by simpa using nonempty)
      rw [start, List.getElem?_cons_succ, List.getElem?_map]
      cases text[earlier]? <;> simp

theorem length_spread (seen : Bool) (marks : List Bool) :
    (spread seen marks).length = marks.length := by
  induction marks generalizing seen with
  | nil => rfl
  | cons mark rest inductionHypothesis =>
    rw [spread, List.length_cons, inductionHypothesis, List.length_cons]

/-- A mark that stays set is set where it was set at an earlier place. -/
theorem getElem?_spread {seen : Bool} {marks : List Bool} {place : Nat}
    (inside : place < marks.length) :
    (spread seen marks)[place]? = some true ↔
      seen = true ∨ ∃ earlier ≤ place, marks[earlier]? = some true := by
  induction marks generalizing seen place with
  | nil => exact absurd inside (Nat.not_lt_zero place)
  | cons mark rest inductionHypothesis =>
    cases place with
    | zero =>
      rw [spread, List.getElem?_cons_zero, Option.some.injEq, Bool.or_eq_true]
      refine or_congr_right ?_
      constructor
      · intro set
        exact ⟨0, le_rfl, congrArg some set⟩
      · rintro ⟨earlier, bound, set⟩
        obtain rfl := Nat.le_zero.mp bound
        exact Option.some.inj set
    | succ place =>
      rw [spread, List.getElem?_cons_succ, inductionHypothesis (Nat.lt_of_succ_lt_succ inside),
        Bool.or_eq_true, or_assoc]
      refine or_congr_right ?_
      constructor
      · rintro (set | ⟨earlier, bound, set⟩)
        · exact ⟨0, Nat.zero_le _, congrArg some set⟩
        · exact ⟨earlier + 1, Nat.succ_le_succ bound, set⟩
      · rintro ⟨earlier, bound, set⟩
        cases earlier with
        | zero => exact .inl (Option.some.inj set)
        | succ earlier => exact .inr ⟨earlier, Nat.le_of_succ_le_succ bound, set⟩

theorem length_advance {marks : List Bool} (length : marks.length = text.length + 1)
    (token : Token) : (advance text marks token).length = text.length + 1 := by
  cases token with
  | run => rw [advance, length_spread, length]
  | any => rw [advance, List.length_cons, List.length_dropLast, length, Nat.add_sub_cancel]
  | exactly character =>
    rw [advance, List.length_cons, List.length_zipWith, length, Nat.min_eq_right (Nat.le_succ _)]

/-- One token moves the marks of a text on to those for one token more. -/
theorem Marked.advance {marks : List Bool} (marked : Marked tokens text marks) (token : Token) :
    Marked (tokens ++ [token]) text (advance text marks token) where
  length := length_advance marked.length token
  set_iff := by
    intro place inside
    rw [fits_append_take]
    cases token with
    | run =>
      rw [Pattern.advance, getElem?_spread (by rw [marked.length]; omega), Bool.false_eq_true,
        false_or]
      refine exists_congr fun earlier => and_congr_right fun bound => ?_
      rw [marked.set_iff earlier (bound.trans inside)]
      exact (and_iff_left trivial).symm
    | any =>
      rw [Pattern.advance]
      simp only [Token.Takes, drop_take_eq_singleton inside]
      cases place with
      | zero => exact iff_of_false (by simp) (by simp)
      | succ before =>
        rw [List.getElem?_cons_succ, List.getElem?_dropLast, if_pos (by rw [marked.length]; omega),
          marked.set_iff before (by omega)]
        constructor
        · intro fits
          exact ⟨before, Nat.le_succ before, fits, text[before], rfl,
            List.getElem?_eq_getElem (by omega)⟩
        · rintro ⟨earlier, _, fits, _, next, _⟩
          rwa [Nat.succ.inj next]
    | exactly character =>
      rw [Pattern.advance]
      simp only [Token.Takes, drop_take_eq_singleton inside]
      cases place with
      | zero => exact iff_of_false (by simp) (by simp)
      | succ before =>
        have here : before < text.length := by omega
        rw [List.getElem?_cons_succ, List.getElem?_zipWith, List.getElem?_eq_getElem here]
        have set := marked.set_iff before (by omega)
        constructor
        · intro both
          cases mark : marks[before]? with
          | none => rw [mark] at both; exact absurd both (by simp)
          | some value =>
            rw [mark] at both set
            obtain ⟨rfl, same⟩ := (Bool.and_eq_true _ _).mp (Option.some.inj both)
            exact ⟨before, Nat.le_succ before, set.mp rfl, rfl,
              (List.getElem?_eq_getElem here).trans (congrArg some (eq_of_beq same))⟩
        · rintro ⟨earlier, _, fits, next, found⟩
          obtain rfl := Nat.succ.inj next
          rw [set.mpr fits]
          rw [List.getElem?_eq_getElem here, Option.some.injEq] at found
          rw [found]
          exact congrArg some (beq_self_eq_true character)

/-- A row of tokens moves the marks of a text on to those for all of them. -/
theorem Marked.foldl {marks : List Bool} (marked : Marked tokens text marks)
    (more : List Token) :
    Marked (tokens ++ more) text (more.foldl (Pattern.advance text) marks) := by
  induction more generalizing tokens marks with
  | nil => rwa [List.append_nil]
  | cons token more inductionHypothesis =>
    rw [List.append_cons]
    exact inductionHypothesis (marked.advance token)

/-- The matcher decides whether a text fits tokens. -/
theorem matchTokens_iff (tokens : List Token) (text : List Char) :
    matchTokens tokens text = true ↔ Fits tokens text := by
  have marked := (marked_start text).foldl tokens
  rw [List.nil_append] at marked
  have last := marked.set_iff text.length le_rfl
  rw [List.take_length] at last
  rw [← last, matchTokens, List.getLastD_eq_getLast?, List.getLast?_eq_getElem?, marked.length,
    Nat.add_sub_cancel]
  cases (tokens.foldl (Pattern.advance text) (start text))[text.length]? <;> simp

end Sieve.Pattern
