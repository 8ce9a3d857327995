/-
This file proves that a condition can be read in one way only. Two filters with one
text and equal parameters are the same but for what does not matter to their truth,
so they are true of the same rows, and what is known under the text of one may be used
for the other. The proof reads both texts from the left at once. A bracket opens
either a combination or a source that is brought to a zone; the words after the
source in it tell these apart.
-/

import Sieve.Proofs.Sql.Question
import Sieve.Store.Basic

namespace Sieve

open Outcome Sql

namespace Filter

variable {options : Options} {leftRest rightRest : List Char} {left right filter : Filter}
  {question : Question}

/-! ### Combinations -/

/-- A conjunction or a disjunction. -/
def joined (conjunctive : Bool) (parts : List Filter) : Filter :=
  if conjunctive then all parts else any parts

/-- The word between the parts of a conjunction or a disjunction. -/
def joiner (conjunctive : Bool) : String :=
  if conjunctive then " AND " else " OR "

/-- What follows the first part in a combination. -/
def following (options : Options) (conjunctive : Bool) (before : Nat) : List Filter → List Char
  | [] => []
  | second :: rest => (joiner conjunctive).toList ++
    Piece.write before (joinedPieces options (joiner conjunctive) (second :: rest))

theorem write_joinedPieces (conjunctive : Bool) (before : Nat) (first : Filter)
    (rest : List Filter) :
    Piece.write before (joinedPieces options (joiner conjunctive) (first :: rest)) =
      Piece.write before (first.pieces options) ++
        following options conjunctive (before + first.parameters.length) rest := by
  cases rest with
  | nil => exact (List.append_nil _).symm
  | cons second rest =>
    rw [joinedPieces_cons_cons, write_pieces, Piece.write, following]

theorem write_joined (conjunctive : Bool) (before : Nat) (first : Filter) (rest : List Filter) :
    Piece.write before ((joined conjunctive (first :: rest)).pieces options) =
      '(' :: (Piece.write before (joinedPieces options (joiner conjunctive) (first :: rest)) ++
        [')']) := by
  cases conjunctive with
  | false =>
    rw [joined, if_neg Bool.false_ne_true, pieces_any_cons, Piece.write, Piece.write_append]
    rfl
  | true =>
    rw [joined, if_pos rfl, pieces_all_cons, Piece.write, Piece.write_append]
    rfl

theorem write_not (before : Nat) (part : Filter) :
    Piece.write before ((not part).pieces options) =
      "NOT (".toList ++ (Piece.write before (part.pieces options) ++ [')']) := by
  rw [pieces, List.cons_append, Piece.write, Piece.write_append]
  rfl

theorem accesses_joined (conjunctive : Bool) (first : Filter) (rest : List Filter) :
    (joined conjunctive (first :: rest)).accesses = first.accesses ++ accessesOfAll rest := by
  cases conjunctive <;> rfl

theorem parameters_joined (conjunctive : Bool) (parts : List Filter) :
    (joined conjunctive parts).parameters = parametersOfAll parts := by
  cases conjunctive <;> rfl

theorem Segmented.first {conjunctive : Bool} {first : Filter} {rest : List Filter}
    (segmented : (joined conjunctive (first :: rest)).Segmented) : first.Segmented := by
  intro access inside
  refine segmented access ?_
  rw [accesses_joined]
  exact List.mem_append_left _ inside

theorem endsSource_following (conjunctive : Bool) (before : Nat) (rest : List Filter)
    (after : List Char) :
    endsSource (following options conjunctive before rest ++ ')' :: after) = true := by
  cases rest <;> cases conjunctive <;> rfl

/-! ### Shapes -/

/-- How a filter is put together, as far as its text shows it. -/
inductive Shape where
  /-- A conjunction without parts. -/
  | always
  /-- A disjunction without parts. -/
  | never
  /-- A combination of parts. -/
  | joined
  /-- A negation. -/
  | negated
  /-- A question. -/
  | asked

/-- How a filter is put together. -/
inductive View (options : Options) : Filter → Shape → Prop
  /-- The filter that always holds. -/
  | always : View options (all []) .always
  /-- The filter that never holds. -/
  | never : View options (any []) .never
  /-- A combination with a first part. -/
  | joined (conjunctive : Bool) (first : Filter) (rest : List Filter) :
    View options (joined conjunctive (first :: rest)) .joined
  /-- A negation. -/
  | negated (part : Filter) : View options (not part) .negated
  /-- A filter without parts. -/
  | asked {filter : Filter} {question : Question}
    (asked : filter.question? options = some question) : View options filter .asked

theorem exists_view (options : Options) (filter : Filter) :
    ∃ shape, View options filter shape := by
  cases filter with
  | all parts =>
    cases parts with
    | nil => exact ⟨_, .always⟩
    | cons first rest => exact ⟨_, .joined true first rest⟩
  | any parts =>
    cases parts with
    | nil => exact ⟨_, .never⟩
    | cons first rest => exact ⟨_, .joined false first rest⟩
  | not part => exact ⟨_, .negated part⟩
  | _ => exact ⟨_, .asked rfl⟩

/-- The ways in which the text of a filter of a shape may begin. -/
def Shape.openers : Shape → List (Option Char)
  | always => [some 'T']
  | never => [some 'F']
  | joined => [some '(']
  | negated => [some 'N']
  | asked => [none, some 'C', some '(']

theorem opener?_mem_openers {shape : Shape} (view : View options filter shape) (before : Nat)
    (rest : List Char) :
    opener? (Piece.write before (filter.pieces options) ++ rest) ∈ shape.openers := by
  cases view with
  | always | never | negated => exact List.mem_singleton.mpr rfl
  | joined conjunctive first others =>
    rw [write_joined]
    exact List.mem_singleton.mpr rfl
  | asked asked =>
    rw [write_of_question? asked, List.append_assoc, Source.opener?_text]
    exact Source.opener?_mem _

/-- No filter begins with a source that is brought to a zone: what follows the source in a
question is another word. -/
theorem write_ne_atZone (filter : Filter) {source : Source} (before : Nat)
    (filterSegmented : filter.Segmented) (sourceSegmented : source.Segmented)
    (rest other : List Char) :
    Piece.write before (filter.pieces options) ++ rest ≠
      source.text options ++ (" AT TIME ZONE 'UTC')".toList ++ other) := by
  intro same
  obtain ⟨shape, view⟩ := exists_view options filter
  have openers := opener?_mem_openers view before rest
  rw [same, Source.opener?_text] at openers
  have known := source.opener?_mem
  cases view with
  | always | never | negated =>
    rw [List.mem_singleton.mp openers] at known
    exact absurd known (by decide)
  | joined conjunctive first others =>
    obtain ⟨inner, rfl⟩ := Source.exists_atUtc_of_opener? (List.mem_singleton.mp openers)
    rw [write_joined, write_joinedPieces, Source.text_atUtc] at same
    simp only [List.cons_append, List.cons.injEq, true_and, List.append_assoc] at same
    have below : inner.Segmented := sourceSegmented
    exact write_ne_atZone first before filterSegmented.first below _ _ same
  | asked asked =>
    have zone : " AT TIME ZONE 'UTC')".toList =
        ' ' :: ("AT".toList ++ ' ' :: "TIME ZONE 'UTC')".toList) := by
      simp
    have known := word_mem_words asked
    rw [write_of_question? asked, zone] at same
    simp only [List.append_assoc, List.cons_append] at same
    obtain ⟨_, after⟩ := Source.text_append_inj (filterSegmented.source asked) sourceSegmented
      (endsSource_word known _) rfl same
    obtain ⟨word, _⟩ := Text.append_cons_inj (blank_not_mem_word _ known) (by decide)
      (List.cons.inj after).2
    rw [String.toList_inj.mp word] at known
    exact absurd known (by decide)

theorem joined_ne_asked {conjunctive : Bool} {first : Filter} {others : List Filter} {before : Nat}
    (asked : filter.question? options = some question)
    (joinedSegmented : (joined conjunctive (first :: others)).Segmented)
    (askedSegmented : filter.Segmented) (rest other : List Char) :
    Piece.write before ((joined conjunctive (first :: others)).pieces options) ++ rest ≠
      Piece.write before (filter.pieces options) ++ other := by
  intro same
  rw [write_joined, write_joinedPieces, write_of_question? asked] at same
  have opener : question.source.opener? = some '(' := by
    rw [← @Source.opener?_text options question.source (_ ++ other), ← List.append_assoc, ← same]
    rfl
  obtain ⟨inner, zoned⟩ := Source.exists_atUtc_of_opener? opener
  have below : inner.Segmented := by
    have segmented := askedSegmented.source asked
    rwa [zoned] at segmented
  rw [zoned, Source.text_atUtc] at same
  simp only [List.cons_append, List.cons.injEq, true_and, List.append_assoc] at same
  exact write_ne_atZone first before joinedSegmented.first below _ _ same

theorem Shape.eq_of_mem_openers {left right : Shape} {opener : Option Char}
    (leftOpener : opener ∈ left.openers) (rightOpener : opener ∈ right.openers) :
    left = right ∨ (left = joined ∧ right = asked) ∨ (left = asked ∧ right = joined) := by
  cases left <;> cases right <;> simp_all [openers]

/-- The text of a filter shows its shape. -/
theorem shape_eq {leftShape rightShape : Shape} {before : Nat}
    (leftView : View options left leftShape) (rightView : View options right rightShape)
    (leftSegmented : left.Segmented) (rightSegmented : right.Segmented)
    (same : Piece.write before (left.pieces options) ++ leftRest =
      Piece.write before (right.pieces options) ++ rightRest) :
    leftShape = rightShape := by
  have leftOpener := opener?_mem_openers leftView before leftRest
  have rightOpener := opener?_mem_openers rightView before rightRest
  rw [same] at leftOpener
  rcases Shape.eq_of_mem_openers leftOpener rightOpener with alike | ⟨rfl, rfl⟩ | ⟨rfl, rfl⟩
  · exact alike
  · cases leftView with
    | joined =>
      cases rightView with
      | asked asked => exact absurd same (joined_ne_asked asked leftSegmented rightSegmented _ _)
  · cases rightView with
    | joined =>
      cases leftView with
      | asked asked =>
        exact absurd same.symm (joined_ne_asked asked rightSegmented leftSegmented _ _)

theorem joiner_append_inj {left right : Bool}
    (same : (joiner left).toList ++ leftRest = (joiner right).toList ++ rightRest) :
    left = right ∧ leftRest = rightRest := by
  cases left <;> cases right <;> simp_all [joiner]

theorem Segmented.rest {conjunctive other : Bool} {first second : Filter} {rest : List Filter}
    (segmented : (joined conjunctive (first :: second :: rest)).Segmented) :
    (joined other (second :: rest)).Segmented := by
  intro access inside
  refine segmented access ?_
  rw [accesses_joined] at inside
  rw [accesses_joined]
  exact List.mem_append_right _ inside

/-- Without what does not matter a combination of one part is a conjunction. -/
theorem bare_joined (conjunctive : Bool) (first : Filter) (rest : List Filter) :
    (joined conjunctive (first :: rest)).bare =
      joined (conjunctive || rest.isEmpty) (bareAll (first :: rest)) := by
  cases conjunctive with
  | true => rfl
  | false =>
    cases rest with
    | nil => rfl
    | cons second rest => exact bare_any_cons_cons first second rest

theorem isEmpty_bareAll (parts : List Filter) : (bareAll parts).isEmpty = parts.isEmpty := by
  cases parts <;> rfl

theorem bare_joined_eq {conjunctive other : Bool} {first second : Filter}
    {rest others : List Filter}
    (below : bareAll (first :: rest) = bareAll (second :: others))
    (same : rest ≠ [] → conjunctive = other) :
    (joined conjunctive (first :: rest)).bare = (joined other (second :: others)).bare := by
  have empty : rest.isEmpty = others.isEmpty := by
    rw [← isEmpty_bareAll rest, ← isEmpty_bareAll others, (List.cons.inj below).2]
  rw [bare_joined, bare_joined, below]
  cases rest with
  | nil => rw [← empty, List.isEmpty_nil, Bool.or_true, Bool.or_true]
  | cons third rest => rw [same (List.cons_ne_nil _ _), empty]

/-- Whether a filter is known from the beginning of a text, but for what does not matter. -/
def Unambiguous (options : Options) (left : Filter) : Prop :=
  ∀ (right : Filter) (before : Nat) (leftRest rightRest : List Char)
    (leftMore rightMore : List Parameter), left.Segmented → right.Segmented →
    endsSource leftRest = true → endsSource rightRest = true →
    Piece.write before (left.pieces options) ++ leftRest =
      Piece.write before (right.pieces options) ++ rightRest →
    left.parameters.map Parameter.bare ++ leftMore =
      right.parameters.map Parameter.bare ++ rightMore →
    left.bare = right.bare ∧ leftRest = rightRest

section

variable {conjunctive other : Bool} {first second : Filter} {rest others : List Filter}
  {leftMore rightMore : List Parameter}

/-- The first part of a combination is known, and with it what follows it. -/
theorem first_append_inj {before : Nat} (known : first.Unambiguous options)
    (leftSegmented : (joined conjunctive (first :: rest)).Segmented)
    (rightSegmented : (joined other (second :: others)).Segmented)
    (same : Piece.write before (joinedPieces options (joiner conjunctive) (first :: rest)) ++
        ')' :: leftRest =
      Piece.write before (joinedPieces options (joiner other) (second :: others)) ++
        ')' :: rightRest)
    (values : (parametersOfAll (first :: rest)).map Parameter.bare ++ leftMore =
      (parametersOfAll (second :: others)).map Parameter.bare ++ rightMore) :
    first.bare = second.bare ∧
      (∃ count, following options conjunctive count rest ++ ')' :: leftRest =
        following options other count others ++ ')' :: rightRest) ∧
      (parametersOfAll rest).map Parameter.bare ++ leftMore =
        (parametersOfAll others).map Parameter.bare ++ rightMore := by
  rw [write_joinedPieces, write_joinedPieces, List.append_assoc, List.append_assoc] at same
  rw [parametersOfAll, parametersOfAll, List.map_append, List.map_append, List.append_assoc,
    List.append_assoc] at values
  obtain ⟨head, after⟩ := known second before _ _ _ _ leftSegmented.first rightSegmented.first
    (endsSource_following _ _ _ _) (endsSource_following _ _ _ _) same values
  have bound : first.parameters.map Parameter.bare = second.parameters.map Parameter.bare := by
    rw [← parameters_bare, ← parameters_bare, head]
  have lengths : first.parameters.length = second.parameters.length := by
    simpa using congrArg List.length bound
  rw [bound, List.append_cancel_left_eq] at values
  rw [lengths] at after
  exact ⟨head, ⟨_, after⟩, values⟩

theorem joinedPieces_append_inj {before : Nat}
    (below : ∀ part ∈ first :: rest, part.Unambiguous options)
    (leftSegmented : (joined conjunctive (first :: rest)).Segmented)
    (rightSegmented : (joined other (second :: others)).Segmented)
    (same : Piece.write before (joinedPieces options (joiner conjunctive) (first :: rest)) ++
        ')' :: leftRest =
      Piece.write before (joinedPieces options (joiner other) (second :: others)) ++
        ')' :: rightRest)
    (values : (parametersOfAll (first :: rest)).map Parameter.bare ++ leftMore =
      (parametersOfAll (second :: others)).map Parameter.bare ++ rightMore) :
    bareAll (first :: rest) = bareAll (second :: others) ∧
      (rest ≠ [] → conjunctive = other) ∧ leftRest = rightRest := by
  induction rest generalizing first second others before with
  | nil =>
    obtain ⟨head, ⟨count, after⟩, _⟩ := first_append_inj (below first List.mem_cons_self)
      leftSegmented rightSegmented same values
    cases others with
    | nil => exact ⟨congrArg (· :: []) head, (absurd rfl ·), (List.cons.inj after).2⟩
    | cons fourth others => cases other <;> exact absurd (List.cons.inj after).1 (by decide)
  | cons third rest inductionHypothesis =>
    obtain ⟨known, belowRest⟩ := List.forall_mem_cons.mp below
    obtain ⟨head, ⟨count, after⟩, more⟩ :=
      first_append_inj known leftSegmented rightSegmented same values
    cases others with
    | nil => cases conjunctive <;> exact absurd (List.cons.inj after).1 (by decide)
    | cons fourth others =>
      rw [following, following, List.append_assoc, List.append_assoc] at after
      obtain ⟨rfl, joinedSame⟩ := joiner_append_inj after
      obtain ⟨parts, _, remaining⟩ := inductionHypothesis belowRest leftSegmented.rest
        rightSegmented.rest joinedSame more
      refine ⟨?_, fun _ => rfl, remaining⟩
      show first.bare :: _ = second.bare :: _
      rw [head, parts]

end

theorem unambiguous_joined {conjunctive : Bool} {first : Filter} {rest : List Filter}
    (below : ∀ part ∈ first :: rest, part.Unambiguous options) :
    (joined conjunctive (first :: rest)).Unambiguous options := by
  intro right before leftRest rightRest leftMore rightMore leftSegmented rightSegmented _ _ same
    values
  obtain ⟨shape, view⟩ := exists_view options right
  obtain rfl := shape_eq (.joined conjunctive first rest) view leftSegmented rightSegmented same
  cases view with
  | joined other second others =>
    rw [write_joined, write_joined] at same
    simp only [List.cons_append, List.cons.injEq, true_and, List.append_assoc] at same
    rw [parameters_joined, parameters_joined] at values
    obtain ⟨parts, joiners, after⟩ :=
      joinedPieces_append_inj below leftSegmented rightSegmented same values
    exact ⟨bare_joined_eq parts joiners, after⟩

theorem unambiguous_not {part : Filter} (below : part.Unambiguous options) :
    (not part).Unambiguous options := by
  intro right before leftRest rightRest leftMore rightMore leftSegmented rightSegmented _ _ same
    values
  obtain ⟨shape, view⟩ := exists_view options right
  obtain rfl := shape_eq (.negated part) view leftSegmented rightSegmented same
  cases view with
  | negated other =>
    rw [write_not, write_not] at same
    simp only [List.append_assoc, List.append_cancel_left_eq] at same
    obtain ⟨parts, after⟩ :=
      below other before _ _ _ _ leftSegmented rightSegmented rfl rfl same values
    exact ⟨congrArg not parts, (List.cons.inj after).2⟩

theorem unambiguous_of_question? (asked : filter.question? options = some question) :
    filter.Unambiguous options := by
  intro right before leftRest rightRest leftMore rightMore leftSegmented rightSegmented leftEnds
    rightEnds same values
  obtain ⟨shape, view⟩ := exists_view options right
  obtain rfl := shape_eq (.asked asked) view leftSegmented rightSegmented same
  cases view with
  | asked rightAsked =>
    rw [write_of_question? asked, write_of_question? rightAsked] at same
    simp only [List.append_assoc, List.cons_append] at same
    obtain ⟨sources, words, operands⟩ := question_append_inj (word_mem_words asked)
      (word_mem_words rightAsked) (leftSegmented.source asked)
      (rightSegmented.source rightAsked) same
    exact bare_eq_of_question? asked rightAsked leftSegmented rightSegmented leftEnds rightEnds
      sources words operands values

theorem unambiguous_empty (conjunctive : Bool) : (joined conjunctive []).Unambiguous options := by
  intro right before leftRest rightRest leftMore rightMore leftSegmented rightSegmented _ _ same _
  obtain ⟨shape, view⟩ := exists_view options right
  cases conjunctive with
  | true =>
    obtain rfl := shape_eq .always view leftSegmented rightSegmented same
    cases view with
    | always => exact ⟨rfl, List.append_cancel_left same⟩
  | false =>
    obtain rfl := shape_eq .never view leftSegmented rightSegmented same
    cases view with
    | never => exact ⟨rfl, List.append_cancel_left same⟩

/-- Every filter is known from its text, but for what does not matter. -/
theorem unambiguous (options : Options) (filter : Filter) : filter.Unambiguous options := by
  induction filter using induction with
  | all parts below =>
    cases parts with
    | nil => exact unambiguous_empty true
    | cons first rest => exact @unambiguous_joined _ true _ _ below
  | any parts below =>
    cases parts with
    | nil => exact unambiguous_empty false
    | cons first rest => exact @unambiguous_joined _ false _ _ below
  | not part below => exact unambiguous_not below
  | _ => exact unambiguous_of_question? rfl

/-! ### Conditions -/

theorem whereClause_parameters (options : Options) (filter : Filter) :
    (filter.whereClause options).parameters = filter.parameters :=
  filter.filterMap_pieces options

theorem map_bare_eq {leftParameters rightParameters : List Parameter}
    (values : List.Forall₂ (fun left right => left.value.Equal right.value) leftParameters
      rightParameters) :
    leftParameters.map Parameter.bare = rightParameters.map Parameter.bare := by
  induction values with
  | nil => rfl
  | cons same _ inductionHypothesis =>
    rw [List.map_cons, List.map_cons, inductionHypothesis, Parameter.bare, Parameter.bare,
      same.withOneZero_eq]

theorem bare_eq_of_whereClause_eq (leftSegmented : left.Segmented)
    (rightSegmented : right.Segmented)
    (values : List.Forall₂ (fun left right => left.value.Equal right.value)
      (left.whereClause options).parameters (right.whereClause options).parameters)
    (same : (left.whereClause options).text = (right.whereClause options).text) :
    left.bare = right.bare := by
  rw [whereClause_parameters, whereClause_parameters] at values
  have text := congrArg (· ++ []) (String.ofList_injective same)
  have bound := congrArg (· ++ []) (map_bare_eq values)
  exact (unambiguous options left right 0 [] [] [] [] leftSegmented rightSegmented rfl rfl text
    bound).1

theorem write_parameterPieces_map (before : Nat) (parameters : List Parameter) :
    Piece.write before (parameterPieces (parameters.map Parameter.bare) ++ [.fixed ")"]) =
      Piece.write before (parameterPieces parameters ++ [.fixed ")"]) := by
  induction parameters generalizing before with
  | nil => rfl
  | cons first rest inductionHypothesis =>
    rw [List.map_cons, write_parameterPieces_cons, write_parameterPieces_cons, inductionHypothesis,
      List.isEmpty_map]

theorem following_bareAll {parts : List Filter}
    (below : ∀ part ∈ parts, ∀ before, Piece.write before (part.bare.pieces options) =
      Piece.write before (part.pieces options)) (conjunctive : Bool) (before : Nat) :
    following options conjunctive before (bareAll parts) =
      following options conjunctive before parts := by
  induction parts generalizing before with
  | nil => rfl
  | cons first rest inductionHypothesis =>
    obtain ⟨here, belowRest⟩ := List.forall_mem_cons.mp below
    rw [bareAll, following, following, write_joinedPieces, write_joinedPieces, here,
      parameters_bare, List.length_map, inductionHypothesis belowRest]

theorem write_bare_joined {first : Filter} {rest : List Filter}
    (below : ∀ part ∈ first :: rest, ∀ before, Piece.write before (part.bare.pieces options) =
      Piece.write before (part.pieces options)) (conjunctive : Bool) (before : Nat) :
    Piece.write before ((joined conjunctive (first :: rest)).bare.pieces options) =
      Piece.write before ((joined conjunctive (first :: rest)).pieces options) := by
  obtain ⟨here, belowRest⟩ := List.forall_mem_cons.mp below
  rw [bare_joined, bareAll, write_joined, write_joined, write_joinedPieces, write_joinedPieces,
    here, parameters_bare, List.length_map, following_bareAll belowRest]
  cases rest with
  | nil => rfl
  | cons second rest => rw [List.isEmpty_cons, Bool.or_false]

/-- What does not matter is not written. -/
theorem write_bare (filter : Filter) (before : Nat) :
    Piece.write before (filter.bare.pieces options) =
      Piece.write before (filter.pieces options) := by
  induction filter using induction generalizing before with
  | all parts below =>
    cases parts with
    | nil => rfl
    | cons first rest => exact write_bare_joined below true before
  | any parts below =>
    cases parts with
    | nil => rfl
    | cons first rest => exact write_bare_joined below false before
  | not part below => rw [bare, write_not, write_not, below]
  | member field parameters negated =>
    rw [bare, pieces, pieces, List.append_assoc, List.append_assoc, Source.write_pieces,
      Source.write_pieces, List.cons_append, List.cons_append, Piece.write, Piece.write,
      write_parameterPieces_map]
    rfl
  | compareFields => rfl
  | isNull => rfl
  | compare | between | like =>
    rw [bare, pieces, pieces, Source.write_pieces, Source.write_pieces]
    rfl

theorem whereClause_text_bare (options : Options) (filter : Filter) :
    (filter.bare.whereClause options).text = (filter.whereClause options).text :=
  congrArg String.ofList (write_bare filter 0)

theorem evaluate_eq_of_bare_eq (same : left.bare = right.bare) (row : Row) :
    left.evaluate row = right.evaluate row := by
  rw [← evaluate_bare, same, evaluate_bare]

/-- Two conditions with equal parameters have one text if and only if their filters are the same
but for what does not matter. Then the filters have one truth on every row. So two filters of
different meaning are never confused under a text; under a fingerprint they are only if it is that
of two texts. -/
theorem whereClause_unambiguous (options : Options) {left right : Filter}
    (leftSegmented : left.Segmented) (rightSegmented : right.Segmented)
    (values : List.Forall₂ (fun left right => left.value.Equal right.value)
      (left.whereClause options).parameters (right.whereClause options).parameters) :
    ((left.whereClause options).text = (right.whereClause options).text ↔
        left.bare = right.bare) ∧
      ((left.whereClause options).text = (right.whereClause options).text →
        ∀ row, left.evaluate row = right.evaluate row) ∧
      ((left.whereClause options).fingerprint = (right.whereClause options).fingerprint →
        (∀ row, left.evaluate row = right.evaluate row) ∨
          ((left.whereClause options).text ≠ (right.whereClause options).text ∧
            Blake3.hexDigest (left.whereClause options).text =
              Blake3.hexDigest (right.whereClause options).text)) := by
  have known : (left.whereClause options).text = (right.whereClause options).text →
      left.bare = right.bare :=
    bare_eq_of_whereClause_eq leftSegmented rightSegmented values
  refine ⟨⟨known, ?_⟩, fun same => evaluate_eq_of_bare_eq (known same), ?_⟩
  · intro same
    rw [← whereClause_text_bare, same, whereClause_text_bare]
  · intro fingerprints
    by_cases same : (left.whereClause options).text = (right.whereClause options).text
    · exact .inl (evaluate_eq_of_bare_eq (known same))
    · exact .inr ⟨same, fingerprints⟩

/-- A disjunction of one part and a conjunction of it say the same of a zero of either sign. -/
theorem whereClause_unambiguous_zero :
    let source := Source.cast (.jsonText ["Size"]) .double
    let left : Filter := .any [.compare ⟨"Size", .float, source, .double⟩ .lt
      ⟨.float (.zero true), .double⟩]
    let right : Filter := .all [.compare ⟨"Length", .float, source, .double⟩ .lt
      ⟨.float (.zero false), .double⟩]
    left.bare = right.bare ∧ ∀ row, left.evaluate row = right.evaluate row := by
  intro source left right
  have segmented : source.Segmented := List.cons_ne_nil "Size" []
  have leftSegmented : left.Segmented := List.forall_mem_singleton.mpr segmented
  have rightSegmented : right.Segmented := List.forall_mem_singleton.mpr segmented
  have zeros : Datum.Equal (.float (.zero true)) (.float (.zero false)) :=
    .inr ⟨_, _, rfl, rfl, rfl⟩
  have same : (left.whereClause .standard).text = (right.whereClause .standard).text := rfl
  obtain ⟨bare, meaning, _⟩ := whereClause_unambiguous .standard leftSegmented rightSegmented
    (.cons zeros .nil)
  exact ⟨bare.mp same, meaning same⟩

end Filter

/-! ### Predicates -/

theorem pathSegments_ne_nil {path : String} (formed : isMalformedPath path = false) :
    pathSegments path ≠ [] := by
  have whole : (Text.pieces '.' path.toList).filter (fun segment => !segment.isEmpty) =
      Text.pieces '.' path.toList := by
    refine List.filter_eq_self.mpr fun segment inside => ?_
    rw [Bool.not_eq_true']
    exact Bool.eq_false_iff.mpr (List.any_eq_false.mp formed segment inside)
  rw [pathSegments, whole]
  exact fun none => Text.pieces_ne_nil _ _ (List.map_eq_nil_iff.mp none)

theorem Field.segmented_access {field : Field} (formed : isMalformedPath field.path = false) :
    field.access.source.Segmented := by
  have text : field.textSource.Segmented := pathSegments_ne_nil formed
  rw [access]
  cases field.storage with
  | duplicated column type => exact trivial
  | extracted => cases field.kind.jsonCast? <;> exact text

theorem Access.segmented_broughtTo {access : Access} (segmented : access.source.Segmented)
    (type : ColumnType) : (access.broughtTo type).source.Segmented := by
  rw [broughtTo]
  split
  · exact segmented
  · split <;> exact segmented

namespace Catalog

variable {catalog : Catalog} {typeName : String}

theorem Reads.segmented {access : Access} (read : catalog.Reads typeName access) :
    access.source.Segmented := by
  obtain ⟨field, resolved, way⟩ := read
  obtain ⟨documentType, described, found⟩ := resolve_eq_ok.mp resolved
  have formed : isMalformedPath field.path = false :=
    (valid_of_describe described).fields.formed field (DocumentType.mem_of_field? found).1
  have stored := Field.segmented_access formed
  rcases way with same | same
  · rwa [same]
  · rw [same]
    exact Access.segmented_broughtTo stored _

end Catalog

theorem Planner.segmented_of_compile {planner : Planner} {typeName : String}
    {predicate? : Option Predicate} {filter : Filter}
    (compiled : planner.compile typeName predicate? = .ok filter) : filter.Segmented := by
  obtain ⟨documentType, _, compiled⟩ := bind_eq_ok.mp compiled
  cases asked : asked? predicate? with
  | some predicate =>
    rw [asked] at compiled
    intro access inside
    exact ((Catalog.typed_of_compile predicate compiled).accesses access inside).segmented
  | none =>
    rw [asked] at compiled
    dsimp only at compiled
    split at compiled
    · rw [← Except.ok.inj compiled]
      exact fun _ inside => absurd inside List.not_mem_nil
    · exact absurd compiled nofun

namespace Store

theorem matching_congr {left right : Filter}
    (same : ∀ row, left.evaluate row = right.evaluate row) (documents : List Document) :
    matching left documents = matching right documents := by
  induction documents with
  | nil => rfl
  | cons document rest inductionHypothesis => rw [matching, matching, same, inductionHypothesis]

/-- Where a store keeps what it has found under the text of a condition and its parameters, it
finds the same for whatever else is planned as that condition. -/
theorem query_eq_of_whereClause_eq {store : Store} {typeName : String}
    {left right : Option Predicate} {leftCommand rightCommand : Command}
    (leftPlanned : store.planner.whereClause typeName left = .ok leftCommand)
    (rightPlanned : store.planner.whereClause typeName right = .ok rightCommand)
    (texts : leftCommand.text = rightCommand.text)
    (values : List.Forall₂ (fun left right => left.value.Equal right.value)
      leftCommand.parameters rightCommand.parameters) :
    store.query typeName left = store.query typeName right := by
  obtain ⟨leftFilter, leftCompiled, leftDone⟩ := bind_eq_ok.mp leftPlanned
  obtain ⟨rightFilter, rightCompiled, rightDone⟩ := bind_eq_ok.mp rightPlanned
  obtain rfl := Except.ok.inj leftDone
  obtain rfl := Except.ok.inj rightDone
  have bare := Filter.bare_eq_of_whereClause_eq (Planner.segmented_of_compile leftCompiled)
    (Planner.segmented_of_compile rightCompiled) values texts
  rw [query, query, leftCompiled, rightCompiled]
  show store.queryFilter typeName leftFilter = store.queryFilter typeName rightFilter
  rw [queryFilter, queryFilter, matching_congr (Filter.evaluate_eq_of_bare_eq bare)]

end Store

end Sieve
