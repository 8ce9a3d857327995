/-
This file follows the pieces of a condition into its text. Pieces that are put one
after another are written one after another, with the placeholders of the second
ones numbered on; what is read from a row has no parameters, so its text is the same
wherever it stands; and the parameters among the pieces of a filter are those of the
filter, in its order.
-/

import Mathlib
import Sieve.Sql.Statement

namespace Sieve

open Sql

namespace Sql.Piece

theorem write_append (before : Nat) (first second : List Piece) :
    write before (first ++ second) =
      write before first ++ write (before + (first.filterMap parameter?).length) second := by
  induction first generalizing before with
  | nil => rfl
  | cons piece rest inductionHypothesis =>
    cases piece with
    | parameter bound =>
      have counted : (parameter bound :: rest).filterMap parameter? =
          bound :: rest.filterMap parameter? := rfl
      rw [List.cons_append, write, write, inductionHypothesis, counted, List.length_cons,
        List.append_assoc, Nat.add_assoc, Nat.add_comm 1]
    | _ =>
      rw [List.cons_append, write, write, inductionHypothesis, List.filterMap_cons_none rfl,
        List.append_assoc]

/-- Without parameters nothing is numbered. -/
theorem write_of_filterMap_eq_nil {pieces : List Piece} (none : pieces.filterMap parameter? = [])
    (before : Nat) : write before pieces = write 0 pieces := by
  induction pieces with
  | nil => rfl
  | cons piece rest inductionHypothesis =>
    cases piece with
    | parameter bound => exact absurd none (List.cons_ne_nil _ _)
    | _ =>
      rw [List.filterMap_cons_none rfl] at none
      rw [write, write, inductionHypothesis none]

end Sql.Piece

variable (options : Options)

/-! ### What is read from a row -/

theorem filterMap_arrowPieces (segments : List String) :
    (arrowPieces segments).filterMap Piece.parameter? = [] := by
  fun_induction arrowPieces segments with
  | case1 | case2 => rfl
  | case3 segment rest _ inductionHypothesis => exact inductionHypothesis

namespace Source

/-- The text for what is read from a row. -/
def text (source : Source) : List Char :=
  Piece.write 0 (source.pieces options)

theorem filterMap_pieces (source : Source) :
    (source.pieces options).filterMap Piece.parameter? = [] := by
  induction source with
  | jsonText segments => exact filterMap_arrowPieces segments
  | column name => rfl
  | cast inner type inductionHypothesis | atUtc inner inductionHypothesis =>
    rw [pieces, List.cons_append, List.filterMap_cons_none rfl, List.filterMap_append,
      inductionHypothesis]
    rfl

theorem write_pieces (source : Source) (before : Nat) (rest : List Piece) :
    Piece.write before (source.pieces options ++ rest) =
      source.text options ++ Piece.write before rest := by
  have none := source.filterMap_pieces options
  rw [Piece.write_append, none, Piece.write_of_filterMap_eq_nil none]
  rfl

theorem text_jsonText (segments : List String) :
    (jsonText segments).text options =
      (writeName options.tableAlias).toList ++
        '.' :: ((writeName options.dataColumn).toList ++ Piece.write 0 (arrowPieces segments)) :=
  rfl

theorem text_column (name : String) :
    (column name).text options =
      (writeName options.tableAlias).toList ++ '.' :: (quoteName name).toList := by
  rw [text, pieces, Options.tablePiece, Piece.write, Piece.write, Piece.write, Piece.write,
    List.append_nil]
  rfl

theorem text_cast (inner : Source) (type : ColumnType) :
    (cast inner type).text options =
      "CAST(".toList ++ (inner.text options ++ (" AS " ++ type.name ++ ")").toList) := by
  rw [text, pieces, List.cons_append, Piece.write, write_pieces, Piece.write, Piece.write,
    List.append_nil]

theorem text_atUtc (inner : Source) :
    (atUtc inner).text options =
      '(' :: (inner.text options ++ " AT TIME ZONE 'UTC')".toList) := by
  rw [text, pieces, List.cons_append, Piece.write, write_pieces, Piece.write, Piece.write,
    List.append_nil]
  rfl

end Source

/-! ### Filters -/

theorem filterMap_parameterPieces (parameters : List Parameter) :
    (parameterPieces parameters).filterMap Piece.parameter? = parameters := by
  fun_induction parameterPieces parameters with
  | case1 | case2 => rfl
  | case3 parameter rest _ inductionHypothesis =>
    exact congrArg (parameter :: ·) inductionHypothesis

namespace Filter

/-- What holds of a filter whenever it holds of its parts holds of every filter. -/
theorem induction {motive : Filter → Prop}
    (all : ∀ parts, (∀ part ∈ parts, motive part) → motive (all parts))
    (any : ∀ parts, (∀ part ∈ parts, motive part) → motive (any parts))
    (not : ∀ part, motive part → motive (not part))
    (compare : ∀ field comparison parameter, motive (compare field comparison parameter))
    (compareFields : ∀ left comparison right, motive (compareFields left comparison right))
    (member : ∀ field parameters negated, motive (member field parameters negated))
    (between : ∀ field low high, motive (between field low high))
    (isNull : ∀ field negated, motive (isNull field negated))
    (like : ∀ field pattern ignoresCase, motive (like field pattern ignoresCase))
    (filter : Filter) : motive filter :=
  @Filter.rec motive (fun parts => ∀ part ∈ parts, motive part) all any not compare compareFields
    member between isNull like (fun _ inside => absurd inside List.not_mem_nil)
    (fun _ _ first rest => List.forall_mem_cons.mpr ⟨first, rest⟩) filter

theorem pieces_all_cons (first : Filter) (rest : List Filter) :
    (all (first :: rest)).pieces options =
      .fixed "(" :: (joinedPieces options " AND " (first :: rest) ++ [.fixed ")"]) := by
  rw [pieces, List.cons_append]
  exact fun none => absurd none (List.cons_ne_nil _ _)

theorem pieces_any_cons (first : Filter) (rest : List Filter) :
    (any (first :: rest)).pieces options =
      .fixed "(" :: (joinedPieces options " OR " (first :: rest) ++ [.fixed ")"]) := by
  rw [pieces, List.cons_append]
  exact fun none => absurd none (List.cons_ne_nil _ _)

theorem joinedPieces_cons_cons (joiner : String) (first second : Filter) (rest : List Filter) :
    joinedPieces options joiner (first :: second :: rest) =
      first.pieces options ++ .fixed joiner :: joinedPieces options joiner (second :: rest) := by
  rw [joinedPieces]
  exact fun none => absurd none (List.cons_ne_nil _ _)

mutual

/-- The parameters among the pieces of a filter are those of the filter. -/
theorem filterMap_pieces (filter : Filter) :
    (filter.pieces options).filterMap Piece.parameter? = filter.parameters := by
  cases filter with
  | all parts =>
    rcases parts with _ | ⟨first, rest⟩
    · rfl
    · rw [pieces_all_cons, List.filterMap_cons_none rfl, List.filterMap_append,
        filterMap_joinedPieces " AND " (first :: rest), parameters]
      exact List.append_nil _
  | any parts =>
    rcases parts with _ | ⟨first, rest⟩
    · rfl
    · rw [pieces_any_cons, List.filterMap_cons_none rfl, List.filterMap_append,
        filterMap_joinedPieces " OR " (first :: rest), parameters]
      exact List.append_nil _
  | not part =>
    rw [pieces, List.cons_append, List.filterMap_cons_none rfl, List.filterMap_append,
      filterMap_pieces part, parameters]
    exact List.append_nil _
  | compareFields left comparison right =>
    rw [pieces, List.filterMap_append, Source.filterMap_pieces, List.filterMap_cons_none rfl,
      Source.filterMap_pieces]
    rfl
  | member field bound negated =>
    rw [pieces, List.append_assoc, List.filterMap_append, Source.filterMap_pieces, List.cons_append,
      List.filterMap_cons_none rfl, List.filterMap_append, filterMap_parameterPieces]
    exact List.append_nil _
  | compare | between | isNull | like =>
    rw [pieces, List.filterMap_append, Source.filterMap_pieces]
    rfl

theorem filterMap_joinedPieces (joiner : String) (parts : List Filter) :
    (joinedPieces options joiner parts).filterMap Piece.parameter? = parametersOfAll parts := by
  match parts with
  | [] => rfl
  | [part] =>
    rw [joinedPieces, filterMap_pieces part, parametersOfAll, parametersOfAll, List.append_nil]
  | first :: second :: rest =>
    rw [joinedPieces_cons_cons, List.filterMap_append, filterMap_pieces first,
      List.filterMap_cons_none rfl, filterMap_joinedPieces joiner (second :: rest)]
    rfl

end

theorem write_pieces (filter : Filter) (before : Nat) (rest : List Piece) :
    Piece.write before (filter.pieces options ++ rest) =
      Piece.write before (filter.pieces options) ++
        Piece.write (before + filter.parameters.length) rest := by
  rw [Piece.write_append, filterMap_pieces]

end Filter

end Sieve
