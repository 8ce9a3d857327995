/-
This file replaces the names in filters and forgets their parameters, and does the
same to the pieces of commands. The two agree: the pieces of a filter whose names
have been replaced are the pieces of the filter, each with its name replaced. So a
command is made of two things that do not touch, a frame that the shape of the
filter decides, and the names in it. What the parameters are is not seen in the text.
-/

import Sieve.Proofs.Sql.Pieces

namespace Sieve

open Sql

/-! ### Outlines -/

variable (rename : String → String)

/-- The parameter that stands for a forgotten one. -/
def Parameter.forgotten : Parameter :=
  ⟨.null, .text⟩

namespace Sql

/-- Options with the names in them replaced. What else they say is not about pieces. -/
def Options.renamed (options : Options) : Options where
  dataColumn := rename options.dataColumn
  tableAlias := rename options.tableAlias
  allowsEmpty := true

/-- A piece with its name replaced, or its parameter forgotten. -/
def Piece.outline : Piece → Piece
  | fixed text => fixed text
  | quotedName text => quotedName (rename text)
  | name text => name (rename text)
  | quotedText text => quotedText (rename text)
  | parameter _ => parameter .forgotten

end Sql

/-- A source with the names in it replaced. -/
def Source.renamed : Source → Source
  | jsonText segments => jsonText (segments.map rename)
  | column name => column (rename name)
  | cast inner type => cast inner.renamed type
  | atUtc inner => atUtc inner.renamed

/-- An access of which only the source is known, with the names in it replaced. -/
def Access.outline (access : Access) : Access :=
  ⟨"", .string, access.source.renamed rename, .text⟩

namespace Filter

mutual

/-- A filter with its names replaced and its parameters forgotten. -/
def outline : Filter → Filter
  | all parts => all (outlineAll parts)
  | any parts => any (outlineAll parts)
  | not part => not (outline part)
  | compare field comparison _ => compare (field.outline rename) comparison .forgotten
  | compareFields left comparison right =>
    compareFields (left.outline rename) comparison (right.outline rename)
  | member field parameters negated =>
    member (field.outline rename) (parameters.map fun _ => .forgotten) negated
  | between field _ _ => between (field.outline rename) .forgotten .forgotten
  | isNull field negated => isNull (field.outline rename) negated
  | like field _ ignoresCase => like (field.outline rename) .forgotten ignoresCase

/-- Filters with their names replaced and their parameters forgotten. -/
def outlineAll : List Filter → List Filter
  | [] => []
  | part :: rest => outline part :: outlineAll rest

end

/-- A filter without its names: its combinations and leaves, with the casts in these and the
lengths of all lists. -/
def shape (filter : Filter) : Filter :=
  filter.outline fun _ => ""

end Filter

/-! ### The pieces of an outline -/

variable (options : Options)

theorem arrowPieces_map (segments : List String) :
    arrowPieces (segments.map rename) = (arrowPieces segments).map (Piece.outline rename) := by
  fun_induction arrowPieces segments with
  | case1 | case2 => rfl
  | case3 segment rest more inductionHypothesis =>
    rw [List.map_cons, arrowPieces, inductionHypothesis]
    · rfl
    · exact fun none => more (List.map_eq_nil_iff.mp none)

theorem parameterPieces_map (parameters : List Parameter) :
    parameterPieces (parameters.map fun _ => .forgotten) =
      (parameterPieces parameters).map (Piece.outline rename) := by
  fun_induction parameterPieces parameters with
  | case1 | case2 => rfl
  | case3 parameter rest more inductionHypothesis =>
    rw [List.map_cons, parameterPieces, inductionHypothesis]
    · rfl
    · exact fun none => more (List.map_eq_nil_iff.mp none)

theorem Source.pieces_renamed (source : Source) :
    (source.renamed rename).pieces (options.renamed rename) =
      (source.pieces options).map (Piece.outline rename) := by
  induction source with
  | jsonText segments =>
    rw [renamed, pieces, pieces, List.map_append, arrowPieces_map]
    rfl
  | column name => rfl
  | cast inner type inductionHypothesis | atUtc inner inductionHypothesis =>
    rw [renamed, pieces, pieces, List.map_append, List.map_cons, inductionHypothesis]
    rfl

namespace Filter

theorem joinedPieces_outlineAll (joiner : String) {parts : List Filter}
    (below : ∀ part ∈ parts, (part.outline rename).pieces (options.renamed rename) =
      (part.pieces options).map (Piece.outline rename)) :
    joinedPieces (options.renamed rename) joiner (outlineAll rename parts) =
      (joinedPieces options joiner parts).map (Piece.outline rename) := by
  match parts with
  | [] => rfl
  | [part] => exact below part List.mem_cons_self
  | first :: second :: rest =>
    obtain ⟨here, belowRest⟩ := List.forall_mem_cons.mp below
    have inductionHypothesis := joinedPieces_outlineAll joiner belowRest
    rw [outlineAll] at inductionHypothesis ⊢
    rw [outlineAll, joinedPieces_cons_cons, joinedPieces_cons_cons, List.map_append, here,
      inductionHypothesis]
    rfl

/-- The pieces of an outline are the outlines of the pieces. -/
theorem pieces_outline (filter : Filter) :
    (filter.outline rename).pieces (options.renamed rename) =
      (filter.pieces options).map (Piece.outline rename) := by
  induction filter using induction with
  | all parts below =>
    cases parts with
    | nil => rfl
    | cons first rest =>
      have joined := joinedPieces_outlineAll rename options " AND " below
      rw [outline, outlineAll, pieces_all_cons, pieces_all_cons, List.map_cons, List.map_append,
        ← joined]
      rfl
  | any parts below =>
    cases parts with
    | nil => rfl
    | cons first rest =>
      have joined := joinedPieces_outlineAll rename options " OR " below
      rw [outline, outlineAll, pieces_any_cons, pieces_any_cons, List.map_cons, List.map_append,
        ← joined]
      rfl
  | not part below =>
    rw [outline, pieces, pieces, List.map_append, List.map_cons, below]
    rfl
  | compareFields left comparison right =>
    rw [outline, pieces, pieces, List.map_append, List.map_cons, Access.outline, Access.outline,
      Source.pieces_renamed, Source.pieces_renamed]
    rfl
  | member field parameters negated =>
    rw [outline, pieces, pieces, List.map_append, List.map_append, List.map_cons, Access.outline,
      Source.pieces_renamed, parameterPieces_map rename]
    rfl
  | compare | between | isNull | like =>
    rw [outline, pieces, pieces, List.map_append, Access.outline, Source.pieces_renamed]
    rfl

theorem isAlways_outline (filter : Filter) :
    (filter.outline rename).isAlways = filter.isAlways := by
  cases filter with
  | all parts => cases parts <;> rfl
  | _ => rfl

/-! ### Statements -/

/-- The pieces of a statement. -/
def statementPieces (head : List Piece) (table : String) (filter : Filter) : List Piece :=
  head ++ [.fixed " from ", .quotedName table, .fixed " as ", options.tablePiece] ++
    if filter.isAlways then [] else .fixed " where " :: filter.pieces options

/-- The pieces of the statement that reads documents. -/
def selectPieces (table : String) (filter : Filter) : List Piece :=
  filter.statementPieces options (.fixed "select " :: options.body) table

/-- The pieces of the statement that counts documents. -/
def countPieces (table : String) (filter : Filter) : List Piece :=
  filter.statementPieces options [.fixed "select count(*)"] table

theorem select_eq (table : String) (filter : Filter) :
    filter.select options table = Command.ofPieces (filter.selectPieces options table) := rfl

theorem count_eq (table : String) (filter : Filter) :
    filter.count options table = Command.ofPieces (filter.countPieces options table) := rfl

theorem statementPieces_outline (head : List Piece) (table : String) (filter : Filter) :
    (filter.outline rename).statementPieces (options.renamed rename)
        (head.map (Piece.outline rename)) (rename table) =
      (filter.statementPieces options head table).map (Piece.outline rename) := by
  rw [statementPieces, statementPieces, isAlways_outline, List.map_append, List.map_append]
  split
  · rfl
  · rw [List.map_cons, pieces_outline]
    rfl

theorem selectPieces_outline (table : String) (filter : Filter) :
    (filter.outline rename).selectPieces (options.renamed rename) (rename table) =
      (filter.selectPieces options table).map (Piece.outline rename) :=
  filter.statementPieces_outline rename options (.fixed "select " :: options.body) table

theorem countPieces_outline (table : String) (filter : Filter) :
    (filter.outline rename).countPieces (options.renamed rename) (rename table) =
      (filter.countPieces options table).map (Piece.outline rename) :=
  filter.statementPieces_outline rename options [.fixed "select count(*)"] table

end Filter

/-! ### Texts -/

/-- Which parameters there are is not seen in a text. -/
theorem Sql.Piece.write_map_outline_id (before : Nat) (pieces : List Piece) :
    write before (pieces.map (outline id)) = write before pieces := by
  induction pieces generalizing before with
  | nil => rfl
  | cons piece rest inductionHypothesis =>
    cases piece <;> rw [List.map_cons, outline, write, write, inductionHypothesis] <;> rfl

theorem Sql.Command.text_eq_of_map_outline {pieces others : List Piece}
    (same : pieces.map (Piece.outline id) = others.map (Piece.outline id)) :
    (ofPieces pieces).text = (ofPieces others).text := by
  show String.ofList (Piece.write 0 pieces) = String.ofList (Piece.write 0 others)
  rw [← Piece.write_map_outline_id, same, Piece.write_map_outline_id]

/-- Filters that differ in their parameters alone are written as one text. -/
theorem Filter.texts_eq_of_outline_eq {left right : Filter}
    (same : left.outline id = right.outline id) (table : String) :
    (left.whereClause options).text = (right.whereClause options).text ∧
      (left.select options table).text = (right.select options table).text ∧
      (left.count options table).text = (right.count options table).text := by
  rw [select_eq, select_eq, count_eq, count_eq]
  refine ⟨Command.text_eq_of_map_outline ?_, Command.text_eq_of_map_outline ?_,
    Command.text_eq_of_map_outline ?_⟩
  · rw [← pieces_outline, same, pieces_outline]
  · exact (left.selectPieces_outline id options table).symm.trans
      (same ▸ right.selectPieces_outline id options table)
  · exact (left.countPieces_outline id options table).symm.trans
      (same ▸ right.countPieces_outline id options table)

end Sieve
