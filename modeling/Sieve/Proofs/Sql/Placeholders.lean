/-
This file proves that the dollar signs of a command are its placeholders. Names and
texts may hold dollar signs and digits of their own, but these stand between quote
marks; the text of the language itself has none. Outside the quotes the placeholders
are met in the order of the parameters, numbered from one on, and what follows a
placeholder never begins with a digit, so that each number ends where it should.
-/

import Sieve.Proofs.Predicate.Bindings
import Sieve.Proofs.Sql.Pieces
import Sieve.Proofs.Sql.Quote
import Sieve.Proofs.Text.Integers

namespace Sieve

open Outcome

namespace Sql

/-! ### Dollar signs outside quotes -/

/-- The digits that follow each dollar sign of a text that stands outside quotes. The mark is that
of the quote in which the text begins, if it begins in one. -/
def dollars : (mark : Option Char) → List Char → List (List Char)
  | _, [] => []
  | some mark, character :: rest => dollars (if character = mark then none else some mark) rest
  | none, character :: rest =>
    if character = '"' ∨ character = '\'' then dollars (some character) rest
    else if character = '$' then rest.takeWhile Text.isDigit :: dollars none rest
    else dollars none rest

/-- Whether a text closes its quotes and has no dollar sign outside them. -/
def isCalm : (mark : Option Char) → List Char → Bool
  | mark, [] => mark.isNone
  | some mark, character :: rest => isCalm (if character = mark then none else some mark) rest
  | none, character :: rest =>
    if character = '"' ∨ character = '\'' then isCalm (some character) rest
    else character != '$' && isCalm none rest

theorem dollars_append {mark : Option Char} {text : List Char} (calm : isCalm mark text = true)
    (rest : List Char) : dollars mark (text ++ rest) = dollars none rest := by
  induction text generalizing mark with
  | nil => rw [List.nil_append, Option.isNone_iff_eq_none.mp calm]
  | cons character others inductionHypothesis =>
    cases mark with
    | some mark => exact inductionHypothesis calm
    | none =>
      rw [isCalm] at calm
      rw [List.cons_append, dollars]
      split at calm
      · rename_i opens
        rw [if_pos opens]
        exact inductionHypothesis calm
      · rename_i plain
        obtain ⟨other, calm⟩ := Bool.and_eq_true_iff.mp calm
        rw [if_neg plain, if_neg (bne_iff_ne.mp other)]
        exact inductionHypothesis calm

theorem isCalm_of_forall {text : List Char}
    (plain : ∀ character ∈ text, character ≠ '"' ∧ character ≠ '\'' ∧ character ≠ '$') :
    isCalm none text = true := by
  induction text with
  | nil => rfl
  | cons character rest inductionHypothesis =>
    obtain ⟨⟨noName, noText, noDollar⟩, below⟩ := List.forall_mem_cons.mp plain
    rw [isCalm, if_neg (not_or.mpr ⟨noName, noText⟩), inductionHypothesis below, Bool.and_true]
    exact bne_iff_ne.mpr noDollar

theorem isCalm_doubled {mark : Char} (opens : mark = '"' ∨ mark = '\'') (text : List Char) :
    isCalm (some mark) (Text.doubled mark text ++ [mark]) = true := by
  induction text with
  | nil =>
    rw [Text.doubled, List.nil_append, isCalm, if_pos rfl]
    rfl
  | cons character rest inductionHypothesis =>
    rw [Text.doubled]
    split
    · rw [List.cons_append, List.cons_append, isCalm, if_pos rfl, isCalm, if_pos opens]
      exact inductionHypothesis
    · rename_i other
      rw [List.cons_append, isCalm, if_neg other]
      exact inductionHypothesis

theorem isCalm_quoteName (name : String) : isCalm none (quoteName name).toList = true := by
  rw [quoteName, String.toList_ofList]
  exact isCalm_doubled (.inl rfl) name.toList

theorem isCalm_quoteText (text : String) : isCalm none (quoteText text).toList = true := by
  rw [quoteText, String.toList_ofList]
  exact isCalm_doubled (.inr rfl) text.toList

theorem plain_of_isDigit {character : Char} (digit : Text.isDigit character = true) :
    character ≠ '"' ∧ character ≠ '\'' ∧ character ≠ '$' := by
  refine ⟨?_, ?_, ?_⟩ <;>
  · rintro rfl
    exact absurd digit (by decide)

theorem plain_of_beginsPlainName {character : Char} (begins : beginsPlainName character = true) :
    character ≠ '"' ∧ character ≠ '\'' ∧ character ≠ '$' := by
  refine ⟨?_, ?_, ?_⟩ <;>
  · rintro rfl
    exact absurd begins (by decide)

theorem isCalm_writeName (name : String) : isCalm none (writeName name).toList = true := by
  rw [writeName]
  split
  · rename_i plain
    refine isCalm_of_forall fun character inside => ?_
    cases letters : name.toList with
    | nil =>
      rw [letters] at inside
      exact absurd inside List.not_mem_nil
    | cons first rest =>
      rw [letters] at plain inside
      obtain ⟨begins, others⟩ := Bool.and_eq_true_iff.mp plain
      rcases List.mem_cons.mp inside with rfl | later
      · exact plain_of_beginsPlainName begins
      · rcases Bool.or_eq_true_iff.mp (List.all_eq_true.mp others character later) with
          letter | digit
        · exact plain_of_beginsPlainName letter
        · exact plain_of_isDigit digit
  · exact isCalm_quoteName name

/-! ### Pieces -/

namespace Piece

/-- Whether a piece adds no dollar sign but those of parameters, and no digit to one before it. -/
def isQuiet : Piece → Bool
  | fixed text =>
    isCalm none text.toList && text.toList.head?.any fun first => !Text.isDigit first
  | _ => true

variable {piece : Piece} {pieces : List Piece}

/-- A quiet piece is a parameter, or has a text without placeholders that begins with no digit. -/
theorem exists_text (quiet : piece.isQuiet = true) (other : piece.parameter? = none) :
    ∃ text, isCalm none text = true ∧
      (∃ first, text.head? = some first ∧ Text.isDigit first = false) ∧
      ∀ before rest, write before (piece :: rest) = text ++ write before rest := by
  cases piece with
  | fixed text =>
    obtain ⟨calm, starts⟩ := Bool.and_eq_true_iff.mp quiet
    cases letter : text.toList.head? with
    | none =>
      rw [letter] at starts
      exact absurd starts Bool.false_ne_true
    | some first =>
      rw [letter] at starts
      exact ⟨_, calm, ⟨first, letter, (Bool.not_eq_true' _).mp starts⟩, fun _ _ => rfl⟩
  | quotedName name =>
    refine ⟨_, isCalm_quoteName name, ⟨'"', ?_, rfl⟩, fun _ _ => rfl⟩
    rw [quoteName, String.toList_ofList]
    rfl
  | name name =>
    obtain ⟨first, rest, letters, begins⟩ := exists_begin_of_writeName name
    refine ⟨_, isCalm_writeName name, ⟨first, ?_, isDigit_of_beginsName begins⟩, fun _ _ => rfl⟩
    rw [letters]
    rfl
  | quotedText text =>
    refine ⟨_, isCalm_quoteText text, ⟨'\'', ?_, rfl⟩, fun _ _ => rfl⟩
    rw [quoteText, String.toList_ofList]
    rfl
  | parameter bound => exact absurd other (Option.some_ne_none _)

/-- What comes after a placeholder does not begin with a digit. -/
theorem isDigit_of_mem_head?_write (quiet : pieces.all isQuiet = true) (before : Nat) :
    ∀ first ∈ (write before pieces).head?, Text.isDigit first = false := by
  intro first inside
  cases pieces with
  | nil => exact absurd inside (Option.not_mem_none first)
  | cons piece rest =>
    rw [List.all_cons, Bool.and_eq_true] at quiet
    cases bound : piece.parameter? with
    | none =>
      obtain ⟨text, _, ⟨letter, starts, noDigit⟩, written⟩ := exists_text quiet.1 bound
      rw [written, List.head?_append, starts] at inside
      exact Option.some.inj inside ▸ noDigit
    | some parameter =>
      cases piece with
      | parameter parameter => exact Option.some.inj inside ▸ rfl
      | _ => exact absurd bound nofun

theorem dollars_digitsOf (number : Nat) {rest : List Char}
    (ends : ∀ first ∈ rest.head?, Text.isDigit first = false) :
    dollars none ('$' :: (Text.digitsOf number ++ rest)) =
      Text.digitsOf number :: dollars none rest := by
  have digits : ∀ digit ∈ Text.digitsOf number, Text.isDigit digit = true :=
    fun digit inside => Text.isDigit_of_mem_digitsOf inside
  have whole := (Text.isDigit_span_append digits ends).1
  have calm : isCalm none (Text.digitsOf number) = true :=
    isCalm_of_forall fun digit inside => plain_of_isDigit (digits digit inside)
  rw [dollars, if_neg (by decide), if_pos rfl, whole, dollars_append calm]

/-- The placeholders of quiet pieces are those of their parameters, numbered on. -/
theorem dollars_write (quiet : pieces.all isQuiet = true) (before : Nat) :
    dollars none (write before pieces) =
      (List.range' (before + 1) (pieces.filterMap parameter?).length).map Text.digitsOf := by
  induction pieces generalizing before with
  | nil => rfl
  | cons piece rest inductionHypothesis =>
    rw [List.all_cons, Bool.and_eq_true] at quiet
    cases bound : piece.parameter? with
    | none =>
      obtain ⟨text, calm, _, written⟩ := exists_text quiet.1 bound
      rw [written, dollars_append calm, inductionHypothesis quiet.2, List.filterMap_cons_none bound]
    | some parameter =>
      have numbered : write before (piece :: rest) =
          '$' :: (Text.digitsOf (before + 1) ++ write (before + 1) rest) := by
        cases piece with
        | parameter parameter => rfl
        | _ => exact absurd bound nofun
      rw [numbered, dollars_digitsOf _ (isDigit_of_mem_head?_write quiet.2 _),
        inductionHypothesis quiet.2, List.filterMap_cons_some bound, List.length_cons,
        List.range'_succ, List.map_cons]

end Piece

theorem Command.dollars_ofPieces {pieces : List Piece} (quiet : pieces.all Piece.isQuiet = true) :
    dollars none (ofPieces pieces).text.toList =
      (List.range' 1 (ofPieces pieces).parameters.length).map Text.digitsOf := by
  rw [ofPieces, String.toList_ofList]
  exact Piece.dollars_write quiet 0

end Sql

open Sql

/-! ### Conditions and statements -/

variable (options : Options)

theorem all_isQuiet_arrowPieces (segments : List String) :
    (arrowPieces segments).all Piece.isQuiet = true := by
  fun_induction arrowPieces segments with
  | case1 | case2 => rfl
  | case3 segment rest _ inductionHypothesis => exact inductionHypothesis

theorem Source.all_isQuiet_pieces (source : Source) :
    (source.pieces options).all Piece.isQuiet = true := by
  induction source with
  | jsonText segments => exact all_isQuiet_arrowPieces segments
  | column name => rfl
  | cast inner type inductionHypothesis =>
    rw [pieces, List.cons_append, List.all_cons, List.all_append, inductionHypothesis]
    cases type <;> rfl
  | atUtc inner inductionHypothesis =>
    rw [pieces, List.cons_append, List.all_cons, List.all_append, inductionHypothesis]
    rfl

theorem all_isQuiet_parameterPieces (parameters : List Parameter) :
    (parameterPieces parameters).all Piece.isQuiet = true := by
  fun_induction parameterPieces parameters with
  | case1 | case2 => rfl
  | case3 parameter rest _ inductionHypothesis => exact inductionHypothesis

namespace Filter

theorem all_isQuiet_joinedPieces {joiner : String} (quiet : (Piece.fixed joiner).isQuiet = true)
    {parts : List Filter}
    (below : ∀ part ∈ parts, (part.pieces options).all Piece.isQuiet = true) :
    (joinedPieces options joiner parts).all Piece.isQuiet = true := by
  match parts with
  | [] => rfl
  | [part] => exact below part List.mem_cons_self
  | first :: second :: rest =>
    obtain ⟨here, belowRest⟩ := List.forall_mem_cons.mp below
    rw [joinedPieces_cons_cons, List.all_append, here, List.all_cons, quiet,
      all_isQuiet_joinedPieces quiet belowRest]
    rfl

theorem all_isQuiet_pieces (filter : Filter) :
    (filter.pieces options).all Piece.isQuiet = true := by
  induction filter using induction with
  | all parts below =>
    cases parts with
    | nil => rfl
    | cons first rest =>
      rw [pieces_all_cons, List.all_cons, List.all_append,
        all_isQuiet_joinedPieces options rfl below]
      rfl
  | any parts below =>
    cases parts with
    | nil => rfl
    | cons first rest =>
      rw [pieces_any_cons, List.all_cons, List.all_append,
        all_isQuiet_joinedPieces options rfl below]
      rfl
  | not part below =>
    rw [pieces, List.cons_append, List.all_cons, List.all_append, below]
    rfl
  | compare field comparison parameter =>
    rw [pieces, List.all_append, Source.all_isQuiet_pieces]
    cases comparison <;> rfl
  | compareFields left comparison right =>
    rw [pieces, List.all_append, Source.all_isQuiet_pieces, List.all_cons,
      Source.all_isQuiet_pieces]
    cases comparison <;> rfl
  | member field parameters negated =>
    rw [pieces, List.append_assoc, List.all_append, Source.all_isQuiet_pieces, List.cons_append,
      List.all_cons, List.all_append, all_isQuiet_parameterPieces]
    cases negated <;> rfl
  | between field low high =>
    rw [pieces, List.all_append, Source.all_isQuiet_pieces]
    rfl
  | isNull field flag | like field pattern flag =>
    rw [pieces, List.all_append, Source.all_isQuiet_pieces]
    cases flag <;> rfl

theorem eq_always_of_isAlways {filter : Filter} (always : filter.isAlways = true) :
    filter = .always := by
  cases filter with
  | all parts =>
    cases parts with
    | nil => rfl
    | cons => exact absurd always Bool.false_ne_true
  | _ => exact absurd always Bool.false_ne_true

/-- Where every document passes there is no condition, but no parameter is lost with it. -/
theorem statement_parameters {head : List Piece} (none : head.filterMap Piece.parameter? = [])
    (table : String) (filter : Filter) :
    (filter.statement options head table).parameters = filter.parameters := by
  rw [statement, Command.ofPieces]
  dsimp only
  rw [List.filterMap_append, List.filterMap_append, none]
  split
  · rename_i always
    rw [eq_always_of_isAlways always]
    rfl
  · exact filter.filterMap_pieces options

theorem dollars_statement {head : List Piece} (quiet : head.all Piece.isQuiet = true)
    (table : String) (filter : Filter) :
    dollars none (filter.statement options head table).text.toList =
      (List.range' 1 (filter.statement options head table).parameters.length).map
        Text.digitsOf := by
  refine Command.dollars_ofPieces ?_
  rw [List.all_append, List.all_append, quiet]
  split
  · rfl
  · exact filter.all_isQuiet_pieces options

end Filter

/-! ### What is planned -/

namespace Planner

variable {planner : Planner} {typeName : String} {predicate? : Option Predicate}

/-- If one of the three commands can be planned, there is a filter to plan all of them from. -/
theorem exists_of_planned
    (planned : (planner.whereClause typeName predicate?).isOk = true ∨
      (planner.select typeName predicate?).isOk = true ∨
      (planner.count typeName predicate?).isOk = true) :
    ∃ documentType filter, planner.catalog.describe typeName = .ok documentType ∧
      planner.compile typeName predicate? = .ok filter := by
  have compiled : ∃ filter, planner.compile typeName predicate? = .ok filter := by
    rcases planned with fine | fine | fine
    · obtain ⟨command, done⟩ := exists_of_isOk fine
      obtain ⟨filter, compiled, _⟩ := bind_eq_ok.mp done
      exact ⟨filter, compiled⟩
    all_goals
      obtain ⟨command, done⟩ := exists_of_isOk fine
      obtain ⟨documentType, _, done⟩ := bind_eq_ok.mp done
      obtain ⟨filter, compiled, _⟩ := bind_eq_ok.mp done
      exact ⟨filter, compiled⟩
  obtain ⟨filter, compiled⟩ := compiled
  obtain ⟨documentType, described, _⟩ := bind_eq_ok.mp compiled
  exact ⟨documentType, filter, described, compiled⟩

/-- What is planned from the filter for what is asked. -/
theorem plans_of_compile {documentType : DocumentType} {filter : Filter}
    (described : planner.catalog.describe typeName = .ok documentType)
    (compiled : planner.compile typeName predicate? = .ok filter) :
    planner.whereClause typeName predicate? = .ok (filter.whereClause planner.options) ∧
      planner.select typeName predicate? =
        .ok (filter.select planner.options documentType.table) ∧
      planner.count typeName predicate? =
        .ok (filter.count planner.options documentType.table) := by
  rw [whereClause, select, count, described, ok_bind, ok_bind, compiled]
  exact ⟨rfl, rfl, rfl⟩

/-- The condition and the statements for what is asked have the same parameters: what its literals
are bound as, from left to right. Outside quotes the dollar signs of each text are the
placeholders of these, numbered from one on and each there once. -/
theorem placeholders_of_planned
    (planned : (planner.whereClause typeName predicate?).isOk = true ∨
      (planner.select typeName predicate?).isOk = true ∨
      (planner.count typeName predicate?).isOk = true) :
    ∃ filter condition selection counting,
      planner.compile typeName predicate? = .ok filter ∧
        planner.whereClause typeName predicate? = .ok condition ∧
        planner.select typeName predicate? = .ok selection ∧
        planner.count typeName predicate? = .ok counting ∧
        (bindings predicate?).mapM (Binding.parameter planner.catalog typeName) =
          .ok filter.parameters ∧
        ∀ command ∈ [condition, selection, counting],
          command.parameters = filter.parameters ∧
            dollars none command.text.toList =
              (List.range' 1 filter.parameters.length).map Text.digitsOf := by
  obtain ⟨documentType, filter, described, compiled⟩ := exists_of_planned planned
  obtain ⟨condition, selection, counting⟩ := plans_of_compile described compiled
  refine ⟨filter, _, _, _, compiled, condition, selection, counting,
    mapM_eq_ok.mpr (binds_of_compile compiled), ?_⟩
  -- A command has the placeholders of its own parameters; these are the filter's in all three.
  have numbered {command : Command} (same : command.parameters = filter.parameters)
      (dollars : Sql.dollars none command.text.toList =
        (List.range' 1 command.parameters.length).map Text.digitsOf) :
      command.parameters = filter.parameters ∧ Sql.dollars none command.text.toList =
        (List.range' 1 filter.parameters.length).map Text.digitsOf :=
    ⟨same, same ▸ dollars⟩
  simp only [List.forall_mem_cons, List.not_mem_nil, false_imp_iff, implies_true, and_true]
  refine ⟨numbered (filter.filterMap_pieces _) ?_, numbered ?_ ?_, numbered ?_ ?_⟩
  · exact Command.dollars_ofPieces (filter.all_isQuiet_pieces _)
  · exact Filter.statement_parameters _ rfl _ _
  · exact Filter.dollars_statement _ rfl _ _
  · exact Filter.statement_parameters _ rfl _ _
  · exact Filter.dollars_statement _ rfl _ _

/-- Dollar signs in the names of columns and tables are no placeholders. -/
theorem placeholders_of_planned_meetings :
    let planner : Planner := ⟨.meetings (.duplicated "$2" .timestampTz) rfl, ⟨"$7", "$8", true⟩⟩
    let asked : Predicate := .any [.ofField "Start" .lt (.utc ⟨⟨0, 0⟩⟩),
      .member "Start" [.null, .utc ⟨⟨1, 0⟩⟩] true]
    ∃ command, planner.select "Meeting" (some asked) = .ok command ∧
      dollars none command.text.toList = [['1'], ['2']] := by
  intro planner asked
  obtain ⟨filter, condition, selection, counting, _, _, selected, _, bound, texts⟩ :=
    @placeholders_of_planned planner "Meeting" (some asked) (.inl rfl)
  have two : filter.parameters.length = 2 := by
    rw [← (mapM_eq_ok.mp bound).length_eq]
    rfl
  refine ⟨selection, selected, ?_⟩
  rw [(texts selection (by simp)).2, two]
  rfl

end Planner

end Sieve
