/-
This file proves that what a condition asks can be read in one way only. A source ends
where no further arrow follows it, and what is asked about it begins with a word that
ends at a blank; from the left, the source, the word and what the word takes are
therefore known one after another, whatever comes after them.
-/

import Sieve.Proofs.Filter.Bare
import Sieve.Proofs.Filter.Typed
import Sieve.Proofs.Sql.Pieces
import Sieve.Proofs.Sql.Quote
import Sieve.Proofs.Text.Basic

namespace Sieve

open Sql

/-! ### Ends and beginnings -/

/-- Whether a text may follow a source: it begins with nothing that would belong to the
source. -/
def endsSource : List Char → Bool
  | [] => true
  | ')' :: _ => true
  | ' ' :: next :: _ => next != '-'
  | _ => false

/-- The first character of a text, if no name begins with it. -/
def opener? (text : List Char) : Option Char :=
  text.head?.filter fun character => !beginsName character

theorem head?_ne_of_endsSource {text : List Char} (ends : endsSource text = true) :
    text.head? ≠ some '"' ∧ text.head? ≠ some '\'' := by
  refine ⟨?_, ?_⟩
  all_goals
    intro quote
    obtain ⟨rest, rfl⟩ := List.head?_eq_some_iff.mp quote
    exact absurd ends Bool.false_ne_true

theorem opener?_writeName (name : String) (rest : List Char) :
    opener? ((writeName name).toList ++ rest) = none := by
  obtain ⟨first, others, letters, begins⟩ := exists_begin_of_writeName name
  rw [letters, opener?, List.cons_append, List.head?_cons, Option.filter_some, begins]
  rfl

variable {options : Options} {leftRest rightRest : List Char}

/-! ### Sources -/

/-- The arrow of a step into a document; the last one gives a text. -/
def arrow (isLast : Bool) : List Char :=
  if isLast then [' ', '-', '>', '>', ' '] else [' ', '-', '>', ' ']

theorem arrow_append_inj {left right : Bool}
    (same : arrow left ++ leftRest = arrow right ++ rightRest) :
    left = right ∧ leftRest = rightRest := by
  cases left <;> cases right <;> simp_all [arrow]

theorem write_arrowPieces_cons (segment : String) (rest : List String) :
    Piece.write 0 (arrowPieces (segment :: rest)) =
      arrow rest.isEmpty ++ ((quoteText segment).toList ++ Piece.write 0 (arrowPieces rest)) := by
  cases rest with
  | nil => rfl
  | cons next others =>
    rw [arrowPieces, Piece.write, Piece.write]
    · rfl
    · exact fun none => absurd none (List.cons_ne_nil _ _)

theorem head?_arrowPieces_append (segments : List String) {rest : List Char}
    (ends : endsSource rest = true) :
    (Piece.write 0 (arrowPieces segments) ++ rest).head? ≠ some '"' ∧
      (Piece.write 0 (arrowPieces segments) ++ rest).head? ≠ some '\'' := by
  cases segments with
  | nil => exact head?_ne_of_endsSource ends
  | cons segment others =>
    rw [write_arrowPieces_cons]
    cases others <;> exact ⟨nofun, nofun⟩

theorem not_endsSource_arrowPieces (segment : String) (others : List String) (rest : List Char) :
    endsSource (Piece.write 0 (arrowPieces (segment :: others)) ++ rest) = false := by
  rw [write_arrowPieces_cons]
  cases others <;> rfl

theorem arrowPieces_append_inj {left right : List String} (leftEnds : endsSource leftRest = true)
    (rightEnds : endsSource rightRest = true)
    (same : Piece.write 0 (arrowPieces left) ++ leftRest =
      Piece.write 0 (arrowPieces right) ++ rightRest) :
    left = right ∧ leftRest = rightRest := by
  induction left generalizing right with
  | nil =>
    cases right with
    | nil => exact ⟨rfl, same⟩
    | cons segment others =>
      rw [show leftRest = _ from same, not_endsSource_arrowPieces] at leftEnds
      exact absurd leftEnds Bool.false_ne_true
  | cons segment others inductionHypothesis =>
    cases right with
    | nil =>
      rw [show rightRest = _ from same.symm, not_endsSource_arrowPieces] at rightEnds
      exact absurd rightEnds Bool.false_ne_true
    | cons otherSegment rightOthers =>
      simp only [write_arrowPieces_cons, List.append_assoc] at same
      obtain ⟨_, quoted⟩ := arrow_append_inj same
      obtain ⟨rfl, after⟩ := quoteText_append_inj (head?_arrowPieces_append others leftEnds).2
        (head?_arrowPieces_append rightOthers rightEnds).2 quoted
      obtain ⟨rfl, rest⟩ := inductionHypothesis after
      exact ⟨rfl, rest⟩

theorem ColumnType.name_append_inj {left right : ColumnType}
    (same : left.name.toList ++ ')' :: leftRest = right.name.toList ++ ')' :: rightRest) :
    left = right ∧ leftRest = rightRest := by
  have unclosed (type : ColumnType) : ')' ∉ type.name.toList := by
    cases type <;> decide
  have distinct : ∀ left right : ColumnType, left.name.toList = right.name.toList → left = right :=
    by
      intro left right
      cases left <;> cases right <;> decide
  obtain ⟨names, rest⟩ := Text.append_cons_inj (unclosed left) (unclosed right) same
  exact ⟨distinct left right names, rest⟩

namespace Source

/-- Whether every text in a document is read at a path with a segment. -/
def Segmented : Source → Prop
  | jsonText segments => segments ≠ []
  | column _ => True
  | cast inner _ => inner.Segmented
  | atUtc inner => inner.Segmented

/-- The character that the text of a source begins with, if no name begins with it. -/
def opener? : Source → Option Char
  | cast _ _ => some 'C'
  | atUtc _ => some '('
  | _ => none

theorem opener?_mem (source : Source) : source.opener? ∈ [none, some 'C', some '('] := by
  cases source <;> simp [opener?]

theorem exists_atUtc_of_opener? {source : Source} (bracket : source.opener? = some '(') :
    ∃ inner, source = atUtc inner := by
  cases source with
  | atUtc inner => exact ⟨inner, rfl⟩
  | _ => exact absurd bracket nofun

theorem opener?_text (source : Source) (rest : List Char) :
    Sieve.opener? (source.text options ++ rest) = source.opener? := by
  cases source with
  | jsonText segments =>
    rw [text_jsonText, List.append_assoc]
    exact opener?_writeName _ _
  | column name =>
    rw [text_column, List.append_assoc]
    exact opener?_writeName _ _
  | cast inner type =>
    rw [text_cast, List.append_assoc]
    rfl
  | atUtc inner =>
    rw [text_atUtc]
    rfl

theorem opener?_eq {left right : Source}
    (same : left.text options ++ leftRest = right.text options ++ rightRest) :
    left.opener? = right.opener? := by
  rw [← opener?_text left leftRest, same, opener?_text]

/-- A text in a document is not read as a column, not even as one of the name of the column of the
documents: an arrow follows. -/
theorem text_jsonText_ne_text_column {segments : List String} {name : String}
    (segmented : segments ≠ []) (leftEnds : endsSource leftRest = true)
    (rightEnds : endsSource rightRest = true) :
    (jsonText segments).text options ++ leftRest ≠ (column name).text options ++ rightRest := by
  intro same
  simp only [text_jsonText, text_column, List.append_assoc, List.append_cancel_left_eq,
    List.cons_append, List.cons.injEq, true_and] at same
  obtain ⟨_, after⟩ := writeName_append_inj (head?_arrowPieces_append segments leftEnds).1
    (head?_ne_of_endsSource rightEnds).1 same
  obtain ⟨segment, others, rfl⟩ := List.exists_cons_of_ne_nil segmented
  rw [← after, not_endsSource_arrowPieces] at rightEnds
  exact absurd rightEnds Bool.false_ne_true

theorem text_append_ne_dollar (source : Source) (rest other : List Char) :
    source.text options ++ rest ≠ '$' :: other := by
  intro same
  have openers := @opener?_text options source rest
  rw [same] at openers
  cases source <;> exact absurd openers nofun

/-- A source is read in one way. -/
theorem text_append_inj {left right : Source} (leftSegmented : left.Segmented)
    (rightSegmented : right.Segmented) (leftEnds : endsSource leftRest = true)
    (rightEnds : endsSource rightRest = true)
    (same : left.text options ++ leftRest = right.text options ++ rightRest) :
    left = right ∧ leftRest = rightRest := by
  induction left generalizing right leftRest rightRest with
  | jsonText segments =>
    have openers := opener?_eq same
    cases right with
    | jsonText others =>
      simp only [text_jsonText, List.append_assoc, List.append_cancel_left_eq, List.cons_append,
        List.cons.injEq, true_and] at same
      obtain ⟨rfl, rest⟩ := arrowPieces_append_inj leftEnds rightEnds same
      exact ⟨rfl, rest⟩
    | column name =>
      exact absurd same (text_jsonText_ne_text_column leftSegmented leftEnds rightEnds)
    | _ => exact absurd openers nofun
  | column name =>
    have openers := opener?_eq same
    cases right with
    | jsonText others =>
      exact absurd same.symm (text_jsonText_ne_text_column rightSegmented rightEnds leftEnds)
    | column other =>
      simp only [text_column, List.append_assoc, List.append_cancel_left_eq, List.cons_append,
        List.cons.injEq, true_and] at same
      obtain ⟨rfl, rest⟩ := quoteName_append_inj (head?_ne_of_endsSource leftEnds).1
        (head?_ne_of_endsSource rightEnds).1 same
      exact ⟨rfl, rest⟩
    | _ => exact absurd openers nofun
  | cast inner type inductionHypothesis =>
    have openers := opener?_eq same
    cases right with
    | cast other otherType =>
      simp only [text_cast, String.toList_append, List.append_assoc,
        List.append_cancel_left_eq] at same
      have below : other.Segmented := rightSegmented
      obtain ⟨rfl, after⟩ := inductionHypothesis leftSegmented below rfl rfl same
      obtain ⟨rfl, rest⟩ := ColumnType.name_append_inj (List.append_cancel_left after)
      exact ⟨rfl, rest⟩
    | _ => exact absurd openers nofun
  | atUtc inner inductionHypothesis =>
    have openers := opener?_eq same
    cases right with
    | atUtc other =>
      simp only [text_atUtc, List.cons_append, List.cons.injEq, true_and, List.append_assoc] at same
      have below : other.Segmented := rightSegmented
      obtain ⟨rfl, after⟩ := inductionHypothesis leftSegmented below rfl rfl same
      exact ⟨rfl, List.append_cancel_left after⟩
    | _ => exact absurd openers nofun

end Source

/-! ### Questions -/

theorem Comparison.eq_of_sign_eq {left right : Comparison} (same : left.sign = right.sign) :
    left = right := by
  cases left <;> cases right <;> first | rfl | exact absurd same (by decide)

theorem Access.bare_eq {left right : Access} (same : left.source = right.source) :
    left.bare = right.bare := by
  rw [bare, bare, same]

namespace Filter

/-- What a filter without parts asks: of which source, with which word, and by what. -/
structure Question where
  /-- The source. -/
  source : Source
  /-- The first word after the source. -/
  word : String
  /-- What follows the word. -/
  operand : List Piece

/-- The words of questions. -/
def words : List String :=
  Comparison.all.map Comparison.sign ++ ["IN", "NOT", "BETWEEN", "IS", "ILIKE", "LIKE"]

/-- The question that a filter without parts asks. -/
def question? (options : Options) : Filter → Option Question
  | compare field comparison parameter =>
    some ⟨field.source, comparison.sign, [.parameter parameter]⟩
  | compareFields left comparison right =>
    some ⟨left.source, comparison.sign, right.source.pieces options⟩
  | member field parameters negated =>
    some ⟨field.source, if negated then "NOT" else "IN",
      .fixed (if negated then "IN (" else "(") :: (parameterPieces parameters ++ [.fixed ")"])⟩
  | between field low high =>
    some ⟨field.source, "BETWEEN", [.parameter low, .fixed " AND ", .parameter high]⟩
  | isNull field negated =>
    some ⟨field.source, "IS", [.fixed (if negated then "NOT NULL" else "NULL")]⟩
  | like field pattern ignoresCase =>
    some ⟨field.source, if ignoresCase then "ILIKE" else "LIKE", [.parameter pattern]⟩
  | _ => none

/-- Whether every text in a document that a filter reads is read at a path with a segment. -/
def Segmented (filter : Filter) : Prop :=
  ∀ access ∈ filter.accesses, access.source.Segmented

variable {left right filter : Filter} {question : Question}

theorem sign_mem_words (comparison : Comparison) : comparison.sign ∈ words := by
  cases comparison <;> decide

theorem word_mem_words (asked : filter.question? options = some question) :
    question.word ∈ words := by
  cases filter with
  | all | any | not => exact absurd asked nofun
  | compare field comparison | compareFields field comparison =>
    obtain rfl := Option.some.inj asked
    exact sign_mem_words comparison
  | member field parameters flag | like field pattern flag =>
    obtain rfl := Option.some.inj asked
    cases flag <;> exact of_decide_eq_true rfl
  | between | isNull =>
    obtain rfl := Option.some.inj asked
    exact of_decide_eq_true rfl

theorem Segmented.source (segmented : filter.Segmented)
    (asked : filter.question? options = some question) : question.source.Segmented := by
  cases filter with
  | all | any | not => exact absurd asked nofun
  | _ =>
    obtain rfl := Option.some.inj asked
    exact segmented _ List.mem_cons_self

theorem write_of_question? (asked : filter.question? options = some question) (before : Nat) :
    Piece.write before (filter.pieces options) =
      question.source.text options ++
        ' ' :: (question.word.toList ++ ' ' :: Piece.write before question.operand) := by
  cases filter with
  | all | any | not => exact absurd asked nofun
  | compare field comparison | compareFields field comparison =>
    obtain rfl := Option.some.inj asked
    rw [pieces, Source.write_pieces, Piece.write, String.toList_append, String.toList_append,
      List.append_assoc, List.append_assoc]
    rfl
  | member field parameters negated =>
    obtain rfl := Option.some.inj asked
    rw [pieces, List.append_assoc, Source.write_pieces]
    cases negated <;> simp [Piece.write]
  | between field low high =>
    obtain rfl := Option.some.inj asked
    rw [pieces, Source.write_pieces]
    simp [Piece.write]
  | isNull field flag | like field pattern flag =>
    obtain rfl := Option.some.inj asked
    rw [pieces, Source.write_pieces]
    cases flag <;> simp [Piece.write]

theorem blank_not_mem_word : ∀ word ∈ words, ' ' ∉ word.toList := by
  decide

theorem endsSource_word {word : String} (known : word ∈ words) (rest : List Char) :
    endsSource (' ' :: (word.toList ++ rest)) = true := by
  have starts : ∀ word ∈ words, ∃ first ∈ word.toList.head?, first ≠ '-' := by
    simp [words, Comparison.all, Comparison.sign]
  obtain ⟨first, letter, other⟩ := starts word known
  obtain ⟨others, letters⟩ := List.head?_eq_some_iff.mp letter
  rw [letters]
  exact bne_iff_ne.mpr other

/-- A question is read in one way, as far as its operand. -/
theorem question_append_inj {left right : Question} (leftKnown : left.word ∈ words)
    (rightKnown : right.word ∈ words) (leftSegmented : left.source.Segmented)
    (rightSegmented : right.source.Segmented)
    (same : left.source.text options ++ ' ' :: (left.word.toList ++ ' ' :: leftRest) =
      right.source.text options ++ ' ' :: (right.word.toList ++ ' ' :: rightRest)) :
    left.source = right.source ∧ left.word = right.word ∧ leftRest = rightRest := by
  obtain ⟨sources, after⟩ := Source.text_append_inj leftSegmented rightSegmented
    (endsSource_word leftKnown _) (endsSource_word rightKnown _) same
  obtain ⟨letters, rest⟩ := Text.append_cons_inj (blank_not_mem_word _ leftKnown)
    (blank_not_mem_word _ rightKnown) (List.cons.inj after).2
  exact ⟨sources, String.toList_inj.mp letters, rest⟩

/-! ### Operands -/

/-- The kinds of questions. -/
inductive Form where
  /-- Whether a value compares in a given way. -/
  | comparison
  /-- Whether it is among values. -/
  | membership
  /-- Whether it lies between two values. -/
  | range
  /-- Whether it is null. -/
  | nullness
  /-- Whether it matches a pattern. -/
  | likeness

/-- The kind of the questions that begin with a word. -/
def formOf (word : String) : Form :=
  if word = "IN" ∨ word = "NOT" then .membership
  else if word = "BETWEEN" then .range
  else if word = "IS" then .nullness
  else if word = "ILIKE" ∨ word = "LIKE" then .likeness
  else .comparison

/-- The kind of question that a filter asks. -/
def form? : Filter → Option Form
  | compare _ _ _ | compareFields _ _ _ => some .comparison
  | member _ _ _ => some .membership
  | between _ _ _ => some .range
  | isNull _ _ => some .nullness
  | like _ _ _ => some .likeness
  | _ => none

theorem form?_of_question? (asked : filter.question? options = some question) :
    filter.form? = some (formOf question.word) := by
  cases filter with
  | all | any | not => exact absurd asked nofun
  | compare field comparison | compareFields field comparison =>
    obtain rfl := Option.some.inj asked
    cases comparison <;> rfl
  | member field parameters flag | like field pattern flag =>
    obtain rfl := Option.some.inj asked
    cases flag <;> rfl
  | between | isNull =>
    obtain rfl := Option.some.inj asked
    rfl

theorem write_parameterPieces_cons (before : Nat) (parameter : Parameter)
    (rest : List Parameter) :
    Piece.write before (parameterPieces (parameter :: rest) ++ [.fixed ")"]) =
      '$' :: Text.digitsOf (before + 1) ++ ((if rest.isEmpty then [] else [',', ' ']) ++
        Piece.write (before + 1) (parameterPieces rest ++ [.fixed ")"])) := by
  cases rest with
  | nil => rfl
  | cons next others =>
    rw [parameterPieces]
    · rfl
    · exact fun none => absurd none (List.cons_ne_nil _ _)

/-- How many parameters there are is seen from the commas. -/
theorem parameterPieces_append_inj {left right : List Parameter} {before : Nat}
    (same : Piece.write before (parameterPieces left ++ [.fixed ")"]) ++ leftRest =
      Piece.write before (parameterPieces right ++ [.fixed ")"]) ++ rightRest) :
    left.length = right.length ∧ leftRest = rightRest := by
  induction left generalizing right before with
  | nil =>
    cases right with
    | nil => exact ⟨rfl, List.append_cancel_left same⟩
    | cons second others =>
      rw [write_parameterPieces_cons] at same
      exact absurd (List.cons.inj same).1 (by decide)
  | cons first rest inductionHypothesis =>
    cases right with
    | nil =>
      rw [write_parameterPieces_cons] at same
      exact absurd (List.cons.inj same).1 (by decide)
    | cons second others =>
      simp only [write_parameterPieces_cons, List.append_assoc, List.append_cancel_left_eq] at same
      cases rest with
      | nil =>
        cases others with
        | nil => exact ⟨rfl, List.append_cancel_left same⟩
        | cons third others => exact absurd (List.cons.inj same).1 (by decide)
      | cons next rest =>
        cases others with
        | nil => exact absurd (List.cons.inj same).1 (by decide)
        | cons third others =>
          obtain ⟨lengths, after⟩ := inductionHypothesis (List.append_cancel_left same)
          exact ⟨congrArg (· + 1) lengths, after⟩

theorem flag_eq {left right : Bool} {yes no : String} (apart : yes ≠ no)
    (same : (if left then yes else no) = if right then yes else no) : left = right := by
  cases left <;> cases right <;>
    first | rfl | exact absurd same apart | exact absurd same apart.symm

theorem write_source (source : Source) (before : Nat) :
    Piece.write before (source.pieces options) = source.text options :=
  Piece.write_of_filterMap_eq_nil (source.filterMap_pieces options) before

section

variable {before : Nat} {leftMore rightMore : List Parameter} {field other : Access}

theorem bare_compareFields_eq {comparison otherComparison : Comparison} {second third : Access}
    (leftSegmented : second.source.Segmented) (rightSegmented : third.source.Segmented)
    (leftEnds : endsSource leftRest = true) (rightEnds : endsSource rightRest = true)
    (sources : field.source = other.source) (words : comparison.sign = otherComparison.sign)
    (operands : Piece.write before (second.source.pieces options) ++ leftRest =
      Piece.write before (third.source.pieces options) ++ rightRest) :
    (compareFields field comparison second).bare =
        (compareFields other otherComparison third).bare ∧ leftRest = rightRest := by
  rw [write_source, write_source] at operands
  obtain ⟨operandSources, rest⟩ :=
    Source.text_append_inj leftSegmented rightSegmented leftEnds rightEnds operands
  rw [bare, bare, Access.bare_eq sources, Comparison.eq_of_sign_eq words,
    Access.bare_eq operandSources]
  exact ⟨rfl, rest⟩

theorem bare_member_eq {parameters otherParameters : List Parameter} {negated otherNegated : Bool}
    (sources : field.source = other.source)
    (words : (if negated then "NOT" else "IN") = if otherNegated then "NOT" else "IN")
    (operands : Piece.write before (.fixed (if negated then "IN (" else "(") ::
        (parameterPieces parameters ++ [.fixed ")"])) ++ leftRest =
      Piece.write before (.fixed (if otherNegated then "IN (" else "(") ::
        (parameterPieces otherParameters ++ [.fixed ")"])) ++ rightRest)
    (values : parameters.map Parameter.bare ++ leftMore =
      otherParameters.map Parameter.bare ++ rightMore) :
    (member field parameters negated).bare = (member other otherParameters otherNegated).bare ∧
      leftRest = rightRest := by
  obtain rfl : negated = otherNegated := flag_eq (by decide) words
  rw [Piece.write, Piece.write, List.append_assoc, List.append_assoc] at operands
  obtain ⟨lengths, rest⟩ := parameterPieces_append_inj (List.append_cancel_left operands)
  have bound : parameters.map Parameter.bare = otherParameters.map Parameter.bare :=
    List.append_inj_left values (by simpa using lengths)
  rw [bare, bare, Access.bare_eq sources, bound]
  exact ⟨rfl, rest⟩

end

/-- Filters that ask one question of equal parameters are the same in what matters. -/
theorem bare_eq_of_question? {leftQuestion rightQuestion : Question} {before : Nat}
    {leftMore rightMore : List Parameter}
    (leftAsked : left.question? options = some leftQuestion)
    (rightAsked : right.question? options = some rightQuestion)
    (leftSegmented : left.Segmented) (rightSegmented : right.Segmented)
    (leftEnds : endsSource leftRest = true) (rightEnds : endsSource rightRest = true)
    (sources : leftQuestion.source = rightQuestion.source)
    (words : leftQuestion.word = rightQuestion.word)
    (operands : Piece.write before leftQuestion.operand ++ leftRest =
      Piece.write before rightQuestion.operand ++ rightRest)
    (values : left.parameters.map Parameter.bare ++ leftMore =
      right.parameters.map Parameter.bare ++ rightMore) :
    left.bare = right.bare ∧ leftRest = rightRest := by
  have forms : left.form? = right.form? := by
    rw [form?_of_question? leftAsked, form?_of_question? rightAsked, words]
  cases left with
  | all | any | not => exact absurd leftAsked nofun
  | compare field comparison parameter =>
    obtain rfl := Option.some.inj leftAsked
    cases right with
    | compare other otherComparison otherParameter =>
      obtain rfl := Option.some.inj rightAsked
      obtain rfl := Comparison.eq_of_sign_eq words
      rw [bare, bare, Access.bare_eq sources, (List.cons.inj values).1]
      exact ⟨rfl, List.append_cancel_left operands⟩
    | compareFields other otherComparison otherRight =>
      obtain rfl := Option.some.inj rightAsked
      rw [write_source] at operands
      exact absurd operands.symm (Source.text_append_ne_dollar _ _ _)
    | _ => exact absurd forms (by simp [form?])
  | compareFields field comparison rightField =>
    obtain rfl := Option.some.inj leftAsked
    cases right with
    | compare other otherComparison otherParameter =>
      obtain rfl := Option.some.inj rightAsked
      rw [write_source] at operands
      exact absurd operands (Source.text_append_ne_dollar _ _ _)
    | compareFields other otherComparison otherRight =>
      obtain rfl := Option.some.inj rightAsked
      exact bare_compareFields_eq
        (leftSegmented rightField (List.mem_cons_of_mem _ List.mem_cons_self))
        (rightSegmented otherRight (List.mem_cons_of_mem _ List.mem_cons_self))
        leftEnds rightEnds sources words operands
    | _ => exact absurd forms (by simp [form?])
  | member field parameters negated =>
    obtain rfl := Option.some.inj leftAsked
    cases right with
    | member other otherParameters otherNegated =>
      obtain rfl := Option.some.inj rightAsked
      exact bare_member_eq sources words operands values
    | _ => exact absurd forms (by simp [form?])
  | between field low high =>
    obtain rfl := Option.some.inj leftAsked
    cases right with
    | between other otherLow otherHigh =>
      obtain rfl := Option.some.inj rightAsked
      obtain ⟨sameLow, more⟩ := List.cons.inj values
      rw [bare, bare, Access.bare_eq sources, sameLow, (List.cons.inj more).1]
      exact ⟨rfl, List.append_cancel_left operands⟩
    | _ => exact absurd forms (by simp [form?])
  | isNull field negated =>
    obtain rfl := Option.some.inj leftAsked
    cases right with
    | isNull other otherNegated =>
      obtain rfl := Option.some.inj rightAsked
      rw [bare, bare, Access.bare_eq sources]
      cases negated <;> cases otherNegated <;> simp_all [Piece.write]
    | _ => exact absurd forms (by simp [form?])
  | like field pattern ignoresCase =>
    obtain rfl := Option.some.inj leftAsked
    cases right with
    | like other otherPattern otherIgnoresCase =>
      obtain rfl := Option.some.inj rightAsked
      have flags : ignoresCase = otherIgnoresCase := flag_eq (by decide) words
      rw [bare, bare, Access.bare_eq sources, (List.cons.inj values).1, flags]
      exact ⟨rfl, List.append_cancel_left operands⟩
    | _ => exact absurd forms (by simp [form?])

end Filter

end Sieve
