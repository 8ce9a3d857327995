/-
This file proves that names stay names. Whatever characters the names of a command
hold, the reader of tokens takes each of them as one token that stands for exactly
that name, and every other token is where the shape of the filter puts it. So no name
can end a quote, open a bracket or add a word to the command.

A phrase is a list of pieces that can be read by themselves and leave brackets as they
found them. Two phrases with a text between them are a phrase if the text is set apart
from both, and so is one that brackets enclose; conditions and statements are built
from these two.
-/

import Sieve.Proofs.Filter.Typed
import Sieve.Proofs.Sql.Outline
import Sieve.Proofs.Sql.Placeholders
import Sieve.Proofs.Sql.Token

namespace Sieve

namespace Sql

/-! ### Slots -/

/-- A place for a token. -/
inductive Slot where
  /-- One for a token that is known. -/
  | token (token : Token)
  /-- One for a name. -/
  | name
  /-- One for a text. -/
  | text

/-- Tokens in slots. The slots that are not for known tokens take the given strings in their order,
one each. -/
inductive Fills : List Slot → List String → List Token → Prop
  /-- Nothing is left. -/
  | nil : Fills [] [] []
  /-- A token that is known. -/
  | token {slots : List Slot} {strings : List String} {tokens : List Token} (token : Token)
    (below : Fills slots strings tokens) : Fills (.token token :: slots) strings (token :: tokens)
  /-- A token that stands for a name. -/
  | name {slots : List Slot} {strings : List String} {tokens : List Token} {token : Token}
    {name : String} (known : token.name? = some name.toList) (below : Fills slots strings tokens) :
    Fills (.name :: slots) (name :: strings) (token :: tokens)
  /-- A token that is a quoted text. -/
  | text {slots : List Slot} {strings : List String} {tokens : List Token} (text : String)
    (below : Fills slots strings tokens) :
    Fills (.text :: slots) (text :: strings) (.quoted .text text.toList :: tokens)

theorem Fills.append {slots more : List Slot} {strings others : List String}
    {tokens later : List Token} (first : Fills slots strings tokens)
    (second : Fills more others later) :
    Fills (slots ++ more) (strings ++ others) (tokens ++ later) := by
  induction first with
  | nil => exact second
  | token token _ inductionHypothesis => exact .token token inductionHypothesis
  | name known _ inductionHypothesis => exact .name known inductionHypothesis
  | text text _ inductionHypothesis => exact .text text inductionHypothesis

theorem fills_tokens (tokens : List Token) : Fills (tokens.map Slot.token) [] tokens := by
  induction tokens with
  | nil => exact .nil
  | cons token rest inductionHypothesis => exact .token token inductionHypothesis

/-- Whether a text is read as tokens that close all brackets and fill slots with strings. -/
def Reads (text : String) (slots : List Slot) (strings : List String) : Prop :=
  ∃ tokens, tokens? text.toList = some tokens ∧ depthAfter? 0 tokens = some 0 ∧
    Fills slots strings tokens

/-! ### Phrases -/

namespace Piece

/-- The name or text that a piece is. -/
def string? : Piece → Option String
  | quotedName text | name text | quotedText text => some text
  | _ => none

/-- The slots that pieces make, given how many parameters come before them. -/
def slots (before : Nat) : List Piece → List Slot
  | [] => []
  | fixed text :: rest => ((tokens? text.toList).getD []).map .token ++ slots before rest
  | quotedName _ :: rest | name _ :: rest => .name :: slots before rest
  | quotedText _ :: rest => .text :: slots before rest
  | parameter _ :: rest =>
    .token (.placeholder (Text.digitsOf (before + 1))) :: slots (before + 1) rest

/-- Slots do not depend on names. -/
theorem slots_map_outline (rename : String → String) (before : Nat) (pieces : List Piece) :
    slots before (pieces.map (outline rename)) = slots before pieces := by
  induction pieces generalizing before with
  | nil => rfl
  | cons piece rest inductionHypothesis =>
    cases piece <;> rw [List.map_cons, outline, slots, slots, inductionHypothesis]

theorem slots_append (before : Nat) (first second : List Piece) :
    slots before (first ++ second) =
      slots before first ++ slots (before + (first.filterMap parameter?).length) second := by
  induction first generalizing before with
  | nil => rfl
  | cons piece rest inductionHypothesis =>
    cases piece with
    | parameter bound =>
      have counted : (parameter bound :: rest).filterMap parameter? =
          bound :: rest.filterMap parameter? := rfl
      rw [List.cons_append, slots, slots, inductionHypothesis, counted, List.length_cons,
        List.cons_append, Nat.add_assoc, Nat.add_comm 1]
    | fixed text =>
      rw [List.cons_append, slots, slots, inductionHypothesis, List.filterMap_cons_none rfl,
        List.append_assoc]
    | _ =>
      rw [List.cons_append, slots, slots, inductionHypothesis, List.filterMap_cons_none rfl,
        List.cons_append]

/-- Whether pieces are read as tokens, which fill the slots of the pieces with their strings. -/
structure ReadAs (before : Nat) (pieces : List Piece) (tokens : List Token) : Prop where
  /-- The tokens are those of the text. -/
  read : tokens? (write before pieces) = some tokens
  /-- They are in the slots. -/
  fills : Fills (slots before pieces) (pieces.filterMap string?) tokens

variable {before : Nat} {left right inner : List Piece} {text opening closing : String}
  {tokens later : List Token}

theorem ReadAs.append
    (apart : isSettled (write before left) = true ∨
      isSetApart (write (before + (left.filterMap parameter?).length) right) = true)
    (first : ReadAs before left tokens)
    (second : ReadAs (before + (left.filterMap parameter?).length) right later) :
    ReadAs before (left ++ right) (tokens ++ later) := by
  constructor
  · rw [write_append]
    exact tokens?_append apart first.read second.read
  · rw [slots_append, List.filterMap_append]
    exact first.fills.append second.fills

theorem readAs_nil (before : Nat) : ReadAs before [] [] :=
  ⟨rfl, .nil⟩

theorem readAs_fixed (known : tokens? text.toList = some tokens) (before : Nat) :
    ReadAs before [.fixed text] tokens := by
  constructor
  · rwa [write, write, List.append_nil]
  · rw [slots, slots, List.append_nil, known]
    exact fills_tokens tokens

/-- What begins with a text is read if the text leaves no token open, or nothing else follows. -/
theorem readAs_cons (settled : right = [] ∨ isSettled text.toList = true)
    (known : tokens? text.toList = some tokens) (below : ReadAs before right later) :
    ReadAs before (.fixed text :: right) (tokens ++ later) := by
  rcases settled with rfl | settled
  · obtain rfl := Option.some.inj ((readAs_nil before).read.symm.trans below.read)
    rw [List.append_nil]
    exact readAs_fixed known before
  · have written : write before [.fixed text] = text.toList := List.append_nil _
    exact (readAs_fixed known before).append (.inl (written ▸ settled)) below

/-- What ends at a text that is set apart is read before it. -/
theorem ReadAs.before_cons (apart : left = [] ∨ isSetApart text.toList = true)
    (first : ReadAs before left tokens)
    (second : ReadAs (before + (left.filterMap parameter?).length) (.fixed text :: right) later) :
    ReadAs before (left ++ .fixed text :: right) (tokens ++ later) := by
  refine first.append ?_ second
  rcases apart with rfl | apart
  · exact .inl rfl
  · exact .inr (isSetApart_append apart _)

/-- Pieces that are read wherever they stand and leave brackets as they found them. -/
def IsPhrase (pieces : List Piece) : Prop :=
  ∀ before, ∃ tokens, ReadAs before pieces tokens ∧ depthAfter? 0 tokens = some 0

/-- How many brackets are open after a text. -/
def depthAcross? (depth : Nat) (text : String) : Option Nat :=
  (tokens? text.toList).bind (depthAfter? depth)

theorem isPhrase_nil : IsPhrase [] :=
  fun before => ⟨[], readAs_nil before, rfl⟩

theorem isPhrase_name (text : String) : IsPhrase [.name text] := by
  intro before
  obtain ⟨token, read, known⟩ := tokens?_writeName text
  refine ⟨[token], ⟨?_, .name known .nil⟩, ?_⟩
  · rwa [write, write, List.append_nil]
  · cases token with
    | word | quoted => rfl
    | _ => exact absurd known (Option.some_ne_none _).symm

theorem isPhrase_quotedName (text : String) : IsPhrase [.quotedName text] := by
  intro before
  refine ⟨[.quoted .name text.toList], ⟨?_, .name rfl .nil⟩, rfl⟩
  rw [write, write, List.append_nil]
  exact tokens?_quoteName text

theorem isPhrase_quotedText (text : String) : IsPhrase [.quotedText text] := by
  intro before
  refine ⟨[.quoted .text text.toList], ⟨?_, .text text .nil⟩, rfl⟩
  rw [write, write, List.append_nil]
  exact tokens?_quoteText text

theorem isPhrase_parameter (bound : Parameter) : IsPhrase [.parameter bound] := by
  intro before
  refine ⟨[.placeholder (Text.digitsOf (before + 1))], ⟨?_, .token _ .nil⟩, rfl⟩
  rw [write, write, List.append_nil]
  exact tokens?_placeholder (before + 1)

theorem exists_of_depthAcross? {depth after : Nat} (level : depthAcross? depth text = some after) :
    ∃ tokens, tokens? text.toList = some tokens ∧ depthAfter? depth tokens = some after :=
  Option.bind_eq_some_iff.mp level

/-- Two phrases with a text between them are a phrase. -/
theorem IsPhrase.joined (leftPhrase : IsPhrase left) (text : String) (rightPhrase : IsPhrase right)
    (apart : left = [] ∨ isSetApart text.toList = true)
    (settled : right = [] ∨ isSettled text.toList = true)
    (level : depthAcross? 0 text = some 0) : IsPhrase (left ++ .fixed text :: right) := by
  intro before
  obtain ⟨tokens, leftRead, leftLevel⟩ := leftPhrase before
  obtain ⟨later, rightRead, rightLevel⟩ :=
    rightPhrase (before + (left.filterMap parameter?).length)
  obtain ⟨own, known, level⟩ := exists_of_depthAcross? level
  exact ⟨_, leftRead.before_cons apart (readAs_cons settled known rightRead),
    depthAfter?_append leftLevel (depthAfter?_append level rightLevel)⟩

/-- A phrase between two texts is one if the first text opens the bracket that the other closes. -/
theorem IsPhrase.enclosed (leftPhrase : IsPhrase left) (innerPhrase : IsPhrase inner)
    (apart : left = [] ∨ isSetApart opening.toList = true)
    (settled : isSettled opening.toList = true) (opens : depthAcross? 0 opening = some 1)
    (closingApart : isSetApart closing.toList = true) (closes : depthAcross? 1 closing = some 0) :
    IsPhrase (left ++ .fixed opening :: (inner ++ [.fixed closing])) := by
  intro before
  obtain ⟨tokens, leftRead, leftLevel⟩ := leftPhrase before
  obtain ⟨inside, innerRead, innerLevel⟩ :=
    innerPhrase (before + (left.filterMap parameter?).length)
  obtain ⟨opened, opensKnown, opens⟩ := exists_of_depthAcross? opens
  obtain ⟨closed, closesKnown, closes⟩ := exists_of_depthAcross? closes
  have closedRead := innerRead.before_cons (.inr closingApart) (readAs_fixed closesKnown _)
  exact ⟨_, leftRead.before_cons apart (readAs_cons (.inr settled) opensKnown closedRead),
    depthAfter?_append leftLevel (depthAfter?_append opens
      (depthAfter?_append (depthAfter?_add innerLevel 1) closes))⟩

theorem IsPhrase.reads {pieces : List Piece} (phrase : IsPhrase pieces) :
    Reads (Command.ofPieces pieces).text (slots 0 pieces) (pieces.filterMap string?) := by
  obtain ⟨tokens, read, level⟩ := phrase 0
  refine ⟨tokens, ?_, level, read.fills⟩
  rw [Command.ofPieces, String.toList_ofList]
  exact read.read

end Piece

end Sql

open Sql Piece

/-! ### Conditions and statements are phrases -/

variable (options : Options)

theorem isPhrase_body : IsPhrase options.body :=
  (isPhrase_name options.tableAlias).joined "." (isPhrase_name options.dataColumn) (.inr rfl)
    (.inr rfl) rfl

theorem Sql.Piece.IsPhrase.arrows {left : List Piece} (phrase : IsPhrase left)
    (segments : List String) : IsPhrase (left ++ arrowPieces segments) := by
  induction segments generalizing left with
  | nil => rwa [arrowPieces, List.append_nil]
  | cons segment rest inductionHypothesis =>
    cases rest with
    | nil => exact phrase.joined " ->> " (isPhrase_quotedText segment) (.inr rfl) (.inr rfl) rfl
    | cons second others =>
      have step := phrase.joined " -> " (isPhrase_quotedText segment) (.inr rfl)
        (.inr rfl) rfl
      have whole := inductionHypothesis step
      rwa [List.append_assoc] at whole

theorem Source.isPhrase_pieces (source : Source) : IsPhrase (source.pieces options) := by
  induction source with
  | jsonText segments => exact (isPhrase_body options).arrows segments
  | column name =>
    exact (isPhrase_name options.tableAlias).joined "." (isPhrase_quotedName name)
      (.inr rfl) (.inr rfl) rfl
  | cast inner type inductionHypothesis =>
    refine isPhrase_nil.enclosed inductionHypothesis (.inl rfl) rfl rfl ?_ ?_ <;>
      cases type <;> rfl
  | atUtc inner inductionHypothesis =>
    exact isPhrase_nil.enclosed inductionHypothesis (.inl rfl) rfl rfl rfl rfl

theorem isPhrase_parameterPieces (parameters : List Parameter) :
    IsPhrase (parameterPieces parameters) := by
  fun_induction parameterPieces parameters with
  | case1 => exact isPhrase_nil
  | case2 parameter => exact isPhrase_parameter parameter
  | case3 parameter rest _ inductionHypothesis =>
    exact (isPhrase_parameter parameter).joined ", " inductionHypothesis (.inr rfl) (.inr rfl) rfl

namespace Filter

theorem isPhrase_joinedPieces {joiner : String} (apart : isSetApart joiner.toList = true)
    (settled : isSettled joiner.toList = true) (level : depthAcross? 0 joiner = some 0)
    {parts : List Filter} (below : ∀ part ∈ parts, IsPhrase (part.pieces options)) :
    IsPhrase (joinedPieces options joiner parts) := by
  match parts with
  | [] => exact isPhrase_nil
  | [part] => exact below part List.mem_cons_self
  | first :: second :: rest =>
    obtain ⟨here, belowRest⟩ := List.forall_mem_cons.mp below
    rw [joinedPieces_cons_cons]
    exact here.joined joiner (isPhrase_joinedPieces apart settled level belowRest) (.inr apart)
      (.inr settled) level

theorem isPhrase_pieces (filter : Filter) : IsPhrase (filter.pieces options) := by
  induction filter using induction with
  | all parts below =>
    cases parts with
    | nil => exact isPhrase_nil.joined "TRUE" isPhrase_nil (.inl rfl) (.inl rfl) rfl
    | cons first rest =>
      rw [pieces_all_cons]
      exact isPhrase_nil.enclosed (isPhrase_joinedPieces options rfl rfl rfl below) (.inl rfl) rfl
        rfl rfl rfl
  | any parts below =>
    cases parts with
    | nil => exact isPhrase_nil.joined "FALSE" isPhrase_nil (.inl rfl) (.inl rfl) rfl
    | cons first rest =>
      rw [pieces_any_cons]
      exact isPhrase_nil.enclosed (isPhrase_joinedPieces options rfl rfl rfl below) (.inl rfl) rfl
        rfl rfl rfl
  | not part below => exact isPhrase_nil.enclosed below (.inl rfl) rfl rfl rfl rfl
  | compare field comparison parameter =>
    refine (field.source.isPhrase_pieces options).joined _ (isPhrase_parameter parameter) (.inr ?_)
      (.inr ?_) ?_ <;> cases comparison <;> rfl
  | compareFields left comparison right =>
    refine (left.source.isPhrase_pieces options).joined _ (right.source.isPhrase_pieces options)
      (.inr ?_) (.inr ?_) ?_ <;> cases comparison <;> rfl
  | member field parameters negated =>
    rw [pieces, List.append_assoc]
    refine (field.source.isPhrase_pieces options).enclosed (isPhrase_parameterPieces parameters)
      (.inr ?_) ?_ ?_ rfl rfl <;> cases negated <;> rfl
  | between field low high =>
    have ends : IsPhrase [.parameter low, .fixed " AND ", .parameter high] :=
      (isPhrase_parameter low).joined " AND " (isPhrase_parameter high) (.inr rfl)
        (.inr rfl) rfl
    exact (field.source.isPhrase_pieces options).joined " BETWEEN " ends (.inr rfl) (.inr rfl) rfl
  | isNull field negated =>
    refine (field.source.isPhrase_pieces options).joined _ isPhrase_nil (.inr ?_) (.inl rfl) ?_ <;>
      cases negated <;> rfl
  | like field pattern ignoresCase =>
    refine (field.source.isPhrase_pieces options).joined _ (isPhrase_parameter pattern) (.inr ?_)
      (.inr ?_) ?_ <;> cases ignoresCase <;> rfl

theorem isPhrase_statementPieces {head : List Piece} (phrase : IsPhrase head) (table : String)
    (filter : Filter) : IsPhrase (filter.statementPieces options head table) := by
  have tables : IsPhrase [.quotedName table, .fixed " as ", options.tablePiece] :=
    (isPhrase_quotedName table).joined " as " (isPhrase_name options.tableAlias)
      (.inr rfl) (.inr rfl) rfl
  have named := phrase.joined " from " tables (.inr rfl) (.inr rfl) rfl
  rw [statementPieces]
  split
  · rwa [List.append_nil]
  · exact named.joined " where " (filter.isPhrase_pieces options) (.inr rfl) (.inr rfl) rfl

theorem isPhrase_selectPieces (table : String) (filter : Filter) :
    IsPhrase (filter.selectPieces options table) :=
  filter.isPhrase_statementPieces options
    (isPhrase_nil.joined "select " (isPhrase_body options) (.inl rfl) (.inr rfl) rfl)
    table

theorem isPhrase_countPieces (table : String) (filter : Filter) :
    IsPhrase (filter.countPieces options table) :=
  filter.isPhrase_statementPieces options
    (isPhrase_nil.joined "select count(*)" isPhrase_nil (.inl rfl) (.inl rfl) rfl) table

end Filter

/-! ### The names of filters -/

theorem filterMap_string?_arrowPieces (segments : List String) :
    (arrowPieces segments).filterMap string? = segments := by
  fun_induction arrowPieces segments with
  | case1 | case2 => rfl
  | case3 segment rest _ inductionHypothesis => exact congrArg (segment :: ·) inductionHypothesis

theorem filterMap_string?_parameterPieces (parameters : List Parameter) :
    (parameterPieces parameters).filterMap string? = [] := by
  fun_induction parameterPieces parameters with
  | case1 | case2 => rfl
  | case3 parameter rest _ inductionHypothesis => exact inductionHypothesis

/-- The names that a source is written with, from left to right. -/
def Source.names : Source → List String
  | jsonText segments => options.tableAlias :: options.dataColumn :: segments
  | column heading => [options.tableAlias, heading]
  | cast inner _ => inner.names
  | atUtc inner => inner.names

theorem Source.filterMap_string?_pieces (source : Source) :
    (source.pieces options).filterMap string? = source.names options := by
  induction source with
  | jsonText segments =>
    rw [pieces, List.filterMap_append, filterMap_string?_arrowPieces]
    rfl
  | column name => rfl
  | cast inner type inductionHypothesis | atUtc inner inductionHypothesis =>
    rw [pieces, List.cons_append, List.filterMap_cons_none rfl, List.filterMap_append,
      inductionHypothesis]
    exact List.append_nil _

namespace Filter

/-- The names that a filter is written with, from left to right. -/
def names (filter : Filter) : List String :=
  filter.accesses.flatMap fun access => access.source.names options

theorem filterMap_string?_joinedPieces (joiner : String) {parts : List Filter}
    (below : ∀ part ∈ parts,
      (part.pieces options).filterMap string? = part.names options) :
    (joinedPieces options joiner parts).filterMap string? =
      (accessesOfAll parts).flatMap fun access => access.source.names options := by
  match parts with
  | [] => rfl
  | [part] =>
    rw [accessesOfAll, accessesOfAll, List.append_nil]
    exact below part List.mem_cons_self
  | first :: second :: rest =>
    obtain ⟨here, belowRest⟩ := List.forall_mem_cons.mp below
    have read : accessesOfAll (first :: second :: rest) =
        first.accesses ++ accessesOfAll (second :: rest) := rfl
    rw [joinedPieces_cons_cons, List.filterMap_append, here, List.filterMap_cons_none rfl,
      filterMap_string?_joinedPieces joiner belowRest, read, List.flatMap_append]
    rfl

theorem filterMap_string?_pieces (filter : Filter) :
    (filter.pieces options).filterMap string? = filter.names options := by
  induction filter using induction with
  | all parts below =>
    cases parts with
    | nil => rfl
    | cons first rest =>
      rw [pieces_all_cons, List.filterMap_cons_none rfl, List.filterMap_append,
        filterMap_string?_joinedPieces options " AND " below]
      exact List.append_nil _
  | any parts below =>
    cases parts with
    | nil => rfl
    | cons first rest =>
      rw [pieces_any_cons, List.filterMap_cons_none rfl, List.filterMap_append,
        filterMap_string?_joinedPieces options " OR " below]
      exact List.append_nil _
  | not part below =>
    rw [pieces, List.cons_append, List.filterMap_cons_none rfl, List.filterMap_append, below]
    exact List.append_nil _
  | compareFields left comparison right =>
    rw [pieces, List.filterMap_append, Source.filterMap_string?_pieces,
      List.filterMap_cons_none rfl, Source.filterMap_string?_pieces, names, accesses,
      List.flatMap_cons, List.flatMap_singleton]
  | member field parameters negated =>
    rw [pieces, List.append_assoc, List.filterMap_append, Source.filterMap_string?_pieces,
      List.cons_append, List.filterMap_cons_none rfl, List.filterMap_append,
      filterMap_string?_parameterPieces]
    rfl
  | compare | between | isNull | like =>
    rw [pieces, List.filterMap_append, Source.filterMap_string?_pieces]
    rfl

theorem filterMap_string?_statementPieces (head : List Piece) (table : String) (filter : Filter) :
    (filter.statementPieces options head table).filterMap string? =
      head.filterMap string? ++ table :: options.tableAlias :: filter.names options := by
  rw [statementPieces, List.filterMap_append, List.filterMap_append, List.append_assoc]
  split
  · rename_i always
    rw [eq_always_of_isAlways always]
    rfl
  · have condition : (.fixed " where " :: filter.pieces options).filterMap string? =
        filter.names options := filter.filterMap_string?_pieces options
    rw [condition]
    rfl

/-! ### Names stay names -/

/-- The slots of the condition for a filter of some shape. -/
def conditionSlots (shape : Filter) : List Slot :=
  slots 0 (shape.pieces ⟨"", "", true⟩)

/-- The slots of the statement that reads the documents that pass a filter of some shape. -/
def selectSlots (shape : Filter) : List Slot :=
  slots 0 (shape.selectPieces ⟨"", "", true⟩ "")

/-- The slots of the statement that counts the documents that pass a filter of some shape. -/
def countSlots (shape : Filter) : List Slot :=
  slots 0 (shape.countPieces ⟨"", "", true⟩ "")

/-- The condition and the statements for a filter are read as tokens that close every quote and
every bracket. Each name, of the options, of the table and of the filter, is one token that stands
for exactly that name; all other tokens are known from the shape of the filter. -/
theorem reads_commands (options : Options) (table : String) (filter : Filter) :
    Reads (filter.whereClause options).text filter.shape.conditionSlots (filter.names options) ∧
      Reads (filter.select options table).text filter.shape.selectSlots
        (options.tableAlias :: options.dataColumn :: table :: options.tableAlias ::
          filter.names options) ∧
      Reads (filter.count options table).text filter.shape.countSlots
        (table :: options.tableAlias :: filter.names options) := by
  have condition := (filter.isPhrase_pieces options).reads
  have selection := (filter.isPhrase_selectPieces options table).reads
  have counting := (filter.isPhrase_countPieces options table).reads
  rw [filterMap_string?_pieces, ← slots_map_outline fun _ => "", ← pieces_outline] at condition
  rw [selectPieces, filterMap_string?_statementPieces, ← selectPieces,
    ← slots_map_outline fun _ => "", ← selectPieces_outline] at selection
  rw [countPieces, filterMap_string?_statementPieces, ← countPieces,
    ← slots_map_outline fun _ => "", ← countPieces_outline] at counting
  rw [select_eq, count_eq]
  exact ⟨condition, selection, counting⟩

example : tokens? ((isNull ⟨"Name", .string, .column "a\" = '$1", .text⟩ true).whereClause
      ⟨"data", "Docs", true⟩).text.toList =
    some [.quoted .name "Docs".toList, .point '.', .quoted .name "a\" = '$1".toList,
      .word "IS".toList, .word "NOT".toList, .word "NULL".toList] := by
  decide +kernel

end Filter

end Sieve
