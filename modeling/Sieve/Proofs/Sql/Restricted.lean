/-
This file says when a planned statement has a condition. The planner may refuse what
asks nothing, and it tells this from the predicate; a statement has no condition where
the compiled filter is the one that always holds. Of all predicates that ask something
just one kind is compiled to that filter: a field that is not among no literals, alone
and not as a part. So with this one exception a planner that refuses what asks nothing
never plans a statement over a whole table.
-/

import Sieve.Proofs.Filter.Meaning
import Sieve.Proofs.Sql.Names

namespace Sieve

open Outcome Sql

/-! ### Predicates that are compiled to nothing -/

/-- Whether a predicate asks that a field is not among no literals. It holds of every document. -/
def Predicate.excludesNothing : Predicate → Bool
  | member _ [] true => true
  | _ => false

namespace Catalog

variable {catalog : Catalog} {typeName path : String}

theorem compileAll_eq_ok_nil {parts : List Predicate}
    (compiled : catalog.compileAll typeName parts = .ok []) : parts = [] := by
  cases parts with
  | nil => rfl
  | cons part rest =>
    obtain ⟨first, _, compiled⟩ := bind_eq_ok.mp compiled
    obtain ⟨others, _, done⟩ := bind_eq_ok.mp compiled
    exact absurd (Except.ok.inj done) (List.cons_ne_nil _ _)

/-- Only no parameters at all, without null, are what every value is outside of. -/
theorem memberFilter_eq_always {access : Access} {parameters : List Parameter}
    {orNull negated : Bool} :
    memberFilter access parameters orNull negated = .always ↔
      parameters = [] ∧ orNull = false ∧ negated = true := by
  cases parameters <;> cases orNull <;> cases negated <;>
    simp [memberFilter, Filter.always, Filter.never]

theorem compileMember_eq_always {values : List Literal} {negated : Bool} {filter : Filter}
    (compiled : catalog.compileMember typeName path values negated = .ok filter) :
    filter = .always ↔ values = [] ∧ negated = true := by
  obtain ⟨access, _, parameters, bound, rfl⟩ := compileMember_eq_ok.mp compiled
  rw [memberFilter_eq_always, ← Literal.eq_nil_iff, and_assoc]
  refine and_congr_left fun _ => ?_
  rw [← List.length_eq_zero_iff, ← (mapM_eq_ok.mp bound).length_eq, List.length_eq_zero_iff]

theorem compileComparison_ne_always {comparison : Comparison} {value : Literal} {filter : Filter}
    (compiled : catalog.compileComparison typeName path comparison value = .ok filter) :
    filter ≠ .always := by
  rw [compileComparison_eq_ok] at compiled
  split at compiled
  · obtain ⟨access, _, rfl⟩ := compiled
    exact nofun
  · obtain ⟨access, _, parameter, _, rfl⟩ := compiled
    exact nofun

/-- Of the predicates other than the empty conjunction, just those that exclude nothing are
compiled to the filter that always holds. -/
theorem compile_eq_always {predicate : Predicate} {filter : Filter}
    (some : predicate ≠ .all [])
    (compiled : catalog.compile typeName predicate = .ok filter) :
    filter = .always ↔ predicate.excludesNothing = true := by
  cases predicate with
  | all parts =>
    obtain ⟨filters, below, done⟩ := bind_eq_ok.mp compiled
    obtain rfl := Except.ok.inj done
    refine iff_of_false (fun same => some ?_) Bool.false_ne_true
    obtain rfl := Filter.all.inj same
    rw [compileAll_eq_ok_nil below]
  | any parts =>
    obtain ⟨filters, _, done⟩ := bind_eq_ok.mp compiled
    obtain rfl := Except.ok.inj done
    exact iff_of_false nofun Bool.false_ne_true
  | not part =>
    obtain ⟨inner, _, done⟩ := bind_eq_ok.mp compiled
    obtain rfl := Except.ok.inj done
    exact iff_of_false nofun Bool.false_ne_true
  | compare left comparison right =>
    refine iff_of_false ?_ Bool.false_ne_true
    cases left with
    | field left =>
      cases right with
      | field right =>
        obtain ⟨_, _, _, _, _, rfl⟩ := compileFields_eq_ok.mp compiled
        exact nofun
      | literal value => exact compileComparison_ne_always compiled
    | literal value =>
      cases right with
      | field right => exact compileComparison_ne_always compiled
      | literal other => cases compiled
  | member path values negated =>
    rw [compileMember_eq_always compiled]
    cases values <;> cases negated <;> simp [Predicate.excludesNothing]
  | between path low high =>
    obtain ⟨access, _, _, _, _, _, rfl⟩ := compileBetween_eq_ok.mp compiled
    exact iff_of_false nofun Bool.false_ne_true
  | isNull path negated =>
    obtain ⟨access, _, done⟩ := bind_eq_ok.mp compiled
    obtain rfl := Except.ok.inj done
    exact iff_of_false nofun Bool.false_ne_true
  | text path textMatch value ignoresCase =>
    obtain ⟨access, _, rfl⟩ := compileText_eq_ok.mp compiled
    exact iff_of_false nofun Bool.false_ne_true

end Catalog

/-! ### Texts of statements -/

/-- The text of a statement that reads something from a whole table. -/
def Sql.Options.wholeTable (options : Options) (reading table : String) : String :=
  reading ++ " from " ++ quoteName table ++ " as " ++ writeName options.tableAlias

/-- What is read by the statement that reads documents. -/
def Sql.Options.documents (options : Options) : String :=
  "select " ++ writeName options.tableAlias ++ "." ++ writeName options.dataColumn

/-- What is read by the statement that counts documents. -/
def Sql.counted : String :=
  "select count(*)"

/-- Whether a text is another one with a condition behind it, and is read so: what begins the
condition is a word outside all quotes. -/
structure Sql.Narrows (whole condition text : String) : Prop where
  /-- The condition stands behind the other text. -/
  written : text = whole ++ " where " ++ condition
  /-- The tokens of all three. -/
  read : ∃ first second, tokens? whole.toList = some first ∧
    tokens? condition.toList = some second ∧
    tokens? text.toList = some (first ++ .word "where".toList :: second)

theorem Sql.Narrows.text_ne {whole condition text : String}
    (narrows : Narrows whole condition text) : text ≠ whole := by
  obtain ⟨first, second, wholeRead, _, read⟩ := narrows.read
  rintro rfl
  have same := Option.some.inj (wholeRead.symm.trans read)
  have longer := congrArg List.length same
  rw [List.length_append, List.length_cons] at longer
  omega

namespace Filter

variable (options : Options)

theorem text_select_always (table : String) :
    (always.select options table).text = options.wholeTable options.documents table := by
  refine String.toList_injective ?_
  simp [select, statement, always, isAlways, Command.ofPieces, Options.wholeTable,
    Options.documents, Options.body, Options.tablePiece, Piece.write]

theorem text_count_always (table : String) :
    (always.count options table).text = options.wholeTable counted table := by
  refine String.toList_injective ?_
  simp [count, statement, always, isAlways, Command.ofPieces, Options.wholeTable, counted,
    Options.tablePiece, Piece.write]

/-- A statement whose filter does not always hold has the condition for the filter. -/
theorem narrows_statement {head : List Piece} (phrase : Piece.IsPhrase head)
    (unbound : head.filterMap Piece.parameter? = []) (table : String) {filter : Filter}
    (sometimes : filter ≠ .always) :
    Narrows (always.statement options head table).text (filter.whereClause options).text
      (filter.statement options head table).text := by
  have conditional : filter.isAlways = false :=
    Bool.eq_false_iff.mpr fun always => sometimes (eq_always_of_isAlways always)
  have whole : always.statementPieces options head table =
      head ++ [.fixed " from ", .quotedName table, .fixed " as ", options.tablePiece] :=
    List.append_nil _
  have written : (filter.statement options head table).text.toList =
      (always.statement options head table).text.toList ++
        (" where ".toList ++ (filter.whereClause options).text.toList) := by
    have pieces : filter.statementPieces options head table =
        always.statementPieces options head table ++ .fixed " where " :: filter.pieces options := by
      rw [whole, statementPieces, conditional]
      rfl
    have none : (always.statementPieces options head table).filterMap Piece.parameter? = [] := by
      rw [whole, List.filterMap_append, unbound]
      rfl
    show (String.ofList (Piece.write 0 (filter.statementPieces options head table))).toList = _
    rw [pieces, String.toList_ofList, Piece.write_append, none]
    simp only [statement, whereClause, Command.ofPieces, String.toList_ofList]
    rfl
  obtain ⟨first, wholeRead, _⟩ := (isPhrase_statementPieces options phrase table always).reads
  obtain ⟨second, conditionRead, _⟩ := (filter.isPhrase_pieces options).reads
  have word : tokens? " where ".toList = some [.word "where".toList] := rfl
  have behind := tokens?_append (.inl rfl) word conditionRead
  refine ⟨String.toList_injective ?_, first, second, wholeRead, conditionRead, ?_⟩
  · rw [written, String.toList_append, String.toList_append, List.append_assoc]
  · rw [written]
    exact tokens?_append (.inr rfl) wholeRead behind

theorem narrows_select (table : String) {filter : Filter} (sometimes : filter ≠ .always) :
    Narrows (options.wholeTable options.documents table) (filter.whereClause options).text
      (filter.select options table).text := by
  have head : Piece.IsPhrase (.fixed "select " :: options.body) :=
    Piece.isPhrase_nil.joined "select " (isPhrase_body options) (.inl rfl) (.inr rfl) rfl
  rw [← text_select_always]
  exact narrows_statement options head rfl table sometimes

theorem narrows_count (table : String) {filter : Filter} (sometimes : filter ≠ .always) :
    Narrows (options.wholeTable counted table) (filter.whereClause options).text
      (filter.count options table).text := by
  have head : Piece.IsPhrase [.fixed "select count(*)"] :=
    Piece.isPhrase_nil.joined "select count(*)" Piece.isPhrase_nil (.inl rfl) (.inl rfl) rfl
  rw [← text_count_always]
  exact narrows_statement options head rfl table sometimes

end Filter

/-! ### What is planned -/

namespace Planner

variable {planner : Planner} {typeName : String} {predicate? : Option Predicate}
  {documentType : DocumentType} {statement : Command}

theorem exists_of_select (described : planner.catalog.describe typeName = .ok documentType)
    (planned : planner.select typeName predicate? = .ok statement) :
    ∃ filter, planner.compile typeName predicate? = .ok filter ∧
      statement = filter.select planner.options documentType.table := by
  rw [select, described, ok_bind, bind_eq_ok] at planned
  exact planned.imp fun filter found => ⟨found.1, (Except.ok.inj found.2).symm⟩

theorem exists_of_count (described : planner.catalog.describe typeName = .ok documentType)
    (planned : planner.count typeName predicate? = .ok statement) :
    ∃ filter, planner.compile typeName predicate? = .ok filter ∧
      statement = filter.count planner.options documentType.table := by
  rw [count, described, ok_bind, bind_eq_ok] at planned
  exact planned.imp fun filter found => ⟨found.1, (Except.ok.inj found.2).symm⟩

/-- A planner that refuses what asks nothing compiles to the filter that always holds just what
excludes nothing. -/
theorem compile_eq_always (refuses : planner.options.allowsEmpty = false) {filter : Filter}
    (compiled : planner.compile typeName predicate? = .ok filter) :
    filter = .always ↔ predicate?.any Predicate.excludesNothing = true := by
  obtain ⟨_, _, filtered⟩ := bind_eq_ok.mp compiled
  cases asked : asked? predicate? with
  | none =>
    rw [asked, refuses] at filtered
    exact absurd filtered nofun
  | some predicate =>
    rw [asked] at filtered
    obtain ⟨rfl, some⟩ : predicate? = some predicate ∧ predicate ≠ .all [] := by
      rw [asked?.eq_def] at asked
      split at asked
      · exact absurd asked nofun
      · rename_i other
        exact ⟨asked, fun same => other (same ▸ asked)⟩
    exact Catalog.compile_eq_always some filtered

/-- A planner that refuses what asks nothing plans only statements with a condition, for whatever
asks anything else than that a field is not among no literals. For that it plans the statements
over the whole table. -/
theorem restricted_unless_excludesNothing (refuses : planner.options.allowsEmpty = false)
    (described : planner.catalog.describe typeName = .ok documentType) :
    (predicate?.any Predicate.excludesNothing = false →
      (∀ filter, planner.compile typeName predicate? = .ok filter → filter ≠ .always) ∧
      (∀ statement, planner.select typeName predicate? = .ok statement →
        ∃ condition, planner.whereClause typeName predicate? = .ok condition ∧
          Narrows (planner.options.wholeTable planner.options.documents documentType.table)
            condition.text statement.text) ∧
      ∀ statement, planner.count typeName predicate? = .ok statement →
        ∃ condition, planner.whereClause typeName predicate? = .ok condition ∧
          Narrows (planner.options.wholeTable counted documentType.table)
            condition.text statement.text) ∧
    (predicate?.any Predicate.excludesNothing = true →
      (∀ filter, planner.compile typeName predicate? = .ok filter → filter = .always) ∧
      (∀ statement, planner.select typeName predicate? = .ok statement → statement.text =
        planner.options.wholeTable planner.options.documents documentType.table) ∧
      ∀ statement, planner.count typeName predicate? = .ok statement → statement.text =
        planner.options.wholeTable counted documentType.table) := by
  refine ⟨fun other => ?_, fun excluding => ?_⟩
  · have sometimes {filter : Filter}
        (compiled : planner.compile typeName predicate? = .ok filter) : filter ≠ .always := by
      rw [Ne, compile_eq_always refuses compiled, other]
      exact Bool.false_ne_true
    refine ⟨fun _ => sometimes, fun statement planned => ?_, fun statement planned => ?_⟩
    · obtain ⟨filter, compiled, rfl⟩ := exists_of_select described planned
      exact ⟨_, (plans_of_compile described compiled).1,
        Filter.narrows_select planner.options _ (sometimes compiled)⟩
    · obtain ⟨filter, compiled, rfl⟩ := exists_of_count described planned
      exact ⟨_, (plans_of_compile described compiled).1,
        Filter.narrows_count planner.options _ (sometimes compiled)⟩
  · have always {filter : Filter}
        (compiled : planner.compile typeName predicate? = .ok filter) : filter = .always :=
      (compile_eq_always refuses compiled).mpr excluding
    refine ⟨fun _ => always, fun statement planned => ?_, fun statement planned => ?_⟩
    · obtain ⟨filter, compiled, rfl⟩ := exists_of_select described planned
      rw [always compiled, Filter.text_select_always]
    · obtain ⟨filter, compiled, rfl⟩ := exists_of_count described planned
      rw [always compiled, Filter.text_count_always]

/-- A conjunction of what excludes nothing has a condition, though one that always holds. -/
theorem restricted_meetings :
    let planner : Planner := ⟨.meetings .extracted rfl, ⟨"data", "d", false⟩⟩
    let asked : Predicate := .all [.member "Start" [] true]
    ∃ statement condition, planner.select "Meeting" (some asked) = .ok statement ∧
      planner.whereClause "Meeting" (some asked) = .ok condition ∧
      Narrows (planner.options.wholeTable planner.options.documents "meetings") condition.text
        statement.text := by
  intro planner asked
  obtain ⟨restricted, _⟩ := @restricted_unless_excludesNothing planner "Meeting" (some asked)
    (.meeting .extracted) rfl rfl
  obtain ⟨condition, made, narrows⟩ := (restricted rfl).2.1 _ rfl
  exact ⟨_, condition, rfl, made, narrows⟩

/-- A planner that refuses what asks nothing still plans statements over a whole table. -/
theorem not_restricted_meetings :
    let planner : Planner := ⟨.meetings .extracted rfl, ⟨"data", "d", false⟩⟩
    let asked : Predicate := .member "Start" [] true
    planner.compile "Meeting" (some asked) = .ok .always ∧
      ∃ statement, planner.select "Meeting" (some asked) = .ok statement ∧
        statement.text = "select d.data from \"meetings\" as d" ∧
        ¬∃ condition, Narrows (planner.options.wholeTable planner.options.documents "meetings")
          condition statement.text := by
  refine ⟨rfl, _, rfl, rfl, ?_⟩
  rintro ⟨condition, narrows⟩
  exact narrows.text_ne rfl

end Planner

end Sieve
