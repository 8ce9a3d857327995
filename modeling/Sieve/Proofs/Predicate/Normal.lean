/-
This file proves that a predicate may write a point in time in whatever zone it
likes. A field of instants takes a literal as the instant it denotes, and a field of
wall clocks as the wall clock it is written with. Predicates that differ only in
literals which their fields take alike are therefore compiled alike: to one filter
with the same parameters, or to the same error. Writing every literal in the form its
field takes it in is one such change.
-/

import Sieve.Proofs.Filter.Access
import Sieve.Proofs.Store.Run

namespace Sieve

open Calendar Outcome

/-! ### Literals that mean the same time -/

namespace Literal

/-- A literal as a field of a kind takes it: a point in time as its instant where the kind has
instants, and as its wall clock where the kind has wall clocks. -/
def normal (kind : Kind) (literal : Literal) : Literal :=
  match kind with
  | .utc | .offset => (literal.instant?.map utc).getD literal
  | .naive => (literal.wallClock?.map naive).getD literal
  | _ => literal

/-- Whether two literals are points in time which a field of a kind takes as one. -/
def SameTime (kind : Kind) (left right : Literal) : Prop :=
  match kind with
  | .utc | .offset => ∃ instant, left.instant? = some instant ∧ right.instant? = some instant
  | .naive => ∃ clock, left.wallClock? = some clock ∧ right.wallClock? = some clock
  | _ => False

variable {kind : Kind} {left right : Literal}

theorem isNull_eq_false_of_instant? {literal : Literal} {instant : Instant}
    (found : literal.instant? = some instant) : literal.isNull = false := by
  cases literal <;> first | rfl | exact absurd found (by simp [instant?])

theorem isNull_eq_false_of_wallClock? {literal : Literal} {clock : WallClock}
    (found : literal.wallClock? = some clock) : literal.isNull = false := by
  cases literal <;> first | rfl | exact absurd found (by simp [wallClock?])

theorem SameTime.present (same : SameTime kind left right) :
    left.isNull = false ∧ right.isNull = false := by
  cases kind with
  | utc | offset =>
    obtain ⟨instant, leftFound, rightFound⟩ := same
    exact ⟨isNull_eq_false_of_instant? leftFound, isNull_eq_false_of_instant? rightFound⟩
  | naive =>
    obtain ⟨clock, leftFound, rightFound⟩ := same
    exact ⟨isNull_eq_false_of_wallClock? leftFound, isNull_eq_false_of_wallClock? rightFound⟩
  | _ => exact same.elim

/-- The value of a point in time for a kind with instants is that of its instant. -/
theorem datum?_of_instant? {literal : Literal} {instant : Instant} {type : ColumnType}
    (zoned : kind = .utc ∨ kind = .offset) (found : literal.instant? = some instant) :
    literal.datum? kind type =
      some (if type = .timestamp then .timestamp instant.utc else .timestampTz instant) := by
  have taken : literal.datum? kind type =
      literal.instant?.map fun instant =>
        if type = .timestamp then .timestamp instant.utc else .timestampTz instant := by
    cases literal with
    | naive | utc | offset => rcases zoned with rfl | rfl <;> rfl
    | _ => exact absurd found (by simp [instant?])
  rw [taken, found, Option.map_some]

/-- The value of a point in time for a kind with wall clocks is its wall clock. -/
theorem datum?_of_wallClock? {literal : Literal} {clock : WallClock} {type : ColumnType}
    (found : literal.wallClock? = some clock) :
    literal.datum? .naive type = some (.timestamp clock) := by
  have taken : literal.datum? .naive type = literal.wallClock?.map .timestamp := by
    cases literal with
    | naive | utc | offset => rfl
    | _ => exact absurd found (by simp [wallClock?])
  rw [taken, found, Option.map_some]

theorem SameTime.datum?_eq (same : SameTime kind left right) (type : ColumnType) :
    ∃ value, left.datum? kind type = some value ∧ right.datum? kind type = some value := by
  cases kind with
  | utc =>
    obtain ⟨instant, leftFound, rightFound⟩ := same
    exact ⟨_, datum?_of_instant? (.inl rfl) leftFound, datum?_of_instant? (.inl rfl) rightFound⟩
  | offset =>
    obtain ⟨instant, leftFound, rightFound⟩ := same
    exact ⟨_, datum?_of_instant? (.inr rfl) leftFound, datum?_of_instant? (.inr rfl) rightFound⟩
  | naive =>
    obtain ⟨clock, leftFound, rightFound⟩ := same
    exact ⟨_, datum?_of_wallClock? leftFound, datum?_of_wallClock? rightFound⟩
  | _ => exact same.elim

/-- A literal and its form for a kind are one to the kind. -/
theorem normal_alike (kind : Kind) (literal : Literal) :
    literal.normal kind = literal ∨ SameTime kind (literal.normal kind) literal := by
  cases kind with
  | utc | offset =>
    cases found : literal.instant? with
    | none => exact .inl (by rw [normal, found]; rfl)
    | some instant => exact .inr ⟨instant, by rw [normal, found]; rfl, found⟩
  | naive =>
    cases found : literal.wallClock? with
    | none => exact .inl (by rw [normal, found]; rfl)
    | some clock => exact .inr ⟨clock, by rw [normal, found]; rfl, found⟩
  | _ => exact .inl rfl

end Literal

/-- Points in time which the kind of an access takes as one are bound as one parameter. -/
theorem Access.bind_of_sameTime {access : Access} {left right : Literal}
    (same : Literal.SameTime access.kind left right) : access.bind left = access.bind right := by
  obtain ⟨value, leftMeans, rightMeans⟩ := same.datum?_eq access.type
  obtain ⟨leftPresent, rightPresent⟩ := same.present
  rw [bind, bind, leftPresent, rightPresent, leftMeans, rightMeans]

/-! ### Predicates that differ in literals -/

namespace Predicate

mutual

/-- Two predicates that are the same but for literals, which are related at the path of the
field they are compared with. -/
inductive Alike (related : String → Literal → Literal → Prop) : Predicate → Predicate → Prop
  /-- Conjunctions. -/
  | all {parts others : List Predicate} (below : AllAlike related parts others) :
    Alike related (.all parts) (.all others)
  /-- Disjunctions. -/
  | any {parts others : List Predicate} (below : AllAlike related parts others) :
    Alike related (.any parts) (.any others)
  /-- Negations. -/
  | not {part other : Predicate} (below : Alike related part other) :
    Alike related (.not part) (.not other)
  /-- A field compared with a literal. -/
  | ofField {path : String} {comparison : Comparison} {value other : Literal}
    (same : related path value other) :
    Alike related (.ofField path comparison value) (.ofField path comparison other)
  /-- A literal compared with a field. -/
  | ofLiteral {path : String} {comparison : Comparison} {value other : Literal}
    (same : related path value other) :
    Alike related (.ofLiteral value comparison path) (.ofLiteral other comparison path)
  /-- A field among literals. -/
  | member {path : String} {values others : List Literal} {negated : Bool}
    (same : List.Forall₂ (related path) values others) :
    Alike related (.member path values negated) (.member path others negated)
  /-- A field between literals. -/
  | between {path : String} {low high otherLow otherHigh : Literal}
    (sameLow : related path low otherLow) (sameHigh : related path high otherHigh) :
    Alike related (.between path low high) (.between path otherLow otherHigh)
  /-- Any other predicate is only like itself. -/
  | same (predicate : Predicate) : Alike related predicate predicate

/-- Two lists of predicates that are the same but for literals. -/
inductive AllAlike (related : String → Literal → Literal → Prop) :
    List Predicate → List Predicate → Prop
  /-- No predicates. -/
  | nil : AllAlike related [] []
  /-- A predicate in front of others. -/
  | cons {part other : Predicate} {rest others : List Predicate}
    (first : Alike related part other) (below : AllAlike related rest others) :
    AllAlike related (part :: rest) (other :: others)

end

mutual

/-- A predicate with its literals changed, each according to the path of the field it is
compared with. -/
def mapLiterals (change : String → Literal → Literal) : Predicate → Predicate
  | all parts => all (mapLiteralsOfAll change parts)
  | any parts => any (mapLiteralsOfAll change parts)
  | not part => not (mapLiterals change part)
  | compare (.field path) comparison (.literal value) =>
    compare (.field path) comparison (.literal (change path value))
  | compare (.literal value) comparison (.field path) =>
    compare (.literal (change path value)) comparison (.field path)
  | member path values negated => member path (values.map (change path)) negated
  | between path low high => between path (change path low) (change path high)
  | other => other

/-- Some predicates with their literals changed. -/
def mapLiteralsOfAll (change : String → Literal → Literal) : List Predicate → List Predicate
  | [] => []
  | part :: rest => mapLiterals change part :: mapLiteralsOfAll change rest

end

section

variable {related : String → Literal → Literal → Prop} {change : String → Literal → Literal}

mutual

/-- A predicate whose literals are changed to related ones is like the predicate. -/
theorem alike_mapLiterals (changed : ∀ path literal, related path (change path literal) literal) :
    ∀ predicate, Alike related (mapLiterals change predicate) predicate
  | .all parts => .all (allAlike_mapLiterals changed parts)
  | .any parts => .any (allAlike_mapLiterals changed parts)
  | .not part => .not (alike_mapLiterals changed part)
  | .compare (.field path) _ (.literal value) => .ofField (changed path value)
  | .compare (.literal value) _ (.field path) => .ofLiteral (changed path value)
  | .compare (.field _) _ (.field _) => .same _
  | .compare (.literal _) _ (.literal _) => .same _
  | .member path _ _ =>
    .member (List.forall₂_map_left_iff.mpr
      (List.forall₂_same.mpr fun value _ => changed path value))
  | .between path low high => .between (changed path low) (changed path high)
  | .isNull _ _ => .same _
  | .text _ _ _ _ => .same _

theorem allAlike_mapLiterals
    (changed : ∀ path literal, related path (change path literal) literal) :
    ∀ parts, AllAlike related (mapLiteralsOfAll change parts) parts
  | [] => .nil
  | part :: rest =>
    .cons (alike_mapLiterals changed part) (allAlike_mapLiterals changed rest)

end

end

end Predicate

/-! ### Compiling -/

namespace Catalog

variable {catalog : Catalog} {typeName : String}

/-- Whether two literals are one literal to the field at a path: they are equal, or the field
takes them as one point in time. -/
def TakesAlike (catalog : Catalog) (typeName path : String) (left right : Literal) : Prop :=
  left = right ∨
    ∃ field, catalog.resolve typeName path = .ok field ∧ Literal.SameTime field.kind left right

variable {path : String} {left right : Literal}

theorem TakesAlike.isNull_eq (alike : catalog.TakesAlike typeName path left right) :
    left.isNull = right.isNull := by
  rcases alike with rfl | ⟨_, _, same⟩
  · rfl
  · rw [same.present.1, same.present.2]

/-- Literals that are one to a field are bound as one parameter, however the field is read. -/
theorem TakesAlike.bind_eq (alike : catalog.TakesAlike typeName path left right)
    {operator : Operator} {access : Access}
    (accessed : catalog.literalAccess typeName path operator = .ok access) :
    access.bind left = access.bind right := by
  rcases alike with rfl | ⟨field, resolved, same⟩
  · rfl
  · obtain ⟨other, otherResolved, read⟩ := literalAccess_eq_ok.mp accessed
    obtain rfl := Except.ok.inj (resolved.symm.trans otherResolved)
    obtain ⟨_, _, rfl⟩ := Field.literalAccess_eq_ok.mp read
    exact Access.bind_of_sameTime (by rwa [Field.access_kind])

/-- Literals that are one to a field are bound, with the nulls among them left out, as one list
of parameters. -/
theorem mapM_bind_eq {values others : List Literal}
    (alike : List.Forall₂ (catalog.TakesAlike typeName path) values others)
    {operator : Operator} {access : Access}
    (accessed : catalog.literalAccess typeName path operator = .ok access) :
    (values.filter fun value => !value.isNull).mapM access.bind =
        (others.filter fun value => !value.isNull).mapM access.bind ∧
      values.any Literal.isNull = others.any Literal.isNull := by
  induction alike with
  | nil => exact ⟨rfl, rfl⟩
  | @cons value other rest others first _ inductionHypothesis =>
    obtain ⟨bound, nulls⟩ := inductionHypothesis
    have same := first.isNull_eq
    refine ⟨?_, by rw [List.any_cons, List.any_cons, same, nulls]⟩
    cases absent : other.isNull with
    | true => simp [same, absent, bound]
    | false =>
      simp only [List.filter_cons, same, absent, Bool.not_false, if_true, List.mapM_cons]
      rw [first.bind_eq accessed, bound]

theorem compileComparison_congr (comparison : Comparison)
    (alike : catalog.TakesAlike typeName path left right) :
    catalog.compileComparison typeName path comparison left =
      catalog.compileComparison typeName path comparison right := by
  rw [compileComparison, compileComparison, alike.isNull_eq]
  split
  · rfl
  · refine bind_congr_ok fun access accessed => ?_
    rw [alike.bind_eq accessed]

theorem compileMember_congr (negated : Bool) {values others : List Literal}
    (alike : List.Forall₂ (catalog.TakesAlike typeName path) values others) :
    catalog.compileMember typeName path values negated =
      catalog.compileMember typeName path others negated := by
  refine bind_congr_ok fun access accessed => ?_
  obtain ⟨bound, nulls⟩ := mapM_bind_eq alike accessed
  rw [bound, nulls]

theorem compileBetween_congr {otherLeft otherRight : Literal}
    (alikeLow : catalog.TakesAlike typeName path left otherLeft)
    (alikeHigh : catalog.TakesAlike typeName path right otherRight) :
    catalog.compileBetween typeName path left right =
      catalog.compileBetween typeName path otherLeft otherRight := by
  refine bind_congr_ok fun access accessed => ?_
  rw [alikeLow.bind_eq accessed, alikeHigh.bind_eq accessed]

mutual

/-- Predicates that differ only in literals which their fields take alike are compiled to one
filter, or to one error. -/
theorem compile_congr {predicate other : Predicate} :
    Predicate.Alike (catalog.TakesAlike typeName) predicate other →
      catalog.compile typeName predicate = catalog.compile typeName other
  | .all below => by rw [compile, compile, compileAll_congr below]
  | .any below => by rw [compile, compile, compileAll_congr below]
  | .not below => by rw [compile, compile, compile_congr below]
  | .ofField same => compileComparison_congr _ same
  | .ofLiteral same => compileComparison_congr _ same
  | .member same => compileMember_congr _ same
  | .between sameLow sameHigh => compileBetween_congr sameLow sameHigh
  | .same _ => rfl

theorem compileAll_congr {parts others : List Predicate} :
    Predicate.AllAlike (catalog.TakesAlike typeName) parts others →
      catalog.compileAll typeName parts = catalog.compileAll typeName others
  | .nil => rfl
  | .cons first below => by
    rw [compileAll, compileAll, compile_congr first, compileAll_congr below]

end

/-- A predicate in which every literal has the form in which its field takes it. -/
def normalize (catalog : Catalog) (typeName : String) (predicate : Predicate) : Predicate :=
  predicate.mapLiterals fun path literal =>
    match catalog.resolve typeName path with
    | .ok field => literal.normal field.kind
    | .error _ => literal

theorem alike_normalize (predicate : Predicate) :
    Predicate.Alike (catalog.TakesAlike typeName) (catalog.normalize typeName predicate)
      predicate := by
  refine Predicate.alike_mapLiterals (fun path literal => ?_) predicate
  split
  · rename_i field resolved
    rcases literal.normal_alike field.kind with same | same
    · exact .inl same
    · exact .inr ⟨field, resolved, same⟩
  · exact .inl rfl

end Catalog

/-! ### Queries -/

/-- Predicates that differ in literals alone are either both the empty conjunction, in place of
which nothing is asked, or neither. -/
theorem Planner.asked?_of_alike {related : String → Literal → Literal → Prop}
    {predicate other : Predicate} (alike : Predicate.Alike related predicate other) :
    predicate = other ∨
      asked? (some predicate) = some predicate ∧ asked? (some other) = some other := by
  cases alike with
  | all below =>
    cases below with
    | nil => exact .inl rfl
    | cons first below => exact .inr ⟨rfl, rfl⟩
  | same predicate => exact .inl rfl
  | _ => exact .inr ⟨rfl, rfl⟩

/-- The zone in which a literal is written does not matter. A predicate is compiled as if every
literal had the form in which its field takes it, and in any store predicates whose literals
denote the same times find the same documents. -/
theorem Catalog.compile_normalize_and_query_eq (catalog : Catalog) (typeName : String) :
    (∀ predicate, catalog.compile typeName (catalog.normalize typeName predicate) =
        catalog.compile typeName predicate) ∧
      ∀ (store : Store) (predicate other : Predicate), store.planner.catalog = catalog →
        Predicate.Alike (catalog.TakesAlike typeName) predicate other →
        store.query typeName (some predicate) = store.query typeName (some other) := by
  refine ⟨fun predicate => compile_congr (alike_normalize predicate), ?_⟩
  rintro store predicate other rfl alike
  rcases Planner.asked?_of_alike alike with rfl | ⟨asked, otherAsked⟩
  · rfl
  · have compiled : store.planner.compile typeName (some predicate) =
        store.planner.compile typeName (some other) := by
      rw [Planner.compile, Planner.compile, asked, otherAsked]
      simp only [compile_congr alike]
    rw [Store.query, Store.query, compiled]

/-- Four o'clock two hours ahead of UTC and two o'clock in UTC select the same meetings. -/
theorem Catalog.query_meetings_of_one_instant :
    ((Store.ofMeetings (.duplicated "start" .timestamp) rfl).afterAll
          [.meeting "2026-03-01T14:00:00Z"]).query "Meeting"
        (some (.ofField "Start" .eq (.offset ⟨⟨⟨50400, 0⟩⟩, 7200⟩))) =
      ((Store.ofMeetings (.duplicated "start" .timestamp) rfl).afterAll
          [.meeting "2026-03-01T14:00:00Z"]).query "Meeting"
        (some (.ofField "Start" .eq (.utc ⟨⟨50400, 0⟩⟩))) := by
  have resolved : (meetings (.duplicated "start" .timestamp) rfl).resolve "Meeting" "Start" =
      .ok ⟨"Start", .utc, .duplicated "start" .timestamp⟩ := rfl
  exact (compile_normalize_and_query_eq (meetings (.duplicated "start" .timestamp) rfl)
    "Meeting").2 _ _ _ (by rw [Store.planner_afterAll]; rfl)
    (.ofField (.inr ⟨_, resolved, ⟨⟨50400, 0⟩⟩, rfl, rfl⟩))

end Sieve
