/-
This file compiles predicates to filters. Parts are compiled from left to right
and the first error ends the work. A null among literals never reaches a
comparison for equality: being equal to null means being null, also inside a
list of members.
-/

import Sieve.Filter.Access
import Sieve.Pattern
import Sieve.Predicate.Basic

namespace Sieve.Catalog

/-- The filter for a field compared with a literal. -/
def compileComparison (catalog : Catalog) (typeName path : String) (comparison : Comparison)
    (value : Literal) : Except Rejection Filter := do
  if value.isNull && comparison.operatorClass == .equality then
    let field ← catalog.literalAccess typeName path .isNull
    pure (.isNull field (comparison == .ne))
  else
    let field ← catalog.literalAccess typeName path (.compare comparison)
    let parameter ← field.bind value
    pure (.compare field comparison parameter)

/-- The filter for two fields compared with each other. -/
def compileFields (catalog : Catalog) (typeName left : String) (comparison : Comparison)
    (right : String) : Except Rejection Filter := do
  let leftAccess ← catalog.fieldAccess typeName left (.compare comparison)
  let rightAccess ← catalog.fieldAccess typeName right (.compare comparison)
  if leftAccess.type.comparesWith rightAccess.type then
    pure (.compareFields leftAccess comparison rightAccess)
  else
    .error (.unsupported
      (.incomparable left comparison right leftAccess.kind rightAccess.kind))

/-- The filter for a field among parameters or, if `orNull` is set, null. -/
def memberFilter (field : Access) (parameters : List Parameter) (orNull negated : Bool) :
    Filter :=
  if orNull then
    let positive :=
      if parameters.isEmpty then .isNull field false
      else .any [.member field parameters false, .isNull field false]
    if negated then .not positive else positive
  else if parameters.isEmpty then if negated then .always else .never
  else .member field parameters negated

/-- The filter for a field among literals. -/
def compileMember (catalog : Catalog) (typeName path : String) (values : List Literal)
    (negated : Bool) : Except Rejection Filter := do
  let field ← catalog.literalAccess typeName path .member
  let parameters ← (values.filter fun value => !value.isNull).mapM field.bind
  pure (memberFilter field parameters (values.any Literal.isNull) negated)

/-- The filter for a field between two literals. -/
def compileBetween (catalog : Catalog) (typeName path : String) (low high : Literal) :
    Except Rejection Filter := do
  let field ← catalog.literalAccess typeName path .between
  let low ← field.bind low
  let high ← field.bind high
  pure (.between field low high)

/-- The filter for a field that holds a text. -/
def compileText (catalog : Catalog) (typeName path : String) (textMatch : TextMatch)
    (value : String) (ignoresCase : Bool) : Except Rejection Filter := do
  let field ← catalog.literalAccess typeName path (.text textMatch)
  let pattern := String.ofList (Pattern.lookingFor textMatch value.toList)
  pure (.like field ⟨.text pattern, .text⟩ ignoresCase)

mutual

/-- The filter for a predicate on documents of a type. -/
def compile (catalog : Catalog) (typeName : String) :
    Predicate → Except Rejection Filter
  | .all parts => do
    let parts ← compileAll catalog typeName parts
    pure (.all parts)
  | .any parts => do
    let parts ← compileAll catalog typeName parts
    pure (.any parts)
  | .not part => do
    let part ← compile catalog typeName part
    pure (.not part)
  | .compare (.field path) comparison (.literal value) =>
    catalog.compileComparison typeName path comparison value
  | .compare (.literal value) comparison (.field path) =>
    catalog.compileComparison typeName path comparison.flip value
  | .compare (.field left) comparison (.field right) =>
    catalog.compileFields typeName left comparison right
  | .compare (.literal _) comparison (.literal _) =>
    .error (.unsupported (.fieldless comparison))
  | .member path values negated => catalog.compileMember typeName path values negated
  | .between path low high => catalog.compileBetween typeName path low high
  | .isNull path negated => do
    let field ← catalog.literalAccess typeName path .isNull
    pure (.isNull field negated)
  | .text path textMatch value ignoresCase =>
    catalog.compileText typeName path textMatch value ignoresCase

/-- The filters for predicates, in order. -/
def compileAll (catalog : Catalog) (typeName : String) :
    List Predicate → Except Rejection (List Filter)
  | [] => pure []
  | part :: rest => do
    let part ← compile catalog typeName part
    let rest ← compileAll catalog typeName rest
    pure (part :: rest)

end

/-! ### Warnings -/

/-- The warnings about literals compared with the field at a path. -/
def literalWarnings (catalog : Catalog) (typeName path : String) (literals : List Literal) :
    List Warning :=
  match catalog.resolve typeName path with
  | .ok field => field.kind.warnings path literals
  | .error _ => []

mutual

/-- The warnings about the literals of a predicate, from left to right. -/
def warnings (catalog : Catalog) (typeName : String) : Predicate → List Warning
  | .all parts => warningsOfAll catalog typeName parts
  | .any parts => warningsOfAll catalog typeName parts
  | .not part => warnings catalog typeName part
  | .compare (.field path) _ (.literal value) =>
    catalog.literalWarnings typeName path [value]
  | .compare (.literal value) _ (.field path) =>
    catalog.literalWarnings typeName path [value]
  | .compare _ _ _ => []
  | .member path values _ => catalog.literalWarnings typeName path values
  | .between path low high => catalog.literalWarnings typeName path [low, high]
  | .isNull _ _ => []
  | .text _ _ _ _ => []

/-- The warnings about the literals of some predicates. -/
def warningsOfAll (catalog : Catalog) (typeName : String) : List Predicate → List Warning
  | [] => []
  | part :: rest => warnings catalog typeName part ++ warningsOfAll catalog typeName rest

end

end Sieve.Catalog
