/-
This file proves which parameters a predicate is compiled with: what its literals are
bound as, from left to right. A comparison binds its literal unless that asks whether
the field is null; members that are null are left out, and a text is bound as the
pattern that looks for it. However the compiler takes a leaf apart or turns it around,
the order is that of the predicate.
-/

import Sieve.Proofs.Filter.Decomposition

namespace Sieve

open Outcome

/-! ### Bindings -/

/-- What a parameter is bound for. -/
inductive Binding where
  /-- A literal that is compared with the field at a path. -/
  | literal (path : String) (value : Literal)
  /-- A text that is looked for. -/
  | pattern (textMatch : TextMatch) (value : String)

/-- The parameter that is bound. -/
def Binding.parameter (catalog : Catalog) (typeName : String) : Binding → Except Rejection Parameter
  | literal path value => do
    let field ← catalog.resolve typeName path
    field.access.bind value
  | pattern textMatch value =>
    .ok ⟨.text (String.ofList (Pattern.lookingFor textMatch value.toList)), .text⟩

namespace Predicate

/-- What a comparison of the field at a path with a literal binds. -/
def bindingsOfComparison (path : String) (comparison : Comparison) (value : Literal) :
    List Binding :=
  if value.isNull = true ∧ comparison.operatorClass = .equality then [] else [.literal path value]

mutual

/-- What a predicate binds, from left to right. -/
def bindings : Predicate → List Binding
  | all parts => bindingsOfAll parts
  | any parts => bindingsOfAll parts
  | not part => bindings part
  | compare (.field path) comparison (.literal value) => bindingsOfComparison path comparison value
  | compare (.literal value) comparison (.field path) => bindingsOfComparison path comparison value
  | compare _ _ _ => []
  | member path values _ => (values.filter fun value => !value.isNull).map (Binding.literal path)
  | between path low high => [.literal path low, .literal path high]
  | isNull _ _ => []
  | text _ textMatch value _ => [.pattern textMatch value]

/-- What some predicates bind. -/
def bindingsOfAll : List Predicate → List Binding
  | [] => []
  | part :: rest => bindings part ++ bindingsOfAll rest

end

end Predicate

/-! ### Bindings and parameters -/

namespace Catalog

/-- Whether parameters are what bindings are bound as, one after another. -/
def Binds (catalog : Catalog) (typeName : String) : List Binding → List Parameter → Prop :=
  List.Forall₂ fun binding parameter => binding.parameter catalog typeName = .ok parameter

variable {catalog : Catalog} {typeName path : String} {access : Access} {filter : Filter}

theorem parameter_of_literalAccess {operator : Operator} {value : Literal} {parameter : Parameter}
    (accessed : catalog.literalAccess typeName path operator = .ok access)
    (bound : access.bind value = .ok parameter) :
    (Binding.literal path value).parameter catalog typeName = .ok parameter := by
  obtain ⟨field, resolved, read⟩ := literalAccess_eq_ok.mp accessed
  obtain ⟨_, _, rfl⟩ := Field.literalAccess_eq_ok.mp read
  rw [Binding.parameter, resolved, ok_bind, bound]

theorem binds_of_compileComparison {comparison : Comparison} {value : Literal}
    (compiled : catalog.compileComparison typeName path comparison value = .ok filter) :
    catalog.Binds typeName (Predicate.bindingsOfComparison path comparison value)
      filter.parameters := by
  rw [compileComparison_eq_ok] at compiled
  rw [Predicate.bindingsOfComparison]
  split at compiled
  · rename_i absent
    obtain ⟨access, _, rfl⟩ := compiled
    rw [if_pos absent]
    exact .nil
  · rename_i present
    obtain ⟨access, accessed, parameter, bound, rfl⟩ := compiled
    rw [if_neg present]
    exact .cons (parameter_of_literalAccess accessed bound) .nil

theorem parameters_memberFilter (access : Access) (parameters : List Parameter)
    (orNull negated : Bool) :
    (memberFilter access parameters orNull negated).parameters = parameters := by
  cases parameters <;> cases orNull <;> cases negated <;>
    simp [memberFilter, Filter.parameters, Filter.parametersOfAll, Filter.always, Filter.never]

theorem binds_of_compileMember {values : List Literal} {negated : Bool}
    (compiled : catalog.compileMember typeName path values negated = .ok filter) :
    catalog.Binds typeName (Predicate.member path values negated).bindings filter.parameters := by
  obtain ⟨access, accessed, parameters, bound, rfl⟩ := compileMember_eq_ok.mp compiled
  rw [Predicate.bindings, parameters_memberFilter, Binds, List.forall₂_map_left_iff]
  exact (mapM_eq_ok.mp bound).imp fun _ _ same => parameter_of_literalAccess accessed same

mutual

/-- A predicate is compiled with the parameters that it binds, in its order. -/
theorem binds_of_compile {filter : Filter} (predicate : Predicate)
    (compiled : catalog.compile typeName predicate = .ok filter) :
    catalog.Binds typeName predicate.bindings filter.parameters := by
  cases predicate with
  | all parts =>
    obtain ⟨filters, below, done⟩ := bind_eq_ok.mp compiled
    rw [← Except.ok.inj done]
    exact binds_of_compileAll parts below
  | any parts =>
    obtain ⟨filters, below, done⟩ := bind_eq_ok.mp compiled
    rw [← Except.ok.inj done]
    exact binds_of_compileAll parts below
  | not part =>
    obtain ⟨inner, below, done⟩ := bind_eq_ok.mp compiled
    have bound : catalog.Binds typeName part.bindings inner.parameters :=
      binds_of_compile part below
    rw [← Except.ok.inj done]
    exact bound
  | compare left comparison right =>
    cases left with
    | field left =>
      cases right with
      | field right =>
        obtain ⟨_, _, _, _, _, rfl⟩ := compileFields_eq_ok.mp compiled
        exact .nil
      | literal value => exact binds_of_compileComparison compiled
    | literal value =>
      cases right with
      | field right =>
        have bound := binds_of_compileComparison compiled
        rwa [Predicate.bindingsOfComparison, Comparison.operatorClass_flip] at bound
      | literal other => exact absurd compiled nofun
  | member path values negated => exact binds_of_compileMember compiled
  | between path low high =>
    obtain ⟨access, accessed, _, boundLow, _, boundHigh, rfl⟩ := compileBetween_eq_ok.mp compiled
    exact .cons (parameter_of_literalAccess accessed boundLow)
      (.cons (parameter_of_literalAccess accessed boundHigh) .nil)
  | isNull path negated =>
    obtain ⟨access, _, done⟩ := bind_eq_ok.mp compiled
    rw [← Except.ok.inj done]
    exact .nil
  | text path textMatch value ignoresCase =>
    obtain ⟨access, _, rfl⟩ := compileText_eq_ok.mp compiled
    exact .cons rfl .nil

theorem binds_of_compileAll {filters : List Filter} (parts : List Predicate)
    (compiled : catalog.compileAll typeName parts = .ok filters) :
    catalog.Binds typeName (Predicate.bindingsOfAll parts) (Filter.parametersOfAll filters) := by
  cases parts with
  | nil =>
    rw [← Except.ok.inj compiled]
    exact .nil
  | cons part rest =>
    obtain ⟨first, here, compiled⟩ := bind_eq_ok.mp compiled
    obtain ⟨others, below, done⟩ := bind_eq_ok.mp compiled
    rw [← Except.ok.inj done]
    exact List.rel_append (binds_of_compile part here) (binds_of_compileAll rest below)

end

end Catalog

namespace Planner

/-- What is bound where something may be asked. -/
def bindings (predicate? : Option Predicate) : List Binding :=
  (predicate?.map Predicate.bindings).getD []

theorem bindings_asked? (predicate? : Option Predicate) :
    bindings (asked? predicate?) = bindings predicate? := by
  cases predicate? with
  | none => rfl
  | some predicate =>
    cases predicate with
    | all parts => cases parts <;> rfl
    | _ => rfl

theorem binds_of_compile {planner : Planner} {typeName : String} {predicate? : Option Predicate}
    {filter : Filter} (compiled : planner.compile typeName predicate? = .ok filter) :
    planner.catalog.Binds typeName (bindings predicate?) filter.parameters := by
  obtain ⟨documentType, _, compiled⟩ := bind_eq_ok.mp compiled
  rw [← bindings_asked?]
  cases asked : asked? predicate? with
  | some predicate =>
    rw [asked] at compiled
    exact Catalog.binds_of_compile predicate compiled
  | none =>
    rw [asked] at compiled
    dsimp only at compiled
    split at compiled
    · rw [← Except.ok.inj compiled]
      exact .nil
    · exact absurd compiled nofun

end Planner

end Sieve
