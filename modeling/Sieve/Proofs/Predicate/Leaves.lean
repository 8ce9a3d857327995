/-
This file proves that compiling a predicate is compiling its leaves from left to right.
The parts that put leaves together never fail themselves, so a predicate is compiled
where each of its leaves is, and otherwise fails with the error of the first leaf that
cannot be compiled on its own, at whatever depth that leaf stands.
-/

import Sieve.Filter.Compile
import Sieve.Proofs.Outcome

namespace Sieve

open Outcome

/-! ### Leaves -/

namespace Predicate

mutual

/-- The leaves of a predicate, from left to right. -/
def leaves : Predicate → List Predicate
  | all parts => leavesOfAll parts
  | any parts => leavesOfAll parts
  | not part => leaves part
  | leaf => [leaf]

/-- The leaves of some predicates. -/
def leavesOfAll : List Predicate → List Predicate
  | [] => []
  | part :: rest => leaves part ++ leavesOfAll rest

end

/-- Whether a predicate has no parts of its own. -/
def isLeaf : Predicate → Bool
  | all _ | any _ | not _ => false
  | _ => true

mutual

theorem isLeaf_of_mem_leaves {predicate leaf : Predicate} (inside : leaf ∈ predicate.leaves) :
    leaf.isLeaf = true := by
  cases predicate with
  | all parts =>
    have below : leaf ∈ leavesOfAll parts := inside
    exact isLeaf_of_mem_leavesOfAll below
  | any parts =>
    have below : leaf ∈ leavesOfAll parts := inside
    exact isLeaf_of_mem_leavesOfAll below
  | not part =>
    have below : leaf ∈ part.leaves := inside
    exact isLeaf_of_mem_leaves below
  | _ =>
    rw [leaves, List.mem_singleton] at inside
    · rw [inside]
      rfl
    all_goals exact nofun

theorem isLeaf_of_mem_leavesOfAll {parts : List Predicate} {leaf : Predicate}
    (inside : leaf ∈ leavesOfAll parts) : leaf.isLeaf = true := by
  cases parts with
  | nil => exact absurd inside List.not_mem_nil
  | cons part rest =>
    rcases List.mem_append.mp inside with here | below
    · exact isLeaf_of_mem_leaves here
    · exact isLeaf_of_mem_leavesOfAll below

end

end Predicate

/-! ### Compiling leaf by leaf -/

namespace Catalog

/-- Whether a predicate is compiled for a type, and the error if it is not. -/
def verdict (catalog : Catalog) (typeName : String) (predicate : Predicate) :
    Except Rejection Unit :=
  Outcome.verdict (catalog.compile typeName predicate)

variable {catalog : Catalog} {typeName : String}

theorem verdict_eq_ok {predicate : Predicate} :
    catalog.verdict typeName predicate = .ok () ↔
      ∃ filter, catalog.compile typeName predicate = .ok filter :=
  Outcome.verdict_eq_ok

theorem verdict_eq_error {predicate : Predicate} {rejection : Rejection} :
    catalog.verdict typeName predicate = .error rejection ↔
      catalog.compile typeName predicate = .error rejection :=
  Outcome.verdict_eq_error

private theorem forM_leaf (check : Predicate → Except Rejection Unit) (leaf : Predicate) :
    [leaf].forM check = check leaf := by
  show (check leaf >>= fun _ => .ok ()) = check leaf
  cases check leaf <;> rfl

mutual

/-- The verdict on a predicate is the one on its leaves, one after another. -/
theorem verdict_eq_forM (catalog : Catalog) (typeName : String) (predicate : Predicate) :
    catalog.verdict typeName predicate = predicate.leaves.forM (catalog.verdict typeName) := by
  cases predicate with
  | all parts =>
    have below := verdict_compileAll catalog typeName parts
    rw [verdict, compile, Predicate.leaves, ← below]
    cases catalog.compileAll typeName parts <;> rfl
  | any parts =>
    have below := verdict_compileAll catalog typeName parts
    rw [verdict, compile, Predicate.leaves, ← below]
    cases catalog.compileAll typeName parts <;> rfl
  | not part =>
    have below := verdict_eq_forM catalog typeName part
    rw [verdict, compile, Predicate.leaves, ← below, verdict]
    cases catalog.compile typeName part <;> rfl
  | _ => exact (forM_leaf _ _).symm

theorem verdict_compileAll (catalog : Catalog) (typeName : String) (parts : List Predicate) :
    Outcome.verdict (catalog.compileAll typeName parts) =
      (Predicate.leavesOfAll parts).forM (catalog.verdict typeName) := by
  cases parts with
  | nil => rfl
  | cons part rest =>
    have here := verdict_eq_forM catalog typeName part
    have below := verdict_compileAll catalog typeName rest
    rw [compileAll, Predicate.leavesOfAll, forM_append, ← here, ← below, verdict, bind_verdict,
      verdict_bind]
    cases catalog.compile typeName part with
    | error rejection => rfl
    | ok filter => cases catalog.compileAll typeName rest <;> rfl

end

/-- A predicate is compiled where each of its leaves is. -/
theorem exists_compile_iff {predicate : Predicate} :
    (∃ filter, catalog.compile typeName predicate = .ok filter) ↔
      ∀ leaf ∈ predicate.leaves, ∃ filter, catalog.compile typeName leaf = .ok filter := by
  rw [← verdict_eq_ok, verdict_eq_forM, forM_eq_ok]
  exact forall₂_congr fun _ _ => verdict_eq_ok

/-- A predicate fails to be compiled with the error of the first leaf that does. -/
theorem compile_eq_error {predicate : Predicate} {rejection : Rejection} :
    catalog.compile typeName predicate = .error rejection ↔
      ∃ before leaf after, predicate.leaves = before ++ leaf :: after ∧
        (∀ earlier ∈ before, ∃ filter, catalog.compile typeName earlier = .ok filter) ∧
        catalog.compile typeName leaf = .error rejection := by
  rw [← verdict_eq_error, verdict_eq_forM, forM_eq_error]
  simp only [verdict_eq_ok, verdict_eq_error]

end Catalog

end Sieve
