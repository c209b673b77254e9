import FilterQuery.Query
import FilterQuery.Proofs.Filter.Compile

/-!
# Clauses in one scope and clauses in one group

The clauses of a query are received by one scope. A group of the same clauses is received by a scope
inside of another one: its condition is folded and correlated when the inner scope closes, and the
outer scope folds and correlates the result once more. The second time nothing is left to be done,
so both give the same condition or the same problem.
-/

namespace FilterQuery

open Condition

namespace Scope

variable {s : Schema}

/-- Building clauses is building one after the other into the same scope. -/
theorem receiveAll_buildAll (scope : Scope) (cs : List Clause) :
    receiveAll s scope (Clause.buildAll cs) =
      cs.foldl (fun scope c => receiveAll s scope c.build) scope := by
  induction cs generalizing scope with
  | nil => rfl
  | cons c rest ih => rw [Clause.buildAll, receiveAll_append, ih, List.foldl_cons]

/-- A scope that holds nothing but a closed scope has the condition of the closed one. -/
theorem fold_fold (r : Connective) (chain : List (Connective × Condition)) :
    fold s ((fold s chain).map fun c => (r, c)).toList = fold s chain := by
  cases h : fold s chain with
  | none => rfl
  | some c =>
      obtain ⟨d, -, rfl⟩ := Option.map_eq_some_iff.mp h
      exact congrArg some (correlate_correlate _ _ _ d)

end Scope

namespace Clause

/-- Puts a clause into a group of its own, and this into another one, and so on. -/
def enclose (rs : List Connective) (c : Clause) : Clause := rs.foldr (fun r d => group r [d]) c

variable {s : Schema}

/-- A group compiles to what a scope gives that receives its children. -/
theorem compile_group (r : Connective) (cs : List Clause) :
    (group r cs).compile s = (Scope.receiveAll s {} (buildAll cs)).finish s := by
  rw [compile_eq, Call.elements_group, Scope.finish_receiveAll]
  cases Call.elements s (buildAll cs) with
  | error e => rfl
  | ok chain => exact congrArg (fun o => Except.ok (o.getD (.all []))) (Scope.fold_fold r chain)

theorem compile_group_singleton (r : Connective) (c : Clause) :
    (group r [c]).compile s = c.compile s := by
  rw [compile_group, buildAll, buildAll, List.append_nil, compile]

theorem compile_enclose (rs : List Connective) (c : Clause) :
    (c.enclose rs).compile s = c.compile s := by
  induction rs with
  | nil => rfl
  | cons r rs ih => exact (compile_group_singleton r _).trans ih

end Clause

/-- The clauses of a query, built in order into one scope, have the condition or the problem of a
group of them, however the group attaches. A group around a single clause adds nothing to it, and
neither do several, one around the other. -/
theorem Query.condition_eq_compile_group (q : Query) (r : Connective) :
    q.condition = (Clause.group r q.clauses).compile q.schema ∧
      (q.clauses.foldl (fun scope c => Scope.receiveAll q.schema scope c.build) {}).finish
          q.schema = (Clause.group r q.clauses).compile q.schema ∧
      ∀ rs c, (Clause.enclose rs c).compile q.schema = c.compile q.schema := by
  have hscope : q.condition = (Clause.group r q.clauses).compile q.schema := by
    rw [condition, Clause.compile_group]
  refine ⟨hscope, ?_, ?_⟩
  · rw [← Scope.receiveAll_buildAll]
    exact hscope
  · intro rs c
    exact Clause.compile_enclose rs c

end FilterQuery
