import FilterQuery.Proofs.Condition.Chain

/-!
# Collecting from a condition

Much of what is asked of a condition is a list put together from its parts: its subqueries, its
values. Folding a chain changes neither the parts nor their order, so such a list can be read off
the elements of the chain.
-/

namespace FilterQuery.Condition

universe u

variable {α : Type u} {f : Condition → List α}

/-- A list that conjunctions and disjunctions put together from their parts, in order. -/
structure Collects (f : Condition → List α) : Prop where
  all : ∀ cs, f (all cs) = cs.flatMap f
  any : ∀ cs, f (any cs) = cs.flatMap f

namespace Collects

theorem conjunction (hf : Collects f) (run : List Condition) :
    f (conjunction run) = run.flatMap f := by
  cases run with
  | nil => exact hf.all _
  | cons c rest =>
      cases rest with
      | nil => simp [Condition.conjunction]
      | cons d rest => exact hf.all _

/-- What is collected from a chain is collected from its elements. -/
theorem of_ofChain (hf : Collects f) {chain : List (Connective × Condition)} {c : Condition}
    (h : ofChain chain = some c) : f c = chain.flatMap fun p => f p.2 := by
  have hflat : (runs chain).flatMap (fun run => f (Condition.conjunction run)) =
      chain.flatMap fun p => f p.2 := by
    calc
      (runs chain).flatMap (fun run => f (Condition.conjunction run))
          = (runs chain).flatMap (fun run => run.flatMap f) := by simp only [hf.conjunction]
      _ = (runs chain).flatten.flatMap f := by
            simp [List.flatMap_def, List.map_flatten, List.flatten_flatten, Function.comp_def]
      _ = (chain.map (·.2)).flatMap f := by rw [flatten_runs]
      _ = chain.flatMap fun p => f p.2 := List.flatMap_map _ _ _
  rw [← hflat]
  rcases eq_of_ofChain h with ⟨run, hruns, rfl⟩ | ⟨-, rfl⟩
  · rw [hruns]
    simp
  · rw [hf.any, List.flatMap_map]

/-- The same for a closed chain, where an empty conjunction stands for no elements. -/
theorem of_getD_ofChain (hf : Collects f) (chain : List (Connective × Condition)) :
    f ((ofChain chain).getD (.all [])) = chain.flatMap fun p => f p.2 := by
  cases h : ofChain chain with
  | none =>
      rw [ofChain_eq_none_iff.mp h]
      exact hf.all []
  | some c => exact hf.of_ofChain h

end Collects

end FilterQuery.Condition
