import FilterQuery.Proofs.Condition.Collection
import FilterQuery.Proofs.Filter.Compile

/-!
# The leaves of a filter

The leaves of a filter stand one after the other in the order of the document. Groups add nothing
of their own: the condition of a filter has the parts of its leaves, in order, and a filter without
a condition has the problem of its first leaf whose value does not fit.
-/

namespace FilterQuery

open Condition

namespace Filter

mutual

/-- The leaves of a filter: field, operator and value. -/
def leaves : Filter → List (String × Operator × Json)
  | leaf _ field op value => [(field, op, value)]
  | group _ filters => leavesAll filters

/-- The leaves of filters, one after the other. -/
def leavesAll : List Filter → List (String × Operator × Json)
  | [] => []
  | f :: rest => leaves f ++ leavesAll rest

end

/-- The problem of a leaf whose value does not fit its operator. -/
def leafProblem? : String × Operator × Json → Option Error
  | (_, op, value) => Outcome.problem? (Test.ofOperator op value)

variable {s : Schema}

mutual

theorem problem?_element : (f : Filter) →
    Outcome.problem? (element s f) = f.leaves.findSome? leafProblem?
  | leaf connective field op value => by
      rw [element, Outcome.problem?_map, leaves, List.findSome?_singleton, leafProblem?]
  | group connective filters => by
      rw [element, Outcome.problem?_map, leaves, problem?_chain filters]

/-- The problem of filters is that of their first leaf with a problem. -/
theorem problem?_chain : (fs : List Filter) →
    Outcome.problem? (chain s fs) = (leavesAll fs).findSome? leafProblem?
  | [] => rfl
  | f :: rest => by
      rw [chain, Outcome.problem?_both, leavesAll, List.findSome?_append, problem?_element f,
        problem?_chain rest]

end

/-- The value of every leaf fits, or there is no chain. -/
theorem fits_of_chain (fs : List Filter) {ch : List (Connective × Condition)}
    (h : chain s fs = .ok ch) :
    ∀ l ∈ leavesAll fs, ∃ t, Test.ofOperator l.2.1 l.2.2 = .ok t := by
  have hnone : (leavesAll fs).findSome? leafProblem? = none := by
    rw [← problem?_chain (s := s) fs, Outcome.problem?_eq_none_iff]
    exact ⟨ch, h⟩
  intro l hl
  exact Outcome.problem?_eq_none_iff.mp (List.findSome?_eq_none_iff.mp hnone l hl)

end Filter

namespace Condition.Collects

open FilterQuery.Filter

universe u

variable {α : Type u} {f : Condition → List α} {s : Schema}

/-- What is collected from the condition of a leaf, if its value fits. -/
def leafPart (s : Schema) (f : Condition → List α) : String × Operator × Json → List α
  | (field, op, value) =>
    match Test.ofOperator op value with
    | .ok t => f (s.leafCondition field t)
    | .error _ => []

mutual

theorem of_element (hf : Collects f) : (g : Filter) → {p? : Option (Connective × Condition)} →
    element s g = .ok p? →
    (p?.toList.flatMap fun p => f p.2) = g.leaves.flatMap (leafPart s f)
  | .leaf connective field op value, p?, h => by
      obtain ⟨t, ht, rfl⟩ := Outcome.map_eq_ok_iff.mp h
      simp [leaves, leafPart, ht]
  | .group connective filters, p?, h => by
      obtain ⟨ch, hch, rfl⟩ := Outcome.map_eq_ok_iff.mp h
      rw [leaves, ← of_chain hf filters hch]
      cases hc : ofChain ch with
      | none =>
          rw [ofChain_eq_none_iff.mp hc]
          rfl
      | some c => simp [hf.of_ofChain hc]

/-- What is collected from a chain of filters is collected from their leaves. -/
theorem of_chain (hf : Collects f) : (fs : List Filter) → {ch : List (Connective × Condition)} →
    chain s fs = .ok ch →
    (ch.flatMap fun p => f p.2) = (leavesAll fs).flatMap (leafPart s f)
  | [], ch, h => by
      cases h
      rfl
  | g :: rest, ch, h => by
      obtain ⟨head, hhead, h⟩ := Outcome.bind_eq_ok_iff.mp h
      obtain ⟨tail, htail, h⟩ := Outcome.bind_eq_ok_iff.mp h
      cases h
      rw [leavesAll, List.flatMap_append, List.flatMap_append, of_element hf g hhead,
        of_chain hf rest htail]

end

end Condition.Collects

end FilterQuery
