import FilterQuery.Proofs.Condition.NormalForm
import FilterQuery.Proofs.Scope.Elements
import FilterQuery.Proofs.Scope.Predicate

/-!
# What a finished scope looks like

Predicates give normal forms, and closing a scope keeps them, so whatever is received, a finished
scope has a normal form. The only exception is the empty conjunction, which stands for a scope
without elements: one that received no predicate at any depth.
-/

namespace FilterQuery

open Condition

/-- A scope closes without a condition only if it holds nothing. -/
theorem Scope.fold_eq_none_iff {s : Schema} {chain : List (Connective × Condition)} :
    fold s chain = none ↔ chain = [] := by
  rw [fold, Option.map_eq_none_iff, ofChain_eq_none_iff]

namespace Call

/-- The call asks for a predicate on the column, at some depth. -/
inductive Tests (column : String) : Call → Prop
  | predicate {r : Connective} {p : Predicate} : Tests column (.predicate r column p)
  | nested {r : Connective} {calls : List Call} {call : Call} (mem : call ∈ calls)
      (below : Tests column call) : Tests column (.nested r calls)

variable {s : Schema}

theorem exists_tests_nested_iff {r : Connective} {calls : List Call} :
    (∃ column, (nested r calls).Tests column) ↔ ∃ call ∈ calls, ∃ column, call.Tests column := by
  constructor
  · rintro ⟨column, _ | ⟨mem, below⟩⟩
    exact ⟨_, mem, column, below⟩
  · rintro ⟨call, mem, column, below⟩
    exact ⟨column, .nested mem below⟩

mutual

/-- A call adds nothing to its scope exactly when it asks for no predicate. -/
theorem element_eq_none_iff : (call : Call) → {part : Option (Connective × Condition)} →
    element s call = .ok part → (part = none ↔ ¬∃ column, call.Tests column)
  | .predicate r column p, part, h => by
      obtain ⟨c, -, rfl⟩ := Outcome.map_eq_ok_iff.mp h
      simpa using ⟨column, .predicate⟩
  | .nested r calls, part, h => by
      obtain ⟨chain, hchain, rfl⟩ := Outcome.map_eq_ok_iff.mp h
      rw [Option.map_eq_none_iff, Scope.fold_eq_none_iff, elements_eq_nil_iff calls hchain,
        exists_tests_nested_iff]

theorem elements_eq_nil_iff : (calls : List Call) →
    {chain : List (Connective × Condition)} → elements s calls = .ok chain →
    (chain = [] ↔ ¬∃ call ∈ calls, ∃ column, call.Tests column)
  | [], chain, h => by
      cases h
      simp
  | call :: rest, chain, h => by
      obtain ⟨head, hhead, h⟩ := Outcome.bind_eq_ok_iff.mp h
      obtain ⟨tail, htail, h⟩ := Outcome.bind_eq_ok_iff.mp h
      cases h
      rw [List.append_eq_nil_iff, Option.toList_eq_nil_iff, element_eq_none_iff call hhead,
        elements_eq_nil_iff rest htail, ← not_or]
      simp

end

end Call

namespace Scope

variable {s : Schema} {calls : List Call} {chain : List (Connective × Condition)} {c : Condition}

/-- Everything that calls add is in normal form. -/
theorem isNormal_of_elements (h : Call.elements s calls = .ok chain) :
    ∀ p ∈ chain, p.2.IsNormal := by
  refine Call.of_elements ?_ ?_ calls h
  · intro column p c hc
    obtain ⟨-, t, -, rfl⟩ := Predicate.condition_eq_ok_iff.mp hc
    exact isNormal_ofTest column t
  · intro chain c hchain hc
    obtain ⟨d, hd, rfl⟩ := Option.map_eq_some_iff.mp hc
    exact (isNormal_of_ofChain hchain hd).correlate

/-- A finished scope is in normal form once it has received a predicate at some depth. -/
theorem isNormal_of_finish (h : (receiveAll s {} calls).finish s = .ok c)
    (htests : ∃ call ∈ calls, ∃ column, call.Tests column) : c.IsNormal := by
  rw [finish_receiveAll] at h
  obtain ⟨chain, hchain, rfl⟩ := Outcome.map_eq_ok_iff.mp h
  have hne : fold s chain ≠ none := by
    rw [Ne, fold_eq_none_iff, Call.elements_eq_nil_iff calls hchain]
    exact not_not_intro htests
  obtain ⟨c, hc⟩ := Option.ne_none_iff_exists'.mp hne
  obtain ⟨d, hd, rfl⟩ := Option.map_eq_some_iff.mp hc
  rw [hc]
  exact (isNormal_of_ofChain (isNormal_of_elements hchain) hd).correlate

/-- Without a predicate it is the empty conjunction. -/
theorem eq_all_nil_of_finish (h : (receiveAll s {} calls).finish s = .ok c)
    (htests : ¬∃ call ∈ calls, ∃ column, call.Tests column) : c = .all [] := by
  rw [finish_receiveAll] at h
  obtain ⟨chain, hchain, rfl⟩ := Outcome.map_eq_ok_iff.mp h
  rw [(Call.elements_eq_nil_iff calls hchain).mpr htests]
  rfl

end Scope

end FilterQuery
