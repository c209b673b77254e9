import FilterQuery.Proofs.Condition.Correlation

/-!
# When a correlated condition holds

A condition that has been moved into a subquery holds when one row meets it. A disjunction that is
not moved as a whole holds when one of its parts does, each correlated by itself; a conjunction
holds when its parts do, where those on the table alone have to be met by one row together.
-/

namespace FilterQuery.Condition

universe u v

variable {ε : Type u} {ρ : Type v} {I : Interpretation ε ρ} {entity : ε} {around : List ρ}
variable {table correlation : String}

/-- A conjunction in a subquery holds when one attribute row meets all of its parts. -/
theorem truth_wrap_conjunction_eq_yes_iff {s : Schema} {run : List Condition} (hne : run ≠ [])
    (h : ∀ c ∈ run, c.isEmpty = false) :
    (wrap s.attributes.table s.correlation (conjunction run)).truth I entity [] = .yes ↔
      ∃ row ∈ I.attributeRows s entity, ∀ c ∈ run, c.truth I entity [row] = .yes := by
  rw [wrap, truth_existsRow_eq_yes_iff (isEmpty_conjunction hne h)]
  simp only [truth_conjunction hne h, Truth.all_eq_yes_iff, List.forall_mem_map,
    Interpretation.mem_attributeRows_iff, and_assoc]

/-- The parts of a gathered conjunction hold when those on the table alone meet the pending subquery
and the others hold by themselves. -/
theorem all_truths_gather_eq_yes_iff {cs : List Condition} (h : ∀ c ∈ cs, c.isEmpty = false)
    (pending : Option Condition) :
    Truth.all (truths I entity around (gather table correlation pending cs)) = .yes ↔
      (∀ c ∈ cs, isPure table c = false →
        (correlate table correlation c).truth I entity around = .yes) ∧
      ((∃ c ∈ cs, isPure table c = true) → ∀ d ∈ pending,
        (wrap table correlation d).truth I entity around = .yes) := by
  induction cs generalizing pending with
  | nil => simp [gather, truths]
  | cons c rest ih =>
      have hrest : ∀ d ∈ rest, d.isEmpty = false := fun d hd => h d (List.mem_cons_of_mem _ hd)
      rw [gather]
      cases hpure : isPure table c with
      | true =>
          cases pending with
          | none => simp [ih hrest, hpure]
          | some d =>
              have hwrap : (wrap table correlation d).isEmpty = false := rfl
              simp [truths, hwrap, ih hrest, hpure, and_comm]
      | false =>
          have hc : (correlate table correlation c).isEmpty = false := by
            rw [isEmpty_correlate]
            exact h c (by simp)
          simp [truths, hc, ih hrest, hpure, and_assoc]

theorem truths_correlateAll {cs : List Condition} (h : ∀ c ∈ cs, c.isEmpty = false) :
    truths I entity around (correlateAll table correlation cs) =
      cs.map fun c => (correlate table correlation c).truth I entity around := by
  induction cs with
  | nil => rfl
  | cons c rest ih =>
      have hc : (correlate table correlation c).isEmpty = false := by
        rw [isEmpty_correlate]
        exact h c (by simp)
      rw [correlateAll, truths, hc, ih fun d hd => h d (List.mem_cons_of_mem _ hd)]
      rfl

/-- A disjunction that is not moved as a whole has its parts correlated one by one. -/
theorem truth_correlate_any {cs : List Condition} (h : ∀ c ∈ cs, c.isEmpty = false)
    (hpure : isPure table (any cs) = false) :
    (correlate table correlation (any cs)).truth I entity around =
      .any (cs.map fun c => (correlate table correlation c).truth I entity around) := by
  rw [correlate, hpure, if_neg Bool.false_ne_true]
  split
  · rw [truth, truths_correlateAll h]
  · next hmixed =>
    have hinside : (touchAll table cs).inside = false :=
      Touch.inside_eq_false hpure (Bool.eq_false_iff.mpr hmixed)
    have hparts : ∀ c ∈ cs, correlate table correlation c = c := by
      intro c hc
      apply correlate_of_inside_eq_false
      apply Bool.eq_false_iff.mpr
      intro hin
      rw [inside_touchAll_iff.mpr ⟨c, hc, hin⟩] at hinside
      cases hinside
    rw [truth, truths_eq_map h]
    apply congrArg Truth.any
    apply List.map_congr_left
    intro c hc
    rw [hparts c hc]

/-- A mixed conjunction holds when one row meets its parts on the table alone and the other parts
hold, each correlated by itself. -/
theorem truth_correlate_all_eq_yes_iff {cs : List Condition} (h : ∀ c ∈ cs, c.isEmpty = false)
    (hmixed : (touchAll table cs).isMixed = true) :
    (correlate table correlation (all cs)).truth I entity around = .yes ↔
      (∀ c ∈ cs, isPure table c = false →
        (correlate table correlation c).truth I entity around = .yes) ∧
      ((∃ c ∈ cs, isPure table c = true) →
        (wrap table correlation (conjunction (cs.filter (isPure table)))).truth I entity around =
          .yes) := by
  rw [correlate, (isPure_eq_false_of_isMixed hmixed).1, if_neg Bool.false_ne_true, if_pos hmixed, truth,
    all_truths_gather_eq_yes_iff h]
  simp

end FilterQuery.Condition
