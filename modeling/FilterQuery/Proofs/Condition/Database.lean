import FilterQuery.Proofs.Condition.Bounds

/-!
# Bounds on correlation in a database

A database gives the outcomes of all tests and subqueries. Read with a mark, a correlated condition
says there what it says without one, so the bounds hold for what a query selects. An entity is
selected if the condition holds with all tests on the attribute table read on one of its attribute
rows; and if it is selected, the condition holds with each of these tests read on a row of its own.
-/

namespace FilterQuery.Condition

universe u v

variable {ε : Type u} {ρ : Type v} (I : Interpretation ε ρ) (s : Schema) (entity : ε)

namespace Valuation

variable {v w : Valuation} {c : Condition}

/-- What tests and subqueries say in a database. -/
def ofInterpretation (around : List ρ) : Valuation where
  skips := true
  test := I.truth entity around
  subquery table correlation c := (existsRow table correlation c).truth I entity around

/-- A condition says in a database what it says under the valuation of the database. -/
theorem truth_ofInterpretation (around : List ρ) (c : Condition) :
    (ofInterpretation I entity around).truth c = c.truth I entity around := by
  have hlist : ∀ cs : List Condition,
      (∀ c ∈ cs, (ofInterpretation I entity around).truth c = c.truth I entity around) →
      (ofInterpretation I entity around).truths cs = Condition.truths I entity around cs := by
    intro cs h
    induction cs with
    | nil => rfl
    | cons c rest ih =>
        rw [truths, Condition.truths, h c (List.mem_cons_self ..),
          ih fun d hd => h d (List.mem_cons_of_mem _ hd)]
        cases hempty : c.isEmpty with
        | true => simp [keeps, ofInterpretation, hempty]
        | false => simp [keeps, hempty]
  induction c using memberInduction with
  | all cs ih => rw [truth, Condition.truth, hlist cs ih]
  | any cs ih => rw [truth, Condition.truth, hlist cs ih]
  | existsRow t r c _ => rfl
  | test c column hcolumn => cases c <;> first | rfl | cases hcolumn
  | always => rfl
  | never => rfl

/-- A condition on the table alone depends on the tests on the table and on nothing else. -/
theorem truth_iff_of_isPure {table : String} (h : isPure table c = true)
    (hskips : v.skips = w.skips)
    (htest : ∀ column t, Clause.isColumnOf table column = true →
      v.test column t = w.test column t) :
    v.truth c = .yes ↔ w.truth c = .yes := by
  have hrow := isPure_iff_isRowTest.mp h
  have hsame : ∀ d column, Exposed d c → d.column? = some column →
      ∀ t, v.test column t = w.test column t := by
    intro d column hd hcolumn t
    refine htest column t (Classical.byContradiction fun hother => ?_)
    refine hrow.only d hd.occurs ⟨column, hcolumn, fun rest hrest => hother ?_⟩
    exact Clause.isColumnOf_iff.mpr ⟨rest, hrest⟩
  have hnone : ∀ t r d, ¬Exposed (existsRow t r d) c := fun t r d hd =>
    hrow.flat _ hd.occurs ⟨t, r, d, rfl⟩
  constructor
  · refine truth_mono c hskips (fun d column hd hcolumn t ht => ?_)
      fun t r d hd => absurd hd (hnone t r d)
    rwa [← hsame d column hd hcolumn]
  · refine truth_mono c hskips.symm (fun d column hd hcolumn t ht => ?_)
      fun t r d hd => absurd hd (hnone t r d)
    rwa [hsame d column hd hcolumn]

end Valuation

/-- An entity and its attribute rows in a database. -/
def Outcomes.ofInterpretation (mark : String) : Outcomes ρ where
  table := s.attributes.table
  mark := mark
  entity := .ofInterpretation I entity []
  rows := I.attributeRows s entity
  test row := I.truth entity [row]

namespace Outcomes

variable {c : Condition} {cs : List Condition}

/-- Parts that say the same with the mark and with the correlation say so together. -/
theorem truth_all_iff_and_truth_any_iff (o : Outcomes ρ) {f : String → String}
    (h : ∀ c ∈ cs, (o.correlated.truth c = .yes ↔ o.entity.truth (c.mapCorrelation f) = .yes)) :
    (o.correlated.truth (all cs) = .yes ↔ o.entity.truth ((all cs).mapCorrelation f) = .yes) ∧
      (o.correlated.truth (any cs) = .yes ↔
        o.entity.truth ((any cs).mapCorrelation f) = .yes) := by
  have hkeeps (c : Condition) : o.entity.keeps (c.mapCorrelation f) = o.correlated.keeps c := by
    rw [Valuation.keeps, Valuation.keeps, isEmpty_mapCorrelation]
    rfl
  constructor
  · rw [mapCorrelation, mapCorrelations_eq_map, Valuation.truth_all_eq_yes_iff,
      Valuation.truth_all_eq_yes_iff, List.forall_mem_map]
    refine forall₂_congr fun c hc => ?_
    rw [hkeeps, h c hc]
  · rw [mapCorrelation, mapCorrelations_eq_map, Valuation.truth_any_eq_yes_iff,
      Valuation.truth_any_eq_yes_iff]
    constructor
    · rintro ⟨c, hc, hkept, hyes⟩
      exact ⟨_, List.mem_map_of_mem hc, (hkeeps c).trans hkept, (h c hc).mp hyes⟩
    · rintro ⟨d, hd, hkept, hyes⟩
      obtain ⟨c, hc, rfl⟩ := List.mem_map.mp hd
      exact ⟨c, hc, (hkeeps c).symm.trans hkept, (h c hc).mpr hyes⟩

/-- If every subquery says with the mark what it says with the correlation, so does a condition that
is correlated. -/
theorem truth_correlate_iff (o : Outcomes ρ) {correlation : String} (hunmarked : c.IsUnmarked o.mark)
    (h : ∀ d, isPure o.table d = true →
      (o.correlated.truth (wrap o.table o.mark d) = .yes ↔
        o.entity.truth (wrap o.table correlation d) = .yes)) :
    o.correlated.truth (c.correlate o.table o.mark) = .yes ↔
      o.entity.truth (c.correlate o.table correlation) = .yes := by
  have hwrap (d : Condition) :
      (wrap o.table o.mark d).mapCorrelation (unmark o.mark correlation) =
        wrap o.table correlation d := by
    rw [wrap, wrap, mapCorrelation, unmark, if_pos rfl]
  have hcorrelate : c.correlate o.table correlation =
      (c.correlate o.table o.mark).mapCorrelation (unmark o.mark correlation) :=
    (mapCorrelation_correlate_mark hunmarked).symm
  rw [hcorrelate]
  refine correlateInduction (motive := fun c d => c.IsUnmarked o.mark →
    (o.correlated.truth d = .yes ↔
      o.entity.truth (d.mapCorrelation (unmark o.mark correlation)) = .yes))
    ?moved ?kept ?all ?any c hunmarked
  case moved =>
    intro c hpure _
    rw [hwrap]
    exact h c hpure
  case kept =>
    intro c _ hunmarked
    rw [mapCorrelation_unmark hunmarked]
    exact o.truth_correlated_iff hunmarked
  case all =>
    intro cs _ ih hunmarked
    refine (o.truth_all_iff_and_truth_any_iff fun d hd => ?_).1
    rcases mem_gather_iff.mp hd with ⟨run, hrun, hsome, rfl⟩ | ⟨c, hc, -, rfl⟩
    · cases hrun
      rw [hwrap]
      exact h _ (isPure_conjunction_filter hsome)
    · exact ih c hc (isUnmarked_all_iff.mp hunmarked c hc)
  case any =>
    intro cs _ ih hunmarked
    refine (o.truth_all_iff_and_truth_any_iff fun d hd => ?_).2
    obtain ⟨c, hc, rfl⟩ := List.mem_map.mp hd
    exact ih c hc (isUnmarked_any_iff.mp hunmarked c hc)

variable {I : Interpretation ε ρ} {s : Schema} {entity : ε} {mark : String}

/-- A condition on the attribute table alone says on a row what it says inside of a subquery. -/
theorem truth_atRow_ofInterpretation_iff (h : isPure s.attributes.table c = true) (row : ρ) :
    ((ofInterpretation I s entity mark).atRow row).truth c = .yes ↔
      c.truth I entity [row] = .yes := by
  rw [← Valuation.truth_ofInterpretation I entity [row] c]
  exact Valuation.truth_iff_of_isPure h rfl fun column t hcolumn => if_pos hcolumn

/-- Subqueries with the mark are read on the attribute rows as those with the correlation are. -/
theorem truth_wrap_ofInterpretation_iff (h : isPure s.attributes.table c = true) :
    (ofInterpretation I s entity mark).correlated.truth (wrap s.attributes.table mark c) = .yes ↔
      (wrap s.attributes.table s.correlation c).truth I entity [] = .yes := by
  refine (ofInterpretation I s entity mark).truth_wrap_iff.trans ?_
  refine Iff.trans ?_ (truth_existsRow_eq_yes_iff (isEmpty_of_isPure h)).symm
  simp only [truth_atRow_ofInterpretation_iff h]
  constructor
  · rintro ⟨row, hrow, hyes⟩
    obtain ⟨hmem, hcorrelated⟩ := Interpretation.mem_attributeRows_iff.mp hrow
    exact ⟨row, hmem, hcorrelated, hyes⟩
  · rintro ⟨row, hmem, hcorrelated, hyes⟩
    exact ⟨row, Interpretation.mem_attributeRows_iff.mpr ⟨hmem, hcorrelated⟩, hyes⟩

theorem truth_correlate_ofInterpretation_iff (hunmarked : c.IsUnmarked mark) :
    (ofInterpretation I s entity mark).correlated.truth
        (c.correlate s.attributes.table mark) = .yes ↔
      (c.correlate s.attributes.table s.correlation).truth I entity [] = .yes := by
  rw [← Valuation.truth_ofInterpretation]
  refine (ofInterpretation I s entity mark).truth_correlate_iff hunmarked fun d hpure => ?_
  refine (truth_wrap_ofInterpretation_iff hpure).trans ?_
  rw [← Valuation.truth_ofInterpretation]
  rfl

end Outcomes

variable {I : Interpretation ε ρ} {s : Schema} {entity : ε} {c : Condition}

/-- An entity is selected if the condition holds on one of its attribute rows. -/
theorem truth_correlate_of_attributeRow {row : ρ} (hrow : row ∈ I.attributeRows s entity)
    (h : ((Valuation.ofInterpretation I entity []).onTable s.attributes.table
      (I.truth entity [row])).truth c = .yes) :
    (c.correlate s.attributes.table s.correlation).truth I entity [] = .yes := by
  obtain ⟨mark, hunmarked⟩ := exists_isUnmarked c
  rw [← Outcomes.truth_correlate_ofInterpretation_iff hunmarked]
  exact Outcomes.truth_correlate_of_atRow _ hrow hunmarked h

/-- If it is selected, the condition holds when a test on the attribute table only asks for some
attribute row that passes it. -/
theorem truth_onTable_of_correlate
    (h : (c.correlate s.attributes.table s.correlation).truth I entity [] = .yes) :
    ((Valuation.ofInterpretation I entity []).onTable s.attributes.table fun column t =>
      .ofBool ((I.attributeRows s entity).any fun row =>
        (I.truth entity [row] column t).holds)).truth c = .yes := by
  obtain ⟨mark, hunmarked⟩ := exists_isUnmarked c
  rw [← Outcomes.truth_correlate_ofInterpretation_iff hunmarked] at h
  exact Outcomes.truth_independent_of_correlate _ hunmarked h

end FilterQuery.Condition
