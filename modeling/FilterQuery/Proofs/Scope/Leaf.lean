import FilterQuery.Proofs.Condition.Rowwise
import FilterQuery.Proofs.Scope.Predicate

/-!
# Leaves and their runs

A leaf of a scope is a call with a predicate. It is a constant, or it tests a column of the
attribute table, or it tests another column. Read row by row, a run of leaves holds when its
constants are true, its tests outside of the attribute table hold on the entity, and one attribute
row passes all of its tests on the attribute table; a run without such tests asks for no attribute
row. `Leaf.truth_correlate_run_iff` states that correlation gives a run this reading.
-/

namespace FilterQuery

universe u v

variable {ε : Type u} {ρ : Type v}

/-- A call with a predicate. -/
structure Leaf where
  connective : Connective
  column : String
  predicate : Predicate

namespace Leaf

/-- The call itself. -/
def call (leaf : Leaf) : Call := .predicate leaf.connective leaf.column leaf.predicate

/-- The value fits the predicate. -/
def Fits (leaf : Leaf) : Prop := ∃ t, leaf.predicate.test = .ok t

/-- The leaf is a constant, whatever its column: nothing is in an empty list. -/
def IsConstant (leaf : Leaf) (b : Bool) : Prop :=
  ∃ t, leaf.predicate.test = .ok t ∧ t.constant? = some b

/-- The leaf tests its column. -/
def IsTest (leaf : Leaf) : Prop := ∃ t, leaf.predicate.test = .ok t ∧ t.constant? = none

/-- The leaf tests a column of the table. -/
def IsInside (table : String) (leaf : Leaf) : Prop :=
  leaf.IsTest ∧ Clause.isColumnOf table leaf.column = true

/-- The leaf tests another column. -/
def IsOutside (table : String) (leaf : Leaf) : Prop :=
  leaf.IsTest ∧ Clause.isColumnOf table leaf.column = false

/-- The column passes the test of the leaf. -/
def Passes (I : Interpretation ε ρ) (entity : ε) (around : List ρ) (leaf : Leaf) : Prop :=
  ∃ t, leaf.predicate.test = .ok t ∧ I.outcome entity around leaf.column t = .yes

/-- A run holds for an entity. -/
structure RunHolds (s : Schema) (I : Interpretation ε ρ) (entity : ε) (run : List Leaf) :
    Prop where
  constants : ∀ leaf ∈ run, ¬leaf.IsConstant false
  outside : ∀ leaf ∈ run, leaf.IsOutside s.attributes.table → leaf.Passes I entity []
  inside : (∃ leaf ∈ run, leaf.IsInside s.attributes.table) →
    ∃ row ∈ I.attributeRows s entity,
      ∀ leaf ∈ run, leaf.IsInside s.attributes.table → leaf.Passes I entity [row]

/-- The condition that a fitting leaf adds to its scope. -/
def condition (leaf : Leaf) : Condition :=
  match leaf.predicate.test with
  | .ok t => .ofTest leaf.column t
  | .error _ => .never

variable {leaf : Leaf} {table : String}

theorem Fits.cases (h : leaf.Fits) (table : String) :
    leaf.IsConstant true ∨ leaf.IsConstant false ∨ leaf.IsInside table ∨ leaf.IsOutside table := by
  obtain ⟨t, ht⟩ := h
  cases hconstant : t.constant? with
  | some b =>
      cases b with
      | true => exact .inl ⟨t, ht, hconstant⟩
      | false => exact .inr (.inl ⟨t, ht, hconstant⟩)
  | none =>
      cases hcolumn : Clause.isColumnOf table leaf.column with
      | true => exact .inr (.inr (.inl ⟨⟨t, ht, hconstant⟩, hcolumn⟩))
      | false => exact .inr (.inr (.inr ⟨⟨t, ht, hconstant⟩, hcolumn⟩))

@[simp] theorem isEmpty_condition (leaf : Leaf) : leaf.condition.isEmpty = false := by
  rw [condition]
  split
  · exact Condition.isEmpty_ofTest _ _
  · rfl

theorem inside_touch_condition_iff :
    (leaf.condition.touch table).inside = true ↔ leaf.IsInside table := by
  rw [condition, IsInside, IsTest]
  split
  · next t ht =>
    rw [Condition.touch_ofTest]
    cases hconstant : t.constant? <;>
      simp [ht, hconstant, Condition.Touch.none, Condition.Touch.ofColumn]
  · next e he => simp [he, Condition.touch, Condition.Touch.none]

theorem outside_touch_condition_iff :
    (leaf.condition.touch table).outside = true ↔ leaf.IsOutside table := by
  rw [condition, IsOutside, IsTest]
  split
  · next t ht =>
    rw [Condition.touch_ofTest]
    cases hconstant : t.constant? <;>
      simp [ht, hconstant, Condition.Touch.none, Condition.Touch.ofColumn]
  · next e he => simp [he, Condition.touch, Condition.Touch.none]

/-- A fitting leaf holds when it is no false constant and its test is passed. -/
theorem Fits.truth_condition_iff (h : leaf.Fits) {I : Interpretation ε ρ} {entity : ε}
    {around : List ρ} :
    leaf.condition.truth I entity around = .yes ↔
      ¬leaf.IsConstant false ∧ (leaf.IsTest → leaf.Passes I entity around) := by
  obtain ⟨t, ht⟩ := h
  simp only [condition, ht, Condition.truth_ofTest, Interpretation.truth, IsConstant, IsTest,
    Passes, Except.ok.injEq, exists_eq_left']
  cases t.constant? with
  | none => simp
  | some b => cases b <;> simp

theorem IsOutside.not_isInside (h : leaf.IsOutside table) : ¬leaf.IsInside table := by
  intro hin
  have heq := h.2
  rw [hin.2] at heq
  cases heq

theorem isPure_condition_iff :
    leaf.condition.isPure table = true ↔ leaf.IsInside table := by
  rw [Condition.isPure, Condition.Touch.isPure, Bool.and_eq_true_iff, inside_touch_condition_iff,
    Bool.not_eq_true', ← Bool.not_eq_true, outside_touch_condition_iff]
  constructor
  · intro h
    exact h.1
  · intro h
    refine ⟨h, ?_⟩
    intro hout
    exact hout.not_isInside h

theorem isPure_condition_eq_false (h : ¬leaf.IsInside table) :
    leaf.condition.isPure table = false :=
  Bool.eq_false_iff.mpr (mt isPure_condition_iff.mp h)

/-- Correlation leaves alone what is no test on the table. -/
theorem correlate_condition {correlation : String} (h : ¬leaf.IsInside table) :
    leaf.condition.correlate table correlation = leaf.condition :=
  Condition.correlate_of_inside_eq_false
    (Bool.eq_false_iff.mpr (mt inside_touch_condition_iff.mp h))

theorem IsConstant.not_isInside {b : Bool} (h : leaf.IsConstant b) : ¬leaf.IsInside table := by
  rintro ⟨⟨t', ht', hnone⟩, -⟩
  obtain ⟨t, ht, hsome⟩ := h
  rw [ht] at ht'
  cases ht'
  rw [hsome] at hnone
  cases hnone

theorem IsTest.isOutside (h : leaf.IsTest) (hin : ¬leaf.IsInside table) :
    leaf.IsOutside table :=
  ⟨h, Bool.eq_false_iff.mpr fun hcolumn => hin ⟨h, hcolumn⟩⟩

variable {s : Schema} {run : List Leaf} {I : Interpretation ε ρ} {entity : ε}

theorem isEmpty_eq_false_of_mem_map :
    ∀ c ∈ run.map condition, c.isEmpty = false := by
  intro c hc
  obtain ⟨leaf, -, rfl⟩ := List.mem_map.mp hc
  exact isEmpty_condition leaf

theorem exists_mem_map_condition {p : Condition → Prop} :
    (∃ c ∈ run.map condition, p c) ↔ ∃ leaf ∈ run, p leaf.condition := by
  constructor
  · rintro ⟨c, hc, h⟩
    obtain ⟨leaf, hleaf, rfl⟩ := List.mem_map.mp hc
    exact ⟨leaf, hleaf, h⟩
  · rintro ⟨leaf, hleaf, h⟩
    exact ⟨_, List.mem_map_of_mem hleaf, h⟩

theorem inside_touchAll_run_iff :
    (Condition.touchAll table (run.map condition)).inside = true ↔
      ∃ leaf ∈ run, leaf.IsInside table := by
  rw [Condition.inside_touchAll_iff, exists_mem_map_condition]
  simp only [inside_touch_condition_iff]

theorem outside_touchAll_run_iff :
    (Condition.touchAll table (run.map condition)).outside = true ↔
      ∃ leaf ∈ run, leaf.IsOutside table := by
  rw [Condition.outside_touchAll_iff, exists_mem_map_condition]
  simp only [outside_touch_condition_iff]

/-- Without tests on the attribute table all of the run is about the entity. -/
theorem runHolds_iff_of_noneInside (hfits : ∀ leaf ∈ run, leaf.Fits)
    (h : ¬∃ leaf ∈ run, leaf.IsInside s.attributes.table) :
    RunHolds s I entity run ↔ ∀ leaf ∈ run, leaf.condition.truth I entity [] = .yes := by
  constructor
  · intro hrun leaf hleaf
    rw [(hfits leaf hleaf).truth_condition_iff]
    refine ⟨hrun.constants leaf hleaf, ?_⟩
    intro htest
    cases hcolumn : Clause.isColumnOf s.attributes.table leaf.column with
    | true => exact absurd ⟨leaf, hleaf, htest, hcolumn⟩ h
    | false => exact hrun.outside leaf hleaf ⟨htest, hcolumn⟩
  · intro hrun
    have hleaf : ∀ leaf ∈ run, ¬leaf.IsConstant false ∧
        (leaf.IsTest → leaf.Passes I entity []) := fun leaf hmem =>
      (hfits leaf hmem).truth_condition_iff.mp (hrun leaf hmem)
    exact
      { constants := fun leaf hmem => (hleaf leaf hmem).1
        outside := fun leaf hmem hout => (hleaf leaf hmem).2 hout.1
        inside := fun hin => absurd hin h }

/-- Without tests elsewhere, but with one on the attribute table, all of the run is about one
attribute row. -/
theorem runHolds_iff_of_noneOutside (hfits : ∀ leaf ∈ run, leaf.Fits)
    (hin : ∃ leaf ∈ run, leaf.IsInside s.attributes.table)
    (hout : ¬∃ leaf ∈ run, leaf.IsOutside s.attributes.table) :
    RunHolds s I entity run ↔
      ∃ row ∈ I.attributeRows s entity,
        ∀ leaf ∈ run, leaf.condition.truth I entity [row] = .yes := by
  constructor
  · intro hrun
    obtain ⟨row, hrow, hpass⟩ := hrun.inside hin
    refine ⟨row, hrow, ?_⟩
    intro leaf hleaf
    rw [(hfits leaf hleaf).truth_condition_iff]
    refine ⟨hrun.constants leaf hleaf, ?_⟩
    intro htest
    cases hcolumn : Clause.isColumnOf s.attributes.table leaf.column with
    | true => exact hpass leaf hleaf ⟨htest, hcolumn⟩
    | false => exact absurd ⟨leaf, hleaf, htest, hcolumn⟩ hout
  · rintro ⟨row, hrow, hrun⟩
    have hleaf : ∀ leaf ∈ run, ¬leaf.IsConstant false ∧
        (leaf.IsTest → leaf.Passes I entity [row]) := fun leaf hmem =>
      (hfits leaf hmem).truth_condition_iff.mp (hrun leaf hmem)
    exact
      { constants := fun leaf hmem => (hleaf leaf hmem).1
        outside := fun leaf hmem h => absurd ⟨leaf, hmem, h⟩ hout
        inside := fun _ => ⟨row, hrow, fun leaf hmem h => (hleaf leaf hmem).2 h.1⟩ }

theorem IsConstant.truth_condition {b : Bool} (h : leaf.IsConstant b) (around : List ρ) :
    leaf.condition.truth I entity around = .ofBool b := by
  obtain ⟨t, ht, hconstant⟩ := h
  simp [condition, ht, Interpretation.truth, hconstant]

/-- What holds without a test is a true constant. -/
theorem isConstant_of_truth (hfits : ∀ leaf ∈ run, leaf.Fits)
    (hin : ¬∃ leaf ∈ run, leaf.IsInside table) (hout : ¬∃ leaf ∈ run, leaf.IsOutside table)
    {around : List ρ} (h : ∀ leaf ∈ run, leaf.condition.truth I entity around = .yes) :
    ∀ leaf ∈ run, leaf.IsConstant true := by
  intro leaf hleaf
  rcases (hfits leaf hleaf).cases table with htrue | hfalse | hl | hl
  · exact htrue
  · have hyes := h leaf hleaf
    rw [hfalse.truth_condition] at hyes
    cases hyes
  · exact absurd ⟨leaf, hleaf, hl⟩ hin
  · exact absurd ⟨leaf, hleaf, hl⟩ hout

/-- A run of true constants holds for every entity, with or without attribute rows. -/
theorem runHolds_of_constants (h : ∀ leaf ∈ run, leaf.IsConstant true) :
    RunHolds s I entity run := by
  have hfits : ∀ leaf ∈ run, leaf.Fits := by
    intro leaf hleaf
    obtain ⟨t, ht, -⟩ := h leaf hleaf
    exact ⟨t, ht⟩
  rw [runHolds_iff_of_noneInside hfits]
  · intro leaf hleaf
    exact (h leaf hleaf).truth_condition []
  · rintro ⟨leaf, hleaf, hin⟩
    exact (h leaf hleaf).not_isInside hin

/-- Without tests elsewhere, a run holds if one attribute row meets all of it. -/
theorem runHolds_of_row (hfits : ∀ leaf ∈ run, leaf.Fits)
    (hout : ¬∃ leaf ∈ run, leaf.IsOutside s.attributes.table) {row : ρ}
    (hrow : row ∈ I.attributeRows s entity)
    (h : ∀ leaf ∈ run, leaf.condition.truth I entity [row] = .yes) : RunHolds s I entity run := by
  by_cases hin : ∃ leaf ∈ run, leaf.IsInside s.attributes.table
  · exact (runHolds_iff_of_noneOutside hfits hin hout).mpr ⟨row, hrow, h⟩
  · exact runHolds_of_constants (isConstant_of_truth hfits hin hout h)

/-- Conversely, a run that holds is met by an attribute row, unless all of it is constant. -/
theorem RunHolds.exists_row (h : RunHolds s I entity run) (hfits : ∀ leaf ∈ run, leaf.Fits)
    (hout : ¬∃ leaf ∈ run, leaf.IsOutside s.attributes.table) :
    (∃ row ∈ I.attributeRows s entity,
        ∀ leaf ∈ run, leaf.condition.truth I entity [row] = .yes) ∨
      ∀ leaf ∈ run, leaf.IsConstant true := by
  by_cases hin : ∃ leaf ∈ run, leaf.IsInside s.attributes.table
  · exact .inl ((runHolds_iff_of_noneOutside hfits hin hout).mp h)
  · have htruth := (runHolds_iff_of_noneInside hfits hin).mp h
    exact .inr (isConstant_of_truth hfits hin hout htruth)

theorem conjunction_run_of_mixed (hin : ∃ leaf ∈ run, leaf.IsInside table)
    (hout : ∃ leaf ∈ run, leaf.IsOutside table) :
    Condition.conjunction (run.map condition) = .all (run.map condition) := by
  cases run with
  | nil => rfl
  | cons first rest =>
      cases rest with
      | nil =>
          obtain ⟨leaf, hleaf, hin⟩ := hin
          obtain ⟨leaf', hleaf', hout⟩ := hout
          rw [List.mem_singleton.mp hleaf] at hin
          rw [List.mem_singleton.mp hleaf'] at hout
          exact absurd hin hout.not_isInside
      | cons second rest => rfl

/-- In a mixed run the tests on the attribute table share a row and the others stay. -/
theorem truth_correlate_mixed_run_iff (hfits : ∀ leaf ∈ run, leaf.Fits)
    (hin : ∃ leaf ∈ run, leaf.IsInside s.attributes.table)
    (hout : ∃ leaf ∈ run, leaf.IsOutside s.attributes.table) :
    (Condition.correlate s.attributes.table s.correlation
        (Condition.conjunction (run.map condition))).truth I entity [] = .yes ↔
      RunHolds s I entity run := by
  have hmixed : (Condition.touchAll s.attributes.table (run.map condition)).isMixed = true := by
    rw [Condition.Touch.isMixed, inside_touchAll_run_iff.mpr hin, outside_touchAll_run_iff.mpr hout]
    rfl
  have hfilter : (run.map condition).filter (Condition.isPure s.attributes.table) =
      (run.filter fun leaf => leaf.condition.isPure s.attributes.table).map condition :=
    List.filter_map
  have hne : (run.filter fun leaf => leaf.condition.isPure s.attributes.table).map condition ≠
      [] := by
    obtain ⟨leaf, hleaf, hinside⟩ := hin
    have hmem : leaf ∈ run.filter fun leaf => leaf.condition.isPure s.attributes.table :=
      List.mem_filter.mpr ⟨hleaf, isPure_condition_iff.mpr hinside⟩
    simpa using List.ne_nil_of_mem hmem
  rw [conjunction_run_of_mixed hin hout,
    Condition.truth_correlate_all_eq_yes_iff isEmpty_eq_false_of_mem_map hmixed, hfilter,
    Condition.truth_wrap_conjunction_eq_yes_iff hne isEmpty_eq_false_of_mem_map,
    exists_mem_map_condition]
  simp only [List.forall_mem_map, List.mem_filter, isPure_condition_iff, and_imp]
  constructor
  · rintro ⟨hstay, hrow⟩
    have hhere : ∀ leaf ∈ run, ¬leaf.IsInside s.attributes.table → ¬leaf.IsConstant false ∧
        (leaf.IsTest → leaf.Passes I entity []) := by
      intro leaf hleaf hinside
      have htruth := hstay leaf hleaf (isPure_condition_eq_false hinside)
      rw [correlate_condition hinside] at htruth
      exact (hfits leaf hleaf).truth_condition_iff.mp htruth
    refine
      { constants := ?_
        outside := fun leaf hleaf h => (hhere leaf hleaf h.not_isInside).2 h.1
        inside := ?_ }
    · intro leaf hleaf hconstant
      exact (hhere leaf hleaf hconstant.not_isInside).1 hconstant
    · intro hin
      obtain ⟨row, hmem, hpass⟩ := hrow hin
      refine ⟨row, hmem, ?_⟩
      intro leaf hleaf hinside
      exact ((hfits leaf hleaf).truth_condition_iff.mp (hpass leaf hleaf hinside)).2 hinside.1
  · intro hrun
    constructor
    · intro leaf hleaf hpure
      have hinside : ¬leaf.IsInside s.attributes.table := fun h =>
        absurd (isPure_condition_iff.mpr h) (Bool.eq_false_iff.mp hpure)
      rw [correlate_condition hinside, (hfits leaf hleaf).truth_condition_iff]
      refine ⟨hrun.constants leaf hleaf, ?_⟩
      intro htest
      exact hrun.outside leaf hleaf (htest.isOutside hinside)
    · intro hin
      obtain ⟨row, hmem, hpass⟩ := hrun.inside hin
      refine ⟨row, hmem, ?_⟩
      intro leaf hleaf hinside
      rw [(hfits leaf hleaf).truth_condition_iff]
      exact ⟨hrun.constants leaf hleaf, fun _ => hpass leaf hleaf hinside⟩

/-- Correlating a run as a conjunction gives the row-wise reading of the run. -/
theorem truth_correlate_run_iff (hne : run ≠ []) (hfits : ∀ leaf ∈ run, leaf.Fits) :
    (Condition.correlate s.attributes.table s.correlation
        (Condition.conjunction (run.map condition))).truth I entity [] = .yes ↔
      RunHolds s I entity run := by
  have hmap : run.map condition ≠ [] := by simpa using hne
  have hempty : ∀ c ∈ run.map condition, c.isEmpty = false := isEmpty_eq_false_of_mem_map
  by_cases hin : ∃ leaf ∈ run, leaf.IsInside s.attributes.table
  · by_cases hout : ∃ leaf ∈ run, leaf.IsOutside s.attributes.table
    · exact truth_correlate_mixed_run_iff hfits hin hout
    · have hpure : Condition.isPure s.attributes.table
          (Condition.conjunction (run.map condition)) = true := by
        rw [Condition.isPure, Condition.touch_conjunction, Condition.Touch.isPure,
          inside_touchAll_run_iff.mpr hin, Bool.eq_false_iff.mpr (mt outside_touchAll_run_iff.mp hout)]
        rfl
      rw [Condition.correlate_of_isPure hpure,
        Condition.truth_wrap_conjunction_eq_yes_iff hmap hempty,
        runHolds_iff_of_noneOutside hfits hin hout]
      simp only [List.forall_mem_map]
  · have hinside : (Condition.touch s.attributes.table
        (Condition.conjunction (run.map condition))).inside = false := by
      rw [Condition.touch_conjunction]
      exact Bool.eq_false_iff.mpr (mt inside_touchAll_run_iff.mp hin)
    rw [Condition.correlate_of_inside_eq_false hinside, Condition.truth_conjunction hmap hempty,
      Truth.all_eq_yes_iff, List.forall_mem_map, List.forall_mem_map,
      runHolds_iff_of_noneInside hfits hin]

end Leaf

end FilterQuery
