import Mathlib.Data.List.Perm.Basic
import FilterQuery.Proofs.Condition.Bounds
import FilterQuery.Proofs.Condition.Collection

/-!
# Correlation is stable and loses nothing

Correlation moves the tests on the table into subqueries and puts the conjunctions together again
that it takes apart. `correlate_stable` states that nothing is left for a second correlation, that a
condition stays as it is exactly when it has no test to move, and that every leaf is there as often
as before.

The leaves are tests, constants and the subqueries that the condition had before. Those that
correlation adds are told from them by a mark: what is inside of them counts leaf by leaf.
-/

namespace FilterQuery.Condition

mutual

/-- The leaves of a condition, in order. A subquery is one of them, with all that is inside, unless
its correlation is the one that is opened: then the leaves inside of it are. -/
def leafNodes (opened : Option String) : Condition → List Condition
  | all cs | any cs => leafNodesAll opened cs
  | existsRow table correlation c =>
    if opened = some correlation then leafNodes opened c else [existsRow table correlation c]
  | compare column op v => [compare column op v]
  | nullness column isNull => [nullness column isNull]
  | membership column vs negated => [membership column vs negated]
  | range column lower upper negated => [range column lower upper negated]
  | always => [always]
  | never => [never]

/-- The leaves of conditions, one after the other. -/
def leafNodesAll (opened : Option String) : List Condition → List Condition
  | [] => []
  | c :: rest => leafNodes opened c ++ leafNodesAll opened rest

end

variable {table correlation mark : String} {opened : Option String} {c : Condition}
  {cs : List Condition}

theorem leafNodesAll_eq_flatMap (cs : List Condition) :
    leafNodesAll opened cs = cs.flatMap (leafNodes opened) := by
  induction cs with
  | nil => rfl
  | cons c rest ih => rw [leafNodesAll, ih, List.flatMap_cons]

theorem collects_leafNodes (opened : Option String) : Collects (leafNodes opened) where
  all cs := leafNodesAll_eq_flatMap cs
  any cs := leafNodesAll_eq_flatMap cs

/-- Opening the subquery that is added leaves what it was put around. -/
theorem leafNodes_wrap (c : Condition) :
    (wrap table mark c).leafNodes (some mark) = c.leafNodes (some mark) := by
  rw [wrap, leafNodes, if_pos rfl]

/-- Without the mark there is nothing to open. -/
theorem leafNodes_of_isUnmarked (h : c.IsUnmarked mark) :
    c.leafNodes (some mark) = c.leafNodes none := by
  have hmembers (cs : List Condition) (h : ∀ c ∈ cs, c.leafNodes (some mark) = c.leafNodes none) :
      leafNodesAll (some mark) cs = leafNodesAll none cs := by
    rw [leafNodesAll_eq_flatMap, leafNodesAll_eq_flatMap]
    exact List.flatMap_congr h
  induction c using memberInduction with
  | all cs ih => exact hmembers cs fun c hc => ih c hc (isUnmarked_all_iff.mp h c hc)
  | any cs ih => exact hmembers cs fun c hc => ih c hc (isUnmarked_any_iff.mp h c hc)
  | existsRow t r c ih =>
      have hr : some mark ≠ some r := fun hmark =>
        isUnmarked_existsRow_iff.mp h (Option.some.inj hmark).symm
      rw [leafNodes, leafNodes, if_neg hr, if_neg (Option.some_ne_none r).symm]
  | test c column hcolumn =>
      cases c with
      | all cs | any cs | existsRow t r c => cases hcolumn
      | _ => rfl
  | always => rfl
  | never => rfl

/-- Gathering changes the order only: the subquery comes first, the other conditions behind it. -/
theorem gather_perm (table correlation : String) (pending : Option Condition)
    (cs : List Condition) :
    (gather table correlation pending cs).Perm
      ((if cs.any (isPure table) then (pending.map (wrap table correlation)).toList else []) ++
        (cs.filter fun c => !isPure table c).map (correlate table correlation)) := by
  induction cs generalizing pending with
  | nil => exact .nil
  | cons c rest ih =>
      rw [gather]
      cases hpure : isPure table c with
      | true =>
          have hnone := ih none
          simp only [Option.map_none, Option.toList_none, ite_self, List.nil_append] at hnone
          simpa [hpure] using hnone.append_left _
      | false =>
          have hlater := ((ih pending).cons (correlate table correlation c)).trans
            List.perm_middle.symm
          simpa [hpure] using hlater

/-- The leaves of a gathered list are those of its conditions, provided that each one that is
correlated by itself keeps its leaves. -/
theorem leafNodes_gather_perm (hunmarked : ∀ c ∈ cs, c.IsUnmarked mark)
    (h : ∀ c ∈ cs, ((c.correlate table mark).leafNodes (some mark)).Perm (c.leafNodes none)) :
    ((gather table mark (some (conjunction (cs.filter (isPure table)))) cs).flatMap
      (leafNodes (some mark))).Perm (cs.flatMap (leafNodes none)) := by
  -- the new subquery has the leaves of the conditions on the table alone, also if there are none
  have hrun : (if cs.any (isPure table) then
        ((some (conjunction (cs.filter (isPure table)))).map (wrap table mark)).toList
      else []).flatMap (leafNodes (some mark)) =
        (cs.filter (isPure table)).flatMap (leafNodes none) := by
    split
    · rw [Option.map_some, Option.toList_some, List.flatMap_singleton, leafNodes_wrap,
        (collects_leafNodes _).conjunction]
      exact List.flatMap_congr fun c hc =>
        leafNodes_of_isUnmarked (hunmarked c (List.mem_of_mem_filter hc))
    · next hnone =>
      have hfilter : cs.filter (isPure table) = [] := by simpa using hnone
      rw [hfilter]
      rfl
  have hrest : (((cs.filter fun c => !isPure table c).map (correlate table mark)).flatMap
      (leafNodes (some mark))).Perm
        ((cs.filter fun c => !isPure table c).flatMap (leafNodes none)) := by
    rw [List.flatMap_map]
    exact List.Perm.flatMap_left _ fun c hc => h c (List.mem_of_mem_filter hc)
  have hgather := (gather_perm table mark
    (some (conjunction (cs.filter (isPure table)))) cs).flatMap_right (leafNodes (some mark))
  rw [List.flatMap_append, hrun] at hgather
  have hsplit := (List.filter_append_perm (isPure table) cs).flatMap_right (leafNodes none)
  rw [List.flatMap_append] at hsplit
  exact hgather.trans ((hrest.append_left _).trans hsplit)

/-- Correlation keeps the leaves. -/
theorem leafNodes_correlate_perm (h : c.IsUnmarked mark) :
    ((c.correlate table mark).leafNodes (some mark)).Perm (c.leafNodes none) := by
  refine correlateInduction (motive := fun c d => c.IsUnmarked mark →
    (d.leafNodes (some mark)).Perm (c.leafNodes none)) ?moved ?kept ?all ?any c h
  case moved =>
    intro c _ h
    rw [leafNodes_wrap, leafNodes_of_isUnmarked h]
  case kept =>
    intro c _ h
    rw [leafNodes_of_isUnmarked h]
  case all =>
    intro cs _ ih h
    have hunmarked := isUnmarked_all_iff.mp h
    rw [(collects_leafNodes _).all, (collects_leafNodes _).all]
    exact leafNodes_gather_perm hunmarked fun c hc => ih c hc (hunmarked c hc)
  case any =>
    intro cs _ ih h
    have hunmarked := isUnmarked_any_iff.mp h
    rw [(collects_leafNodes _).any, (collects_leafNodes _).any, List.flatMap_map]
    exact List.Perm.flatMap_left _ fun c hc => ih c hc (hunmarked c hc)

/-- A condition touches the table when a test on it stands outside of all subqueries. -/
theorem inside_touch_iff :
    (touch table c).inside = true ↔ ∃ d, Exposed d c ∧ d.IsTestOn table := by
  constructor
  · exact exists_exposed_of_inside_touch c
  · rintro ⟨d, hd, htest⟩
    exact hd.inside_touch (inside_touch_of_isTestOn htest)

/-- Correlation leaves a condition as it is when it has no test to move, and only then. -/
theorem correlate_eq_self_iff :
    correlate table correlation c = c ↔ ∀ d, Exposed d c → ¬d.IsTestOn table := by
  constructor
  · intro h d hd htest
    have hin := inside_touch_iff.mpr ⟨d, hd, htest⟩
    rw [← h, inside_touch_correlate] at hin
    cases hin
  · intro h
    apply correlate_of_inside_eq_false
    apply Bool.eq_false_iff.mpr
    intro hin
    obtain ⟨d, hd, htest⟩ := inside_touch_iff.mp hin
    exact h d hd htest

/-- A second correlation changes nothing; the first one changes nothing exactly when no test on the
table stands outside of all subqueries; and what it changes keeps every leaf as often as it was
there. The subqueries that it adds are those with the mark, before the correlation is put in its
place; the leaves inside of them count. -/
theorem correlate_stable (table correlation : String) (c : Condition) :
    (∀ correlation', correlate table correlation' (correlate table correlation c) =
      correlate table correlation c) ∧
      (correlate table correlation c = c ↔ ∀ d, Exposed d c → ¬d.IsTestOn table) ∧
      (∃ mark, c.IsUnmarked mark) ∧
      ∀ mark, c.IsUnmarked mark →
        (correlate table mark c).mapCorrelation (unmark mark correlation) =
            correlate table correlation c ∧
          ((correlate table mark c).leafNodes (some mark)).Perm (c.leafNodes none) := by
  refine ⟨fun correlation' => correlate_correlate table correlation correlation' c,
    correlate_eq_self_iff, exists_isUnmarked c, ?_⟩
  intro mark h
  exact ⟨mapCorrelation_correlate_mark h, leafNodes_correlate_perm h⟩

/-- Tests on shapes with others between them, next to a subquery on shapes. -/
def scatteredShapes : Condition :=
  .all
    [.nullness "entries.title" false,
      .compare "shapes.form" .equal (.string "square"),
      .any [.compare "entries.title" .equal (.string "A"), .nullness "shapes.form" true],
      .existsRow "shapes" "shapes.owner = entries.id" (.nullness "shapes.color" true),
      .compare "shapes.color" .equal (.string "red")]

/-- The color moves to the form, and all leaves are there. -/
theorem correlate_stable_scatteredShapes :
    scatteredShapes.IsUnmarked "added" ∧
      ((scatteredShapes.correlate "shapes" "added").leafNodes (some "added")).Perm
        [.nullness "entries.title" false,
          .compare "shapes.form" .equal (.string "square"),
          .compare "entries.title" .equal (.string "A"),
          .nullness "shapes.form" true,
          .existsRow "shapes" "shapes.owner = entries.id" (.nullness "shapes.color" true),
          .compare "shapes.color" .equal (.string "red")] := by
  have hunmarked : scatteredShapes.IsUnmarked "added" := by
    have htest {c : Condition} {column : String} (h : c.column? = some column) :
        c.IsUnmarked "added" := isUnmarked_of_column? h
    simp only [scatteredShapes, isUnmarked_all_iff, isUnmarked_any_iff, isUnmarked_existsRow_iff,
      List.forall_mem_cons, List.not_mem_nil, false_implies, implies_true, and_true]
    exact ⟨htest rfl, htest rfl, ⟨htest rfl, htest rfl⟩, by decide, htest rfl⟩
  have hstable := correlate_stable "shapes" "shapes.owner = entries.id" scatteredShapes
  exact ⟨hunmarked, (hstable.2.2.2 "added" hunmarked).2⟩

end FilterQuery.Condition
