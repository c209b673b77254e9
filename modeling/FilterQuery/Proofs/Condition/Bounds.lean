import FilterQuery.Proofs.Condition.Marking
import FilterQuery.Proofs.Condition.Meaning

/-!
# Bounds on correlation

Correlation asks for one row for every run of tests on the table, so it stands between two simpler
readings of a condition: that one row passes all tests on the table together, and that every such
test is passed by some row of its own. `Condition.correlate_bounded` states that it loses no match
of the former and adds none to the latter.

The outcomes of tests and of the subqueries of the condition are given and may be anything; empty
parts are left out or read like others. Only the subqueries that correlation adds are read on the
rows, and a mark tells them apart from the others.
-/

namespace FilterQuery.Condition

universe u

/-- The outcomes of tests and subqueries, and whether empty parts are left out. -/
structure Valuation where
  skips : Bool
  test : String → Test → Truth
  subquery : String → String → Condition → Truth

namespace Valuation

/-- Reads tests on the table differently. -/
def onTable (v : Valuation) (table : String) (test : String → Test → Truth) : Valuation :=
  { v with test := fun column t =>
      if Clause.isColumnOf table column then test column t else v.test column t }

/-- The condition is read where it stands as a part of another one. -/
def keeps (v : Valuation) (c : Condition) : Bool := !(v.skips && c.isEmpty)

mutual

/-- What a condition says under a valuation. -/
def truth (v : Valuation) : Condition → Truth
  | all cs => .all (truths v cs)
  | any cs => .any (truths v cs)
  | compare column op w => v.test column (.compare op w)
  | nullness column isNull => v.test column (.nullness isNull)
  | membership column ws negated => v.test column (.membership ws negated)
  | range column lower upper negated => v.test column (.range lower upper negated)
  | existsRow table correlation c => v.subquery table correlation c
  | always => .yes
  | never => .no

/-- What the conditions say that are read. -/
def truths (v : Valuation) : List Condition → List Truth
  | [] => []
  | c :: rest => if v.keeps c then truth v c :: truths v rest else truths v rest

end

end Valuation

/-- What is known of an entity and of its rows of the table: the outcomes of everything on the
entity, and of the tests on each row. The mark stands for the correlation. -/
structure Outcomes (ρ : Type u) where
  table : String
  mark : String
  entity : Valuation
  rows : List ρ
  test : ρ → String → Test → Truth

namespace Outcomes

variable {ρ : Type u} (o : Outcomes ρ)

/-- All tests on the table are read on one row. -/
def atRow (row : ρ) : Valuation := o.entity.onTable o.table (o.test row)

/-- Every test on the table is read on a row of its own: it holds when some row passes it. -/
def independent : Valuation :=
  o.entity.onTable o.table fun column t =>
    .ofBool (o.rows.any fun row => (o.test row column t).holds)

/-- A subquery with the mark holds when some row passes it. -/
def correlated : Valuation :=
  { o.entity with subquery := fun table correlation c =>
      if correlation = o.mark then Truth.ofBool (o.rows.any fun row => ((o.atRow row).truth c).holds)
      else o.entity.subquery table correlation c }

end Outcomes

namespace Valuation

variable {v w : Valuation} {c : Condition} {cs : List Condition}

theorem mem_truths_iff {t : Truth} :
    t ∈ v.truths cs ↔ ∃ c ∈ cs, v.keeps c = true ∧ v.truth c = t := by
  induction cs with
  | nil => simp [truths]
  | cons c rest ih =>
      rw [truths]
      cases hc : v.keeps c with
      | true => simp [ih, hc, eq_comm (a := t)]
      | false => simp [ih, hc]

theorem truth_all_eq_yes_iff :
    v.truth (all cs) = .yes ↔ ∀ c ∈ cs, v.keeps c = true → v.truth c = .yes := by
  rw [truth, Truth.all_eq_yes_iff]
  simp only [mem_truths_iff]
  constructor
  · intro h c hc hkeeps
    exact h _ ⟨c, hc, hkeeps, rfl⟩
  · rintro h _ ⟨c, hc, hkeeps, rfl⟩
    exact h c hc hkeeps

theorem truth_any_eq_yes_iff :
    v.truth (any cs) = .yes ↔ ∃ c ∈ cs, v.keeps c = true ∧ v.truth c = .yes := by
  rw [truth, Truth.any_eq_yes_iff, mem_truths_iff]

theorem keeps_of_isEmpty_eq_false (h : c.isEmpty = false) : v.keeps c = true := by
  simp [keeps, h]

/-- Correlation drops no part of a condition from its reading. -/
theorem keeps_correlate {table correlation : String} :
    v.keeps (c.correlate table correlation) = v.keeps c := by
  rw [keeps, keeps, isEmpty_correlate]

/-- A conjunction without empty parts holds when all of them do. -/
theorem truth_conjunction_eq_yes_iff {run : List Condition} (hne : run ≠ [])
    (h : ∀ c ∈ run, c.isEmpty = false) :
    v.truth (conjunction run) = .yes ↔ ∀ c ∈ run, v.truth c = .yes := by
  rcases run with _ | ⟨c, _ | ⟨d, rest⟩⟩
  · exact absurd rfl hne
  · simp [conjunction]
  · rw [conjunction, truth_all_eq_yes_iff]
    · refine forall₂_congr fun e he => ?_
      simp [keeps_of_isEmpty_eq_false (h e he)]
    · simp

/-- A test on a column says what the valuation says about some test on the column. -/
theorem exists_truth_eq_of_column? {column : String} (h : c.column? = some column) :
    ∃ t, ∀ v : Valuation, v.truth c = v.test column t := by
  cases c with
  | compare column' op w => cases h; exact ⟨.compare op w, fun v => rfl⟩
  | nullness column' isNull => cases h; exact ⟨.nullness isNull, fun v => rfl⟩
  | membership column' ws negated => cases h; exact ⟨.membership ws negated, fun v => rfl⟩
  | range column' lower upper negated => cases h; exact ⟨.range lower upper negated, fun v => rfl⟩
  | all cs | any cs | existsRow t r c | always | never => cases h

/-- A condition that holds still does when its tests and subqueries hold of which this is known. -/
theorem truth_mono (c : Condition) (hskips : v.skips = w.skips)
    (htest : ∀ d column, Exposed d c → d.column? = some column →
      ∀ t, v.test column t = .yes → w.test column t = .yes)
    (hsubquery : ∀ t r d, Exposed (existsRow t r d) c →
      v.subquery t r d = .yes → w.subquery t r d = .yes)
    (h : v.truth c = .yes) : w.truth c = .yes := by
  have hkeeps (c : Condition) : v.keeps c = w.keeps c := by
    rw [keeps, keeps, hskips]
  induction c using memberInduction with
  | all cs ih =>
      rw [truth_all_eq_yes_iff] at h ⊢
      intro c hc hkept
      exact ih c hc (fun d column hd => htest d column (.all hc hd))
        (fun t r d hd => hsubquery t r d (.all hc hd)) (h c hc ((hkeeps c).trans hkept))
  | any cs ih =>
      rw [truth_any_eq_yes_iff] at h ⊢
      obtain ⟨c, hc, hkept, hyes⟩ := h
      exact ⟨c, hc, (hkeeps c).symm.trans hkept, ih c hc
        (fun d column hd => htest d column (.any hc hd))
        (fun t r d hd => hsubquery t r d (.any hc hd)) hyes⟩
  | existsRow t r c ih => exact hsubquery t r c .here h
  | test c column hcolumn =>
      obtain ⟨t, ht⟩ := exists_truth_eq_of_column? hcolumn
      rw [ht] at h ⊢
      exact htest c column .here hcolumn t h
  | always => rfl
  | never => exact h

/-- A condition without a test on the table says the same however such tests are read. -/
theorem truth_onTable_iff {table : String} (h : (touch table c).inside = false)
    (test : String → Test → Truth) : (v.onTable table test).truth c = .yes ↔ v.truth c = .yes := by
  have heq : ∀ d column, Exposed d c → d.column? = some column →
      ∀ t, (v.onTable table test).test column t = v.test column t := by
    intro d column hd hcolumn t
    apply if_neg
    intro hin
    have htouch : (touch table d).inside = true := by
      rw [touch_of_column? hcolumn]
      exact hin
    rw [hd.inside_touch htouch] at h
    cases h
  constructor
  · refine truth_mono c rfl (fun d column hd hcolumn t ht => ?_) fun _ _ _ _ => id
    rwa [heq d column hd hcolumn] at ht
  · refine truth_mono c rfl (fun d column hd hcolumn t ht => ?_) fun _ _ _ _ => id
    rwa [heq d column hd hcolumn]

end Valuation

namespace Outcomes

variable {ρ : Type u} {c : Condition} (o : Outcomes ρ)

/-- What one row passes, rows of their own pass. -/
theorem truth_independent_of_atRow {row : ρ} (hrow : row ∈ o.rows)
    (h : (o.atRow row).truth c = .yes) : o.independent.truth c = .yes := by
  have htest : ∀ column t, (o.atRow row).test column t = .yes →
      o.independent.test column t = .yes := by
    intro column t ht
    simp only [atRow, independent, Valuation.onTable] at ht ⊢
    cases hcolumn : Clause.isColumnOf o.table column with
    | true =>
        rw [if_pos hcolumn] at ht
        rw [if_pos rfl, Truth.ofBool_eq_yes_iff, List.any_eq_true]
        exact ⟨row, hrow, Truth.holds_iff.mpr ht⟩
    | false =>
        rw [hcolumn] at ht
        exact ht
  exact Valuation.truth_mono (v := o.atRow row) (w := o.independent) c rfl
    (fun _ column _ _ => htest column) (fun _ _ _ _ => id) h

/-- A condition without the mark is not read on the rows. -/
theorem truth_correlated_iff (h : c.IsUnmarked o.mark) :
    o.correlated.truth c = .yes ↔ o.entity.truth c = .yes := by
  have heq : ∀ t r d, Exposed (existsRow t r d) c →
      o.correlated.subquery t r d = o.entity.subquery t r d := by
    intro t r d hd
    apply if_neg
    rintro rfl
    exact h t d hd
  constructor
  · refine Valuation.truth_mono c rfl (fun _ _ _ _ _ => id) fun t r d hd hyes => ?_
    rwa [← heq t r d hd]
  · refine Valuation.truth_mono c rfl (fun _ _ _ _ _ => id) fun t r d hd hyes => ?_
    rwa [heq t r d hd]

/-- A subquery that correlation adds holds when some row passes it. -/
theorem truth_wrap_iff :
    o.correlated.truth (wrap o.table o.mark c) = .yes ↔
      ∃ row ∈ o.rows, (o.atRow row).truth c = .yes := by
  have hread : o.correlated.truth (wrap o.table o.mark c) =
      .ofBool (o.rows.any fun row => ((o.atRow row).truth c).holds) := if_pos rfl
  rw [hread, Truth.ofBool_eq_yes_iff, List.any_eq_true]
  simp only [Truth.holds_iff]

theorem truth_wrap_conjunction_iff {cs : List Condition}
    (h : ∃ c ∈ cs, isPure o.table c = true) :
    o.correlated.truth (wrap o.table o.mark (conjunction (cs.filter (isPure o.table)))) = .yes ↔
      ∃ row ∈ o.rows, ∀ c ∈ cs, isPure o.table c = true → (o.atRow row).truth c = .yes := by
  obtain ⟨c, hc, hpure⟩ := h
  have hne : cs.filter (isPure o.table) ≠ [] :=
    List.ne_nil_of_mem (List.mem_filter.mpr ⟨hc, hpure⟩)
  have hfull : ∀ c ∈ cs.filter (isPure o.table), c.isEmpty = false := fun c hc =>
    isEmpty_of_isPure (List.mem_filter.mp hc).2
  rw [truth_wrap_iff]
  simp only [Valuation.truth_conjunction_eq_yes_iff hne hfull, List.mem_filter, and_imp]

/-- No match is lost. -/
theorem truth_correlate_of_atRow {row : ρ} (hrow : row ∈ o.rows) (hunmarked : c.IsUnmarked o.mark)
    (h : (o.atRow row).truth c = .yes) :
    o.correlated.truth (c.correlate o.table o.mark) = .yes := by
  refine correlateInduction (motive := fun c d => c.IsUnmarked o.mark →
    (o.atRow row).truth c = .yes → o.correlated.truth d = .yes)
    ?moved ?kept ?all ?any c hunmarked h
  case moved =>
    intro c _ _ h
    exact o.truth_wrap_iff.mpr ⟨row, hrow, h⟩
  case kept =>
    intro c hin hunmarked h
    exact (o.truth_correlated_iff hunmarked).mpr ((Valuation.truth_onTable_iff hin _).mp h)
  case all =>
    intro cs _ ih hunmarked h
    rw [Valuation.truth_all_eq_yes_iff] at h ⊢
    intro d hd hkept
    rcases mem_gather_iff.mp hd with ⟨run, hrun, hsome, rfl⟩ | ⟨c, hc, -, rfl⟩
    · -- one row passes all tests that are gathered, since it passes every part
      cases hrun
      refine (o.truth_wrap_conjunction_iff hsome).mpr ⟨row, hrow, fun c hc hpure => ?_⟩
      exact h c hc (Valuation.keeps_of_isEmpty_eq_false (isEmpty_of_isPure hpure))
    · rw [Valuation.keeps_correlate] at hkept
      exact ih c hc (isUnmarked_all_iff.mp hunmarked c hc) (h c hc hkept)
  case any =>
    intro cs _ ih hunmarked h
    rw [Valuation.truth_any_eq_yes_iff] at h ⊢
    obtain ⟨c, hc, hkept, hyes⟩ := h
    exact ⟨_, List.mem_map_of_mem hc, Valuation.keeps_correlate.trans hkept,
      ih c hc (isUnmarked_any_iff.mp hunmarked c hc) hyes⟩

/-- No match is invented. -/
theorem truth_independent_of_correlate (hunmarked : c.IsUnmarked o.mark)
    (h : o.correlated.truth (c.correlate o.table o.mark) = .yes) :
    o.independent.truth c = .yes := by
  refine correlateInduction (motive := fun c d => c.IsUnmarked o.mark →
    o.correlated.truth d = .yes → o.independent.truth c = .yes)
    ?moved ?kept ?all ?any c hunmarked h
  case moved =>
    intro c _ _ h
    obtain ⟨row, hrow, hyes⟩ := o.truth_wrap_iff.mp h
    exact o.truth_independent_of_atRow hrow hyes
  case kept =>
    intro c hin hunmarked h
    exact (Valuation.truth_onTable_iff hin _).mpr ((o.truth_correlated_iff hunmarked).mp h)
  case all =>
    intro cs _ ih hunmarked h
    rw [Valuation.truth_all_eq_yes_iff] at h ⊢
    intro c hc hkept
    cases hpure : isPure o.table c with
    | true =>
        have hsome : ∃ c ∈ cs, isPure o.table c = true := ⟨c, hc, hpure⟩
        have hwrap := h _ (mem_gather_iff.mpr (.inl ⟨_, rfl, hsome, rfl⟩))
          (Valuation.keeps_of_isEmpty_eq_false rfl)
        obtain ⟨row, hrow, hyes⟩ := (o.truth_wrap_conjunction_iff hsome).mp hwrap
        exact o.truth_independent_of_atRow hrow (hyes c hc hpure)
    | false =>
        have hyes := h _ (mem_gather_iff.mpr (.inr ⟨c, hc, hpure, rfl⟩))
          (Valuation.keeps_correlate.trans hkept)
        exact ih c hc (isUnmarked_all_iff.mp hunmarked c hc) hyes
  case any =>
    intro cs _ ih hunmarked h
    rw [Valuation.truth_any_eq_yes_iff] at h ⊢
    obtain ⟨d, hd, hkept, hyes⟩ := h
    obtain ⟨c, hc, rfl⟩ := List.mem_map.mp hd
    exact ⟨c, hc, Valuation.keeps_correlate.symm.trans hkept,
      ih c hc (isUnmarked_any_iff.mp hunmarked c hc) hyes⟩

end Outcomes

/-- Correlation loses no match of a single row, and every match that it has is one where each test
on the table finds a row of its own. The subqueries that it adds are those with the mark, before the
correlation is put in its place. -/
theorem correlate_bounded (c : Condition) :
    (∃ mark, c.IsUnmarked mark) ∧
      ∀ {ρ : Type u} (o : Outcomes ρ) (correlation : String), c.IsUnmarked o.mark →
        (c.correlate o.table o.mark).mapCorrelation (unmark o.mark correlation) =
            c.correlate o.table correlation ∧
          ((∃ row ∈ o.rows, (o.atRow row).truth c = .yes) →
            o.correlated.truth (c.correlate o.table o.mark) = .yes) ∧
          (o.correlated.truth (c.correlate o.table o.mark) = .yes →
            o.independent.truth c = .yes) := by
  refine ⟨exists_isUnmarked c, fun o correlation hunmarked => ?_⟩
  refine ⟨mapCorrelation_correlate_mark hunmarked, ?_, ?_⟩
  · rintro ⟨row, hrow, h⟩
    exact o.truth_correlate_of_atRow hrow hunmarked h
  · intro h
    exact o.truth_independent_of_correlate hunmarked h

/-- A circle and a red square, of an entity with a title. Its subqueries on shapes are unknown, other
ones hold, and empty parts are not left out. -/
def Outcomes.circleAndSquare : Outcomes (List (String × String)) where
  table := "shapes"
  mark := "added"
  entity :=
    { skips := false
      test := (Interpretation.ofTexts []).truth [("entries.title", "A")] []
      subquery := fun table _ _ => if table = "shapes" then .unknown else .yes }
  rows := [[("shapes.form", "circle")], [("shapes.form", "square"), ("shapes.color", "red")]]
  test row := (Interpretation.ofTexts []).truth [] [row]

/-- A square under a title or by an author, and red; or a circle that is a subquery already. There
are parts beside them that nothing passes. -/
def redSquareOrCircle : Condition :=
  .any
    [.all
      [.compare "shapes.form" .equal (.string "square"),
        .any
          [.all [.compare "entries.title" .equal (.string "B"),
              .nullness "shapes.color" false],
            .existsRow "authors" "authors.id = entries.author_id"
              (.compare "authors.name" .equal (.string "C"))],
        .all [],
        .compare "shapes.color" .equal (.string "red")],
      .existsRow "shapes" "shapes.owner = entries.id"
        (.compare "shapes.form" .equal (.string "circle")),
      .any [],
      .all [.never, .compare "shapes.form" .equal (.string "circle")]]

/-- The condition meets both bounds although its own subquery on shapes is unknown. -/
theorem correlate_bounded_redSquareOrCircle :
    redSquareOrCircle.IsUnmarked Outcomes.circleAndSquare.mark ∧
      (redSquareOrCircle.correlate "shapes" "added").mapCorrelation
          (unmark "added" "shapes.owner = entries.id") =
        redSquareOrCircle.correlate "shapes" "shapes.owner = entries.id" ∧
      Outcomes.circleAndSquare.correlated.truth
        (redSquareOrCircle.correlate "shapes" "added") = .yes ∧
      Outcomes.circleAndSquare.independent.truth redSquareOrCircle = .yes := by
  have hunmarked : redSquareOrCircle.IsUnmarked Outcomes.circleAndSquare.mark := by
    simp only [redSquareOrCircle, isUnmarked_all_iff, isUnmarked_any_iff,
      isUnmarked_existsRow_iff, List.forall_mem_cons, List.not_mem_nil, false_implies,
      implies_true, and_true, true_and, isUnmarked_never]
    have htest {c : Condition} {column : String} (h : c.column? = some column) :
        c.IsUnmarked "added" := isUnmarked_of_column? h
    exact ⟨⟨htest rfl, ⟨⟨htest rfl, htest rfl⟩, by decide⟩, htest rfl⟩, by decide, htest rfl⟩
  have hrow : ∃ row ∈ Outcomes.circleAndSquare.rows,
      (Outcomes.circleAndSquare.atRow row).truth redSquareOrCircle = .yes :=
    ⟨_, List.mem_cons_of_mem _ (List.mem_cons_self ..), by decide⟩
  obtain ⟨hsame, hkept, hfound⟩ := (correlate_bounded redSquareOrCircle).2
    Outcomes.circleAndSquare "shapes.owner = entries.id" hunmarked
  exact ⟨hunmarked, hsame, hkept hrow, hfound (hkept hrow)⟩

end FilterQuery.Condition
