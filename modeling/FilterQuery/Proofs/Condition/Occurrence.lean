import FilterQuery.Proofs.Condition.Correlation
import FilterQuery.Proofs.Condition.Subqueries

/-!
# Where a condition stands in another one

A condition occurs in another one at any depth, inside of subqueries too. It is exposed there if it
can be reached without entering a subquery. What a condition touches is decided by its exposed tests
and subqueries; `isPure_iff_isRowTest` states what this means for a condition that is about to move
into a subquery.
-/

namespace FilterQuery.Condition

variable {table correlation : String}

/-- Induction on conditions, with the hypothesis for every member of a list. -/
@[elab_as_elim]
theorem memberInduction {motive : Condition → Prop}
    (all : ∀ cs, (∀ c ∈ cs, motive c) → motive (.all cs))
    (any : ∀ cs, (∀ c ∈ cs, motive c) → motive (.any cs))
    (existsRow : ∀ t r c, motive c → motive (.existsRow t r c))
    (test : ∀ c column, c.column? = some column → motive c)
    (always : motive .always) (never : motive .never) : (c : Condition) → motive c
  | .all cs => all cs fun c _ => memberInduction all any existsRow test always never c
  | .any cs => any cs fun c _ => memberInduction all any existsRow test always never c
  | .existsRow t r c => existsRow t r c (memberInduction all any existsRow test always never c)
  | .compare column op v => test (.compare column op v) column rfl
  | .nullness column isNull => test (.nullness column isNull) column rfl
  | .membership column vs negated => test (.membership column vs negated) column rfl
  | .range column lower upper negated => test (.range column lower upper negated) column rfl
  | .always => always
  | .never => never

theorem touch_of_column? {c : Condition} {column : String} (h : c.column? = some column) :
    touch table c = .ofColumn table column := by
  cases c with
  | all cs => cases h
  | any cs => cases h
  | existsRow table' correlation c => cases h
  | always => cases h
  | never => cases h
  | compare column' op v => cases h; rfl
  | nullness column' isNull => cases h; rfl
  | membership column' vs negated => cases h; rfl
  | range column' lower upper negated => cases h; rfl

/-- Induction on what correlation does: it moves a condition on the table alone, keeps one without a
test on the table, and takes any other one apart. -/
theorem correlateInduction {motive : Condition → Condition → Prop}
    (moved : ∀ c, isPure table c = true → motive c (wrap table correlation c))
    (kept : ∀ c, (touch table c).inside = false → motive c c)
    (all : ∀ cs, (touchAll table cs).isMixed = true →
      (∀ c ∈ cs, motive c (correlate table correlation c)) →
      motive (.all cs) (.all (gather table correlation
        (some (conjunction (cs.filter (isPure table)))) cs)))
    (any : ∀ cs, (touchAll table cs).isMixed = true →
      (∀ c ∈ cs, motive c (correlate table correlation c)) →
      motive (.any cs) (.any (cs.map (correlate table correlation))))
    (c : Condition) : motive c (correlate table correlation c) := by
  have huntouched (c : Condition) (hin : (touch table c).inside = false) :
      motive c (correlate table correlation c) := by
    rw [correlate_of_inside_eq_false hin]
    exact kept c hin
  have hmoved (c : Condition) (hpure : isPure table c = true) :
      motive c (correlate table correlation c) := by
    rw [correlate_of_isPure hpure]
    exact moved c hpure
  induction c using memberInduction with
  | all cs ih =>
      cases hpure : isPure table (.all cs) with
      | true => exact hmoved _ hpure
      | false =>
          cases hmixed : (touchAll table cs).isMixed with
          | true =>
              rw [correlate, hpure, if_neg Bool.false_ne_true, if_pos hmixed]
              exact all cs hmixed ih
          | false => exact huntouched _ (Touch.inside_eq_false hpure hmixed)
  | any cs ih =>
      cases hpure : isPure table (.any cs) with
      | true => exact hmoved _ hpure
      | false =>
          cases hmixed : (touchAll table cs).isMixed with
          | true =>
              rw [correlate, hpure, if_neg Bool.false_ne_true, if_pos hmixed, correlateAll_eq_map]
              exact any cs hmixed ih
          | false => exact huntouched _ (Touch.inside_eq_false hpure hmixed)
  | existsRow t r c ih => exact huntouched _ rfl
  | test c column hcolumn =>
      have htouch : touch table c = .ofColumn table column := touch_of_column? hcolumn
      cases hin : Clause.isColumnOf table column with
      | true => exact hmoved c (by simp [isPure, htouch, Touch.ofColumn, Touch.isPure, hin])
      | false => exact huntouched c (by simp [htouch, Touch.ofColumn, hin])
  | always => exact huntouched _ rfl
  | never => exact huntouched _ rfl

/-- The condition stands somewhere in another one. -/
inductive Occurs (d : Condition) : Condition → Prop
  | here : Occurs d d
  | all {cs : List Condition} {c : Condition} (mem : c ∈ cs) (below : Occurs d c) :
      Occurs d (all cs)
  | any {cs : List Condition} {c : Condition} (mem : c ∈ cs) (below : Occurs d c) :
      Occurs d (any cs)
  | subquery {table correlation : String} {c : Condition} (below : Occurs d c) :
      Occurs d (existsRow table correlation c)

/-- The condition stands in another one outside of all subqueries. -/
inductive Exposed (d : Condition) : Condition → Prop
  | here : Exposed d d
  | all {cs : List Condition} {c : Condition} (mem : c ∈ cs) (below : Exposed d c) :
      Exposed d (all cs)
  | any {cs : List Condition} {c : Condition} (mem : c ∈ cs) (below : Exposed d c) :
      Exposed d (any cs)

/-- The condition is a test on a column of the table. -/
def IsTestOn (table : String) (d : Condition) : Prop :=
  ∃ column rest : String, d.column? = some column ∧ column = table ++ "." ++ rest

/-- The condition is a test on a column that is none of the table. -/
def IsTestOff (table : String) (d : Condition) : Prop :=
  ∃ column : String, d.column? = some column ∧ ∀ rest : String, column ≠ table ++ "." ++ rest

/-- The condition is a subquery. -/
def IsSubquery (d : Condition) : Prop := ∃ table correlation c, d = existsRow table correlation c

/-- A condition on a row of the table: it tests some column of the table and no other column, and
has no subquery. -/
structure IsRowTest (table : String) (c : Condition) : Prop where
  tested : ∃ d, Occurs d c ∧ d.IsTestOn table
  only : ∀ d, Occurs d c → ¬d.IsTestOff table
  flat : ∀ d, Occurs d c → ¬d.IsSubquery

theorem Exposed.occurs {d c : Condition} (h : Exposed d c) : Occurs d c := by
  induction h with
  | here => exact .here
  | all mem _ ih => exact .all mem ih
  | any mem _ ih => exact .any mem ih

theorem inside_touch_of_isTestOn {d : Condition} (h : d.IsTestOn table) :
    (touch table d).inside = true := by
  obtain ⟨column, rest, hcolumn, hrest⟩ := h
  rw [touch_of_column? hcolumn]
  exact Clause.isColumnOf_iff.mpr ⟨rest, hrest⟩

theorem outside_touch_of_isTestOff {d : Condition} (h : d.IsTestOff table) :
    (touch table d).outside = true := by
  obtain ⟨column, hcolumn, hother⟩ := h
  rw [touch_of_column? hcolumn]
  have hout : Clause.isColumnOf table column = false := by
    apply Bool.eq_false_iff.mpr
    intro hin
    obtain ⟨rest, hrest⟩ := Clause.isColumnOf_iff.mp hin
    exact hother rest hrest
  simp [Touch.ofColumn, hout]

theorem outside_touch_of_isSubquery {d : Condition} (h : d.IsSubquery) :
    (touch table d).outside = true := by
  obtain ⟨table', correlation, c, rfl⟩ := h
  rfl

/-- What is exposed in a condition is touched by it. -/
theorem Exposed.inside_touch {d c : Condition} (h : Exposed d c)
    (hd : (touch table d).inside = true) : (touch table c).inside = true := by
  induction h with
  | here => exact hd
  | all mem _ ih => exact inside_touchAll_iff.mpr ⟨_, mem, ih⟩
  | any mem _ ih => exact inside_touchAll_iff.mpr ⟨_, mem, ih⟩

theorem Exposed.outside_touch {d c : Condition} (h : Exposed d c)
    (hd : (touch table d).outside = true) : (touch table c).outside = true := by
  induction h with
  | here => exact hd
  | all mem _ ih => exact outside_touchAll_iff.mpr ⟨_, mem, ih⟩
  | any mem _ ih => exact outside_touchAll_iff.mpr ⟨_, mem, ih⟩

/-- A condition that touches the table has an exposed test on it. -/
theorem exists_exposed_of_inside_touch (c : Condition) (h : (touch table c).inside = true) :
    ∃ d, Exposed d c ∧ d.IsTestOn table := by
  induction c using memberInduction with
  | all cs ih =>
      obtain ⟨c, hc, hin⟩ := inside_touchAll_iff.mp h
      obtain ⟨d, hd, htest⟩ := ih c hc hin
      exact ⟨d, .all hc hd, htest⟩
  | any cs ih =>
      obtain ⟨c, hc, hin⟩ := inside_touchAll_iff.mp h
      obtain ⟨d, hd, htest⟩ := ih c hc hin
      exact ⟨d, .any hc hd, htest⟩
  | existsRow table' correlation c ih => cases h
  | test c column hcolumn =>
      rw [touch_of_column? hcolumn] at h
      obtain ⟨rest, hrest⟩ := Clause.isColumnOf_iff.mp h
      exact ⟨c, .here, column, rest, hcolumn, hrest⟩
  | always => cases h
  | never => cases h

/-- A condition that touches something else has an exposed test on another column or an exposed
subquery. -/
theorem exists_exposed_of_outside_touch (c : Condition) (h : (touch table c).outside = true) :
    ∃ d, Exposed d c ∧ (d.IsTestOff table ∨ d.IsSubquery) := by
  induction c using memberInduction with
  | all cs ih =>
      obtain ⟨c, hc, hout⟩ := outside_touchAll_iff.mp h
      obtain ⟨d, hd, hother⟩ := ih c hc hout
      exact ⟨d, .all hc hd, hother⟩
  | any cs ih =>
      obtain ⟨c, hc, hout⟩ := outside_touchAll_iff.mp h
      obtain ⟨d, hd, hother⟩ := ih c hc hout
      exact ⟨d, .any hc hd, hother⟩
  | existsRow table' correlation c ih => exact ⟨_, .here, .inr ⟨table', correlation, c, rfl⟩⟩
  | test c column hcolumn =>
      rw [touch_of_column? hcolumn] at h
      refine ⟨c, .here, .inl ⟨column, hcolumn, ?_⟩⟩
      intro rest hrest
      have hin : Clause.isColumnOf table column = true := Clause.isColumnOf_iff.mpr ⟨rest, hrest⟩
      simp [Touch.ofColumn, hin] at h
  | always => cases h
  | never => cases h

/-- Where nothing but the table is touched there is no subquery to enter. -/
theorem Occurs.exposed {d c : Condition} (h : Occurs d c) (hc : (touch table c).outside = false) :
    Exposed d c := by
  have hmember : ∀ {cs : List Condition} {c : Condition}, c ∈ cs →
      (touchAll table cs).outside = false → (touch table c).outside = false := by
    intro cs c mem hcs
    apply Bool.eq_false_iff.mpr
    intro hout
    rw [outside_touchAll_iff.mpr ⟨c, mem, hout⟩] at hcs
    cases hcs
  induction h with
  | here => exact .here
  | all mem _ ih => exact .all mem (ih (hmember mem hc))
  | any mem _ ih => exact .any mem (ih (hmember mem hc))
  | subquery below ih => cases hc

/-- Correlation moves exactly the conditions on a row of the table. -/
theorem isPure_iff_isRowTest {c : Condition} : isPure table c = true ↔ c.IsRowTest table := by
  rw [isPure, Touch.isPure, Bool.and_eq_true, Bool.not_eq_true']
  constructor
  · rintro ⟨hin, hout⟩
    obtain ⟨d, hd, htest⟩ := exists_exposed_of_inside_touch c hin
    have hnone : ∀ d, Occurs d c → (touch table d).outside ≠ true := by
      intro d hd hother
      rw [(hd.exposed hout).outside_touch hother] at hout
      cases hout
    exact
      { tested := ⟨d, hd.occurs, htest⟩
        only := fun d hd hother => hnone d hd (outside_touch_of_isTestOff hother)
        flat := fun d hd hsub => hnone d hd (outside_touch_of_isSubquery hsub) }
  · intro h
    have hout : (touch table c).outside = false := by
      apply Bool.eq_false_iff.mpr
      intro hout
      obtain ⟨d, hd, hother | hsub⟩ := exists_exposed_of_outside_touch c hout
      · exact h.only d hd.occurs hother
      · exact h.flat d hd.occurs hsub
    obtain ⟨d, hd, htest⟩ := h.tested
    exact ⟨(hd.exposed hout).inside_touch (inside_touch_of_isTestOn htest), hout⟩

end FilterQuery.Condition
