import FilterQuery.Condition.Correlate
import FilterQuery.Proofs.Condition.Chain

/-!
# What correlation looks at

The touch of a condition only depends on the columns below it, so the condition of a chain touches
what the elements of the chain touch together. A condition without tests on the table stays as it
is, and one with nothing but such tests is wrapped as a whole.
-/

namespace FilterQuery.Condition

namespace Touch

@[simp] theorem union_none (t : Touch) : t.union none = t := by
  cases t with
  | mk inside outside => simp [union, none]

theorem union_assoc (a b c : Touch) : (a.union b).union c = a.union (b.union c) := by
  simp [union, Bool.or_assoc]

end Touch

variable {table correlation : String}

/-- A constant touches nothing; any other test touches its column. -/
theorem touch_ofTest (column : String) (t : Test) :
    touch table (ofTest column t) =
      if t.constant?.isSome then .none else .ofColumn table column := by
  cases t with
  | membership vs negated => cases vs <;> cases negated <;> rfl
  | compare op v => rfl
  | nullness isNull => rfl
  | range lower upper negated => rfl

@[simp] theorem touchAll_append (cs ds : List Condition) :
    touchAll table (cs ++ ds) = (touchAll table cs).union (touchAll table ds) := by
  induction cs with
  | nil => rfl
  | cons c cs ih => rw [List.cons_append, touchAll, touchAll, ih, Touch.union_assoc]

theorem inside_touchAll_iff {cs : List Condition} :
    (touchAll table cs).inside = true ↔ ∃ c ∈ cs, (touch table c).inside = true := by
  induction cs with
  | nil => simp [touchAll, Touch.none]
  | cons c cs ih => simp [touchAll, Touch.union, ih]

theorem outside_touchAll_iff {cs : List Condition} :
    (touchAll table cs).outside = true ↔ ∃ c ∈ cs, (touch table c).outside = true := by
  induction cs with
  | nil => simp [touchAll, Touch.none]
  | cons c cs ih => simp [touchAll, Touch.union, ih]

theorem touch_conjunction (run : List Condition) :
    touch table (conjunction run) = touchAll table run := by
  cases run with
  | nil => rfl
  | cons c rest =>
      cases rest with
      | nil => exact (Touch.union_none _).symm
      | cons d rest => rfl

theorem touchAll_map_conjunction (runs : List (List Condition)) :
    touchAll table (runs.map conjunction) = touchAll table runs.flatten := by
  induction runs with
  | nil => rfl
  | cons run runs ih =>
      rw [List.map_cons, touchAll, touch_conjunction, ih, List.flatten_cons, touchAll_append]

/-- The condition of a chain touches what its elements touch. -/
theorem touch_of_ofChain {chain : List (Connective × Condition)} {c : Condition}
    (h : ofChain chain = some c) : touch table c = touchAll table (chain.map (·.2)) := by
  rw [← flatten_runs]
  rcases eq_of_ofChain h with ⟨run, hruns, rfl⟩ | ⟨-, rfl⟩
  · rw [touch_conjunction, hruns]
    simp
  · rw [touch, touchAll_map_conjunction]

/-- Without a test on the table there is nothing to move. -/
theorem correlate_of_inside_eq_false {c : Condition} (h : (touch table c).inside = false) :
    correlate table correlation c = c := by
  have hpure : isPure table c = false := by simp [isPure, Touch.isPure, h]
  cases c with
  | all cs =>
      have hmixed : (touchAll table cs).isMixed = false := by
        rw [touch] at h
        simp [Touch.isMixed, h]
      simp [correlate, hpure, hmixed]
  | any cs =>
      have hmixed : (touchAll table cs).isMixed = false := by
        rw [touch] at h
        simp [Touch.isMixed, h]
      simp [correlate, hpure, hmixed]
  | compare column op v => simp [correlate, hpure]
  | nullness column isNull => simp [correlate, hpure]
  | membership column vs negated => simp [correlate, hpure]
  | range column lower upper negated => simp [correlate, hpure]
  | existsRow table' correlation' c => simp [correlate, hpure]
  | always => simp [correlate, hpure]
  | never => simp [correlate, hpure]

/-- With nothing but tests on the table all of the condition moves. -/
theorem correlate_of_isPure {c : Condition} (h : isPure table c = true) :
    correlate table correlation c = wrap table correlation c := by
  cases c with
  | all cs => simp [correlate, h]
  | any cs => simp [correlate, h]
  | compare column op v => simp [correlate, h]
  | nullness column isNull => simp [correlate, h]
  | membership column vs negated => simp [correlate, h]
  | range column lower upper negated => simp [correlate, h]
  | existsRow table' correlation' c => simp [correlate, h]
  | always => simp [correlate, h]
  | never => simp [correlate, h]

/-- What is neither pure nor mixed has no test on the table. -/
theorem Touch.inside_eq_false {t : Touch} (hpure : t.isPure = false) (hmixed : t.isMixed = false) :
    t.inside = false := by
  cases t with
  | mk inside outside =>
      cases inside with
      | false => rfl
      | true => cases outside <;> simp [isPure, isMixed] at hpure hmixed

theorem isPure_eq_false_of_isMixed {cs : List Condition}
    (h : (touchAll table cs).isMixed = true) :
    isPure table (all cs) = false ∧ isPure table (any cs) = false := by
  obtain ⟨-, hout⟩ := Bool.and_eq_true_iff.mp h
  simp [isPure, touch, Touch.isPure, hout]

theorem inside_touch_ite_wrap {c : Condition} {column : String}
    (h : touch table c = .ofColumn table column) :
    (touch table (if isPure table c then wrap table correlation c else c)).inside = false := by
  split
  · rfl
  · next hpure =>
    rw [isPure, h] at hpure
    rw [h]
    simpa [Touch.ofColumn, Touch.isPure] using hpure

mutual

/-- No test on the table stays outside of a subquery. -/
theorem inside_touch_correlate : (c : Condition) →
    (touch table (correlate table correlation c)).inside = false
  | .any cs => by
      rw [correlate]
      split
      · rfl
      · next hpure =>
        split
        · exact inside_touchAll_correlateAll cs
        · next hmixed =>
          exact Touch.inside_eq_false (Bool.eq_false_iff.mpr hpure) (Bool.eq_false_iff.mpr hmixed)
  | .all cs => by
      rw [correlate]
      split
      · rfl
      · next hpure =>
        split
        · exact inside_touchAll_gather _ cs
        · next hmixed =>
          exact Touch.inside_eq_false (Bool.eq_false_iff.mpr hpure) (Bool.eq_false_iff.mpr hmixed)
  | .compare .. | .nullness .. | .membership .. | .range .. => by
      rw [correlate]
      · exact inside_touch_ite_wrap rfl
      all_goals simp
  | .existsRow .. => rfl
  | .always => rfl
  | .never => rfl

theorem inside_touchAll_correlateAll : (cs : List Condition) →
    (touchAll table (correlateAll table correlation cs)).inside = false
  | [] => rfl
  | c :: rest => by
      rw [correlateAll, touchAll]
      simp [Touch.union, inside_touch_correlate c, inside_touchAll_correlateAll rest]

theorem inside_touchAll_gather : (pending : Option Condition) → (cs : List Condition) →
    (touchAll table (gather table correlation pending cs)).inside = false
  | _, [] => rfl
  | pending, c :: rest => by
      rw [gather]
      split
      · cases pending with
        | none => exact inside_touchAll_gather none rest
        | some d => exact inside_touchAll_gather none rest
      · rw [touchAll]
        simp [Touch.union, inside_touch_correlate c, inside_touchAll_gather pending rest]

end

/-- A condition that has been correlated stays as it is, whatever the second correlation says. -/
theorem correlate_correlate (table correlation correlation' : String) (c : Condition) :
    correlate table correlation' (correlate table correlation c) =
      correlate table correlation c :=
  correlate_of_inside_eq_false (inside_touch_correlate c)

mutual

theorem touch_of_isEmpty : (c : Condition) → c.isEmpty = true → touch table c = .none
  | .all cs, h | .any cs, h => touchAll_of_areEmpty cs h

theorem touchAll_of_areEmpty : (cs : List Condition) → areEmpty cs = true →
    touchAll table cs = .none
  | [], _ => rfl
  | c :: rest, h => by
      obtain ⟨hc, hrest⟩ := Bool.and_eq_true_iff.mp h
      rw [touchAll, touch_of_isEmpty c hc, touchAll_of_areEmpty rest hrest]
      rfl

end

theorem isEmpty_of_isPure {c : Condition} (h : isPure table c = true) : c.isEmpty = false := by
  apply Bool.eq_false_iff.mpr
  intro hempty
  rw [isPure, touch_of_isEmpty c hempty] at h
  cases h

mutual

/-- Correlation neither empties a condition nor fills an empty one. -/
theorem isEmpty_correlate : (c : Condition) →
    (correlate table correlation c).isEmpty = c.isEmpty
  | .any cs => by
      rw [correlate]
      split
      · next hpure => rw [isEmpty_of_isPure hpure]; rfl
      · split
        · exact areEmpty_correlateAll cs
        · rfl
  | .all cs => by
      rw [correlate]
      split
      · next hpure => rw [isEmpty_of_isPure hpure]; rfl
      · split
        · exact areEmpty_gather _ cs
        · rfl
  | .compare .. | .nullness .. | .membership .. | .range .. => by
      rw [correlate]
      · split <;> rfl
      all_goals simp
  | .existsRow .. => rfl
  | .always => rfl
  | .never => rfl

theorem areEmpty_correlateAll : (cs : List Condition) →
    areEmpty (correlateAll table correlation cs) = areEmpty cs
  | [] => rfl
  | c :: rest => by
      rw [correlateAll, areEmpty, areEmpty, isEmpty_correlate c, areEmpty_correlateAll rest]

theorem areEmpty_gather (pending : Condition) : (cs : List Condition) →
    areEmpty (gather table correlation (some pending) cs) = areEmpty cs
  | [] => rfl
  | c :: rest => by
      rw [gather]
      split
      · next hpure => rw [areEmpty, isEmpty_of_isPure hpure]; rfl
      · rw [areEmpty, areEmpty, isEmpty_correlate c, areEmpty_gather pending rest]

end

/-- A conjunction of conditions on the table alone is one of them. -/
theorem isPure_conjunction_filter {cs : List Condition} (h : ∃ c ∈ cs, isPure table c = true) :
    isPure table (conjunction (cs.filter (isPure table))) = true := by
  obtain ⟨c, hc, hpure⟩ := h
  have hin : (touchAll table (cs.filter (isPure table))).inside = true :=
    inside_touchAll_iff.mpr
      ⟨c, List.mem_filter.mpr ⟨hc, hpure⟩, (Bool.and_eq_true_iff.mp hpure).1⟩
  have hout : (touchAll table (cs.filter (isPure table))).outside = false := by
    apply Bool.eq_false_iff.mpr
    intro hout
    obtain ⟨d, hd, hother⟩ := outside_touchAll_iff.mp hout
    have hdpure := (List.mem_filter.mp hd).2
    simp [isPure, Touch.isPure, hother] at hdpure
  simp [isPure, touch_conjunction, Touch.isPure, hin, hout]

/-- What stands in a gathered list: the pending subquery if there is a place for it, and the
conditions that are not on the table alone, correlated by themselves. -/
theorem mem_gather_iff {pending : Option Condition} {cs : List Condition} {d : Condition} :
    d ∈ gather table correlation pending cs ↔
      (∃ p, pending = some p ∧ (∃ c ∈ cs, isPure table c = true) ∧ d = wrap table correlation p) ∨
        ∃ c ∈ cs, isPure table c = false ∧ d = correlate table correlation c := by
  induction cs generalizing pending with
  | nil => simp [gather]
  | cons c rest ih =>
      rw [gather]
      cases hpure : isPure table c with
      | true =>
          rw [if_pos rfl, List.mem_append, ih]
          cases pending with
          | none => simp [hpure]
          | some p => simp [hpure]
      | false =>
          rw [if_neg Bool.false_ne_true, List.mem_cons, ih]
          simp [hpure, or_left_comm]

theorem correlateAll_eq_map (cs : List Condition) :
    correlateAll table correlation cs = cs.map (correlate table correlation) := by
  induction cs with
  | nil => rfl
  | cons c rest ih => rw [correlateAll, ih, List.map_cons]

end FilterQuery.Condition
