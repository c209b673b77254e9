import FilterQuery.Scope
import FilterQuery.Proofs.Condition.Meaning
import FilterQuery.Proofs.Identifier

/-!
# The test of a predicate

A predicate on a column asks for a test once its value fits. Its condition is the condition of that
test, provided that the column reads as an identifier; the text of the column is kept as it is.
-/

namespace FilterQuery

namespace Predicate

/-- The test that a predicate asks for, if its value fits. -/
def test : Predicate → Except Error Test
  | compare op value =>
    if op.isComparison then .ok (.compare op value)
    else .error (.invalidValue op .notComparison)
  | membership negated values =>
    match values.elements? with
    | some vs => .ok (.membership vs negated)
    | none => .error (.invalidValue (if negated then .notInList else .inList) .notArray)
  | range negated bounds =>
    match bounds.elements? with
    | some [lower, upper] => .ok (.range lower upper negated)
    | _ => .error (.invalidValue (if negated then .notBetween else .between) .notPair)
  | nullness isNull => .ok (.nullness isNull)

theorem test_membership_of_not_array {value : Json} (h : ¬∃ elements, value = .array elements)
    (negated : Bool) :
    (membership negated value).test =
      .error (.invalidValue (if negated then .notInList else .inList) .notArray) := by
  cases value with
  | array elements => exact absurd ⟨elements, rfl⟩ h
  | null => rfl
  | boolean b => rfl
  | number n => rfl
  | string text => rfl
  | object members => rfl

theorem test_range_of_not_pair {value : Json} (h : ¬∃ lower upper, value = .array [lower, upper])
    (negated : Bool) :
    (range negated value).test =
      .error (.invalidValue (if negated then .notBetween else .between) .notPair) := by
  cases value with
  | array elements =>
      rcases elements with _ | ⟨lower, _ | ⟨upper, _ | ⟨extra, rest⟩⟩⟩
      · rfl
      · rfl
      · exact absurd ⟨lower, upper, rfl⟩ h
      · rfl
  | null => rfl
  | boolean b => rfl
  | number n => rfl
  | string text => rfl
  | object members => rfl

theorem test_membership_eq_ok_iff {negated : Bool} {value : Json} {t : Test} :
    (membership negated value).test = .ok t ↔
      ∃ elements, value = .array elements ∧ t = .membership elements negated := by
  constructor
  · intro h
    by_cases harray : ∃ elements, value = .array elements
    · obtain ⟨elements, rfl⟩ := harray
      cases h
      exact ⟨elements, rfl, rfl⟩
    · rw [test_membership_of_not_array harray] at h
      cases h
  · rintro ⟨elements, rfl, rfl⟩
    rfl

theorem test_range_eq_ok_iff {negated : Bool} {value : Json} {t : Test} :
    (range negated value).test = .ok t ↔
      ∃ lower upper, value = .array [lower, upper] ∧ t = .range lower upper negated := by
  constructor
  · intro h
    by_cases hpair : ∃ lower upper, value = .array [lower, upper]
    · obtain ⟨lower, upper, rfl⟩ := hpair
      cases h
      exact ⟨lower, upper, rfl, rfl⟩
    · rw [test_range_of_not_pair hpair] at h
      cases h
  · rintro ⟨lower, upper, rfl, rfl⟩
    rfl

theorem toCondition_eq (column : String) (p : Predicate) :
    p.toCondition column = p.test.map (Condition.ofTest column) := by
  cases p with
  | compare op value =>
      rw [toCondition, test]
      cases op.isComparison with
      | false => rfl
      | true => rfl
  | membership negated values =>
      rw [toCondition, test]
      cases values.elements? with
      | none => rfl
      | some vs => rfl
  | range negated bounds =>
      rw [toCondition.eq_def, test.eq_def]
      dsimp only
      rcases bounds.elements? with _ | ⟨_ | ⟨lower, _ | ⟨upper, _ | ⟨extra, rest⟩⟩⟩⟩
      all_goals rfl
  | nullness isNull => rfl

/-- The condition of a predicate on a column that reads as an identifier is that of its test. -/
theorem condition_of_isText {column : String} (h : Identifier.IsText column) (p : Predicate) :
    p.condition column = p.test.map (Condition.ofTest column) := by
  obtain ⟨i, hi⟩ := h
  have hsql : i.sql = column := (Identifier.sql_of_parse hi).1
  rw [condition, hi]
  change p.toCondition i.sql = _
  rw [hsql, toCondition_eq]

theorem condition_eq_ok_iff {column : String} {p : Predicate} {c : Condition} :
    p.condition column = .ok c ↔
      Identifier.IsText column ∧ ∃ t, p.test = .ok t ∧ Condition.ofTest column t = c := by
  constructor
  · intro h
    have hcolumn : Identifier.IsText column := by
      obtain ⟨i, hi, -⟩ := Outcome.bind_eq_ok_iff.mp h
      exact ⟨i, hi⟩
    rw [condition_of_isText hcolumn] at h
    exact ⟨hcolumn, Outcome.map_eq_ok_iff.mp h⟩
  · rintro ⟨hcolumn, htest⟩
    rw [condition_of_isText hcolumn]
    exact Outcome.map_eq_ok_iff.mpr htest

end Predicate

/-- The test that an operator and a value stand for. -/
def Test.ofOperator (operator : Operator) (value : Json) : Except Error Test :=
  (Predicate.ofOperator operator value).test

/-- What an operator means with a value: membership takes an array and a range one of two elements,
a null check takes any value and leaves it out, and the other operators compare with the value. -/
inductive Test.Means : Operator → Json → Test → Prop
  | comparison {op : Operator} {value : Json} (hop : op.isComparison = true) :
      Means op value (.compare op value)
  | inList {vs : List Json} : Means .inList (.array vs) (.membership vs false)
  | notInList {vs : List Json} : Means .notInList (.array vs) (.membership vs true)
  | between {lower upper : Json} :
      Means .between (.array [lower, upper]) (.range lower upper false)
  | notBetween {lower upper : Json} :
      Means .notBetween (.array [lower, upper]) (.range lower upper true)
  | isNull {value : Json} : Means .isNull value (.nullness true)
  | isNotNull {value : Json} : Means .isNotNull value (.nullness false)

theorem Test.ofOperator_eq_ok_iff {op : Operator} {value : Json} {t : Test} :
    ofOperator op value = .ok t ↔ Means op value t := by
  constructor
  · intro h
    rw [ofOperator] at h
    cases op with
    | inList =>
        obtain ⟨vs, rfl, rfl⟩ := Predicate.test_membership_eq_ok_iff.mp h
        exact .inList
    | notInList =>
        obtain ⟨vs, rfl, rfl⟩ := Predicate.test_membership_eq_ok_iff.mp h
        exact .notInList
    | between =>
        obtain ⟨lower, upper, rfl, rfl⟩ := Predicate.test_range_eq_ok_iff.mp h
        exact .between
    | notBetween =>
        obtain ⟨lower, upper, rfl, rfl⟩ := Predicate.test_range_eq_ok_iff.mp h
        exact .notBetween
    | isNull =>
        cases h
        exact .isNull
    | isNotNull =>
        cases h
        exact .isNotNull
    | _ =>
        cases h
        exact .comparison rfl
  · intro h
    cases h with
    | comparison hop =>
        cases op with
        | inList | notInList | between | notBetween | isNull | isNotNull => cases hop
        | _ => rfl
    | _ => rfl

end FilterQuery
