import FilterQuery.Proofs.Condition.Collection

/-!
# Subqueries of a condition

A condition is searched for its subqueries and for its tests, at any depth. Subqueries are collected
in order, so folding a chain changes neither what subqueries there are nor their order.
-/

namespace FilterQuery.Condition

mutual

/-- The tables and conditions of all subqueries, those inside of another one included. -/
def subqueries : Condition → List (String × Condition)
  | all cs | any cs => subqueriesAll cs
  | existsRow table _ c => (table, c) :: subqueries c
  | compare .. | nullness .. | membership .. | range .. | always | never => []

/-- The subqueries of conditions, one after the other. -/
def subqueriesAll : List Condition → List (String × Condition)
  | [] => []
  | c :: rest => subqueries c ++ subqueriesAll rest

end

mutual

/-- The tests and constants of a condition, wherever they stand. -/
def tests : Condition → List Condition
  | all cs | any cs => testsAll cs
  | existsRow _ _ c => tests c
  | compare column op v => [compare column op v]
  | nullness column isNull => [nullness column isNull]
  | membership column vs negated => [membership column vs negated]
  | range column lower upper negated => [range column lower upper negated]
  | always => [always]
  | never => [never]

/-- The tests of conditions, one after the other. -/
def testsAll : List Condition → List Condition
  | [] => []
  | c :: rest => tests c ++ testsAll rest

end

/-- The column that a condition tests by itself. -/
def column? : Condition → Option String
  | compare column .. | nullness column _ | membership column .. | range column .. => some column
  | all _ | any _ | existsRow .. | always | never => none

/-- A test on the column stands inside of a subquery. -/
def IsEnclosed (c : Condition) (column : String) : Prop :=
  ∃ p ∈ c.subqueries, ∃ test ∈ p.2.tests, test.column? = some column

@[simp] theorem tests_ofTest (column : String) (t : Test) :
    (ofTest column t).tests = [ofTest column t] := by
  cases t with
  | membership vs negated => cases vs <;> cases negated <;> rfl
  | compare op v => rfl
  | nullness isNull => rfl
  | range lower upper negated => rfl

@[simp] theorem subqueries_ofTest (column : String) (t : Test) :
    (ofTest column t).subqueries = [] := by
  cases t with
  | membership vs negated => cases vs <;> cases negated <;> rfl
  | compare op v => rfl
  | nullness isNull => rfl
  | range lower upper negated => rfl

/-- A constant has no column, whatever it was written for. -/
theorem column?_ofTest (column : String) (t : Test) :
    (ofTest column t).column? = if t.constant?.isSome then none else some column := by
  cases t with
  | membership vs negated => cases vs <;> cases negated <;> rfl
  | compare op v => rfl
  | nullness isNull => rfl
  | range lower upper negated => rfl

theorem subqueriesAll_eq_flatMap (cs : List Condition) :
    subqueriesAll cs = cs.flatMap subqueries := by
  induction cs with
  | nil => rfl
  | cons c rest ih => rw [subqueriesAll, ih, List.flatMap_cons]

theorem collects_subqueries : Collects subqueries where
  all cs := subqueriesAll_eq_flatMap cs
  any cs := subqueriesAll_eq_flatMap cs

end FilterQuery.Condition
