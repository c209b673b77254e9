import FilterQuery.Condition
import FilterQuery.Schema
import FilterQuery.Proofs.Truth

/-!
# What a condition means

A condition is read on an entity and on the rows of the subqueries around it. An interpretation
gives the rows of every table and an arbitrary outcome to every test, so what is proved for all
interpretations holds of every database and of every way in which a database evaluates tests.

Parts that are empty say nothing and are left out. Membership in an empty list is known without
looking at the column. A subquery holds when some row of its table meets the correlation and the
condition together; it never is unknown.

## Implementation notes

A test reads all rows around it, so no rule about the scope of column names is built in: the same
column may have one outcome inside a subquery and another outside.
-/

namespace FilterQuery

universe u v

/-- What is asked of a column. -/
inductive Test where
  /-- `column operator value`. -/
  | compare (operator : Operator) (value : Json)
  /-- The column is, or is not, null. -/
  | nullness (isNull : Bool)
  /-- The column is, or is not, one of the values. -/
  | membership (values : List Json) (negated : Bool)
  /-- The column is, or is not, between two values. -/
  | range (lower upper : Json) (negated : Bool)

/-- The outcome of a test that does not depend on its column: nothing is in the empty list. -/
def Test.constant? : Test → Option Bool
  | .membership [] negated => some negated
  | _ => none

/-- Tables and the outcome of every test on a column, given the entity `ε` and the rows `ρ` of the
subqueries around the test, the innermost first. -/
structure Interpretation (ε : Type u) (ρ : Type v) where
  /-- The rows of a table. -/
  rows : String → List ρ
  /-- The outcome of a test on a column. -/
  outcome : ε → List ρ → String → Test → Truth
  /-- The outcome of a correlation. -/
  correlated : ε → List ρ → String → Truth

namespace Interpretation

variable {ε : Type u} {ρ : Type v}

/-- What a test on a column says. -/
def truth (I : Interpretation ε ρ) (entity : ε) (around : List ρ) (column : String) (t : Test) :
    Truth :=
  t.constant?.elim (I.outcome entity around column t) .ofBool

/-- The rows of the attribute table that are correlated to an entity. -/
def attributeRows (I : Interpretation ε ρ) (s : Schema) (entity : ε) : List ρ :=
  (I.rows s.attributes.table).filter fun row => (I.correlated entity [row] s.correlation).holds

theorem mem_attributeRows_iff {I : Interpretation ε ρ} {s : Schema} {entity : ε} {row : ρ} :
    row ∈ I.attributeRows s entity ↔
      row ∈ I.rows s.attributes.table ∧ I.correlated entity [row] s.correlation = .yes := by
  simp [attributeRows]

/-- Rows that give texts to columns, all of them correlated to every entity. A column is looked up
in the rows around the test, from the inside out, and then in the entity; any test but equality with
a text is unknown. -/
def ofTexts (rows : List (List (String × String))) :
    Interpretation (List (String × String)) (List (String × String)) where
  rows _ := rows
  outcome entity around column t :=
    match (around ++ [entity]).flatten.lookup column, t with
    | some text, .compare .equal (.string v) => .ofBool (text == v)
    | _, _ => .unknown
  correlated _ _ _ := .yes

end Interpretation

namespace Condition

variable {ε : Type u} {ρ : Type v} {I : Interpretation ε ρ} {entity : ε} {around : List ρ}

mutual

/-- What a condition says. -/
def truth (I : Interpretation ε ρ) (entity : ε) (around : List ρ) : Condition → Truth
  | all cs => .all (truths I entity around cs)
  | any cs => .any (truths I entity around cs)
  | compare column op v => I.truth entity around column (.compare op v)
  | nullness column isNull => I.truth entity around column (.nullness isNull)
  | membership column vs negated => I.truth entity around column (.membership vs negated)
  | range column lower upper negated => I.truth entity around column (.range lower upper negated)
  | existsRow table correlation c =>
    .ofBool ((I.rows table).any fun row =>
      ((I.correlated entity (row :: around) correlation).and
        (if c.isEmpty then .yes else truth I entity (row :: around) c)).holds)
  | always => .yes
  | never => .no

/-- What the conditions say that are not empty. -/
def truths (I : Interpretation ε ρ) (entity : ε) (around : List ρ) : List Condition → List Truth
  | [] => []
  | c :: rest =>
    if c.isEmpty then truths I entity around rest
    else truth I entity around c :: truths I entity around rest

end

/-- The condition of a test on a column. -/
def ofTest (column : String) : Test → Condition
  | .compare op v => compare column op v
  | .nullness isNull => nullness column isNull
  | .membership vs negated => if negated then isNotIn column vs else isIn column vs
  | .range lower upper negated => range column lower upper negated

theorem truths_eq_map {cs : List Condition} (h : ∀ c ∈ cs, c.isEmpty = false) :
    truths I entity around cs = cs.map (truth I entity around) := by
  induction cs with
  | nil => rfl
  | cons c cs ih =>
      have hc : c.isEmpty = false := h c (by simp)
      rw [truths, hc, ih (fun d hd => h d (by simp [hd]))]
      rfl

/-- A subquery holds when one row meets the correlation and the condition. -/
theorem truth_existsRow_eq_yes_iff {table correlation : String} {c : Condition}
    (hc : c.isEmpty = false) :
    (existsRow table correlation c).truth I entity around = .yes ↔
      ∃ row ∈ I.rows table, I.correlated entity (row :: around) correlation = .yes ∧
        c.truth I entity (row :: around) = .yes := by
  simp [truth, hc]

@[simp] theorem isEmpty_ofTest (column : String) (t : Test) :
    (ofTest column t).isEmpty = false := by
  cases t with
  | membership vs negated =>
      cases vs <;> cases negated <;> rfl
  | compare op v => rfl
  | nullness isNull => rfl
  | range lower upper negated => rfl

@[simp] theorem truth_ofTest (column : String) (t : Test) :
    (ofTest column t).truth I entity around = I.truth entity around column t := by
  cases t with
  | membership vs negated =>
      cases vs <;> cases negated <;> rfl
  | compare op v => rfl
  | nullness isNull => rfl
  | range lower upper negated => rfl

end Condition

end FilterQuery
