import FilterQuery.Condition

/-!
# Correlating a condition with an attribute table

Tests on columns of the attribute table only make sense inside a subquery on it. `correlate` moves
every largest run of such tests under one `EXISTS`, so that the tests of a run have to hold on the
same row, while different runs may be met by different rows.
-/

namespace FilterQuery.Condition

/-- What a condition tests: columns of the table, and anything else. Constants test neither; a
subquery counts as something else. -/
structure Touch where
  inside : Bool
  outside : Bool
deriving DecidableEq

namespace Touch

/-- Nothing is tested. -/
def none : Touch := ⟨false, false⟩

/-- What two conditions test together. -/
def union (a b : Touch) : Touch := ⟨a.inside || b.inside, a.outside || b.outside⟩

/-- What a test on one column tests. -/
def ofColumn (table column : String) : Touch :=
  ⟨Clause.isColumnOf table column, !Clause.isColumnOf table column⟩

/-- Columns of the table are tested and nothing else. -/
def isPure (t : Touch) : Bool := t.inside && !t.outside

/-- Columns of the table are tested and something else too. -/
def isMixed (t : Touch) : Bool := t.inside && t.outside

end Touch

variable (table correlation : String)

mutual

/-- What a condition tests. -/
def touch : Condition → Touch
  | all cs | any cs => touchAll cs
  | compare column _ _ | nullness column _ | membership column _ _ | range column _ _ _ =>
    .ofColumn table column
  | existsRow .. => ⟨false, true⟩
  | always | never => .none

/-- What conditions test together. -/
def touchAll : List Condition → Touch
  | [] => .none
  | c :: rest => (touch c).union (touchAll rest)

end

/-- The condition tests columns of the table and nothing else. -/
def isPure (c : Condition) : Bool := (touch table c).isPure

/-- The subquery for a condition. -/
def wrap (c : Condition) : Condition := existsRow table correlation c

mutual

/-- Moves the tests on the table's columns into subqueries. -/
def correlate : Condition → Condition
  | any cs =>
    if isPure table (any cs) then wrap table correlation (any cs)
    else if (touchAll table cs).isMixed then any (correlateAll cs)
    else any cs
  | all cs =>
    if isPure table (all cs) then wrap table correlation (all cs)
    else if (touchAll table cs).isMixed then
      all (gather (some (conjunction (cs.filter (isPure table)))) cs)
    else all cs
  | c => if isPure table c then wrap table correlation c else c

/-- Correlates each of the conditions by itself. -/
def correlateAll : List Condition → List Condition
  | [] => []
  | c :: rest => correlate c :: correlateAll rest

/-- Puts the subquery of a run, as long as it is pending, in place of the first condition on the
table alone, drops the other such conditions and correlates the rest. -/
def gather (pending : Option Condition) : List Condition → List Condition
  | [] => []
  | c :: rest =>
    if isPure table c then
      (pending.map (wrap table correlation)).toList ++ gather none rest
    else correlate c :: gather pending rest

end

end FilterQuery.Condition
