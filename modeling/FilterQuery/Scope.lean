import FilterQuery.Call
import FilterQuery.Condition.Correlate
import FilterQuery.Schema

/-!
# Receiving calls

A scope collects the conditions of the calls it receives and folds them when it closes. Columns must
be identifiers and values must fit their predicates; the first problem is kept, and every call after
it is ignored. When a scope closes, its tests on the attribute table move into subqueries.
-/

namespace FilterQuery

namespace Predicate

/-- The condition of a predicate on a column whose text has been checked. -/
def toCondition (column : String) : Predicate → Except Error Condition
  | compare op value =>
    if op.isComparison then .ok (.compare column op value)
    else .error (.invalidValue op .notComparison)
  | membership negated values =>
    match values.elements? with
    | some vs => .ok (if negated then .isNotIn column vs else .isIn column vs)
    | none => .error (.invalidValue (if negated then .notInList else .inList) .notArray)
  | range negated bounds =>
    match bounds.elements? with
    | some [lower, upper] => .ok (.range column lower upper negated)
    | _ => .error (.invalidValue (if negated then .notBetween else .between) .notPair)
  | nullness isNull => .ok (.nullness column isNull)

/-- The condition of a predicate on a column. -/
def condition (column : String) (p : Predicate) : Except Error Condition := do
  let i ← Identifier.parse column
  p.toCondition i.sql

end Predicate

/-- The conditions received so far, and the first problem. -/
structure Scope where
  chain : List (Connective × Condition) := []
  failure : Option Error := none

namespace Scope

/-- The condition of a closed scope, none if it received nothing. -/
def fold (schema : Schema) (chain : List (Connective × Condition)) : Option Condition :=
  (Condition.ofChain chain).map (Condition.correlate schema.attributes.table schema.correlation)

/-- Puts a condition behind the others. -/
def push (s : Scope) (connective : Connective) (c : Condition) : Scope :=
  { s with chain := s.chain ++ [(connective, c)] }

mutual

/-- Receives a call. -/
def receive (schema : Schema) (s : Scope) : Call → Scope
  | .predicate connective column p =>
    if s.failure.isSome then s
    else match p.condition column with
      | .ok c => s.push connective c
      | .error e => { s with failure := some e }
  | .nested connective calls =>
    if s.failure.isSome then s
    else
      let inner := receiveAll schema {} calls
      match inner.failure with
      | some e => { s with failure := some e }
      | none =>
        match fold schema inner.chain with
        | some c => s.push connective c
        | none => s

/-- Receives calls in order. -/
def receiveAll (schema : Schema) (s : Scope) : List Call → Scope
  | [] => s
  | call :: rest => receiveAll schema (receive schema s call) rest

end

/-- Nothing has been received yet. -/
def isEmpty (s : Scope) : Bool := s.chain.isEmpty

/-- The condition of everything received, or the first problem. An empty scope gives an empty
conjunction. -/
def finish (schema : Schema) (s : Scope) : Except Error Condition :=
  match s.failure with
  | some e => .error e
  | none => .ok ((fold schema s.chain).getD (.all []))

@[simp] theorem receiveAll_append (schema : Schema) (s : Scope) (cs ds : List Call) :
    receiveAll schema s (cs ++ ds) = receiveAll schema (receiveAll schema s cs) ds := by
  induction cs generalizing s with
  | nil => simp [receiveAll]
  | cons c cs ih => simp [receiveAll, ih]

end Scope

/-- The condition of a clause. -/
def Clause.compile (schema : Schema) (c : Clause) : Except Error Condition :=
  (Scope.receiveAll schema {} c.build).finish schema

end FilterQuery
