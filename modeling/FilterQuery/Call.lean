import FilterQuery.Clause
import FilterQuery.Json.Printer

/-!
# Calls

Building a clause emits a sequence of calls: one predicate on a column each, or a nested scope with
calls of its own. Every call says whether it attaches with `and` or `or` to what is before it.
A receiver of calls is a function on them; `Call.trace` writes them down.
-/

namespace FilterQuery

/-- What a call asks of a column. -/
inductive Predicate where
  /-- `column operator value`. -/
  | compare (operator : Operator) (value : Json)
  /-- The column is, or is not, among the elements of an array. -/
  | membership (negated : Bool) (values : Json)
  /-- The column is, or is not, between the two elements of an array. -/
  | range (negated : Bool) (bounds : Json)
  /-- The column is, or is not, null. -/
  | nullness (isNull : Bool)

/-- A call to a receiver of predicates. -/
inductive Call where
  /-- A predicate on a column. -/
  | predicate (connective : Connective) (column : String) (predicate : Predicate)
  /-- A scope in parentheses. -/
  | nested (connective : Connective) (calls : List Call)

namespace Predicate

/-- The predicate that an operator and a value stand for. -/
def ofOperator (operator : Operator) (value : Json) : Predicate :=
  match operator with
  | .inList => membership false value
  | .notInList => membership true value
  | .between => range false value
  | .notBetween => range true value
  | .isNull => nullness true
  | .isNotNull => nullness false
  | op => compare op value

/-- The name of a call with this predicate. -/
def callName : Predicate → String
  | compare .. => "where_compare"
  | membership false _ => "where_in"
  | membership true _ => "where_not_in"
  | range false _ => "where_between"
  | range true _ => "where_not_between"
  | nullness true => "where_null"
  | nullness false => "where_not_null"

/-- The arguments of a call with this predicate, its column first. -/
def arguments (column : String) : Predicate → String
  | compare op value => column ++ " " ++ op.text ++ " " ++ value.text
  | membership _ value | range _ value => column ++ ", " ++ value.text
  | nullness _ => column

end Predicate

namespace Call

/-- How a call attaches to what is before it. -/
def connective : Call → Connective
  | predicate c _ _ => c
  | nested c _ => c

/-- The name of a call in the form of its connective. -/
def formName (connective : Connective) (name : String) : String :=
  if connective.isOr then "or_" ++ name else name

mutual

/-- A call written down. -/
def trace : Call → String
  | predicate c column p => formName c p.callName ++ "(" ++ p.arguments column ++ ")"
  | nested c calls => formName c "where_nested" ++ "[" ++ "; ".intercalate (traces calls) ++ "]"

/-- Calls written down. -/
def traces : List Call → List String
  | [] => []
  | call :: rest => trace call :: traces rest

end

end Call

namespace Clause

mutual

/-- The calls that build a clause: a scope for a group, a predicate for a test, none for a node
without column and children. -/
def build : Clause → List Call
  | ⟨column, operator, value, connective, children⟩ =>
    if children.isEmpty then
      column.toList.map fun c => .predicate connective c (.ofOperator operator value)
    else [.nested connective (buildAll children)]

/-- The calls that build clauses, in order. -/
def buildAll : List Clause → List Call
  | [] => []
  | c :: rest => build c ++ buildAll rest

end

/-- The scope of a node's children, opened even if there are none. -/
def buildNested (c : Clause) : Call := .nested c.connective (buildAll c.children)

@[simp] theorem buildAll_append (cs ds : List Clause) :
    buildAll (cs ++ ds) = buildAll cs ++ buildAll ds := by
  induction cs with
  | nil => simp [buildAll]
  | cons c cs ih => simp [buildAll, ih]

end Clause

end FilterQuery
